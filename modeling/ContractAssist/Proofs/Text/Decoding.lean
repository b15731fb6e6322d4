import ContractAssist.Proofs.Text.Utf8
import ContractAssist.Text.Validity

/-!
# Decoding — what bytes decode to

What the text of some bytes is can be said without a reader, in terms of the forms of characters:

* `Undecodable` is a stretch in front of which no character can be read: the longest beginning of a
  form that stands there, or else a single byte;
* `Decodes` reads characters where they stand, and U+FFFD for each undecodable stretch;
* `Judged` is what a check of the bytes should find.

1. `validate_judged`: the check finds just this;
2. `units_of_undecodable`: an undecodable stretch is read as one unit, and what follows it afresh;
3. `decodes_iff`: so `lossy` is the text of all bytes, and there is no other.
-/

namespace ContractAssist
namespace Utf8

/-- In front of `r`, the bytes `p` are what has to be given up to go on. -/
structure Undecodable (p r : Bytes) : Prop where
  noCharacter : ∀ c rest, p ++ r ≠ String.utf8EncodeChar c ++ rest
  -- they begin a character, or are a single byte
  begun : Unfinished p ∨ p.length = 1
  longest : ∀ w rest, p ++ r = w ++ rest → Unfinished w → w.length ≤ p.length

/-- The text of some bytes, with U+FFFD for each undecodable stretch. -/
inductive Decodes : Bytes → Text → Prop where
  | nil : Decodes [] []
  | character {c r t} (h : Decodes r t) : Decodes (String.utf8EncodeChar c ++ r) (c :: t)
  | replaced {p r t} (hp : Undecodable p r) (h : Decodes r t) :
      Decodes (p ++ r) (replacement :: t)

/-- What a check should find: characters, and what stands behind them. -/
inductive Judged : Bytes → Verdict → Prop where
  | valid (t : Text) : Judged (encode t) .valid
  | unfinished (t : Text) {rest} (h : Unfinished rest) :
      Judged (encode t ++ rest) (.invalid (encode t).length none)
  | undecodable (t : Text) {p r} (h : Undecodable p r) (hmore : r ≠ [] ∨ ¬ Unfinished p) :
      Judged (encode t ++ (p ++ r)) (.invalid (encode t).length (some p.length))

variable {p r : Bytes}

/-! ## Undecodable stretches -/

/-- Nothing that was refused begins the form of a character. -/
theorem not_form_of_refused {w : Bytes} (h : none ∈ (Carry.units none w).2) (s : Bytes) (c : Char) :
    w ++ s ≠ String.utf8EncodeChar c := by
  intro hform
  rcases units_of_part hform with ⟨hone, -⟩ | hnothing
  · simp [hone] at h
  · simp [hnothing] at h

/-- Where a byte was refused, what is in front of it has to be given up, or it alone. -/
theorem undecodable_of_refused {w rest : Bytes}
    (hbegun : (Unfinished p ∧ w.length ≤ p.length + 1) ∨ (p.length = 1 ∧ w.length ≤ 1))
    (hsplit : p ++ r = w ++ rest) (hrefused : none ∈ (Carry.units none w).2) :
    Undecodable p r where
  noCharacter := by
    intro c later hcharacter
    have hform : String.utf8EncodeChar c <+: p ++ r := ⟨later, hcharacter.symm⟩
    have hfront : w <+: p ++ r := ⟨rest, hsplit.symm⟩
    by_cases hle : w.length ≤ (String.utf8EncodeChar c).length
    · obtain ⟨s, hs⟩ := List.prefix_of_prefix_length_le hfront hform hle
      exact not_form_of_refused hrefused s c hs
    rcases hbegun with ⟨hunfinished, hw⟩ | ⟨-, hw⟩
    · -- the character would have been read in front of the byte that was refused
      obtain ⟨s, rfl⟩ := List.prefix_of_prefix_length_le hform (List.prefix_append p r) (by omega)
      obtain ⟨q, hunits, -⟩ := units_of_unfinished hunfinished
      rw [Carry.units_append, units_encodeChar] at hunits
      simp at hunits
    · have hpos := c.utf8Size_pos
      rw [String.length_utf8EncodeChar] at hle
      omega
  begun := by
    rcases hbegun with ⟨hunfinished, -⟩ | ⟨hone, -⟩
    · exact .inl hunfinished
    · exact .inr hone
  longest := by
    intro w' later hsplit' hunfinished
    by_contra hlonger
    have hfront : w <+: p ++ r := ⟨rest, hsplit.symm⟩
    have hfront' : w' <+: p ++ r := ⟨later, hsplit'.symm⟩
    obtain ⟨s, rfl⟩ := List.prefix_of_prefix_length_le hfront hfront' (by omega)
    obtain ⟨-, c, s', -, hform⟩ := hunfinished
    exact not_form_of_refused hrefused (s ++ s') c (by rw [← List.append_assoc, hform])

theorem undecodable_of_unfinished (h : Unfinished p) : Undecodable p [] where
  noCharacter := by
    intro c rest hcharacter
    obtain ⟨q, hunits, -⟩ := units_of_unfinished h
    rw [List.append_nil] at hcharacter
    rw [hcharacter, Carry.units_append, units_encodeChar] at hunits
    simp at hunits
  begun := .inl h
  longest := by
    intro w rest hsplit _
    have hlength := congrArg List.length hsplit
    simp only [List.append_nil, List.length_append] at hlength
    omega

theorem Undecodable.ne_nil (h : Undecodable p r) : p ≠ [] := by
  rintro rfl
  rcases h.begun with ⟨hbegun, -⟩ | hone
  · exact hbegun rfl
  · cases hone

/-- An undecodable stretch is one unit, and what follows it is read afresh. -/
theorem units_of_undecodable (h : Undecodable p r) (hmore : r ≠ [] ∨ ¬ Unfinished p) :
    Carry.units none (p ++ r) = ((Carry.units none r).1, none :: (Carry.units none r).2) := by
  by_cases hunfinished : Unfinished p
  · obtain ⟨q, hunits, hfollows⟩ := units_of_unfinished hunfinished
    rw [Carry.units_append, hunits]
    cases r with
    | nil => exact absurd hunfinished (hmore.resolve_left (fun hnil => hnil rfl))
    | cons b r =>
      rcases hfollows.step b with ⟨q', -, hnext⟩ | ⟨c, -, hform⟩ | hstep
      · have hlength := h.longest (p ++ [b]) r (by simp) hnext.unfinished
        simp at hlength
      · exact absurd (by rw [← hform]; simp) (h.noCharacter c r)
      · simp [Carry.units_cons, Carry.step_none, hstep]
  · -- a single byte that is no character and starts none
    obtain ⟨b, rfl⟩ := List.length_eq_one_iff.1 (h.begun.resolve_left hunfinished)
    rcases start_cases b.toNat with ⟨hone, -⟩ | ⟨q, hleads, -⟩ | hstart
    · have hform := encode_one hone
      rw [UInt8.ofNat_toNat] at hform
      exact absurd (by rw [hform]) (h.noCharacter (Char.ofNat b.toNat) r)
    · exact absurd hleads.follows.unfinished hunfinished
    · simp [Carry.units_cons, Carry.step_none, hstart]

/-! ## Checking -/

theorem encode_append (t u : Text) : encode (t ++ u) = encode t ++ encode u :=
  List.flatMap_append

theorem encode_singleton (c : Char) : encode [c] = String.utf8EncodeChar c :=
  List.append_nil _

theorem not_unfinished_of_refused {b : UInt8} (h : start b.toNat = (none, [none])) :
    ¬ Unfinished [b] := by
  intro hunfinished
  obtain ⟨q, hunits, -⟩ := units_of_unfinished hunfinished
  simp [Carry.units, Carry.step_none, h] at hunits

theorem Carry.validate_judged {carry : Carry} (hread : Carry.units none p = (carry, []))
    (t : Text) : Judged (encode t ++ (p ++ r)) (carry.validate (encode t).length p.length r) := by
  -- by induction on what is left to be checked: a byte goes to `p`, or ends it
  induction r generalizing carry p t with
  | nil =>
    have hheld := holds_of_quiet (congrArg Prod.snd hread)
    rw [hread] at hheld
    rw [List.append_nil]
    cases carry with
    | none =>
      obtain rfl : p = [] := hheld
      rw [List.append_nil]
      exact .valid t
    | some q => exact .unfinished t (Partial.Follows.unfinished hheld)
  | cons b r ih =>
    have hheld := holds_of_quiet (congrArg Prod.snd hread)
    rw [hread] at hheld
    cases carry with
    | none =>
      obtain rfl : p = [] := hheld
      rcases start_cases b.toNat with ⟨hone, hstart⟩ | ⟨q, -, hstart⟩ | hstart
      · have hform := encode_one hone
        rw [UInt8.ofNat_toNat] at hform
        have hrest := ih (p := []) rfl (t ++ [Char.ofNat b.toNat])
        simpa [Carry.validate, Carry.step_none, hstart, encode_append, encode_singleton, hform]
          using hrest
      · have hbegun : Carry.units none [b] = (some q, []) := by
          simp [Carry.units, Carry.step_none, hstart]
        have hrest := ih hbegun t
        simpa [Carry.validate, Carry.step_none, hstart] using hrest
      · have hundecodable : Undecodable [b] r :=
          undecodable_of_refused (w := [b]) (.inr ⟨rfl, Nat.le_refl _⟩) rfl
            (by simp [Carry.units, Carry.step_none, hstart])
        have hjudged := Judged.undecodable t hundecodable (.inr (not_unfinished_of_refused hstart))
        simpa [Carry.validate, Carry.step_none, hstart] using hjudged
    | some q =>
      have hfollows : q.Follows p := hheld
      have hstepped : Carry.units none (p ++ [b]) = Carry.step (some q) b := by
        simp [Carry.units_append, hread, Carry.units]
      rcases hfollows.step b with ⟨q', hstep, -⟩ | ⟨c, hstep, hform⟩ | hstep
      · have hrest := ih (hstepped.trans hstep) t
        simpa [Carry.validate, hstep] using hrest
      · have hrest := ih (p := []) rfl (t ++ [c])
        rw [encode_append, encode_singleton, ← hform] at hrest
        simpa [Carry.validate, hstep, Nat.add_assoc] using hrest
      · have hsplit : p ++ (b :: r) = (p ++ [b]) ++ r := by simp
        have hundecodable : Undecodable p (b :: r) :=
          undecodable_of_refused (.inl ⟨hfollows.unfinished, by simp⟩) hsplit
            (by simp [hstepped, hstep])
        have hjudged := Judged.undecodable t hundecodable (.inl (List.cons_ne_nil b r))
        have hpos : 1 ≤ p.length := List.length_pos_iff.2 hfollows.begun
        simpa [Carry.validate, hstep, Nat.max_eq_left hpos] using hjudged

theorem validate_judged (bytes : Bytes) : Judged bytes (validate bytes) :=
  Carry.validate_judged (p := []) (r := bytes) rfl []

theorem decode?_encode (t : Text) : decode? (encode t) = some t := by
  have hall : (t.map some).mapM id = some t := by
    induction t with
    | nil => rfl
    | cons c r ih => simp [ih]
  simp only [decode?, units, units_encode, Carry.rest, List.append_nil]
  exact hall

/-! ## Decoding -/

theorem units_encode_append (t : Text) (r : Bytes) :
    Carry.units none (encode t ++ r) =
      ((Carry.units none r).1, t.map some ++ (Carry.units none r).2) := by
  rw [Carry.units_append, units_encode]

theorem lossy_eq (bytes : Bytes) :
    lossy bytes = (Carry.units none bytes).2.map shown ++ (Carry.units none bytes).1.flush :=
  List.map_append

theorem map_shown (t : Text) : (t.map some).map shown = t := by
  rw [List.map_map]
  exact List.map_id t

theorem lossy_encode_append (t : Text) (r : Bytes) : lossy (encode t ++ r) = t ++ lossy r := by
  rw [lossy_eq, lossy_eq, units_encode_append, List.map_append, map_shown, List.append_assoc]

theorem lossy_unfinished (h : Unfinished p) : lossy p = [replacement] := by
  obtain ⟨q, hunits, -⟩ := units_of_unfinished h
  rw [lossy_eq, hunits]
  rfl

theorem lossy_undecodable (h : Undecodable p r) : lossy (p ++ r) = replacement :: lossy r := by
  by_cases hmore : r ≠ [] ∨ ¬ Unfinished p
  · rw [lossy_eq, lossy_eq, units_of_undecodable h hmore]
    rfl
  · obtain ⟨hnil, hunfinished⟩ := not_or.1 hmore
    obtain rfl := not_not.1 hnil
    rw [List.append_nil, lossy_unfinished (not_not.1 hunfinished)]
    rfl

theorem Decodes.encode_append {t : Text} (h : Decodes r t) (u : Text) :
    Decodes (encode u ++ r) (u ++ t) := by
  induction u with
  | nil => exact h
  | cons c u ih =>
    have hform : encode (c :: u) ++ r = String.utf8EncodeChar c ++ (encode u ++ r) :=
      List.append_assoc _ _ _
    rw [hform]
    exact .character ih

theorem decodes_lossy (bytes : Bytes) : Decodes bytes (lossy bytes) := by
  -- by induction on the length: a check leaves less behind what it finds
  induction hn : bytes.length using Nat.strongRecOn generalizing bytes with
  | ind n ih =>
    subst hn
    have hjudged := validate_judged bytes
    generalize validate bytes = verdict at hjudged
    cases hjudged with
    | valid t =>
      have h : Decodes (encode t ++ []) (t ++ lossy []) := Decodes.nil.encode_append t
      rwa [← lossy_encode_append, List.append_nil] at h
    | @unfinished t rest h =>
      have hrest := (Decodes.replaced (undecodable_of_unfinished h) .nil).encode_append t
      rw [lossy_encode_append, lossy_unfinished h]
      simpa using hrest
    | @undecodable t p r h hmore =>
      have hlength : r.length < (encode t ++ (p ++ r)).length := by
        have hpos := List.length_pos_iff.2 h.ne_nil
        simp only [List.length_append]
        omega
      rw [lossy_encode_append, lossy_undecodable h]
      exact (Decodes.replaced h (ih _ hlength r rfl)).encode_append t

/-- What bytes decode to is what reading them byte by byte gives. -/
theorem decodes_iff {bytes : Bytes} {t : Text} : Decodes bytes t ↔ t = lossy bytes := by
  constructor
  · intro h
    induction h with
    | nil => rfl
    | @character c r t h ih =>
      rw [← encode_singleton, lossy_encode_append, ih]
      rfl
    | replaced hp h ih => rw [lossy_undecodable hp, ih]
  · rintro rfl
    exact decodes_lossy bytes

end Utf8
end ContractAssist
