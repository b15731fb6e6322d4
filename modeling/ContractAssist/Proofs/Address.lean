import ContractAssist.Address
import ContractAssist.Proofs.Text.Basic

/-!
# Address — looking for an address while the text grows

Whether an address stands at some place depends on the next forty-three characters only, all but the
last of which are ASCII.  So more text never makes a delimited address go away, and it is found
again by a look at the end of the text:

* `findDelimited?_append`: a delimited address is final;
* `findDelimited?_window`: without a delimited address so far, new text is searched together with
  the end of what was there before, if this end is longer than an address in bytes;
* `findDelimited?_or_find?`: at the end of a text, the last look never contradicts an earlier one.
-/

namespace ContractAssist
namespace Address

variable {t u : Text}

/-! ## One place -/

/-- The digits of an address and the character after them do not change when text follows. -/
theorem exactDigits_append {n : Nat} (u : Text) (h : n < t.length) :
    exactDigits n (t ++ u) = exactDigits n t := by
  induction n generalizing t with
  | zero =>
    cases t with
    | nil => exact absurd h (Nat.lt_irrefl 0)
    | cons c r => rfl
  | succ n ih =>
    cases t with
    | nil => exact absurd h (Nat.not_lt_zero _)
    | cons c r =>
      have hr : n < r.length := by simpa using h
      simp [exactDigits, ih hr]

theorem isHexDigit_of_exactDigits {n : Nat} (h : exactDigits n t = true) :
    ∀ c ∈ t.take n, isHexDigit c = true := by
  induction n generalizing t with
  | zero =>
    intro c hc
    simp at hc
  | succ n ih =>
    cases t with
    | nil => simp [exactDigits] at h
    | cons d r =>
      have hd : isHexDigit d = true ∧ exactDigits n r = true := by simpa [exactDigits] using h
      intro c hc
      rcases List.mem_cons.1 hc with rfl | hc
      · exact hd.1
      · exact ih hd.2 c hc

/-- A text that begins with an address begins with its prefix. -/
theorem startsAddress_iff :
    startsAddress t = true ↔ ∃ r, t = '0' :: 'x' :: r ∧ exactDigits digitCount r = true := by
  constructor
  · intro h
    unfold startsAddress at h
    split at h
    · exact ⟨_, rfl, h⟩
    · exact absurd h Bool.false_ne_true
  · rintro ⟨r, rfl, h⟩
    exact h

/-- Whether an address begins here does not depend on what comes after the character behind it. -/
theorem startsAddress_append (u : Text) (h : size < t.length) :
    startsAddress (t ++ u) = startsAddress t := by
  rcases t with _ | ⟨c, _ | ⟨d, r⟩⟩
  · simp at h
  · simp [size, digitCount] at h
  · have hr : digitCount < r.length := by
      simp only [size, List.length_cons] at h
      omega
    by_cases hfront : c = '0' ∧ d = 'x'
    · obtain ⟨rfl, rfl⟩ := hfront
      exact exactDigits_append u hr
    · -- without the prefix no address begins here, whatever follows
      have hnone : ∀ (v : Text), startsAddress (c :: d :: v) = false := by
        intro v
        rw [Bool.eq_false_iff]
        intro hv
        obtain ⟨_, heq, _⟩ := startsAddress_iff.1 hv
        simp only [List.cons.injEq] at heq
        exact hfront ⟨heq.1, heq.2.1⟩
      rw [List.cons_append, List.cons_append, hnone, hnone]

theorem utf8Size_of_isHexDigit {c : Char} (h : isHexDigit c = true) : c.utf8Size = 1 := by
  have hascii : c.val ≤ 0x7f := by
    simp only [isHexDigit, Bool.or_eq_true, Bool.and_eq_true, decide_eq_true_eq] at h
    rcases h with (⟨-, h⟩ | ⟨-, h⟩) | ⟨-, h⟩
    · exact UInt32.le_trans h (by decide)
    · exact UInt32.le_trans h (by decide)
    · exact UInt32.le_trans h (by decide)
  exact Char.utf8Size_eq_one_iff.2 hascii

/-- The characters of an address are one byte each. -/
theorem utf8Size_of_startsAddress (h : startsAddress t = true) :
    ∀ c ∈ t.take size, c.utf8Size = 1 := by
  obtain ⟨r, rfl, hr⟩ := startsAddress_iff.1 h
  intro c hc
  have hc : c = '0' ∨ c = 'x' ∨ c ∈ r.take digitCount := by
    simpa [size, digitCount] using hc
  rcases hc with rfl | rfl | hc
  · decide
  · decide
  · exact utf8Size_of_isHexDigit (isHexDigit_of_exactDigits hr c hc)

/-! ## The leftmost place -/

def Delimited (t : Text) : Prop :=
  startsAddress t = true ∧ size < t.length

theorem Delimited.append (h : Delimited t) (u : Text) : Delimited (t ++ u) := by
  refine ⟨(startsAddress_append u h.2).trans h.1, ?_⟩
  rw [List.length_append]
  exact Nat.lt_add_right _ h.2

theorem findDelimited?_of_delimited (h : Delimited t) : findDelimited? t = some (t.take size) := by
  obtain ⟨r, rfl, -⟩ := startsAddress_iff.1 h.1
  have hrest : ((('0' : Char) :: 'x' :: r).drop size).isEmpty = false := by
    rw [List.isEmpty_eq_false_iff, ← List.length_pos_iff, List.length_drop]
    exact Nat.sub_pos_of_lt h.2
  simp [findDelimited?, seek, h.1, hrest]

/-- A text too short for an address and a character after it holds no delimited address. -/
theorem findDelimited?_of_length_le (h : t.length ≤ size) : findDelimited? t = none := by
  have hseek : ∀ found, seek t = some found → found.length ≤ t.length := by
    clear h
    induction t with
    | nil => simp [seek]
    | cons c r ih =>
      intro found hfound
      unfold seek at hfound
      split at hfound
      · have hwhole : c :: r = found := Option.some.inj hfound
        exact Nat.le_of_eq (congrArg List.length hwhole.symm)
      · exact Nat.le_succ_of_le (ih found hfound)
  unfold findDelimited?
  cases hfound : seek t with
  | none => rfl
  | some found =>
    have hshort : found.length ≤ size := Nat.le_trans (hseek found hfound) h
    simp [hshort]

theorem findDelimited?_cons_of_not {c : Char} (h : ¬ Delimited (c :: t)) :
    findDelimited? (c :: t) = findDelimited? t := by
  by_cases hstart : startsAddress (c :: t) = true
  · -- the address ends with the text, so that none begins after it
    have hlength : (c :: t).length ≤ size := Nat.le_of_not_lt fun hlt => h ⟨hstart, hlt⟩
    rw [findDelimited?_of_length_le hlength, findDelimited?_of_length_le]
    exact Nat.le_trans (Nat.le_succ _) hlength
  · simp [findDelimited?, seek, hstart]

/-- Text in front of which no delimited address begins can be left out of the search. -/
theorem findDelimited?_append_of_not {front : Text}
    (h : ∀ front', front' <:+ front → front' ≠ [] → ¬ Delimited (front' ++ t)) :
    findDelimited? (front ++ t) = findDelimited? t := by
  induction front with
  | nil => rfl
  | cons c r ih =>
    have hc : ¬ Delimited (c :: (r ++ t)) := h (c :: r) (List.suffix_refl _) (by simp)
    rw [List.cons_append, findDelimited?_cons_of_not hc]
    exact ih fun front' hsuffix => h front' (hsuffix.trans (List.suffix_cons c r))

theorem not_delimited_of_findDelimited? (h : findDelimited? t = none) (hu : u <:+ t) :
    ¬ Delimited u := by
  induction t with
  | nil =>
    rw [List.suffix_nil.1 hu]
    rintro ⟨hstart, -⟩
    exact absurd hstart (by decide)
  | cons c r ih =>
    have hc : ¬ Delimited (c :: r) := by
      intro hdelimited
      rw [findDelimited?_of_delimited hdelimited] at h
      cases h
    rcases List.suffix_cons_iff.1 hu with rfl | hu
    · exact hc
    · exact ih (findDelimited?_cons_of_not hc ▸ h) hu

/-- A delimited address is final: more text leaves it the leftmost one. -/
theorem findDelimited?_append {address : Text} (u : Text) (h : findDelimited? t = some address) :
    findDelimited? (t ++ u) = some address := by
  induction t with
  | nil => simp [findDelimited?, seek] at h
  | cons c r ih =>
    by_cases hc : Delimited (c :: r)
    · -- the leftmost address begins here, and still does when text follows
      have hsize : size ≤ (c :: r).length := Nat.le_of_lt hc.2
      rw [findDelimited?_of_delimited hc] at h
      rw [findDelimited?_of_delimited (hc.append u), List.take_append_of_le_length hsize, h]
    · rw [findDelimited?_cons_of_not hc] at h
      have hlong : size < r.length := by
        apply Nat.lt_of_not_le
        intro hle
        rw [findDelimited?_of_length_le hle] at h
        cases h
      -- an address that begins here and ends with the text would leave no room for a later one
      have hcu : ¬ Delimited (c :: (r ++ u)) := by
        rintro ⟨hstart, -⟩
        have hlength : size < (c :: r).length := Nat.lt_succ_of_lt hlong
        have happ : startsAddress (c :: (r ++ u)) = startsAddress (c :: r) :=
          startsAddress_append (t := c :: r) u hlength
        rw [happ] at hstart
        exact hc ⟨hstart, hlength⟩
      rw [List.cons_append, findDelimited?_cons_of_not hcu]
      exact ih h

/-- The characters that an address shares with the text before it are one byte each. -/
theorem byteSize_le_of_within {front recent text : Text}
    (hstart : startsAddress (front ++ recent ++ text) = true)
    (hlength : (front ++ recent).length ≤ size) : Text.byteSize recent ≤ recent.length := by
  have hmem : ∀ c ∈ recent, c.utf8Size = 1 := by
    intro c hc
    apply utf8Size_of_startsAddress hstart
    have htake : front ++ recent <+: (front ++ recent ++ text).take size := by
      rw [List.prefix_take_iff]
      exact ⟨List.prefix_append _ _, hlength⟩
    exact htake.subset (List.mem_append_right front hc)
  exact Nat.le_of_eq (Text.byteSize_eq_length hmem)

/--
New text is searched together with the end of the text before it.  This end holds more bytes than an
address, unless it is all of the text before.
-/
theorem findDelimited?_window {front recent : Text} (text : Text)
    (hnone : findDelimited? (front ++ recent) = none)
    (hrecent : front = [] ∨ size ≤ Text.byteSize recent) :
    findDelimited? (front ++ recent ++ text) = findDelimited? (recent ++ text) := by
  rw [List.append_assoc]
  apply findDelimited?_append_of_not
  intro front' hsuffix hne hdelimited
  rw [← List.append_assoc] at hdelimited
  have hold : ¬ Delimited (front' ++ recent) := by
    obtain ⟨before, rfl⟩ := hsuffix
    exact not_delimited_of_findDelimited? hnone ⟨before, by rw [List.append_assoc]⟩
  by_cases hlength : size < (front' ++ recent).length
  · -- the address and its delimiter were there before
    have hstart := hdelimited.1
    rw [startsAddress_append text hlength] at hstart
    exact hold ⟨hstart, hlength⟩
  · -- the address covers all of `recent`, which then has too few bytes
    have hshort : (front' ++ recent).length ≤ size := Nat.le_of_not_lt hlength
    have hbytes := byteSize_le_of_within hdelimited.1 hshort
    have hpos : 0 < front'.length := List.length_pos_iff.2 hne
    rw [List.length_append] at hshort
    rcases hrecent with rfl | hsize
    · exact hne (List.suffix_nil.1 hsuffix)
    · omega

/-- A delimited address is the leftmost address. -/
theorem find?_of_findDelimited? {address : Text} (h : findDelimited? t = some address) :
    find? t = some address := by
  unfold findDelimited? at h
  split at h
  · cases h
  · rename_i found hfound
    split at h
    · cases h
    · rw [find?, hfound]
      exact h

theorem findDelimited?_or_find? (t : Text) : (findDelimited? t).or (find? t) = find? t := by
  cases h : findDelimited? t with
  | none => rfl
  | some address => exact (find?_of_findDelimited? h).symm

end Address
end ContractAssist
