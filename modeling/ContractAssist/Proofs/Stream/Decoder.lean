import ContractAssist.Proofs.Text.Decoding
import ContractAssist.Stream.Decoder

/-!
# Decoder — pieces decode to the text of the whole

A decoder keeps bytes in a buffer, and the reader of a stream keeps them in mind.  This module shows
that both give the same texts, and what these are:

1. `turn_cases` says what one turn of the loop does, and `run_eq` that the loop ends, with the text
   of all that was settled;
2. `Carries.decode_eq_feed`: to take a piece is to read its bytes;
3. `Settled` says which bytes may be held back, and `Carries.settled` that no others are;
4. `texts_of_pieces` puts these together for any pieces.
-/

namespace ContractAssist
namespace Decoder

open Utf8

variable {pending : Bytes}

/-! ## The loop -/

/-- What a turn does: the buffer goes but for an unfinished end, or an undecodable stretch goes. -/
theorem turn_cases (pending : Bytes) :
    (∃ t rest, pending = encode t ++ rest ∧ (rest = [] ∨ Unfinished rest) ∧
      turn pending = .last t rest) ∨
    (∃ t p r, pending = encode t ++ (p ++ r) ∧ Undecodable p r ∧ (r ≠ [] ∨ ¬ Unfinished p) ∧
      turn pending = .next (t ++ [replacement]) r) := by
  have hjudged := validate_judged pending
  cases hverdict : validate pending with
  | valid =>
    rw [hverdict] at hjudged
    cases hjudged with
    | valid t =>
      refine .inl ⟨t, [], (List.append_nil _).symm, .inl rfl, ?_⟩
      simp [turn, hverdict, decode?_encode]
  | invalid upTo errorLength =>
    rw [hverdict] at hjudged
    cases hjudged with
    | @unfinished t rest h =>
      refine .inl ⟨t, rest, rfl, .inr h, ?_⟩
      simp [turn, hverdict, decode?_encode]
    | @undecodable t p r h hmore =>
      refine .inr ⟨t, p, r, rfl, h, hmore, ?_⟩
      simp [turn, hverdict, decode?_encode]

/-- The loop ends, and leaves in the buffer what a reader would have in mind. -/
theorem run_eq {turns : Nat} (h : pending.length < turns) :
    ∃ left, run turns pending = some ((Carry.units none pending).2.map shown, left) ∧
      left <:+ pending ∧ Carry.units none left = ((Carry.units none pending).1, []) := by
  -- by induction on the turns: each but the last one makes the buffer shorter
  induction turns generalizing pending with
  | zero => exact absurd h (Nat.not_lt_zero _)
  | succ turns ih =>
    rcases turn_cases pending with
      ⟨t, rest, rfl, hrest, hturn⟩ | ⟨t, p, r, rfl, hp, hmore, hturn⟩
    · have hunits := units_encode_append t rest
      rw [quiet_of_unfinished hrest, List.append_nil] at hunits
      refine ⟨rest, ?_, List.suffix_append _ _, ?_⟩
      · rw [hunits, map_shown]
        simp only [run, hturn]
      · rw [hunits]
        exact Prod.ext rfl (quiet_of_unfinished hrest)
    · have hunits := units_encode_append t (p ++ r)
      rw [units_of_undecodable hp hmore] at hunits
      have hpos := List.length_pos_iff.2 hp.ne_nil
      simp only [List.length_append] at h
      have hshorter : r.length < turns := by omega
      obtain ⟨left, hrun, hsuffix, hleft⟩ := ih hshorter
      refine ⟨left, ?_, ?_, ?_⟩
      · rw [hunits, List.map_append, map_shown, List.map_cons]
        simp only [run, hturn, hrun, Option.map_some, List.append_assoc]
        rfl
      · exact hsuffix.trans ((List.suffix_append p r).trans (List.suffix_append _ _))
      · rw [hunits]
        exact hleft

theorem exists_decode (d : Decoder) (piece : Bytes) :
    ∃ text next, d.decode piece = some (text, next) := by
  obtain ⟨left, hrun, -⟩ := run_eq (Nat.lt_succ_self (d.pending ++ piece).length)
  refine ⟨(Carry.units none (d.pending ++ piece)).2.map shown, ⟨left⟩, ?_⟩
  rw [decode, hrun]
  rfl

/-! ## One piece after another -/

def Carries (d : Decoder) (carry : Carry) : Prop :=
  Carry.units none d.pending = (carry, [])

variable {d : Decoder} {carry : Carry}

theorem Carries.units_append (h : d.Carries carry) (piece : Bytes) :
    Carry.units none (d.pending ++ piece) = carry.units piece := by
  rw [Carry.units_append, h]
  rfl

/-- To take a piece is to read its bytes. -/
theorem Carries.decode_eq_feed (h : d.Carries carry) (piece : Bytes) :
    ∃ next, d.decode piece = some ((carry.feed piece).2, next) ∧
      next.pending <:+ d.pending ++ piece ∧ next.Carries (carry.feed piece).1 := by
  obtain ⟨left, hrun, hsuffix, hleft⟩ := run_eq (Nat.lt_succ_self (d.pending ++ piece).length)
  rw [h.units_append piece] at hrun hleft
  refine ⟨⟨left⟩, ?_, hsuffix, hleft⟩
  rw [decode, hrun]
  rfl

theorem Carries.finish_eq_flush (h : d.Carries carry) : d.finish = carry.flush := by
  rw [finish, lossy_eq, h]
  rfl

/-- The texts of some pieces are those that a reader gives, and the rest is held back. -/
theorem Carries.texts_eq (h : d.Carries carry) (pieces : List Bytes) :
    ∃ last, d.texts pieces = some ((carry.feeds pieces).1, last) ∧
      last.pending <:+ d.pending ++ pieces.flatten ∧ last.Carries (carry.feeds pieces).2 := by
  induction pieces generalizing d carry with
  | nil => exact ⟨d, rfl, by simp, h⟩
  | cons piece r ih =>
    obtain ⟨next, hdecode, hsuffix, hnext⟩ := h.decode_eq_feed piece
    obtain ⟨last, htexts, hsuffix', hlast⟩ := ih hnext
    refine ⟨last, ?_, ?_, hlast⟩
    · simp [Decoder.texts, Carry.feeds, hdecode, htexts]
    · obtain ⟨front, hfront⟩ := hsuffix
      rw [List.flatten_cons, ← List.append_assoc, ← hfront, List.append_assoc]
      exact hsuffix'.trans (List.suffix_append _ _)

/-! ## What is held back -/

/-- The bytes were given as this text, but for those that are held back. -/
structure Settled (bytes : Bytes) (text : Text) (held : Bytes) : Prop where
  decodes : ∃ body, bytes = body ++ held ∧ Decodes body text
  -- nothing but a character that more bytes may complete is held back
  completable : held = [] ∨ Unfinished held
  brief : held.length ≤ 3
  -- what is well formed is given as it is, and a character that has begun is not replaced
  intact : ∀ t rest, bytes = encode t ++ rest → rest = [] ∨ Unfinished rest →
    text = t ∧ held = rest

theorem Carries.completable (h : d.Carries carry) : d.pending = [] ∨ Unfinished d.pending := by
  have hheld := holds_of_quiet (congrArg Prod.snd h)
  cases hcarry : (Carry.units none d.pending).1 with
  | none =>
    rw [hcarry] at hheld
    exact .inl hheld
  | some q =>
    rw [hcarry] at hheld
    exact .inr (Partial.Follows.unfinished hheld)

theorem Carries.settled {bytes : Bytes} (h : d.Carries (Carry.units none bytes).1)
    (hsuffix : d.pending <:+ bytes) :
    Settled bytes ((Carry.units none bytes).2.map shown) d.pending where
  decodes := by
    obtain ⟨body, rfl⟩ := hsuffix
    refine ⟨body, rfl, ?_⟩
    rw [decodes_iff]
    rcases h.completable with hnil | hunfinished
    · rw [Carries, hnil, List.append_nil] at h
      obtain ⟨hnone, -⟩ := Prod.mk.inj h
      rw [hnil, List.append_nil, lossy_eq, ← hnone]
      exact (List.append_nil _).symm
    · obtain ⟨w, -, hheld⟩ := exists_held body
      have hquiet := quiet_of_unfinished (.inr hunfinished)
      rw [Carry.units_append, Carry.units_of_unfinished hheld hunfinished, hquiet, lossy_eq,
        List.append_nil, List.map_append]
      rfl
  completable := h.completable
  brief := by
    rcases h.completable with hnil | hunfinished
    · rw [hnil]
      exact Nat.zero_le 3
    · exact hunfinished.length_le
  intact := by
    rintro t rest rfl hrest
    have hunits := units_encode_append t rest
    rw [quiet_of_unfinished hrest, List.append_nil] at hunits
    rw [hunits] at h ⊢
    have hheld := holds_of_quiet (congrArg Prod.snd h)
    rw [h] at hheld
    exact ⟨map_shown t, hheld.unique (holds_of_quiet (quiet_of_unfinished hrest))⟩

/--
However bytes are cut into pieces, the texts of the pieces are the text of the bytes; only a
character that more bytes may complete waits for these, and the loop behind each piece ends.
-/
theorem texts_of_pieces (pieces : List Bytes) :
    ∃ texts last, Decoder.texts ⟨[]⟩ pieces = some (texts, last) ∧
      texts = (Carry.feeds none pieces).1 ∧ last.finish = (Carry.feeds none pieces).2.flush ∧
      texts.flatten ++ last.finish = lossy pieces.flatten ∧
      Decodes pieces.flatten (texts.flatten ++ last.finish) ∧
      (∀ n, ∃ held, Decoder.texts ⟨[]⟩ (pieces.take n) = some (texts.take n, ⟨held⟩) ∧
        Settled (pieces.take n).flatten (texts.take n).flatten held) ∧
      ∀ (d : Decoder) (piece : Bytes), ∃ text next, d.decode piece = some (text, next) := by
  have hempty : Carries ⟨[]⟩ none := rfl
  obtain ⟨last, htexts, -, hlast⟩ := hempty.texts_eq pieces
  obtain ⟨hcarry, hflatten⟩ := Carry.feeds_flatten none pieces
  have hwhole : (Carry.feeds none pieces).1.flatten ++ last.finish = lossy pieces.flatten := by
    rw [hlast.finish_eq_flush, lossy_eq, hcarry, hflatten]
  refine ⟨_, last, htexts, rfl, hlast.finish_eq_flush, hwhole, decodes_iff.2 hwhole, ?_,
    exists_decode⟩
  intro n
  obtain ⟨held, htaken, hsuffix, hheld⟩ := hempty.texts_eq (pieces.take n)
  obtain ⟨hcarry', hflatten'⟩ := Carry.feeds_flatten none (pieces.take n)
  rw [hcarry'] at hheld
  rw [Carry.feeds_take] at htaken hflatten'
  refine ⟨held.pending, htaken, ?_⟩
  rw [hflatten']
  exact hheld.settled hsuffix

/-- A character in three pieces is given with the last of them, and the next one is held back. -/
example : Decoder.texts ⟨[]⟩ [[0xE2], [], [0x9C], [0x94, 0x20, 0xC3]] =
    some ([[], [], [], ['✔', ' ']], ⟨[0xC3]⟩) := by
  decide

end Decoder
end ContractAssist
