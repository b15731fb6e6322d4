import Mathlib.Data.List.Induction
import Mathlib.Tactic.Ring
import ContractAssist.Text.Utf8

/-!
# Text.Utf8 — characters read byte by byte

Bytes are read one at a time, with at most one unfinished sequence in mind.  This module ties what
is in mind to the UTF-8 forms of characters:

1. `Leads` lists the bytes that start a sequence, and `encode_two`, `encode_three` and `encode_four`
   are the forms that go with them;
2. `Partial.Follows` says what the reader has in mind of the bytes of a sequence, and `Follows.step`
   what another byte does to it; no later proof opens `Carry.step`;
3. `units_encodeChar`: the form of a character is read as this character;
4. `units_of_unfinished` and `Follows.unfinished`: what is in mind are exactly the proper beginnings
   of such forms, and `Holds.unique`: it tells them apart.
-/

namespace ContractAssist
namespace Utf8

/-- The bytes begin the UTF-8 form of a character, and more bytes are wanted. -/
def Unfinished (p : Bytes) : Prop :=
  p ≠ [] ∧ ∃ c rest, rest ≠ [] ∧ p ++ rest = String.utf8EncodeChar c

/-! ## The forms of characters -/

/-- The last `n` bytes of a character that ends in the bits `x`. -/
def continuation : Nat → Nat → Bytes
  | 0, _ => []
  | n + 1, x => UInt8.ofNat (0x80 + x / 64 ^ n % 64) :: continuation n x

theorem toNat_ofNat {n : Nat} (h : n.isValidChar) : (Char.ofNat n).val.toNat = n := by
  rw [Char.ofNat, dif_pos h]
  rfl

theorem encode_one {n : Nat} (h : n < 0x80) :
    String.utf8EncodeChar (Char.ofNat n) = [UInt8.ofNat n] := by
  have hn := toNat_ofNat (n := n) (.inl (by omega))
  have hone : n ≤ 0x7F := by omega
  simp only [String.utf8EncodeChar, hn, hone, if_true]

theorem encode_two {bits x : Nat} (hlong : 2 ≤ bits) (hbits : bits < 0x20) (hx : x < 64) :
    String.utf8EncodeChar (Char.ofNat (bits * 64 + x)) =
      UInt8.ofNat (0xC0 + bits) :: continuation 1 x := by
  have hn := toNat_ofNat (n := bits * 64 + x) (.inl (by omega))
  have hone : ¬ bits * 64 + x ≤ 0x7F := by omega
  have htwo : bits * 64 + x ≤ 0x7FF := by omega
  have hlead : (bits * 64 + x) / 64 % 32 + 0xC0 = 0xC0 + bits := by omega
  have hlast : (bits * 64 + x) % 64 + 0x80 = 0x80 + x % 64 := by omega
  simp only [String.utf8EncodeChar, hn, hone, htwo, hlead, hlast, continuation, if_true, if_false,
    Nat.pow_zero, Nat.div_one]

theorem encode_three {bits x : Nat} (hbits : bits < 0x10) (hx : x < 4096)
    (hlong : bits = 0 → 0x800 ≤ x) (hsurrogate : bits = 0xD → x < 0x800) :
    String.utf8EncodeChar (Char.ofNat (bits * 4096 + x)) =
      UInt8.ofNat (0xE0 + bits) :: continuation 2 x := by
  have hn := toNat_ofNat (n := bits * 4096 + x) (by unfold Nat.isValidChar; omega)
  have hone : ¬ bits * 4096 + x ≤ 0x7F := by omega
  have htwo : ¬ bits * 4096 + x ≤ 0x7FF := by omega
  have hthree : bits * 4096 + x ≤ 0xFFFF := by omega
  have hlead : (bits * 4096 + x) / 4096 % 16 + 0xE0 = 0xE0 + bits := by omega
  have hmiddle : (bits * 4096 + x) / 64 % 64 + 0x80 = 0x80 + x / 64 % 64 := by omega
  have hlast : (bits * 4096 + x) % 64 + 0x80 = 0x80 + x % 64 := by omega
  simp only [String.utf8EncodeChar, hn, hone, htwo, hthree, hlead, hmiddle, hlast, continuation,
    if_true, if_false, Nat.pow_zero, Nat.div_one, Nat.pow_one]

theorem encode_four {bits x : Nat} (hbits : bits < 5) (hx : x < 262144)
    (hlong : bits = 0 → 0x10000 ≤ x) (hgreatest : bits = 4 → x < 0x10000) :
    String.utf8EncodeChar (Char.ofNat (bits * 262144 + x)) =
      UInt8.ofNat (0xF0 + bits) :: continuation 3 x := by
  have hn := toNat_ofNat (n := bits * 262144 + x) (by unfold Nat.isValidChar; omega)
  have hone : ¬ bits * 262144 + x ≤ 0x7F := by omega
  have htwo : ¬ bits * 262144 + x ≤ 0x7FF := by omega
  have hthree : ¬ bits * 262144 + x ≤ 0xFFFF := by omega
  have hlead : (bits * 262144 + x) / 262144 % 8 + 0xF0 = 0xF0 + bits := by omega
  have hsecond : (bits * 262144 + x) / 4096 % 64 + 0x80 = 0x80 + x / 4096 % 64 := by omega
  have hthird : (bits * 262144 + x) / 64 % 64 + 0x80 = 0x80 + x / 64 % 64 := by omega
  have hlast : (bits * 262144 + x) % 64 + 0x80 = 0x80 + x % 64 := by omega
  have hsquare : 64 ^ 2 = 4096 := rfl
  simp only [String.utf8EncodeChar, hn, hone, htwo, hthree, hlead, hsecond, hthird, hlast,
    continuation, if_false, Nat.pow_zero, Nat.div_one, Nat.pow_one, hsquare]

/-! ## What a reader remembers -/

/-- The bits `x` may be those that are still wanted. -/
def Partial.Allows (q : Partial) (x : Nat) : Prop :=
  x < 64 ^ q.wanted ∧ q.low ≤ 0x80 + x / 64 ^ (q.wanted - 1) ∧
    0x80 + x / 64 ^ (q.wanted - 1) ≤ q.high

/-- The reader remembers the bytes `p` of a sequence that can still be completed. -/
structure Partial.Follows (q : Partial) (p : Bytes) : Prop where
  begun : p ≠ []
  wanted : 0 < q.wanted
  low : 0x80 ≤ q.low
  possible : q.low ≤ q.high
  high : q.high ≤ 0xBF
  -- whatever is allowed completes the form of a character
  completes : ∀ x, q.Allows x →
    p ++ continuation q.wanted x = String.utf8EncodeChar (Char.ofNat (q.bits * 64 ^ q.wanted + x))

/-- Something is remembered of the bytes of an unfinished sequence, and nothing of no bytes. -/
def Carry.Holds (carry : Carry) (p : Bytes) : Prop :=
  match carry with
  | none => p = []
  | some q => q.Follows p

/-- The bytes that start a longer sequence, with what is remembered of them. -/
inductive Leads : Nat → Partial → Prop where
  | two {bits} (hlong : 2 ≤ bits) (hbits : bits < 0x20) : Leads (0xC0 + bits) ⟨bits, 1, 0x80, 0xBF⟩
  | three {bits} (hbits : bits < 0x10) :
      Leads (0xE0 + bits)
        ⟨bits, 2, if bits = 0 then 0xA0 else 0x80, if bits = 0xD then 0x9F else 0xBF⟩
  | four {bits} (hbits : bits < 5) :
      Leads (0xF0 + bits)
        ⟨bits, 3, if bits = 0 then 0x90 else 0x80, if bits = 4 then 0x8F else 0xBF⟩

variable {q : Partial} {p : Bytes}

theorem Leads.start_eq {b : Nat} (h : Leads b q) : start b = (some q, []) := by
  cases h with
  | @two bits hlong hbits =>
    have hall : ∀ bits < 0x20, 2 ≤ bits →
        start (0xC0 + bits) = (some ⟨bits, 1, 0x80, 0xBF⟩, []) := by decide
    exact hall bits hbits hlong
  | @three bits hbits =>
    revert bits
    decide
  | @four bits hbits =>
    revert bits
    decide

/-- A byte is a character, or starts a longer sequence, or has to be given up. -/
theorem start_cases (b : Nat) :
    (b < 0x80 ∧ start b = (none, [some (Char.ofNat b)])) ∨
    (∃ q, Leads b q ∧ start b = (some q, [])) ∨
    start b = (none, [none]) := by
  by_cases hone : b < 0x80
  · exact .inl ⟨hone, by simp only [start, hone, if_true]⟩
  right
  by_cases htwo : 0xC2 ≤ b ∧ b < 0xE0
  · have hleads := Leads.two (show 2 ≤ b - 0xC0 by omega) (by omega)
    rw [Nat.add_sub_cancel' (by omega)] at hleads
    exact .inl ⟨_, hleads, hleads.start_eq⟩
  by_cases hthree : 0xE0 ≤ b ∧ b < 0xF0
  · have hleads := Leads.three (show b - 0xE0 < 0x10 by omega)
    rw [Nat.add_sub_cancel' hthree.1] at hleads
    exact .inl ⟨_, hleads, hleads.start_eq⟩
  by_cases hfour : 0xF0 ≤ b ∧ b < 0xF5
  · have hleads := Leads.four (show b - 0xF0 < 5 by omega)
    rw [Nat.add_sub_cancel' hfour.1] at hleads
    exact .inl ⟨_, hleads, hleads.start_eq⟩
  right
  unfold start
  repeat rw [if_neg (by omega)]

theorem Leads.range {b : Nat} (h : Leads b q) :
    0 < q.wanted ∧ 0x80 ≤ q.low ∧ q.low ≤ q.high ∧ q.high ≤ 0xBF := by
  cases h with
  | two => simp
  | @three bits hbits =>
    revert bits
    decide
  | @four bits hbits =>
    revert bits
    decide

theorem Leads.le {b : Nat} (h : Leads b q) : 0xC0 ≤ b := by
  cases h <;> omega

theorem Leads.follows {b : UInt8} (h : Leads b.toNat q) : q.Follows [b] := by
  obtain ⟨hwanted, hlow, hpossible, hhigh⟩ := h.range
  refine ⟨by simp, hwanted, hlow, hpossible, hhigh, ?_⟩
  generalize hb : b.toNat = n at h
  have hbyte : UInt8.ofNat n = b := by rw [← hb, UInt8.ofNat_toNat]
  -- the bounds of the second byte are just those that keep to the shortest forms of characters
  rintro x ⟨hx, hleast, hmost⟩
  cases h with
  | two hlong hbits => exact (hbyte ▸ encode_two hlong hbits hx).symm
  | three hbits =>
    refine (hbyte ▸ encode_three hbits hx ?_ ?_).symm
    · rintro rfl
      simp only [if_true] at hleast
      omega
    · rintro rfl
      simp only [if_true] at hmost
      omega
  | four hbits =>
    refine (hbyte ▸ encode_four hbits hx ?_ ?_).symm
    · rintro rfl
      simp only [if_true] at hleast
      omega
    · rintro rfl
      simp only [if_true] at hmost
      omega

/-! ## One byte after another -/

theorem div_pow_add {n a y : Nat} (hy : y < 64 ^ n) : (a * 64 ^ n + y) / 64 ^ n = a := by
  rw [Nat.mul_comm, Nat.mul_add_div (Nat.pow_pos (by decide)), Nat.div_eq_of_lt hy, Nat.add_zero]

theorem continuation_add (n a y : Nat) : continuation n (a * 64 ^ n + y) = continuation n y := by
  induction n generalizing a with
  | zero => rfl
  | succ n ih =>
    have hsplit : a * 64 ^ (n + 1) + y = a * 64 * 64 ^ n + y := by ring
    have hhead : (a * 64 * 64 ^ n + y) / 64 ^ n % 64 = y / 64 ^ n % 64 := by
      rw [Nat.mul_comm _ (64 ^ n), Nat.mul_add_div (Nat.pow_pos (by decide))]
      omega
    rw [hsplit, continuation, continuation, ih, hhead]

theorem continuation_succ {n a y : Nat} (ha : a < 64) (hy : y < 64 ^ n) :
    continuation (n + 1) (a * 64 ^ n + y) = UInt8.ofNat (0x80 + a) :: continuation n y := by
  rw [continuation, div_pow_add hy, Nat.mod_eq_of_lt ha, continuation_add]

/-- Only the first of the bytes that are wanted has bounds of its own. -/
theorem Partial.allows_iff {n a y : Nat} (hn : q.wanted = n + 1) (ha : a < 64) (hy : y < 64 ^ n) :
    q.Allows (a * 64 ^ n + y) ↔ q.low ≤ 0x80 + a ∧ 0x80 + a ≤ q.high := by
  have hbound : a * 64 ^ n + y < 64 ^ (n + 1) := by
    calc
      a * 64 ^ n + y < a * 64 ^ n + 64 ^ n := Nat.add_lt_add_left hy _
      _ = (a + 1) * 64 ^ n := by ring
      _ ≤ 64 * 64 ^ n := Nat.mul_le_mul_right _ ha
      _ = 64 ^ (n + 1) := by ring
  simp [Partial.Allows, hn, hbound, div_pow_add hy]

/-- What is wanted are six bits and then the rest. -/
theorem exists_six_bits {n x : Nat} (hx : x < 64 ^ (n + 1)) :
    ∃ a y, a < 64 ∧ y < 64 ^ n ∧ x = a * 64 ^ n + y :=
  ⟨x / 64 ^ n, x % 64 ^ n, Nat.div_lt_of_lt_mul hx, Nat.mod_lt _ (Nat.pow_pos (by decide)),
    (Nat.div_add_mod' x _).symm⟩

theorem Carry.step_last {b : UInt8} (hn : q.wanted = 1) (hlow : q.low ≤ b.toNat)
    (hhigh : b.toNat ≤ q.high) :
    Carry.step (some q) b = (none, [some (Char.ofNat (q.bits * 64 + b.toNat % 64))]) := by
  simp [Carry.step, hn, hlow, hhigh]

theorem Carry.step_more {b : UInt8} {n : Nat} (hn : q.wanted = n + 2) (hlow : q.low ≤ b.toNat)
    (hhigh : b.toNat ≤ q.high) :
    Carry.step (some q) b = (some ⟨q.bits * 64 + b.toNat % 64, n + 1, 0x80, 0xBF⟩, []) := by
  simp [Carry.step, hn, hlow, hhigh]

theorem Carry.step_refused {b : UInt8} (h : ¬ (q.low ≤ b.toNat ∧ b.toNat ≤ q.high)) :
    Carry.step (some q) b = ((start b.toNat).1, none :: (start b.toNat).2) := by
  simp only [Carry.step, h, if_false]

/-- A byte within the bounds gives the next six bits. -/
theorem Partial.Follows.accept (h : q.Follows p) {b : UInt8} (hlow : q.low ≤ b.toNat)
    (hhigh : b.toNat ≤ q.high) {n y : Nat} (hn : q.wanted = n + 1) (hy : y < 64 ^ n) :
    p ++ [b] ++ continuation n y =
      String.utf8EncodeChar (Char.ofNat ((q.bits * 64 + b.toNat % 64) * 64 ^ n + y)) := by
  have hleast := h.low
  have hmost := h.high
  have ha : b.toNat % 64 < 64 := Nat.mod_lt _ (by decide)
  have hb : 0x80 + b.toNat % 64 = b.toNat := by omega
  have hallowed : q.Allows (b.toNat % 64 * 64 ^ n + y) :=
    (Partial.allows_iff hn ha hy).2 (by rw [hb]; exact ⟨hlow, hhigh⟩)
  have hbits : q.bits * 64 ^ (n + 1) + (b.toNat % 64 * 64 ^ n + y) =
      (q.bits * 64 + b.toNat % 64) * 64 ^ n + y := by ring
  have hcompleted := h.completes _ hallowed
  rw [hn, continuation_succ ha hy, hb, UInt8.ofNat_toNat, hbits] at hcompleted
  simpa using hcompleted

/-- What a byte does to an unfinished sequence: it goes on, or is complete, or is given up. -/
theorem Partial.Follows.step (h : q.Follows p) (b : UInt8) :
    (∃ q', Carry.step (some q) b = (some q', []) ∧ q'.Follows (p ++ [b])) ∨
    (∃ c, Carry.step (some q) b = (none, [some c]) ∧ p ++ [b] = String.utf8EncodeChar c) ∨
    Carry.step (some q) b = ((start b.toNat).1, none :: (start b.toNat).2) := by
  by_cases hrange : q.low ≤ b.toNat ∧ b.toNat ≤ q.high
  · obtain ⟨hlow, hhigh⟩ := hrange
    obtain ⟨n, hn⟩ := Nat.exists_eq_add_one.2 h.wanted
    cases n with
    | zero =>
      refine .inr (.inl ⟨_, Carry.step_last hn hlow hhigh, ?_⟩)
      simpa [continuation] using h.accept hlow hhigh hn (y := 0) (by decide)
    | succ n =>
      refine .inl ⟨_, Carry.step_more hn hlow hhigh, ?_⟩
      refine ⟨by simp, Nat.succ_pos n, Nat.le_refl _, by simp, Nat.le_refl _, ?_⟩
      rintro x ⟨hx, -, -⟩
      exact h.accept hlow hhigh hn hx
  · exact .inr (.inr (Carry.step_refused hrange))

/-! ## Characters -/

theorem Carry.units_cons (carry : Carry) (b : UInt8) (r : Bytes) :
    carry.units (b :: r) =
      (((carry.step b).1.units r).1, (carry.step b).2 ++ ((carry.step b).1.units r).2) := rfl

/-- To decode in two pieces is to decode at once. -/
theorem Carry.units_append (carry : Carry) (a b : Bytes) :
    carry.units (a ++ b) =
      (((carry.units a).1.units b).1, (carry.units a).2 ++ ((carry.units a).1.units b).2) := by
  induction a generalizing carry with
  | nil => rfl
  | cons x r ih => simp only [List.cons_append, units, ih, List.append_assoc]

theorem toNat_continuation {a : Nat} (ha : a < 64) :
    (UInt8.ofNat (0x80 + a)).toNat = 0x80 + a ∧ (UInt8.ofNat (0x80 + a)).toNat % 64 = a := by
  have hbyte : (UInt8.ofNat (0x80 + a)).toNat = 0x80 + a :=
    UInt8.toNat_ofNat_of_lt' (by simp only [UInt8.size]; omega)
  exact ⟨hbyte, by omega⟩

/-- What may complete a sequence is read as the character that it completes. -/
theorem units_continuation {n : Nat} {q : Partial} {x : Nat} (hn : q.wanted = n + 1)
    (hx : q.Allows x) :
    Carry.units (some q) (continuation (n + 1) x) =
      (none, [some (Char.ofNat (q.bits * 64 ^ (n + 1) + x))]) := by
  induction n generalizing q x with
  | zero =>
    obtain ⟨a, y, ha, hy, rfl⟩ := exists_six_bits (n := 0) (hn ▸ hx.1)
    obtain ⟨hleast, hmost⟩ := (Partial.allows_iff hn ha hy).1 hx
    obtain ⟨hbyte, hbits⟩ := toNat_continuation ha
    obtain rfl : y = 0 := Nat.lt_one_iff.1 hy
    have hstep := Carry.step_last hn (hleast.trans_eq hbyte.symm) (hbyte.trans_le hmost)
    rw [hbits] at hstep
    rw [continuation_succ ha hy, Carry.units_cons, hstep]
    simp [continuation, Carry.units]
  | succ n ih =>
    obtain ⟨a, y, ha, hy, rfl⟩ := exists_six_bits (n := n + 1) (hn ▸ hx.1)
    obtain ⟨hleast, hmost⟩ := (Partial.allows_iff hn ha hy).1 hx
    obtain ⟨hbyte, hbits⟩ := toNat_continuation ha
    have hstep := Carry.step_more hn (hleast.trans_eq hbyte.symm) (hbyte.trans_le hmost)
    rw [hbits] at hstep
    -- behind the first of the bytes that are wanted, the others have no bounds of their own
    have hallowed : Partial.Allows ⟨q.bits * 64 + a, n + 1, 0x80, 0xBF⟩ y := by
      obtain ⟨a', y', ha', hy', rfl⟩ := exists_six_bits hy
      exact (Partial.allows_iff rfl ha' hy').2 ⟨Nat.le_add_right _ _, by simp only; omega⟩
    have hsum : (q.bits * 64 + a) * 64 ^ (n + 1) + y =
        q.bits * 64 ^ (n + 1 + 1) + (a * 64 ^ (n + 1) + y) := by ring
    have hrest := ih (q := ⟨q.bits * 64 + a, n + 1, 0x80, 0xBF⟩) rfl hallowed
    rw [hsum] at hrest
    rw [continuation_succ ha hy, Carry.units_cons, hstep, hrest]
    rfl

/-- A character is a byte of its own, or a byte that starts a sequence and what completes it. -/
theorem char_cases (c : Char) :
    c.toNat < 0x80 ∨
    ∃ b : UInt8, ∃ q x, Leads b.toNat q ∧ q.Allows x ∧
      c = Char.ofNat (q.bits * 64 ^ q.wanted + x) := by
  -- a lead is a number below 256, from which the byte is made once for all lengths
  have hlead : ∀ {b q x}, Leads b q → b < 256 → q.Allows x →
      c.toNat = q.bits * 64 ^ q.wanted + x → ∃ b : UInt8, ∃ q x, Leads b.toNat q ∧ q.Allows x ∧
        c = Char.ofNat (q.bits * 64 ^ q.wanted + x) := by
    intro b q x hleads hb hx hc
    refine ⟨UInt8.ofNat b, q, x, ?_, hx, ?_⟩
    · rwa [UInt8.toNat_ofNat_of_lt' hb]
    · rw [← hc, Char.ofNat_toNat]
  have hvalid : c.toNat < 0xD800 ∨ 0xDFFF < c.toNat ∧ c.toNat < 0x110000 := c.valid
  generalize c.toNat = n at hvalid hlead ⊢
  by_cases hone : n < 0x80
  · exact .inl hone
  right
  by_cases htwo : n < 0x800
  · have hleads := Leads.two (show 2 ≤ n / 64 by omega) (by omega)
    refine hlead (x := n % 64) hleads (by omega) ?_ ?_
    · refine ⟨Nat.mod_lt _ (by decide), ?_, ?_⟩
      · exact Nat.le_add_right _ _
      · dsimp only
        omega
    · dsimp only
      omega
  by_cases hthree : n < 0x10000
  · have hleads := Leads.three (show n / 4096 < 0x10 by omega)
    refine hlead (x := n % 4096) hleads (by omega) ?_ ?_
    · refine ⟨Nat.mod_lt _ (by decide), ?_, ?_⟩
      · dsimp only
        split <;> omega
      · dsimp only
        split <;> omega
    · dsimp only
      omega
  · have hleads := Leads.four (show n / 262144 < 5 by omega)
    refine hlead (x := n % 262144) hleads (by omega) ?_ ?_
    · refine ⟨Nat.mod_lt _ (by decide), ?_, ?_⟩
      · dsimp only
        split <;> omega
      · dsimp only
        split <;> omega
    · dsimp only
      omega

/-- The form of a character is read as this character. -/
theorem units_encodeChar (c : Char) :
    Carry.units none (String.utf8EncodeChar c) = (none, [some c]) := by
  rcases char_cases c with hone | ⟨b, q, x, hleads, hx, rfl⟩
  · have hbyte : (UInt8.ofNat c.toNat).toNat = c.toNat :=
      UInt8.toNat_ofNat_of_lt' (hone.trans (by decide))
    have hform := encode_one hone
    rw [Char.ofNat_toNat] at hform
    simp [hform, Carry.units, Carry.step, start, hbyte, hone]
  · obtain ⟨n, hn⟩ := Nat.exists_eq_add_one.2 hleads.range.1
    have hstart : Carry.step none b = (some q, []) := hleads.start_eq
    have hrest := units_continuation hn hx
    rw [← hleads.follows.completes x hx, hn, List.singleton_append, Carry.units_cons, hstart, hrest]
    rfl

theorem units_encode (t : Text) : Carry.units none (encode t) = (none, t.map some) := by
  induction t with
  | nil => rfl
  | cons c r ih =>
    have hform : encode (c :: r) = String.utf8EncodeChar c ++ encode r := List.flatMap_cons
    rw [hform, Carry.units_append, units_encodeChar, ih]
    rfl

/-! ## Pieces -/

def Carry.feeds (carry : Carry) : List Bytes → List Text × Carry
  | [] => ([], carry)
  | piece :: r =>
    match carry.feed piece with
    | (next, text) =>
      match next.feeds r with
      | (later, last) => (text :: later, last)

theorem Carry.feeds_cons (carry : Carry) (piece : Bytes) (r : List Bytes) :
    carry.feeds (piece :: r) =
      ((carry.feed piece).2 :: ((carry.feed piece).1.feeds r).1,
        ((carry.feed piece).1.feeds r).2) := rfl

/-- However they are cut, the pieces give what their bytes give. -/
theorem Carry.feeds_flatten (carry : Carry) (pieces : List Bytes) :
    (carry.feeds pieces).2 = (carry.units pieces.flatten).1 ∧
      (carry.feeds pieces).1.flatten = (carry.units pieces.flatten).2.map shown := by
  induction pieces generalizing carry with
  | nil => exact ⟨rfl, rfl⟩
  | cons piece r ih =>
    obtain ⟨hlast, htexts⟩ := ih (carry.feed piece).1
    rw [List.flatten_cons, units_append, List.map_append, feeds_cons, List.flatten_cons, hlast,
      htexts]
    exact ⟨rfl, rfl⟩

theorem Carry.feeds_take (carry : Carry) (pieces : List Bytes) (n : Nat) :
    (carry.feeds (pieces.take n)).1 = (carry.feeds pieces).1.take n := by
  induction pieces generalizing carry n with
  | nil => simp [feeds]
  | cons piece r ih =>
    cases n with
    | zero => rfl
    | succ n => rw [List.take_succ_cons, feeds_cons, feeds_cons, List.take_succ_cons, ih]

/-! ## Unfinished sequences -/

theorem Carry.step_none (b : UInt8) : Carry.step none b = start b.toNat := rfl

/-- A byte that leaves nothing in mind gives something. -/
theorem Carry.step_snd_ne_nil {carry : Carry} {b : UInt8} (h : (carry.step b).1 = none) :
    (carry.step b).2 ≠ [] := by
  cases carry with
  | none =>
    rw [step_none] at h ⊢
    rcases start_cases b.toNat with ⟨-, hstart⟩ | ⟨q, -, hstart⟩ | hstart
    · simp [hstart]
    · simp [hstart] at h
    · simp [hstart]
  | some q =>
    simp only [step] at h ⊢
    split
    · next hrange =>
      rw [if_pos hrange] at h
      split
      · simp
      · next hmore => simp [hmore] at h
    · simp

theorem eq_nil_of_units {carry : Carry} {s : Bytes} (h : carry.units s = (none, [])) : s = [] := by
  induction s generalizing carry with
  | nil => rfl
  | cons b r ih =>
    obtain ⟨hcarry, hseen⟩ := Prod.mk.inj ((carry.units_cons b r).symm.trans h)
    obtain ⟨hfirst, hlater⟩ := List.append_eq_nil_iff.1 hseen
    obtain rfl := ih (Prod.ext hcarry hlater)
    exact absurd hfirst (Carry.step_snd_ne_nil hcarry)

/-- As long as nothing was given, all bytes are remembered. -/
theorem holds_of_quiet {w : Bytes} (h : (Carry.units none w).2 = []) :
    (Carry.units none w).1.Holds w := by
  induction w using List.reverseRecOn with
  | nil => rfl
  | append_singleton w b ih =>
    rw [Carry.units_append] at h ⊢
    obtain ⟨hbefore, hbyte⟩ := List.append_eq_nil_iff.1 h
    have hheld := ih hbefore
    simp only [Carry.units, List.append_nil] at hbyte ⊢
    cases hcarry : (Carry.units none w).1 with
    | none =>
      rw [hcarry] at hheld hbyte
      obtain rfl : w = [] := hheld
      rw [Carry.step_none] at hbyte ⊢
      rcases start_cases b.toNat with ⟨-, hstart⟩ | ⟨q, hleads, hstart⟩ | hstart
      · simp [hstart] at hbyte
      · rw [hstart]
        exact hleads.follows
      · simp [hstart] at hbyte
    | some q =>
      rw [hcarry] at hheld hbyte
      rcases Partial.Follows.step hheld b with ⟨q', hstep, hfollows⟩ | ⟨c, hstep, -⟩ | hstep
      · rw [hstep]
        exact hfollows
      · simp [hstep] at hbyte
      · simp [hstep] at hbyte

/-- What is read of the form of a character gives this character, or nothing yet. -/
theorem units_of_part {w s : Bytes} {c : Char} (h : w ++ s = String.utf8EncodeChar c) :
    ((Carry.units none w).2 = [some c] ∧ s = []) ∨ (Carry.units none w).2 = [] := by
  have hwhole := units_encodeChar c
  rw [← h, Carry.units_append] at hwhole
  obtain ⟨hcarry, hseen⟩ := Prod.mk.inj hwhole
  rcases List.append_eq_singleton_iff.1 hseen with ⟨hnothing, -⟩ | ⟨hall, hlater⟩
  · exact .inr hnothing
  · exact .inl ⟨hall, eq_nil_of_units (Prod.ext hcarry hlater)⟩

theorem units_of_unfinished (h : Unfinished p) :
    ∃ q, Carry.units none p = (some q, []) ∧ q.Follows p := by
  obtain ⟨hbegun, c, rest, hrest, hform⟩ := h
  have hquiet : (Carry.units none p).2 = [] := by
    rcases units_of_part hform with ⟨-, hnil⟩ | hquiet
    · exact absurd hnil hrest
    · exact hquiet
  have hheld := holds_of_quiet hquiet
  cases hcarry : (Carry.units none p).1 with
  | none =>
    rw [hcarry] at hheld
    exact absurd hheld hbegun
  | some q =>
    rw [hcarry] at hheld
    exact ⟨q, Prod.ext hcarry hquiet, hheld⟩

theorem quiet_of_unfinished (h : p = [] ∨ Unfinished p) : (Carry.units none p).2 = [] := by
  rcases h with rfl | hunfinished
  · rfl
  · obtain ⟨q, hunits, -⟩ := units_of_unfinished hunfinished
    rw [hunits]

/-- The least byte that may come next, and no more bits. -/
theorem Partial.Follows.exists_allowed (h : q.Follows p) : ∃ x, q.Allows x := by
  obtain ⟨n, hn⟩ := Nat.exists_eq_add_one.2 h.wanted
  have hlow := h.low
  have hpossible := h.possible
  have hhigh := h.high
  exact ⟨(q.low - 0x80) * 64 ^ n + 0,
    (Partial.allows_iff hn (by omega) (Nat.pow_pos (by decide))).2 (by omega)⟩

theorem Partial.Follows.unfinished (h : q.Follows p) : Unfinished p := by
  obtain ⟨x, hallowed⟩ := h.exists_allowed
  obtain ⟨n, hn⟩ := Nat.exists_eq_add_one.2 h.wanted
  refine ⟨h.begun, _, _, ?_, h.completes x hallowed⟩
  rw [hn]
  exact List.cons_ne_nil _ _

/-- What is remembered tells the bytes. -/
theorem Carry.Holds.unique {carry : Carry} {p p' : Bytes} (h : carry.Holds p)
    (h' : carry.Holds p') : p = p' := by
  cases carry with
  | none =>
    have hnil : p = [] := h
    have hnil' : p' = [] := h'
    rw [hnil, hnil']
  | some q =>
    obtain ⟨x, hallowed⟩ := Partial.Follows.exists_allowed h
    have hform := Partial.Follows.completes h x hallowed
    have hform' := Partial.Follows.completes h' x hallowed
    exact List.append_cancel_right (hform.trans hform'.symm)

/-- Some end of the bytes is remembered. -/
theorem exists_held (w : Bytes) : ∃ p, p <:+ w ∧ (Carry.units none w).1.Holds p := by
  induction w using List.reverseRecOn with
  | nil => exact ⟨[], List.suffix_refl [], rfl⟩
  | append_singleton w b ih =>
    obtain ⟨p, hsuffix, hheld⟩ := ih
    -- whatever was in mind before, a byte may start something new
    have hstarted : ∃ p', p' <:+ w ++ [b] ∧ Carry.Holds (start b.toNat).1 p' := by
      rcases start_cases b.toNat with ⟨-, hstart⟩ | ⟨q, hleads, hstart⟩ | hstart
      · exact ⟨[], List.nil_suffix, by rw [hstart]; rfl⟩
      · exact ⟨[b], List.suffix_append w [b], by rw [hstart]; exact hleads.follows⟩
      · exact ⟨[], List.nil_suffix, by rw [hstart]; rfl⟩
    simp only [Carry.units_append, Carry.units]
    cases hcarry : (Carry.units none w).1 with
    | none => exact hstarted
    | some q =>
      rw [hcarry] at hheld
      rcases Partial.Follows.step hheld b with ⟨q', hstep, hfollows⟩ | ⟨c, hstep, -⟩ | hstep
      · obtain ⟨front, rfl⟩ := hsuffix
        refine ⟨p ++ [b], ⟨front, (List.append_assoc _ _ _).symm⟩, ?_⟩
        rw [hstep]
        exact hfollows
      · exact ⟨[], List.nil_suffix, by rw [hstep]; rfl⟩
      · rw [hstep]
        exact hstarted

/-- What begins a character ends whatever was in mind, and is read afresh. -/
theorem Carry.units_of_unfinished {carry : Carry} {w : Bytes} (hheld : carry.Holds w)
    (h : Unfinished p) :
    carry.units p = ((Carry.units none p).1, carry.rest ++ (Carry.units none p).2) := by
  cases carry with
  | none => rfl
  | some q =>
    have hlow := Partial.Follows.low hheld
    have hhigh := Partial.Follows.high hheld
    obtain ⟨hbegun, c, rest, -, hform⟩ := h
    obtain ⟨b, r, rfl⟩ := List.exists_cons_of_ne_nil hbegun
    -- no byte that starts a character is among those that may go on
    have hrange : ¬ (q.low ≤ b.toNat ∧ b.toNat ≤ q.high) := by
      rcases start_cases b.toNat with ⟨hone, -⟩ | ⟨q', hleads, -⟩ | hstart
      · omega
      · have hlead := hleads.le
        omega
      · rcases units_of_part (w := [b]) (s := r ++ rest) hform with ⟨hone, -⟩ | hnothing
        · simp [Carry.units, Carry.step_none, hstart] at hone
        · simp [Carry.units, Carry.step_none, hstart] at hnothing
    rw [Carry.units_cons, Carry.units_cons, Carry.step_refused hrange, Carry.step_none]
    rfl

theorem Unfinished.length_le (h : Unfinished p) : p.length ≤ 3 := by
  obtain ⟨-, c, rest, hrest, hform⟩ := h
  have hlength : p.length + rest.length = c.utf8Size := by
    rw [← List.length_append, hform, String.length_utf8EncodeChar]
  have hfour := c.utf8Size_le_four
  have hpos := List.length_pos_iff.2 hrest
  omega

end Utf8
end ContractAssist
