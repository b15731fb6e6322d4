import ContractAssist.Text.Basic

/-!
# Utf8 — decoding bytes that arrive in pieces

UTF-8 is read one byte at a time. Between two bytes the reader's whole memory is a `Carry`: either
nothing, or a sequence that has begun and can still be completed. A byte that cannot continue the
sequence ends it as undecodable and is then read as the start of a new one, so an ill-formed
stretch is cut into its longest completable beginnings.

* `Carry.step` reads one byte, `Carry.feed` a piece of any length;
* `lossy` decodes a whole byte sequence, with U+FFFD for each undecodable stretch;
* `decode?` accepts well-formed input only;
* `encode` is the other direction;
* `firstLine` splits bytes after their first line.
-/

namespace ContractAssist

abbrev Bytes := List UInt8

namespace Utf8

/-- Shown in place of an undecodable stretch. -/
def replacement : Char := '\uFFFD'

/-- A multi-byte sequence that has begun and can still be completed. -/
structure Partial where
  -- the bits of the character read so far
  bits : Nat
  -- how many bytes are still wanted, at least one
  wanted : Nat
  low : Nat
  high : Nat
  deriving DecidableEq, Repr

abbrev Carry := Option Partial

/-- One unit of decoded text: a character, or `none` for an undecodable stretch. -/
abbrev Decoded := Option Char

/-! ## One byte -/

/--
Reads a byte that starts a sequence. The ranges for the second byte leave out forms that are longer
than needed, surrogates, and code points above U+10FFFF.
-/
def start (b : Nat) : Carry × List Decoded :=
  if b < 0x80 then (none, [some (Char.ofNat b)])
  else if 0xC2 ≤ b ∧ b ≤ 0xDF then (some ⟨b - 0xC0, 1, 0x80, 0xBF⟩, [])
  else if b = 0xE0 then (some ⟨0, 2, 0xA0, 0xBF⟩, [])
  else if b = 0xED then (some ⟨0xD, 2, 0x80, 0x9F⟩, [])
  else if 0xE1 ≤ b ∧ b ≤ 0xEF then (some ⟨b - 0xE0, 2, 0x80, 0xBF⟩, [])
  else if b = 0xF0 then (some ⟨0, 3, 0x90, 0xBF⟩, [])
  else if 0xF1 ≤ b ∧ b ≤ 0xF3 then (some ⟨b - 0xF0, 3, 0x80, 0xBF⟩, [])
  else if b = 0xF4 then (some ⟨4, 3, 0x80, 0x8F⟩, [])
  else (none, [none])

def Carry.step (carry : Carry) (byte : UInt8) : Carry × List Decoded :=
  match carry with
  | none => start byte.toNat
  | some p =>
    let b := byte.toNat
    if p.low ≤ b ∧ b ≤ p.high then
      let bits := p.bits * 64 + b % 64
      if p.wanted ≤ 1 then (none, [some (Char.ofNat bits)])
      else (some ⟨bits, p.wanted - 1, 0x80, 0xBF⟩, [])
    else
      let next := start b
      (next.1, none :: next.2)

/-! ## Pieces and whole sequences -/

/-- Reads a piece and gives what became certain with it. -/
def Carry.units (carry : Carry) : Bytes → Carry × List Decoded
  | [] => (carry, [])
  | b :: r =>
    match carry.step b with
    | (next, seen) =>
      match next.units r with
      | (last, later) => (last, seen ++ later)

/-- What an unfinished sequence counts for at the end of the input. -/
def Carry.rest (carry : Carry) : List Decoded :=
  match carry with
  | none => []
  | some _ => [none]

def shown (u : Decoded) : Char :=
  u.getD replacement

/-- Reads a piece; undecodable stretches become U+FFFD. -/
def Carry.feed (carry : Carry) (piece : Bytes) : Carry × Text :=
  match carry.units piece with
  | (last, seen) => (last, seen.map shown)

def Carry.flush (carry : Carry) : Text :=
  carry.rest.map shown

def units (bytes : Bytes) : List Decoded :=
  match Carry.units none bytes with
  | (last, seen) => seen ++ last.rest

/-- Decodes a byte sequence with U+FFFD for each undecodable stretch. -/
def lossy (bytes : Bytes) : Text :=
  (units bytes).map shown

def decode? (bytes : Bytes) : Option Text :=
  (units bytes).mapM id

def encode (t : Text) : Bytes :=
  t.flatMap String.utf8EncodeChar

/-! ## Lines -/

/-- The bytes up to the first line feed, which belongs to them, and the bytes after it. -/
def firstLine : Bytes → Bytes × Bytes
  | [] => ([], [])
  | b :: r =>
    if b = 10 then ([b], r)
    else
      match firstLine r with
      | (line, rest) => (b :: line, rest)

/-- A line and what follows it are the whole. -/
theorem firstLine_append (bytes : Bytes) : (firstLine bytes).1 ++ (firstLine bytes).2 = bytes := by
  fun_induction firstLine bytes <;> simp_all

/-- The first line of something is not empty, so less follows it. -/
theorem length_firstLine_lt (b : UInt8) (r : Bytes) :
    (firstLine (b :: r)).2.length < (b :: r).length := by
  have h := congrArg List.length (firstLine_append (b :: r))
  have hne : (firstLine (b :: r)).1 ≠ [] := by
    unfold firstLine
    split
    · simp
    · simp
  have hpos := List.length_pos_iff.2 hne
  simp only [List.length_append] at h
  omega

end Utf8

end ContractAssist
