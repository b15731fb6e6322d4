import ContractAssist.Proofs.Text.Basic
import ContractAssist.Text.Quoted

/-!
# Text.Quoted — a quoted text is read back, and stays on its line

Each character of a text is written by itself (`escape_cases`), so that it can be read by itself:

1. `read?_hexDigits`: the digits of a code point are read back as its number;
2. `read?_escape`: what is written for a character is read as that character, whatever follows, and
   so a quoted text is read as the text (`decode?_encode`);
3. `onlySpaces_encode`: of all blanks only the space is written as itself, for the others have no
   visible form (`isUnprintable_of_isBlank`).
-/

namespace ContractAssist

/-! ## Blanks -/

/-- Stretches without visible characters, among them all blanks but the space. -/
def blankStretches : List CodeRange :=
  [(0x0, 0x1F), (0x7F, 0xA0), (0x1680, 0x1680), (0x1FFF, 0x200F), (0x2028, 0x202F),
   (0x205F, 0x206F), (0x3000, 0x3000)]

theorem mem_unprintableRanges : ∀ r ∈ blankStretches, r ∈ unprintableRanges := by
  decide +kernel

/-- Every blank but the space has no visible form. -/
theorem isUnprintable_of_isBlank {c : Char} (h : isBlank c = true) (hspace : c ≠ ' ') :
    isUnprintable c = true := by
  have hcode : c.toNat ≠ 0x20 := fun heq => hspace (Char.toNat_inj.1 heq)
  have hstretch : ∃ r ∈ blankStretches, r.1 ≤ c.toNat ∧ c.toNat ≤ r.2 := by
    simp only [isBlank, Bool.or_eq_true, Bool.and_eq_true, decide_eq_true_eq, beq_iff_eq] at h
    simp only [blankStretches, List.mem_cons, List.not_mem_nil, or_false, exists_eq_or_imp,
      exists_eq_left]
    omega
  obtain ⟨r, hr, hwithin⟩ := hstretch
  exact List.any_eq_true.2 ⟨r, mem_unprintableRanges r hr, by simpa using hwithin⟩

namespace Text

def OnlySpaces (t : Text) : Prop :=
  ∀ c ∈ t, isBlank c = true → c = ' '

theorem onlySpaces_of_blankFree {t : Text} (h : t.any isBlank = false) : OnlySpaces t := by
  intro c hc hblank
  exact absurd hblank (List.any_eq_false.1 h c hc)

theorem OnlySpaces.append {t u : Text} (ht : OnlySpaces t) (hu : OnlySpaces u) :
    OnlySpaces (t ++ u) := by
  intro c hc
  rcases List.mem_append.1 hc with hc | hc
  · exact ht c hc
  · exact hu c hc

theorem onlySpaces_flatMap {α : Type} {l : List α} {f : α → Text} (h : ∀ a ∈ l, OnlySpaces (f a)) :
    OnlySpaces (l.flatMap f) := by
  intro c hc
  obtain ⟨a, ha, hc⟩ := List.mem_flatMap.1 hc
  exact h a ha c hc

/-- A space is no line break, so such a text lies on one line. -/
theorem OnlySpaces.lineBreakFree {t : Text} (h : OnlySpaces t) : LineBreakFree t := by
  intro c hc
  cases hbreak : isLineBreak c with
  | false => rfl
  | true =>
    rcases (by simpa [isLineBreak] using hbreak : c = '\n' ∨ c = '\r') with rfl | rfl
    · exact absurd (h '\n' hc rfl) (by decide)
    · exact absurd (h '\r' hc rfl) (by decide)

end Text

namespace Quoted

/-! ## Code points -/

/-- The digits of a number in base sixteen are its last digit behind those of the rest. -/
theorem hexDigits_of_le {n : Nat} (h : 16 ≤ n) :
    hexDigits n = hexDigits (n / 16) ++ [(n % 16).digitChar] :=
  Nat.toDigits_of_base_le (by decide) h

theorem hexDigits_of_lt {n : Nat} (h : n < 16) : hexDigits n = [n.digitChar] :=
  Nat.toDigits_of_lt_base h

/-- A digit is read as its value, and it is neither the closing brace nor a blank. -/
theorem digitChar_read : ∀ d < 16, Text.hexDigitValue? d.digitChar = some d ∧
    d.digitChar ≠ '\x7d' ∧ isBlank d.digitChar = false := by
  decide

theorem read?_digitChar {d : Nat} (h : d < 16) (n : Nat) (rest : Text) :
    (Place.codePoint n).read? (d.digitChar :: rest) =
      (Place.codePoint (n * 16 + d)).read? rest := by
  obtain ⟨hvalue, hbrace, -⟩ := digitChar_read d h
  rw [Place.read?, if_neg hbrace, hvalue]
  rfl

/-- The digits of a code point are read back as its number. -/
theorem read?_hexDigits (n : Nat) (rest : Text) :
    (Place.codePoint 0).read? (hexDigits n ++ rest) = (Place.codePoint n).read? rest := by
  -- all digits but the last one are read first
  induction n using Nat.strongRecOn generalizing rest with
  | ind n ih =>
    by_cases hsmall : n < 16
    · rw [hexDigits_of_lt hsmall, List.singleton_append, read?_digitChar hsmall, Nat.zero_mul,
        Nat.zero_add]
    · have hle : 16 ≤ n := by omega
      have hlast : n % 16 < 16 := Nat.mod_lt n (by decide)
      rw [hexDigits_of_le hle, List.append_assoc, ih (n / 16) (by omega), List.singleton_append,
        read?_digitChar hlast, Nat.div_add_mod']

theorem any_isBlank_hexDigits (n : Nat) : (hexDigits n).any isBlank = false := by
  induction n using Nat.strongRecOn with
  | ind n ih =>
    by_cases hsmall : n < 16
    · rw [hexDigits_of_lt hsmall, List.any_cons, (digitChar_read n hsmall).2.2]
      rfl
    · have hle : 16 ≤ n := by omega
      have hlast := (digitChar_read (n % 16) (Nat.mod_lt n (by decide))).2.2
      rw [hexDigits_of_le hle, List.any_append, ih (n / 16) (by omega), List.any_cons, hlast]
      rfl

/-! ## How characters are written -/

def lettered : List Char :=
  ['\x00', '\t', '\r', '\n', '"', '\\']

/-- The letter is read as the character. -/
theorem escape_lettered {c : Char} (h : c ∈ lettered) :
    ∃ e, escape c = ['\\', e] ∧ e ≠ 'u' ∧ escaped? e = some c ∧ isBlank e = false := by
  simp only [lettered, List.mem_cons, List.not_mem_nil, or_false] at h
  rcases h with rfl | rfl | rfl | rfl | rfl | rfl
  · exact ⟨'0', rfl, by decide, rfl, rfl⟩
  · exact ⟨'t', rfl, by decide, rfl, rfl⟩
  · exact ⟨'r', rfl, by decide, rfl, rfl⟩
  · exact ⟨'n', rfl, by decide, rfl, rfl⟩
  · exact ⟨'"', rfl, by decide, rfl, rfl⟩
  · exact ⟨'\\', rfl, by decide, rfl, rfl⟩

/-- A character is written by a letter, by its code point or as itself. -/
theorem escape_cases (c : Char) :
    (∃ e, escape c = ['\\', e] ∧ e ≠ 'u' ∧ escaped? e = some c ∧ isBlank e = false) ∨
      escape c = ['\\', 'u', '\x7b'] ++ hexDigits c.toNat ++ ['\x7d'] ∨
      escape c = [c] ∧ c ≠ '"' ∧ c ≠ '\\' ∧ isUnprintable c = false := by
  by_cases hletter : c ∈ lettered
  · exact .inl (escape_lettered hletter)
  simp only [lettered, List.mem_cons, List.not_mem_nil, or_false, not_or] at hletter
  obtain ⟨hnul, htab, hreturn, hfeed, hquote, hslash⟩ := hletter
  have hescape : escape c = if byCodePoint c then
      ['\\', 'u', '\x7b'] ++ hexDigits c.toNat ++ ['\x7d'] else [c] := by
    simp only [escape, hnul, htab, hreturn, hfeed, hquote, hslash, if_false]
  right
  cases hcode : byCodePoint c with
  | true => exact .inl (by rw [hescape, if_pos hcode])
  | false =>
    have hvisible : isUnprintable c = false := (Bool.or_eq_false_iff.1 hcode).2
    exact .inr ⟨by rw [hescape, hcode]; rfl, hquote, hslash, hvisible⟩

/-! ## Reading back -/

/-- A character that is written by its code point is read. -/
theorem read?_codePoint (c : Char) (rest : Text) :
    Place.between.read? (['\\', 'u', '\x7b'] ++ hexDigits c.toNat ++ ['\x7d'] ++ rest) =
      (Place.between.read? rest).map (c :: ·) := by
  calc
    Place.between.read? (['\\', 'u', '\x7b'] ++ hexDigits c.toNat ++ ['\x7d'] ++ rest)
        = (Place.codePoint 0).read? (hexDigits c.toNat ++ '\x7d' :: rest) := by
          simp [Place.read?]
    _ = (Place.codePoint c.toNat).read? ('\x7d' :: rest) := read?_hexDigits _ _
    _ = (Place.between.read? rest).map (c :: ·) := by
          have hvalid : c.toNat.isValidChar := c.valid
          rw [Place.read?, if_pos rfl, if_pos hvalid, Char.ofNat_toNat]

/-- What is written for a character is read as that character, whatever follows. -/
theorem read?_escape (c : Char) (rest : Text) :
    Place.between.read? (escape c ++ rest) = (Place.between.read? rest).map (c :: ·) := by
  rcases escape_cases c with ⟨e, hescape, hu, hread, -⟩ | hescape | ⟨hescape, hquote, hslash, -⟩
  · have hletter : Place.between.read? ('\\' :: e :: rest) =
        (escaped? e).bind fun d => (Place.between.read? rest).map (d :: ·) := by
      simp [Place.read?, hu]
    rw [hescape, List.cons_append, List.singleton_append, hletter, hread]
    rfl
  · rw [hescape]
    exact read?_codePoint c rest
  · rw [hescape, List.singleton_append, Place.read?, if_neg hquote, if_neg hslash]

theorem decode?_encode (t : Text) : decode? (encode t) = some t := by
  have hread : Place.between.read? (t.flatMap escape ++ ['"']) = some t := by
    induction t with
    | nil => rfl
    | cons c r ih =>
      rw [List.flatMap_cons, List.append_assoc, read?_escape, ih]
      rfl
  simpa [decode?, encode] using hread

/-! ## Blanks in quoted texts -/

theorem onlySpaces_escape (c : Char) : Text.OnlySpaces (escape c) := by
  rcases escape_cases c with ⟨e, hescape, -, -, hletter⟩ | hescape | ⟨hescape, -, -, hvisible⟩
  · rw [hescape]
    apply Text.onlySpaces_of_blankFree
    rw [List.any_cons, List.any_cons, hletter]
    rfl
  · rw [hescape]
    apply Text.onlySpaces_of_blankFree
    rw [List.any_append, List.any_append, any_isBlank_hexDigits]
    rfl
  · rw [hescape]
    intro d hd hblank
    rw [List.mem_singleton.1 hd] at hblank ⊢
    -- a blank that is visible
    refine Decidable.byContradiction fun hspace => ?_
    rw [isUnprintable_of_isBlank hblank hspace] at hvisible
    cases hvisible

/-- The only blank in a quoted text is the space. -/
theorem onlySpaces_encode (t : Text) : Text.OnlySpaces (encode t) := by
  have hmark : Text.OnlySpaces ['"'] := Text.onlySpaces_of_blankFree rfl
  have hinner : Text.OnlySpaces (t.flatMap escape) :=
    Text.onlySpaces_flatMap fun c _ => onlySpaces_escape c
  exact (hmark.append hinner).append hmark

end Quoted
end ContractAssist
