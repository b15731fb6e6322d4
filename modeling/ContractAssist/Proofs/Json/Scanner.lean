import ContractAssist.Proofs.Json.Grammar

/-!
# Scanner — how a scanner takes up what the grammar allows

A scanner reads one character at a time, and each token goes to a builder as soon as it ends.  Here
both are run together, so that what is proved of a part of a text can be used in front of any rest.

1. `read?` is a scanner and a builder at work, with one lemma for each thing that a step can do;
2. `read?_spaces` passes white space, `StringSpells.read?` takes up a string;
3. `NumeralSpells.read?` takes up a number, which ends only where the rest cannot go on with it.
-/

namespace ContractAssist
namespace Json

/-- What a builder makes of the rest of a text, when a scanner stands before it. -/
def read? (s : Scanner) (b : Builder) (t : Text) : Option Value :=
  (s.scan? t).bind b.build?

namespace Builder

variable {b : Builder}

theorem build?_cons (b : Builder) (token : Token) (later : List Token) :
    b.build? (token :: later) = (b.step? token).bind fun next => next.build? later := by
  cases h : b.step? token with
  | none => simp [build?, h]
  | some next => simp [build?, h]

/-- A token in front of those to come is the first one to be added. -/
theorem bind_build?_cons (b : Builder) (token : Token) (later? : Option (List Token)) :
    (later?.map (token :: ·)).bind b.build? =
      (b.step? token).bind fun next => later?.bind next.build? := by
  cases later? with
  | none => simp
  | some later => simp [build?_cons]

end Builder

/-! ## One character -/

section
variable {s next : Scanner} {b : Builder} {c : Char}

theorem Scanner.scan?_cons (s : Scanner) (c : Char) (r : Text) :
    s.scan? (c :: r) = (s.step? c).bind fun p => (p.2.scan? r).map (p.1 ++ ·) := by
  rcases h : s.step? c with _ | ⟨_ | ⟨token, tokens⟩, next⟩
  · simp [scan?, h]
  · simp [scan?, h]
  · simp [scan?, h]

/-- A character that no token ends with. -/
theorem read?_silent (h : s.step? c = some ([], next)) (b : Builder) (r : Text) :
    read? s b (c :: r) = read? next b r := by
  simp [read?, Scanner.scan?, h]

/-- A character that a token ends with. -/
theorem read?_token {token : Token} (h : s.step? c = some ([token], next)) (b : Builder)
    (r : Text) :
    read? s b (c :: r) = (b.step? token).bind fun b' => read? next b' r := by
  have hscan : s.scan? (c :: r) = (next.scan? r).map (token :: ·) := by
    simp [Scanner.scan?, h]
  simp only [read?, hscan, Builder.bind_build?_cons]

end

/-! ## White space -/

theorem read?_spaces {t : Text} (h : Spaces t) (b : Builder) (rest : Text) :
    read? .between b (t ++ rest) = read? .between b rest := by
  induction t with
  | nil => rfl
  | cons c t ih =>
    have hc := h c List.mem_cons_self
    have hstep : Scanner.between.step? c = some ([], .between) := by
      rcases hc with rfl | rfl | rfl | rfl <;> rfl
    calc
      read? .between b (c :: t ++ rest)
          = read? .between b (t ++ rest) := read?_silent hstep b (t ++ rest)
      _ = read? .between b rest := ih fun d hd => h d (List.mem_cons_of_mem c hd)

/-! ## Strings -/

section
variable {b : Builder} {c : Char} {spelling : Text}

theorem HexDigit.value {d : Nat} (h : HexDigit d c) : Text.hexDigitValue? c = some d := by
  have hall : ∀ d < 16, Text.hexDigitValue? (Nat.digitChar d) = some d ∧
      Text.hexDigitValue? (Nat.digitChar d).toUpper = some d := by
    decide
  obtain ⟨hlower, hupper⟩ := hall d h.bound
  rcases h.letter with rfl | rfl
  · exact hlower
  · exact hupper

/-- Four digits are taken up as one code unit. -/
theorem CodeUnit.read? {n : Nat} (h : CodeUnit n spelling) {read : Text} {high : Option Nat}
    {next : Scanner} (hend : Scanner.endUnit? read high n = some next) (b : Builder) (rest : Text) :
    read? (.unit read high 4 0) b (spelling ++ rest) = Json.read? next b rest := by
  cases h with
  | @digits n₁ n₂ n₃ n₄ c₁ c₂ c₃ c₄ h₁ h₂ h₃ h₄ =>
    have hfirst : (Scanner.unit read high 4 0).step? c₁ = some ([], .unit read high 3 n₁) := by
      simp [Scanner.step?, h₁.value]
    have hsecond : (Scanner.unit read high 3 n₁).step? c₂ =
        some ([], .unit read high 2 (n₁ * 16 + n₂)) := by
      simp [Scanner.step?, h₂.value]
    have hthird : (Scanner.unit read high 2 (n₁ * 16 + n₂)).step? c₃ =
        some ([], .unit read high 1 ((n₁ * 16 + n₂) * 16 + n₃)) := by
      simp [Scanner.step?, h₃.value]
    have hvalue : ((n₁ * 16 + n₂) * 16 + n₃) * 16 + n₄ = n₁ * 4096 + n₂ * 256 + n₃ * 16 + n₄ := by
      omega
    have hlast : (Scanner.unit read high 1 ((n₁ * 16 + n₂) * 16 + n₃)).step? c₄ =
        some ([], next) := by
      simp [Scanner.step?, h₄.value, hvalue, hend]
    calc
      Json.read? (.unit read high 4 0) b ([c₁, c₂, c₃, c₄] ++ rest)
          = Json.read? (.unit read high 3 n₁) b (c₂ :: c₃ :: c₄ :: rest) :=
            read?_silent hfirst b _
      _ = Json.read? (.unit read high 2 (n₁ * 16 + n₂)) b (c₃ :: c₄ :: rest) :=
            read?_silent hsecond b _
      _ = Json.read? (.unit read high 1 ((n₁ * 16 + n₂) * 16 + n₃)) b (c₄ :: rest) :=
            read?_silent hthird b _
      _ = Json.read? next b rest := read?_silent hlast b rest

/-- A character is never a half of a surrogate pair. -/
theorem not_surrogate (c : Char) :
    isHighSurrogate c.toNat = false ∧ isLowSurrogate c.toNat = false := by
  have hvalid := c.valid
  have hn : c.toNat = c.val.toNat := rfl
  simp only [UInt32.isValidChar, Nat.isValidChar] at hvalid
  constructor
  · simp only [isHighSurrogate, Bool.and_eq_false_iff, decide_eq_false_iff_not]
    omega
  · simp only [isLowSurrogate, Bool.and_eq_false_iff, decide_eq_false_iff_not]
    omega

theorem step?_backslash (read : Text) :
    (Scanner.string read).step? '\\' = some ([], .escape read) := rfl

theorem step?_unitMark (read : Text) :
    (Scanner.escape read).step? 'u' = some ([], .unit read none 4 0) := rfl

/-- Every way to write a character adds that character to what was read. -/
theorem CharSpells.read? (h : CharSpells c spelling) (read : Text) (b : Builder) (rest : Text) :
    read? (.string read) b (spelling ++ rest) = Json.read? (.string (c :: read)) b rest := by
  cases h with
  | plain hcontrol hquote hescape =>
    have hstep : (Scanner.string read).step? c = some ([], .string (c :: read)) := by
      have hcontrol : ¬ c.toNat < 0x20 := by omega
      simp [Scanner.step?, hquote, hescape, hcontrol]
    exact read?_silent hstep b rest
  | @short letter h =>
    have hletter : (Scanner.escape read).step? letter = some ([], .string (c :: read)) := by
      simp only [shortEscapes, List.mem_cons, Prod.mk.injEq, List.not_mem_nil, or_false] at h
      rcases h with ⟨rfl, rfl⟩ | ⟨rfl, rfl⟩ | ⟨rfl, rfl⟩ | ⟨rfl, rfl⟩ | ⟨rfl, rfl⟩ | ⟨rfl, rfl⟩ |
        ⟨rfl, rfl⟩ | ⟨rfl, rfl⟩ <;> rfl
    calc
      Json.read? (.string read) b (['\\', letter] ++ rest)
          = Json.read? (.escape read) b (letter :: rest) := read?_silent (step?_backslash read) b _
      _ = Json.read? (.string (c :: read)) b rest := read?_silent hletter b rest
  | @unit digits hc h =>
    obtain ⟨hhigh, hlow⟩ := not_surrogate c
    have hend : Scanner.endUnit? read none c.toNat = some (.string (c :: read)) := by
      simp [Scanner.endUnit?, hhigh, hlow]
    calc
      Json.read? (.string read) b ('\\' :: 'u' :: digits ++ rest)
          = Json.read? (.escape read) b ('u' :: (digits ++ rest)) :=
            read?_silent (step?_backslash read) b _
      _ = Json.read? (.unit read none 4 0) b (digits ++ rest) :=
            read?_silent (step?_unitMark read) b _
      _ = Json.read? (.string (c :: read)) b rest := h.read? hend b rest
  | @pair high low hc hhigh hlow =>
    have hvalid := c.valid
    have hn : c.toNat = c.val.toNat := rfl
    simp only [UInt32.isValidChar, Nat.isValidChar] at hvalid
    -- the first half asks for a second one, and only both together are a character
    generalize hunit : 0xD800 + (c.toNat - 0x10000) / 0x400 = first at hhigh
    generalize hunit' : 0xDC00 + (c.toNat - 0x10000) % 0x400 = second at hlow
    have hfirst : Scanner.endUnit? read none first = some (.pair read first) := by
      have hrange : isHighSurrogate first = true := by
        simp only [isHighSurrogate, Bool.and_eq_true, decide_eq_true_eq]
        omega
      simp [Scanner.endUnit?, hrange]
    have hsecond : Scanner.endUnit? read (some first) second = some (.string (c :: read)) := by
      have hrange : isLowSurrogate second = true := by
        simp only [isLowSurrogate, Bool.and_eq_true, decide_eq_true_eq]
        omega
      -- the two halves are the quotient and the remainder of the character's number
      have hnumber : 0x10000 + (first - 0xD800) * 0x400 + (second - 0xDC00) = c.toNat := by omega
      simp [Scanner.endUnit?, hrange, pairChar, hnumber]
    have hslash : (Scanner.pair read first).step? '\\' = some ([], .pairEscape read first) := rfl
    have hmark : (Scanner.pairEscape read first).step? 'u' =
        some ([], .unit read (some first) 4 0) := rfl
    calc
      Json.read? (.string read) b ('\\' :: 'u' :: high ++ '\\' :: 'u' :: low ++ rest)
          = Json.read? (.string read) b
              ('\\' :: 'u' :: (high ++ '\\' :: 'u' :: (low ++ rest))) := by
            simp only [List.cons_append, List.append_assoc]
      _ = Json.read? (.escape read) b ('u' :: (high ++ '\\' :: 'u' :: (low ++ rest))) :=
            read?_silent (step?_backslash read) b _
      _ = Json.read? (.unit read none 4 0) b (high ++ '\\' :: 'u' :: (low ++ rest)) :=
            read?_silent (step?_unitMark read) b _
      _ = Json.read? (.pair read first) b ('\\' :: 'u' :: (low ++ rest)) := hhigh.read? hfirst b _
      _ = Json.read? (.pairEscape read first) b ('u' :: (low ++ rest)) := read?_silent hslash b _
      _ = Json.read? (.unit read (some first) 4 0) b (low ++ rest) := read?_silent hmark b _
      _ = Json.read? (.string (c :: read)) b rest := hlow.read? hsecond b rest

theorem CharsSpell.read? {s inside : Text} (h : CharsSpell s inside) (read : Text) (b : Builder)
    (rest : Text) :
    read? (.string read) b (inside ++ rest) = Json.read? (.string (s.reverse ++ read)) b rest := by
  induction h generalizing read with
  | nil => rfl
  | @cons c s spelling later hc hs ih =>
    calc
      Json.read? (.string read) b (spelling ++ later ++ rest)
          = Json.read? (.string read) b (spelling ++ (later ++ rest)) := by
            rw [List.append_assoc]
      _ = Json.read? (.string (c :: read)) b (later ++ rest) := hc.read? read b _
      _ = Json.read? (.string (s.reverse ++ c :: read)) b rest := ih (c :: read)
      _ = Json.read? (.string ((c :: s).reverse ++ read)) b rest := by
            simp only [List.reverse_cons, List.append_assoc, List.singleton_append]

/-- Every way to write a string gives the token of that string. -/
theorem StringSpells.read? {s t : Text} (h : StringSpells s t) (b : Builder) (rest : Text) :
    read? .between b (t ++ rest) =
      (b.step? (.string s)).bind fun b' => Json.read? .between b' rest := by
  cases h with
  | @quoted inside h =>
    have hopen : Scanner.between.step? '"' = some ([], .string []) := rfl
    have hclose : (Scanner.string s.reverse).step? '"' = some ([.string s], .between) := by
      simp [Scanner.step?]
    calc
      Json.read? .between b ('"' :: inside ++ ['"'] ++ rest)
          = Json.read? .between b ('"' :: (inside ++ '"' :: rest)) := by
            simp only [List.cons_append, List.append_assoc, List.nil_append]
      _ = Json.read? (.string []) b (inside ++ '"' :: rest) := read?_silent hopen b _
      _ = Json.read? (.string (s.reverse ++ [])) b ('"' :: rest) := h.read? [] b _
      _ = Json.read? (.string s.reverse) b ('"' :: rest) := by rw [List.append_nil]
      _ = (b.step? (.string s)).bind fun b' => Json.read? .between b' rest :=
            read?_token hclose b rest

end

/-! ## Numbers -/

/-- Nothing that could go on with a number stands in front. -/
def Ends (t : Text) : Prop :=
  ∀ c, t.head? = some c → c.isDigit = false ∧ c ≠ '.' ∧ c ≠ 'e' ∧ c ≠ 'E'

section
variable {n : Numeral} {b : Builder} {place : NumeralPlace}

theorem eq_of_isDigit {c : Char} (h : c.isDigit = true) :
    c = '0' ∨ c = '1' ∨ c = '2' ∨ c = '3' ∨ c = '4' ∨ c = '5' ∨ c = '6' ∨ c = '7' ∨ c = '8' ∨
      c = '9' := by
  have hbounds : 48 ≤ c.toNat ∧ c.toNat ≤ 57 := by
    simpa [Char.isDigit, UInt32.le_iff_toNat_le] using h
  have hnumber : c.toNat = 48 ∨ c.toNat = 49 ∨ c.toNat = 50 ∨ c.toNat = 51 ∨ c.toNat = 52 ∨
      c.toNat = 53 ∨ c.toNat = 54 ∨ c.toNat = 55 ∨ c.toNat = 56 ∨ c.toNat = 57 := by
    omega
  simp only [← Char.toNat_inj]
  exact hnumber

theorem step?_number {n' : Numeral} {place' : NumeralPlace} {c : Char}
    (h : n.extend? place c = some (n', place')) :
    (Scanner.number n place).step? c = some ([], .number n' place') := by
  simp [Scanner.step?, h]

/-- Digits go to the part of the number where the scanner stands. -/
theorem read?_digits {add : Numeral → Char → Numeral}
    (hadd : ∀ n c, c.isDigit = true → Numeral.extend? n place c = some (add n c, place))
    {digits : Text} (h : ∀ c ∈ digits, c.isDigit = true) (n : Numeral) (b : Builder) (rest : Text) :
    read? (.number n place) b (digits ++ rest) =
      read? (.number (digits.foldl add n) place) b rest := by
  induction digits generalizing n with
  | nil => rfl
  | cons c digits ih =>
    have hc : n.extend? place c = some (add n c, place) := hadd n c (h c List.mem_cons_self)
    calc
      read? (.number n place) b (c :: digits ++ rest)
          = read? (.number (add n c) place) b (digits ++ rest) :=
            read?_silent (step?_number hc) b _
      _ = read? (.number ((c :: digits).foldl add n) place) b rest :=
            ih (fun d hd => h d (List.mem_cons_of_mem c hd)) (add n c)

theorem foldl_addWhole (digits : Text) (n : Numeral) :
    digits.foldl Numeral.addWhole n = { n with whole := n.whole ++ digits } := by
  induction digits generalizing n with
  | nil => simp
  | cons c digits ih =>
    have hrest := ih (n.addWhole c)
    simpa [Numeral.addWhole] using hrest

theorem foldl_addFraction {places : Text} (digits : Text) (n : Numeral)
    (h : n.fraction = some places) :
    digits.foldl Numeral.addFraction n = { n with fraction := some (places ++ digits) } := by
  induction digits generalizing n places with
  | nil => simp [← h]
  | cons c digits ih =>
    have hplaces : (n.addFraction c).fraction = some (places ++ [c]) := by
      simp [Numeral.addFraction, h]
    have hrest := ih (n.addFraction c) hplaces
    simpa [Numeral.addFraction] using hrest

theorem foldl_addExponent {negative : Bool} {power : Text} (digits : Text) (n : Numeral)
    (h : n.exponent = some (negative, power)) :
    digits.foldl Numeral.addExponent n =
      { n with exponent := some (negative, power ++ digits) } := by
  induction digits generalizing n power with
  | nil => simp [← h]
  | cons c digits ih =>
    have hpower : (n.addExponent c).exponent = some (negative, power ++ [c]) := by
      simp [Numeral.addExponent, h]
    have hrest := ih (n.addExponent c) hpower
    simpa [Numeral.addExponent] using hrest

/-- The sign and the digits before the point. -/
theorem read?_whole (negative : Bool) {whole : Text} (h : Digits whole)
    (hzero : whole.head? = some '0' → whole = ['0']) :
    ∃ place, (place = .zero ∨ place = .whole) ∧ ∀ b rest,
      read? .between b ((if negative then ['-'] else []) ++ whole ++ rest) =
        read? (.number ⟨negative, whole, none, none⟩ place) b rest := by
  obtain ⟨c, digits, rfl⟩ := List.exists_cons_of_ne_nil h.nonempty
  have hc : c.isDigit = true := h.digit c List.mem_cons_self
  -- up to the first digit, which settles whether others may follow
  have hfirst : ∃ place, (place = .zero ∧ c = '0' ∨ place = .whole ∧ c ≠ '0') ∧ ∀ b rest,
      read? .between b ((if negative then ['-'] else []) ++ c :: rest) =
        read? (.number ((Numeral.opening negative).addWhole c) place) b rest := by
    by_cases hzero : c = '0'
    · subst hzero
      refine ⟨.zero, .inl ⟨rfl, rfl⟩, ?_⟩
      intro b rest
      cases negative with
      | false => rfl
      | true => rfl
    · refine ⟨.whole, .inr ⟨rfl, hzero⟩, ?_⟩
      intro b rest
      rcases eq_of_isDigit hc with rfl | rfl | rfl | rfl | rfl | rfl | rfl | rfl | rfl | rfl
      · exact absurd rfl hzero
      all_goals cases negative <;> rfl
  obtain ⟨place, hplace, hread⟩ := hfirst
  rcases hplace with ⟨rfl, rfl⟩ | ⟨rfl, hne⟩
  · have halone : digits = [] := by simpa using hzero rfl
    subst halone
    refine ⟨.zero, .inl rfl, ?_⟩
    intro b rest
    have hsame : (if negative then ['-'] else []) ++ ['0'] ++ rest =
        (if negative then ['-'] else []) ++ '0' :: rest := by
      simp only [List.append_assoc, List.singleton_append]
    rw [hsame]
    exact hread b rest
  · refine ⟨.whole, .inr rfl, ?_⟩
    intro b rest
    have hadd : ∀ n c, c.isDigit = true →
        Numeral.extend? n .whole c = some (n.addWhole c, .whole) := by
      intro n c hc
      simp [Numeral.extend?, hc]
    have hdigits : ∀ d ∈ digits, d.isDigit = true :=
      fun d hd => h.digit d (List.mem_cons_of_mem c hd)
    calc
      read? .between b ((if negative then ['-'] else []) ++ c :: digits ++ rest)
          = read? .between b ((if negative then ['-'] else []) ++ c :: (digits ++ rest)) := by
            simp only [List.append_assoc, List.cons_append]
      _ = read? (.number ((Numeral.opening negative).addWhole c) .whole) b (digits ++ rest) :=
            hread b _
      _ = read? (.number (digits.foldl Numeral.addWhole ((Numeral.opening negative).addWhole c))
            .whole) b rest := read?_digits hadd hdigits _ b rest
      _ = read? (.number ⟨negative, c :: digits, none, none⟩ .whole) b rest := by
            rw [foldl_addWhole]
            rfl

/-- The point and the places after it. -/
theorem read?_fraction (hplace : place = .zero ∨ place = .whole) {spelling : Text}
    {fraction : Option Text} (h : FractionSpells fraction spelling) (hn : n.fraction = none) :
    ∃ place', (place' = .zero ∨ place' = .whole ∨ place' = .fraction) ∧ ∀ b rest,
      read? (.number n place) b (spelling ++ rest) =
        read? (.number { n with fraction := fraction } place') b rest := by
  cases h with
  | absent =>
    refine ⟨place, ?_, ?_⟩
    · rcases hplace with rfl | rfl
      · exact .inl rfl
      · exact .inr (.inl rfl)
    · intro b rest
      rw [← hn]
      rfl
  | @present digits h =>
    obtain ⟨c, digits, rfl⟩ := List.exists_cons_of_ne_nil h.nonempty
    have hc : c.isDigit = true := h.digit c List.mem_cons_self
    -- the point, the first digit and the others: the numeral is at another place before each
    have hpoint : n.extend? place '.' = some (n, .point) := by
      rcases hplace with rfl | rfl <;> rfl
    have hfirst : n.extend? .point c = some (n.addFraction c, .fraction) := by
      simp [Numeral.extend?, hc]
    have hadd : ∀ n c, c.isDigit = true →
        Numeral.extend? n .fraction c = some (n.addFraction c, .fraction) := by
      intro n c hc
      simp [Numeral.extend?, hc]
    have hplaces : (n.addFraction c).fraction = some [c] := by simp [Numeral.addFraction, hn]
    refine ⟨.fraction, .inr (.inr rfl), ?_⟩
    intro b rest
    calc
      read? (.number n place) b ('.' :: c :: digits ++ rest)
          = read? (.number n .point) b (c :: (digits ++ rest)) :=
            read?_silent (step?_number hpoint) b _
      _ = read? (.number (n.addFraction c) .fraction) b (digits ++ rest) :=
            read?_silent (step?_number hfirst) b _
      _ = read? (.number (digits.foldl Numeral.addFraction (n.addFraction c)) .fraction) b rest :=
            read?_digits hadd (fun d hd => h.digit d (List.mem_cons_of_mem c hd)) _ b rest
      _ = read? (.number { n with fraction := some (c :: digits) } .fraction) b rest := by
            rw [foldl_addFraction digits _ hplaces]
            rfl

/-- The mark of the exponent, its sign and its digits. -/
theorem read?_exponent (hplace : place = .zero ∨ place = .whole ∨ place = .fraction)
    {spelling : Text} {exponent : Option (Bool × Text)} (h : ExponentSpells exponent spelling)
    (hn : n.exponent = none) :
    ∃ place', Numeral.complete place' = true ∧ ∀ b rest,
      read? (.number n place) b (spelling ++ rest) =
        read? (.number { n with exponent := exponent } place') b rest := by
  cases h with
  | absent =>
    refine ⟨place, ?_, ?_⟩
    · rcases hplace with rfl | rfl | rfl <;> rfl
    · intro b rest
      rw [← hn]
      rfl
  | @present mark negative sign digits hmark hsign h =>
    obtain ⟨c, digits, rfl⟩ := List.exists_cons_of_ne_nil h.nonempty
    have hc : c.isDigit = true := h.digit c List.mem_cons_self
    let started : Numeral := { n with exponent := some (negative, []) }
    have hmarked : n.extend? place mark =
        some ({ n with exponent := some (false, []) }, .mark) := by
      rcases hplace with rfl | rfl | rfl <;> rcases hmark with rfl | rfl <;> rfl
    -- up to the first digit of the exponent
    have hfirst : ∀ b rest,
        read? (.number { n with exponent := some (false, []) } .mark) b (sign ++ c :: rest) =
          read? (.number (started.addExponent c) .exponent) b rest := by
      intro b rest
      have hsigned : started.extend? .sign c = some (started.addExponent c, .exponent) := by
        simp [Numeral.extend?, hc]
      cases hsign with
      | absent =>
        have hplain : started.extend? .mark c = some (started.addExponent c, .exponent) := by
          have hplus : c ≠ '+' := by
            rintro rfl
            exact absurd hc (by decide)
          have hminus : c ≠ '-' := by
            rintro rfl
            exact absurd hc (by decide)
          simp [Numeral.extend?, hc, hplus, hminus]
        exact read?_silent (step?_number hplain) b rest
      | plus => exact (read?_silent rfl b _).trans (read?_silent (step?_number hsigned) b rest)
      | minus => exact (read?_silent rfl b _).trans (read?_silent (step?_number hsigned) b rest)
    have hadd : ∀ n c, c.isDigit = true →
        Numeral.extend? n .exponent c = some (n.addExponent c, .exponent) := by
      intro n c hc
      simp [Numeral.extend?, hc]
    have hpower : (started.addExponent c).exponent = some (negative, [c]) := by
      simp [started, Numeral.addExponent]
    refine ⟨.exponent, rfl, ?_⟩
    intro b rest
    calc
      read? (.number n place) b (mark :: sign ++ c :: digits ++ rest)
          = read? (.number n place) b (mark :: (sign ++ c :: (digits ++ rest))) := by
            simp only [List.cons_append, List.append_assoc]
      _ = read? (.number { n with exponent := some (false, []) } .mark) b
            (sign ++ c :: (digits ++ rest)) := read?_silent (step?_number hmarked) b _
      _ = read? (.number (started.addExponent c) .exponent) b (digits ++ rest) := hfirst b _
      _ = read? (.number (digits.foldl Numeral.addExponent (started.addExponent c)) .exponent) b
            rest :=
            read?_digits hadd (fun d hd => h.digit d (List.mem_cons_of_mem c hd)) _ b rest
      _ = read? (.number { n with exponent := some (negative, c :: digits) } .exponent) b rest := by
            rw [foldl_addExponent digits _ hpower]
            rfl

/-- A number ends before a text that does not go on with it, unless it is too large. -/
theorem read?_number_end (hplace : Numeral.complete place = true) {rest : Text} (hend : Ends rest) :
    read? (.number n place) b rest =
      if n.tooLarge then none
      else (b.step? (.number n)).bind fun b' => read? .between b' rest := by
  -- only the character after a number shows that it is over, and that character is taken anew
  have hscan : (Scanner.number n place).scan? rest =
      if n.tooLarge then none else (Scanner.between.scan? rest).map (.number n :: ·) := by
    cases rest with
    | nil =>
      cases hlarge : n.tooLarge <;>
        simp [Scanner.scan?, Scanner.finish?, Scanner.numberToken?, hplace, hlarge]
    | cons c r =>
      obtain ⟨hdigit, hpoint, hsmall, hcapital⟩ := hend c rfl
      have hstop : n.extend? place c = none := by
        cases place <;>
          simp_all [Numeral.extend?, Numeral.leaveDigits, Numeral.complete]
      have hbetween : Scanner.between.step? c = Scanner.start? c := rfl
      simp only [Scanner.scan?_cons, hbetween]
      cases hlarge : n.tooLarge <;> rcases hstart : Scanner.start? c with _ | ⟨tokens, next⟩ <;>
        simp [Scanner.step?, hstop, Scanner.numberToken?, hplace, hlarge, hstart,
          Function.comp_def]
  cases hlarge : n.tooLarge with
  | true => simp [read?, hscan, hlarge]
  | false =>
    simp only [read?, hscan, hlarge, Bool.false_eq_true, if_false, Builder.bind_build?_cons]

/-- Every way to write a number gives the token of that number, unless it is too large. -/
theorem NumeralSpells.read? {t : Text} (h : NumeralSpells n t) (b : Builder) {rest : Text}
    (hend : Ends rest) :
    read? .between b (t ++ rest) =
      if n.tooLarge then none
      else (b.step? (.number n)).bind fun b' => Json.read? .between b' rest := by
  cases h with
  | @parts fraction exponent hwhole hzero hfraction hexponent =>
    obtain ⟨place, hplace, hread⟩ := read?_whole n.negative hwhole hzero
    obtain ⟨place', hplace', hread'⟩ :=
      read?_fraction (n := ⟨n.negative, n.whole, none, none⟩) hplace hfraction rfl
    obtain ⟨place'', hcomplete, hread''⟩ :=
      read?_exponent (n := ⟨n.negative, n.whole, n.fraction, none⟩) hplace' hexponent rfl
    calc
      Json.read? .between b
            ((if n.negative then ['-'] else []) ++ n.whole ++ fraction ++ exponent ++ rest)
          = Json.read? .between b
              ((if n.negative then ['-'] else []) ++ n.whole ++
                (fraction ++ (exponent ++ rest))) := by
            simp only [List.append_assoc]
      _ = Json.read? (.number ⟨n.negative, n.whole, none, none⟩ place) b
            (fraction ++ (exponent ++ rest)) := hread b _
      _ = Json.read? (.number ⟨n.negative, n.whole, n.fraction, none⟩ place') b
            (exponent ++ rest) := hread' b _
      _ = Json.read? (.number n place'') b rest := hread'' b rest
      _ = _ := read?_number_end hcomplete hend

end

end Json
end ContractAssist
