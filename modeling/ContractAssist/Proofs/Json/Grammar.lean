import ContractAssist.Json.Value

/-!
# Grammar — the texts of a JSON value

A value has many texts: white space may stand between any two tokens, and most characters of a
string can be written in more than one way.  The grammar says which texts there are, without a
scanner and without a stack.

1. `CharSpells` are the ways to write a character inside a string: as it is, by a short escape, by a
   code unit, or by a surrogate pair;
2. `NumeralSpells` are the ways to write a number whose parts are given;
3. `Spells` are the ways to write a value, the elements of an array, or the members of an object.
-/

namespace ContractAssist
namespace Json

/-! ## White space -/

def Spaces (t : Text) : Prop :=
  ∀ c ∈ t, c = ' ' ∨ c = '\t' ∨ c = '\n' ∨ c = '\r'

/-! ## Strings -/

structure HexDigit (d : Nat) (c : Char) : Prop where
  bound : d < 16
  -- its letter may be small or capital
  letter : c = Nat.digitChar d ∨ c = (Nat.digitChar d).toUpper

instance (d : Nat) (c : Char) : Decidable (HexDigit d c) :=
  decidable_of_iff (d < 16 ∧ (c = Nat.digitChar d ∨ c = (Nat.digitChar d).toUpper))
    ⟨fun h => ⟨h.1, h.2⟩, fun h => ⟨h.bound, h.letter⟩⟩

inductive CodeUnit : Nat → Text → Prop where
  -- the first digit counts most
  | digits {n₁ n₂ n₃ n₄ c₁ c₂ c₃ c₄} (h₁ : HexDigit n₁ c₁) (h₂ : HexDigit n₂ c₂)
      (h₃ : HexDigit n₃ c₃) (h₄ : HexDigit n₄ c₄) :
      CodeUnit (n₁ * 4096 + n₂ * 256 + n₃ * 16 + n₄) [c₁, c₂, c₃, c₄]

/-- The short escapes: the letter after the backslash, and the character that is meant. -/
def shortEscapes : List (Char × Char) :=
  [('"', '"'), ('\\', '\\'), ('/', '/'), ('b', '\x08'), ('f', '\x0c'), ('n', '\n'), ('r', '\r'),
    ('t', '\t')]

inductive CharSpells (c : Char) : Text → Prop where
  -- as it is, unless it is a control character, a quotation mark or a backslash
  | plain (hcontrol : 0x20 ≤ c.toNat) (hquote : c ≠ '"') (hescape : c ≠ '\\') : CharSpells c [c]
  | short {letter} (h : (letter, c) ∈ shortEscapes) : CharSpells c ['\\', letter]
  -- by its code unit, if it has but one
  | unit {digits} (hc : c.toNat < 0x10000) (h : CodeUnit c.toNat digits) :
      CharSpells c ('\\' :: 'u' :: digits)
  -- by its surrogate pair, if it has one
  | pair {high low} (hc : 0x10000 ≤ c.toNat)
      (hhigh : CodeUnit (0xD800 + (c.toNat - 0x10000) / 0x400) high)
      (hlow : CodeUnit (0xDC00 + (c.toNat - 0x10000) % 0x400) low) :
      CharSpells c ('\\' :: 'u' :: high ++ '\\' :: 'u' :: low)

inductive CharsSpell : Text → Text → Prop where
  | nil : CharsSpell [] []
  | cons {c s spelling rest} (hc : CharSpells c spelling) (hs : CharsSpell s rest) :
      CharsSpell (c :: s) (spelling ++ rest)

inductive StringSpells (s : Text) : Text → Prop where
  | quoted {inside} (h : CharsSpell s inside) : StringSpells s ('"' :: inside ++ ['"'])

def isPlain (c : Char) : Bool :=
  0x20 ≤ c.toNat && c ≠ '"' && c ≠ '\\'

/-- Characters that need no escape may be written as they are. -/
theorem StringSpells.plain {t : Text} (h : t.all isPlain = true) :
    StringSpells t ('"' :: t ++ ['"']) := by
  refine .quoted ?_
  induction t with
  | nil => exact .nil
  | cons c t ih =>
    obtain ⟨hc, ht⟩ : isPlain c = true ∧ t.all isPlain = true := by simpa using h
    obtain ⟨⟨hcontrol, hquote⟩, hescape⟩ : (0x20 ≤ c.toNat ∧ c ≠ '"') ∧ c ≠ '\\' := by
      simpa [isPlain] using hc
    exact .cons (.plain hcontrol hquote hescape) (ih ht)

/-! ## Numbers -/

structure Digits (t : Text) : Prop where
  nonempty : t ≠ []
  digit : ∀ c ∈ t, c.isDigit = true

inductive FractionSpells : Option Text → Text → Prop where
  | absent : FractionSpells none []
  | present {digits} (h : Digits digits) : FractionSpells (some digits) ('.' :: digits)

/-- The sign of an exponent; without one, the exponent is not negative. -/
inductive SignSpells : Bool → Text → Prop where
  | absent : SignSpells false []
  | plus : SignSpells false ['+']
  | minus : SignSpells true ['-']

inductive ExponentSpells : Option (Bool × Text) → Text → Prop where
  | absent : ExponentSpells none []
  | present {mark negative sign digits} (hmark : mark = 'e' ∨ mark = 'E')
      (hsign : SignSpells negative sign) (h : Digits digits) :
      ExponentSpells (some (negative, digits)) (mark :: sign ++ digits)

/-- The ways to write a number; the digits before the point begin with zero only if that is all. -/
inductive NumeralSpells (n : Numeral) : Text → Prop where
  | parts {fraction exponent} (hwhole : Digits n.whole)
      (hzero : n.whole.head? = some '0' → n.whole = ['0'])
      (hfraction : FractionSpells n.fraction fraction)
      (hexponent : ExponentSpells n.exponent exponent) :
      NumeralSpells n ((if n.negative then ['-'] else []) ++ n.whole ++ fraction ++ exponent)

/-! ## Values -/

inductive Phrase where
  | value (v : Value)
  | elements (vs : List Value)
  | members (ms : List (Text × Value))

inductive Spells : Phrase → Text → Prop where
  | null : Spells (.value .null) ['n', 'u', 'l', 'l']
  | truth : Spells (.value (.bool true)) ['t', 'r', 'u', 'e']
  | falsehood : Spells (.value (.bool false)) ['f', 'a', 'l', 's', 'e']
  | number {n t} (h : NumeralSpells n t) : Spells (.value (.number n)) t
  | string {s t} (h : StringSpells s t) : Spells (.value (.string s)) t
  | emptyArray {t} (h : Spaces t) : Spells (.value (.array [])) ('[' :: t ++ [']'])
  | array {vs t} (h : Spells (.elements vs) t) : Spells (.value (.array vs)) ('[' :: t ++ [']'])
  | emptyObject {t} (h : Spaces t) : Spells (.value (.object [])) ('\x7b' :: t ++ ['\x7d'])
  | object {ms t} (h : Spells (.members ms) t) :
      Spells (.value (.object ms)) ('\x7b' :: t ++ ['\x7d'])
  | element {v t before after} (hbefore : Spaces before) (h : Spells (.value v) t)
      (hafter : Spaces after) : Spells (.elements [v]) (before ++ (t ++ after))
  | elements {v vs t before after rest} (hbefore : Spaces before) (h : Spells (.value v) t)
      (hafter : Spaces after) (hrest : Spells (.elements vs) rest) :
      Spells (.elements (v :: vs)) (before ++ (t ++ (after ++ ',' :: rest)))
  | member {k v key t before between front after} (hbefore : Spaces before)
      (hkey : StringSpells k key) (hbetween : Spaces between) (hfront : Spaces front)
      (h : Spells (.value v) t) (hafter : Spaces after) :
      Spells (.members [(k, v)]) (before ++ (key ++ (between ++ ':' :: (front ++ (t ++ after)))))
  | members {k v ms key t before between front after rest} (hbefore : Spaces before)
      (hkey : StringSpells k key) (hbetween : Spaces between) (hfront : Spaces front)
      (h : Spells (.value v) t) (hafter : Spaces after) (hrest : Spells (.members ms) rest) :
      Spells (.members ((k, v) :: ms))
        (before ++ (key ++ (between ++ ':' :: (front ++ (t ++ (after ++ ',' :: rest))))))

end Json
end ContractAssist
