import Mathlib.Tactic.SplitIfs
import ContractAssist.Proofs.Json.Numeral
import ContractAssist.Proofs.Json.Value

/-!
# Printer — what is printed is a text of the value

The grammar allows many texts of a value, and the printer writes one of them.  A value is printed in
the same way wherever it stands, so that arrays and objects are put together from what they hold.

1. `charSpells_escape` and `stringSpells_quote` for strings, whatever their characters;
2. `Value.Printable` says that a value is printed as one of its texts at every depth, and the lemmas
   after it that strings, natural numbers, arrays and objects are;
3. `Value.Printable.parse?_pretty`: the reader gives back what was printed.
-/

namespace ContractAssist
namespace Json

/-! ## Strings -/

/-- A control character has two digits, and two zeros in front of them. -/
theorem codeUnit_control {n : Nat} (h : n < 0x20) :
    CodeUnit n ['0', '0', Printer.hexDigit (n / 16), Printer.hexDigit (n % 16)] := by
  have hzero : HexDigit 0 '0' := by decide
  have hhigh : HexDigit (n / 16) (Printer.hexDigit (n / 16)) := ⟨by omega, .inl rfl⟩
  have hlow : HexDigit (n % 16) (Printer.hexDigit (n % 16)) := ⟨by omega, .inl rfl⟩
  have hvalue : 0 * 4096 + 0 * 256 + n / 16 * 16 + n % 16 = n := by omega
  have hdigits := CodeUnit.digits hzero hzero hhigh hlow
  rwa [hvalue] at hdigits

/-- Each character is written in a way that is allowed for it. -/
theorem charSpells_escape (c : Char) : CharSpells c (Printer.escape c) := by
  unfold Printer.escape
  split_ifs with h h h h h h h hcontrol
  iterate 7 exact .short (by rw [h]; decide)
  · have hone : c.toNat < 0x10000 := by omega
    exact .unit hone (codeUnit_control hcontrol)
  · refine .plain (by omega) ?_ ?_
    · assumption
    · assumption

theorem stringSpells_quote (t : Text) : StringSpells t (Printer.quote t) := by
  refine .quoted ?_
  induction t with
  | nil => exact .nil
  | cons c t ih => exact .cons (charSpells_escape c) ih

/-! ## Values -/

/-- The value is printed as one of its texts, at every depth. -/
def Value.Printable (v : Value) : Prop :=
  ∀ depth, Spells (.value v) (Printer.value depth v)

theorem spaces_nil : Spaces [] := nofun

/-- What stands in front of a line is white space. -/
theorem spaces_newLine (depth : Nat) : Spaces (Printer.newLine depth) := by
  intro c hc
  rcases List.mem_cons.1 hc with rfl | hc
  · exact .inr (.inr (.inl rfl))
  · exact .inl (List.eq_of_mem_replicate hc)

theorem printable_string (t : Text) : (Value.string t).Printable :=
  fun _ => .string (stringSpells_quote t)

theorem printable_ofNat (n : Nat) : (Value.ofNat n).Printable := by
  intro depth
  have hprinted : Printer.numeral (.ofNat n) = Text.ofNat n := by
    simp [Printer.numeral, Numeral.ofNat]
  have hspells := Spells.number (numeralSpells_ofNat n)
  rwa [← hprinted] at hspells

/-- Elements are printed one to a line, and the closing of the array on the next line. -/
theorem spells_elements {v : Value} {r : List Value} (h : ∀ w ∈ v :: r, w.Printable) (depth : Nat)
    {closing : Text} (hclosing : Spaces closing) :
    Spells (.elements (v :: r)) (Printer.newLine depth ++
      (Printer.value depth v ++ (Printer.elements depth r ++ closing))) := by
  have hv : v.Printable := h v List.mem_cons_self
  induction r generalizing v with
  | nil => exact .element (spaces_newLine depth) (hv depth) hclosing
  | cons w r ih =>
    have hrest : ∀ x ∈ w :: r, x.Printable := fun x hx => h x (List.mem_cons_of_mem v hx)
    have hlater := ih hrest (hrest w List.mem_cons_self)
    have hall := Spells.elements (spaces_newLine depth) (hv depth) spaces_nil hlater
    simpa [Printer.elements] using hall

theorem printable_array {vs : List Value} (h : ∀ v ∈ vs, v.Printable) :
    (Value.array vs).Printable := by
  intro depth
  cases vs with
  | nil => exact .emptyArray spaces_nil
  | cons v r =>
    have hall := Spells.array (spells_elements h (depth + 1) (spaces_newLine depth))
    simpa [Printer.value] using hall

/-- Members are printed one to a line, with a blank between the colon and the value. -/
theorem spells_members {k : Text} {v : Value} {r : List (Text × Value)}
    (h : ∀ m ∈ (k, v) :: r, m.2.Printable) (depth : Nat) {closing : Text}
    (hclosing : Spaces closing) :
    Spells (.members ((k, v) :: r)) (Printer.newLine depth ++ (Printer.quote k ++
      (':' :: ' ' :: (Printer.value depth v ++ (Printer.members depth r ++ closing))))) := by
  have hv : v.Printable := h (k, v) List.mem_cons_self
  have hblank : Spaces [' '] := by simp [Spaces]
  induction r generalizing k v with
  | nil =>
    exact .member (spaces_newLine depth) (stringSpells_quote k) spaces_nil hblank (hv depth)
      hclosing
  | cons m r ih =>
    have hrest : ∀ x ∈ m :: r, x.2.Printable := fun x hx => h x (List.mem_cons_of_mem (k, v) hx)
    have hlater := ih hrest (hrest m List.mem_cons_self)
    have hall := Spells.members (spaces_newLine depth) (stringSpells_quote k) spaces_nil hblank
      (hv depth) spaces_nil hlater
    simpa [Printer.members] using hall

theorem printable_object {ms : List (Text × Value)} (h : ∀ m ∈ ms, m.2.Printable) :
    (Value.object ms).Printable := by
  intro depth
  cases ms with
  | nil => exact .emptyObject spaces_nil
  | cons m r =>
    have hall := Spells.object (spells_members h (depth + 1) (spaces_newLine depth))
    simpa [Printer.value] using hall

/-- The reader gives back what was printed. -/
theorem Value.Printable.parse?_pretty {v : Value} (h : v.Printable) (hfits : v.fits 0 = true) :
    Value.parse? v.pretty = some v := by
  have hparse := (h 0).parse?_eq
  rwa [if_pos hfits] at hparse

end Json
end ContractAssist
