import ContractAssist.Text.Basic

/-!
# Style — coloured text

* `Style` is a colour, with or without bold characters;
* `Palette` says whether styles are used at all, and whether their colours are left out;
* `Palette.paint` writes a text in a style.
-/

namespace ContractAssist

inductive Color where
  | red
  | green
  | yellow
  | cyan
  | white
  | darkGrey
  deriving DecidableEq, Repr, Inhabited

def Color.code : Color → Nat
  | red => 9
  | green => 10
  | yellow => 11
  | cyan => 14
  | white => 15
  | darkGrey => 8

structure Style where
  color : Color
  bold : Bool
  deriving DecidableEq, Repr, Inhabited

structure Palette where
  enabled : Bool
  colorless : Bool
  deriving DecidableEq, Repr, Inhabited

namespace Palette

def sequence (parameters : Text) : Text :=
  '\x1b' :: '[' :: parameters ++ "m"

def colorStart (p : Palette) (c : Color) : Text :=
  sequence (if p.colorless then [] else ("38;5;" : Text) ++ Text.ofNat c.code)

def colorEnd (p : Palette) : Text :=
  sequence (if p.colorless then [] else "39")

/-- A text in a style. What ends bold characters ends their colour too. -/
def paint (p : Palette) (style : Style) (t : Text) : Text :=
  if !p.enabled then t
  else if style.bold then
    p.colorStart style.color ++ sequence "1" ++ t ++ sequence "0"
  else p.colorStart style.color ++ t ++ p.colorEnd

end Palette
end ContractAssist
