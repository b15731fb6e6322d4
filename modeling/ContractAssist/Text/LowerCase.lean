import ContractAssist.Text.Basic

/-!
# LowerCase — lower-casing as far as ASCII phrases can see it

Phrases such as `password` are looked for in the lower-case form of a line. Of all characters only
the capital letters `A` to `Z`, the capital I with a dot above and the Kelvin sign have a
lower-case form in which an ASCII character occurs. All other characters keep to themselves here:
their lower-case forms, however many characters these have, cannot be part of an ASCII phrase, and
neither can the characters themselves.

* `foldedChar` is the form of one character;
* `Text.folded` is the form of a text, one character after another.
-/

namespace ContractAssist

/-- The lower-case form of a character, exact in its ASCII characters. -/
def foldedChar (c : Char) : Text :=
  if c = '\u0130' then ['i', '\u0307']
  else if c = '\u212A' then ['k']
  else [c.toLower]

namespace Text

def folded (t : Text) : Text :=
  t.flatMap foldedChar

end Text

end ContractAssist
