import ContractAssist.Text.Basic

/-!
# YesNo — reading an answer to a yes-or-no question

`YesNo.read?` understands one line of input.
-/

namespace ContractAssist
namespace YesNo

def lower (t : Text) : Text :=
  t.map Char.toLower

/--
The answer that a line gives: `y`, `yes` or nothing at all for yes, `n` or `no` for no, whatever the
case and the blanks around.
-/
def read? (line : Text) : Option Bool :=
  let word := lower (Text.trim line)
  if word = [] ∨ word = ("y" : Text) ∨ word = ("yes" : Text) then some true
  else if word = ("n" : Text) ∨ word = ("no" : Text) then some false
  else none

end YesNo
end ContractAssist
