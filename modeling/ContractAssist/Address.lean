import ContractAssist.Text.Basic

/-!
# Address — the contract address in a text

An address is `0x` and forty digits of base sixteen, and what follows is not another such digit:
the digits of a longer number, such as a transaction hash, are no address.

* `Address.startsAddress` says whether one stands at the very front of a text;
* `Address.find?` gives the leftmost one;
* `Address.findDelimited?` gives it only if a character follows, so that more text cannot change
  the answer.
-/

namespace ContractAssist
namespace Address

def digitCount : Nat := 40

def isHexDigit (c : Char) : Bool :=
  ('0' ≤ c && c ≤ '9') || ('a' ≤ c && c ≤ 'f') || ('A' ≤ c && c ≤ 'F')

/-- The text begins with exactly `n` digits of base sixteen. -/
def exactDigits : Nat → Text → Bool
  | 0, [] => true
  -- one digit more makes it something else, such as the hash of a transaction
  | 0, c :: _ => !isHexDigit c
  | _ + 1, [] => false
  | n + 1, c :: r => isHexDigit c && exactDigits n r

def startsAddress : Text → Bool
  | '0' :: 'x' :: r => exactDigits digitCount r
  | _ => false

def size : Nat := digitCount + 2

/-- The text from its leftmost address on. -/
def seek : Text → Option Text
  | [] => none
  | c :: r => if startsAddress (c :: r) then some (c :: r) else seek r

def find? (t : Text) : Option Text :=
  (seek t).map fun found => found.take size

/-- The leftmost address, if it is not the end of the text. -/
def findDelimited? (t : Text) : Option Text :=
  match seek t with
  | none => none
  -- what follows an address at the end may still turn out to be one more digit
  | some found => if (found.drop size).isEmpty then none else some (found.take size)

end Address
end ContractAssist
