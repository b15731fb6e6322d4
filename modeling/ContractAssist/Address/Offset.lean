import ContractAssist.Address
import ContractAssist.Text.Pattern
import ContractAssist.Text.Slice

/-!
# Address.Offset — looking for an address by byte offsets

An address is looked for as a match of a pattern, whose only group are the digits.  What is given is
cut out of the text, from two bytes in front of the digits up to their end.

* `Address.pattern` is the pattern;
* `Address.findBy?` and `Address.findDelimitedBy?` look for it with any searcher; they fail if the
  text cannot be cut there.
-/

namespace ContractAssist
namespace Address

open Text (Extent Pattern Searcher)

/-- The prefix, forty digits, and behind them another character or the end of the text. -/
def pattern : Pattern :=
  .seq (.one (· = '0')) <| .seq (.one (· = 'x')) <|
    .seq (.group 1 (.times digitCount (.one isHexDigit))) <|
      .either (.one fun c => !isHexDigit c) .atEnd

/-- The digits, and the two bytes in front of them. -/
def cut? (digits : Extent) (t : Text) : Option Text :=
  if 2 ≤ digits.start then Text.slice? (digits.start - 2) digits.stop t else none

def findBy? (search : Searcher) (t : Text) : Option (Option Text) :=
  match search pattern t with
  | none => some none
  | some m =>
    match m.group? 1 with
    | none => some none
    | some digits => (cut? digits t).map some

/-- The first address, unless the match ends with its digits. -/
def findDelimitedBy? (search : Searcher) (t : Text) : Option (Option Text) :=
  match search pattern t with
  | none => some none
  | some m =>
    match m.group? 0, m.group? 1 with
    | some whole, some digits =>
      if whole.stop = digits.stop then some none else (cut? digits t).map some
    | _, _ => some none

end Address
end ContractAssist
