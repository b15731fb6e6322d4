import ContractAssist.Text.Utf8

/-!
# Validity — how far bytes are UTF-8

Bytes are checked from the front, character by character, up to the first place where none can be
read.  What stands there is either an unfinished sequence, which more bytes may complete, or it
cannot be decoded whatever follows.

* `Verdict` is what such a check finds;
* `validate` does it.
-/

namespace ContractAssist
namespace Utf8

inductive Verdict where
  | valid
  -- they are characters up to `validUpTo`. The bytes behind that are an unfinished sequence, or
  -- there is a length of those that cannot be decoded
  | invalid (validUpTo : Nat) (errorLength : Option Nat)
  deriving DecidableEq, Repr

/-- Goes on with a check: `upTo` bytes are characters, and `begun` more are in mind. -/
def Carry.validate (carry : Carry) (upTo begun : Nat) : Bytes → Verdict
  | [] =>
    match carry with
    | none => .valid
    | some _ => .invalid upTo none
  | b :: r =>
    match carry.step b with
    | (some q, []) => Carry.validate (some q) upTo (begun + 1) r
    | (none, [some _]) => Carry.validate none (upTo + begun + 1) 0 r
    | _ => .invalid upTo (some (max begun 1))

def validate (bytes : Bytes) : Verdict :=
  Carry.validate none 0 0 bytes

end Utf8
end ContractAssist
