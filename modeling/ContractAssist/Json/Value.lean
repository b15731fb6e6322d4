import ContractAssist.Json.Token

/-!
# Value — JSON values and how they are read

* `Value` is a JSON value; an object keeps its members in the order of writing, repeated keys
  included;
* `Builder` puts tokens together, with the open arrays and objects on a stack;
* `Value.parse?` reads a whole text, which must hold one value and nothing else.
-/

namespace ContractAssist
namespace Json

inductive Value where
  | null
  | bool (value : Bool)
  | number (numeral : Numeral)
  | string (value : Text)
  | array (elements : List Value)
  | object (members : List (Text × Value))
  deriving Repr, Inhabited

/-- An array or object that is still open; what it holds so far is kept last first. -/
inductive Frame where
  | array (done : List Value)
  -- an open object, with the key whose value is being read
  | object (done : List (Text × Value)) (key : Text)
  deriving Repr, Inhabited

inductive Expecting where
  -- a value; right after the opening of an array, its closing will do too
  | value (closable : Bool)
  -- a key; right after the opening of an object, its closing will do too
  | key (done : List (Text × Value)) (closable : Bool)
  | colon (done : List (Text × Value)) (key : Text)
  | more (last : Value)
  deriving Repr, Inhabited

/-- Values that are being put together. -/
structure Builder where
  -- the open arrays and objects, innermost first
  stack : List Frame
  expecting : Expecting
  deriving Repr, Inhabited

namespace Builder

/-- So many arrays and objects must not be open at once. -/
def depthLimit : Nat := 128

def empty : Builder := ⟨[], .value false⟩

/-- How deep a token nests: an open object whose key is still wanted has no frame yet. -/
def depth (b : Builder) : Nat :=
  match b.expecting with
  | .key _ _ | .colon _ _ => b.stack.length + 1
  | _ => b.stack.length

/-- The value that a token makes all by itself. -/
def scalar? : Token → Option Value
  | .null => some .null
  | .bool v => some (.bool v)
  | .number n => some (.number n)
  | .string t => some (.string t)
  | _ => none

/-- Opens an array or an object where a value is wanted. -/
def open? (b : Builder) : Token → Option Builder
  | .openArray =>
    if b.depth + 1 < depthLimit then some ⟨.array [] :: b.stack, .value true⟩ else none
  | .openObject => if b.depth + 1 < depthLimit then some ⟨b.stack, .key [] true⟩ else none
  | _ => none

def step? (b : Builder) (token : Token) : Option Builder :=
  match b.expecting with
  | .value closable =>
    match scalar? token with
    | some v => some ⟨b.stack, .more v⟩
    | none =>
      match token, closable, b.stack with
      | .closeArray, true, .array _ :: stack => some ⟨stack, .more (.array [])⟩
      | _, _, _ => b.open? token
  | .key done closable =>
    match token with
    | .string key => some ⟨b.stack, .colon done key⟩
    | .closeObject => if closable then some ⟨b.stack, .more (.object [])⟩ else none
    | _ => none
  | .colon done key =>
    match token with
    | .colon => some ⟨.object done key :: b.stack, .value false⟩
    | _ => none
  | .more v =>
    match token, b.stack with
    | .comma, .array done :: stack => some ⟨.array (v :: done) :: stack, .value false⟩
    | .comma, .object done key :: stack => some ⟨stack, .key ((key, v) :: done) false⟩
    | .closeArray, .array done :: stack => some ⟨stack, .more (.array (v :: done).reverse)⟩
    | .closeObject, .object done key :: stack =>
      some ⟨stack, .more (.object ((key, v) :: done).reverse)⟩
    | _, _ => none

/-- The value, if exactly one has been put together. -/
def finish? (b : Builder) : Option Value :=
  match b.stack, b.expecting with
  | [], .more v => some v
  | _, _ => none

def build? (b : Builder) : List Token → Option Value
  | [] => b.finish?
  | token :: r =>
    match b.step? token with
    | none => none
    | some next => next.build? r

end Builder

/-- Reads a text that holds exactly one value. -/
def Value.parse? (t : Text) : Option Value :=
  (Token.scan? t).bind Builder.empty.build?

end Json
end ContractAssist
