import ContractAssist.Text.Basic

/-!
# Value — TOML values, and tables under construction

A TOML document names the members of its tables in any order and from several places, within
limits: what a header opened is not opened again, and what dotted keys made is not opened by a
header. While a document is read, its tables therefore remember where they come from.

* `Value` is a finished value;
* `Item` is a member of a table under construction, and `Item.toValue` finishes it;
* `Members.insert?` adds a member, `Members.openTable?` and `Members.openElement?` read headers.
-/

namespace ContractAssist
namespace Toml

/-- A finished value. Dates and fractional numbers carry no content: no setting wants one. -/
inductive Value where
  | string (value : Text)
  | integer (value : Int)
  | float
  | boolean (value : Bool)
  | dateTime
  | array (elements : List Value)
  | table (members : List (Text × Value))
  deriving Repr, Inhabited

inductive Origin where
  | implied
  | dotted
  | header
  deriving DecidableEq, Repr, Inhabited

inductive Item where
  | value (v : Value)
  | table (origin : Origin) (members : List (Text × Item))
  -- a list of tables, the newest first; only the newest may still grow
  | tables (elements : List (List (Text × Item)))
  deriving Repr, Inhabited

abbrev Members := List (Text × Item)

/-! ## Finishing -/

mutual

def Item.toValue : Item → Value
  | .value v => v
  | .table _ members => .table (Members.toValues members)
  | .tables elements => .array (Members.toTables elements).reverse

def Members.toValues : List (Text × Item) → List (Text × Value)
  | [] => []
  | (key, item) :: r => (key, item.toValue) :: Members.toValues r

def Members.toTables : List (List (Text × Item)) → List Value
  | [] => []
  | members :: r => .table (Members.toValues members) :: Members.toTables r

end

namespace Members

/-! ## Growing -/

def find? (members : Members) (key : Text) : Option Item :=
  (List.find? (fun m => m.1 == key) members).map Prod.snd

/-- Puts a member in the place of the one with the same name, or at the end. -/
def put (key : Text) (item : Item) : Members → Members
  | [] => [(key, item)]
  | (k, old) :: r => if k = key then (k, item) :: r else (k, old) :: put key item r

/--
Changes the table at the end of a path, and makes the tables on the way that are missing. A list of
tables stands for its newest table. Dotted keys do not lead into tables with a header.
-/
def change? (made : Origin) (f : Origin → Members → Option Members) :
    List Text → Origin → Members → Option Members
  | [], origin, members => f origin members
  | key :: path, _, members =>
    match find? members key with
    | none => (change? made f path made []).map fun inner => put key (.table made inner) members
    | some (.table origin inner) =>
      if made = .dotted ∧ origin = .header then none
      else (change? made f path origin inner).map fun new => put key (.table origin new) members
    | some (.tables (newest :: older)) =>
      (change? made f path .header newest).map fun new =>
        put key (.tables (new :: older)) members
    | some _ => none

/-- Adds a finished value under a dotted key; only tables made by dotted keys take one from afar. -/
def insert? (path : List Text) (key : Text) (v : Value) (members : Members) : Option Members :=
  change? .dotted
    (fun origin inner =>
      if decide (origin = .dotted) == path.isEmpty then none
      else if (find? inner key).isSome then none
      else some (put key (.value v) inner))
    path .header members

def openTable? (path : List Text) (key : Text) (root : Members) : Option Members :=
  change? .implied
    (fun _ members =>
      match find? members key with
      | none => some (put key (.table .header []) members)
      | some (.table .implied inner) => some (put key (.table .header inner) members)
      | some _ => none)
    path .header root

/-- Opens one more table of the list of a header. -/
def openElement? (path : List Text) (key : Text) (root : Members) : Option Members :=
  change? .implied
    (fun _ members =>
      match find? members key with
      | none => some (put key (.tables [[]]) members)
      | some (.tables elements) => some (put key (.tables ([] :: elements)) members)
      | some _ => none)
    path .header root

/-- Adds a finished value to the table that was opened last. -/
def insertAt? (opened path : List Text) (key : Text) (v : Value) (root : Members) :
    Option Members :=
  change? .implied (fun _ members => insert? path key v members) opened .header root

end Members
end Toml
end ContractAssist
