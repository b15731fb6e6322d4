import Mathlib.Data.List.Forall2
import ContractAssist.Lint.Reading
import ContractAssist.Proofs.Json.Numeral
import ContractAssist.Proofs.Json.Value

/-!
# Field — how the members of an object carry values

A structure is written as an object.  Each of its fields goes by one key or by one of several; its
member stands anywhere among the members, or is left out when the field has its default.

1. `Found` says which value the members give under some keys, and `lookUp?_eq_some_iff` that it is
   what is looked up;
2. `Holds` says that the members carry a field, and the lemmas after it that the field is read back;
3. `Holds.fits` keeps a field within the limits of the reader of JSON.
-/

namespace ContractAssist
namespace Lint

open Json (Value)

/-! ## Members -/

/-- What the members of an object give under some keys: nothing, or the value of one member. -/
inductive Found (members : List (Text × Value)) (keys : List Text) : Option Value → Prop where
  | nowhere (h : ∀ m ∈ members, m.1 ∉ keys) : Found members keys none
  -- one member has such a key, and no other one before or after it
  | once {before after key v} (hmembers : members = before ++ (key, v) :: after) (hkey : key ∈ keys)
      (hbefore : ∀ m ∈ before, m.1 ∉ keys) (hafter : ∀ m ∈ after, m.1 ∉ keys) :
      Found members keys (some v)

variable {members : List (Text × Value)} {keys : List Text} {found : Option Value}

theorem filter_contains_eq_nil (h : ∀ m ∈ members, m.1 ∉ keys) :
    (members.filter fun m => keys.contains m.1) = [] := by
  rw [List.filter_eq_nil_iff]
  intro m hm
  simpa using h m hm

theorem Found.lookUp?_eq (h : Found members keys found) : lookUp? members keys = some found := by
  cases h with
  | nowhere h => simp only [lookUp?, filter_contains_eq_nil h]
  | @once before after key v hmembers hkey hbefore hafter =>
    have hone : (members.filter fun m => keys.contains m.1) = [(key, v)] := by
      have hcontains : keys.contains key = true := by simpa using hkey
      rw [hmembers, List.filter_append, filter_contains_eq_nil hbefore, List.nil_append,
        List.filter_cons, filter_contains_eq_nil hafter]
      simp only [hcontains, if_true]
    simp only [lookUp?, hone]

/-- What is looked up is what is found, and nothing is looked up among several. -/
theorem lookUp?_eq_some_iff : lookUp? members keys = some found ↔ Found members keys found := by
  refine ⟨?_, Found.lookUp?_eq⟩
  intro h
  have hnone : ∀ {others : List (Text × Value)},
      (∀ m ∈ others, ¬ keys.contains m.1 = true) → ∀ m ∈ others, m.1 ∉ keys := by
    intro others hothers m hm hkey
    exact hothers m hm (by simpa using hkey)
  cases hfilter : members.filter fun m => keys.contains m.1 with
  | nil =>
    simp only [lookUp?, hfilter] at h
    obtain rfl := Option.some.inj h
    exact .nowhere (hnone (List.filter_eq_nil_iff.1 hfilter))
  | cons m others =>
    cases others with
    | nil =>
      simp only [lookUp?, hfilter] at h
      obtain rfl := Option.some.inj h
      obtain ⟨before, after, hmembers, hbefore, hkey, hafter⟩ := List.filter_eq_cons_iff.1 hfilter
      exact .once hmembers (by simpa using hkey) (hnone hbefore)
        (hnone (List.filter_eq_nil_iff.1 hafter))
    | cons m' others =>
      simp only [lookUp?, hfilter] at h
      cases h

/-- The value that is found is the only one under these keys. -/
theorem Found.eq_of_mem (h : Found members keys found) {m : Text × Value} (hm : m ∈ members)
    (hkey : m.1 ∈ keys) : found = some m.2 := by
  cases h with
  | nowhere h => exact absurd hkey (h m hm)
  | once hmembers _ hbefore hafter =>
    rw [hmembers, List.mem_append, List.mem_cons] at hm
    rcases hm with hm | rfl | hm
    · exact absurd hkey (hbefore m hm)
    · rfl
    · exact absurd hkey (hafter m hm)

/-! ## Fields -/

def countValue (n : UInt32) : Value :=
  .ofNat n.toNat

/-- What may be missing is written as null then. -/
def optionally {α : Type} (write : α → Value) (a : Option α) : Value :=
  a.elim .null write

/-- The members carry a field: its value is written under one of its keys, or left out. -/
def Holds {α : Type} (members : List (Text × Value)) (keys : List Text) (write : α → Value)
    (default a : α) : Prop :=
  ∃ found, Found members keys found ∧ (found = some (write a) ∨ found = none ∧ a = default)

section
variable {α : Type} {write : α → Value} {default a : α}

/-- A field is read back by whatever reads its value and knows its default. -/
theorem Holds.read {β : Type} (h : Holds members keys write default a)
    (read? : Option Value → Option β) (view : α → β)
    (hwrite : read? (some (write a)) = some (view a))
    (hdefault : read? none = some (view default)) :
    ∃ found, Found members keys found ∧ read? found = some (view a) := by
  obtain ⟨found, hfound, hvalue⟩ := h
  refine ⟨found, hfound, ?_⟩
  rcases hvalue with rfl | ⟨rfl, rfl⟩
  · exact hwrite
  · exact hdefault

/-- The value of a field is within the limits if all that is written is. -/
theorem Holds.fits {depth : Nat} (h : Holds members keys write default a)
    (hwrite : (write a).fits depth = true) {m : Text × Value} (hm : m ∈ members)
    (hkey : m.1 ∈ keys) : m.2.fits depth = true := by
  obtain ⟨found, hfound, hvalue⟩ := h
  have hsame := hfound.eq_of_mem hm hkey
  rcases hvalue with rfl | ⟨rfl, -⟩
  · have hvalue : write a = m.2 := Option.some.inj hsame
    rw [← hvalue]
    exact hwrite
  · cases hsame

end

theorem count?_countValue (n : UInt32) : count? (countValue n) = some n.toNat := by
  have hbound : n.toNat < Nat.pow 2 32 := n.toNat_lt
  simp only [count?, countValue, Value.ofNat, Json.Numeral.natural?_ofNat, Option.filter_some,
    hbound, decide_true, if_true]

theorem ofNat_fits {n : Nat} (h : n < Nat.pow 2 64) (depth : Nat) :
    (Value.ofNat n).fits depth = true := by
  simp [Value.ofNat, Value.fits, Json.Numeral.tooLarge_ofNat h]

theorem countValue_fits (n : UInt32) (depth : Nat) : (countValue n).fits depth = true :=
  ofNat_fits (Nat.lt_trans n.toNat_lt (by decide)) depth

theorem optionally_fits {α : Type} {write : α → Value} {depth : Nat}
    (hwrite : ∀ a, (write a).fits depth = true) (a : Option α) :
    (optionally write a).fits depth = true := by
  cases a with
  | none => rfl
  | some a => exact hwrite a

theorem string_fits (t : Text) (depth : Nat) : (Value.string t).fits depth = true := rfl

/-! ## Lists -/

/-- What can be done for each element is done for all of them, in order. -/
theorem mapM_eq_some_iff {α β : Type} {f : α → Option β} {as : List α} {bs : List β} :
    as.mapM f = some bs ↔ List.Forall₂ (fun a b => f a = some b) as bs := by
  constructor
  · intro h
    induction as generalizing bs with
    | nil =>
      obtain rfl : bs = [] := by simpa using h.symm
      exact .nil
    | cons a as ih =>
      rw [List.mapM_cons] at h
      obtain ⟨b, hhead, h⟩ := Option.bind_eq_some_iff.1 h
      obtain ⟨others, hothers, h⟩ := Option.bind_eq_some_iff.1 h
      obtain rfl := Option.some.inj h
      exact .cons hhead (ih hothers)
  · intro h
    induction h with
    | nil => rfl
    | cons hhead _ ih => simp [hhead, ih]

/-- What is written one by one is read one by one. -/
theorem listOf?_of_forall₂ {α β : Type} {R : α → Value → Prop} {element? : Value → Option β}
    {f : α → β} (hread : ∀ a v, R a v → element? v = some (f a)) {as : List α} {vs : List Value}
    (h : List.Forall₂ R as vs) : listOf? element? (.array vs) = some (as.map f) := by
  have hall : List.Forall₂ (fun v b => element? v = some b) vs (as.map f) := by
    rw [List.forall₂_map_right_iff]
    exact h.flip.imp fun v a hr => hread a v hr
  exact mapM_eq_some_iff.2 hall

/-- The fields of an object are what its members give under the keys of each. -/
theorem fields?_object_iff {allKeys : List (List Text)} {founds : List (Option Value)} :
    fields? allKeys (.object members) = some founds ↔
      List.Forall₂ (Found members) allKeys founds := by
  refine mapM_eq_some_iff.trans ?_
  simp only [lookUp?_eq_some_iff]

theorem elementsFit_of_forall₂ {α : Type} {R : α → Value → Prop} {depth : Nat}
    (hfits : ∀ a v, R a v → v.fits depth = true) {as : List α} {vs : List Value}
    (h : List.Forall₂ R as vs) : Json.elementsFit depth vs = true := by
  induction h with
  | nil => rfl
  | cons hhead _ ih => simp [Json.elementsFit, hfits _ _ hhead, ih]

theorem membersFit_iff {depth : Nat} :
    Json.membersFit depth members = true ↔ ∀ m ∈ members, m.2.fits depth = true := by
  induction members with
  | nil => simp [Json.membersFit]
  | cons m ms ih =>
    obtain ⟨key, v⟩ := m
    simp [Json.membersFit, ih]

end Lint
end ContractAssist
