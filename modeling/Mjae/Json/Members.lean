import Mathlib.Data.List.Perm.Basic
import Mjae.Json.Value

/-!
# The members of objects

Properties that hold of every object of a value, at every depth, and equality of
values up to the order of object members.
-/

namespace Mjae.Json

mutual

/-- Every object of a value has members as described. -/
def EveryObject (good : List (String × Value) → Prop) : Value → Prop
  | .object members => good members ∧ EveryMember good members
  | .array items => EveryItem good items
  | .null => True
  | .bool _ => True
  | .number _ => True
  | .string _ => True

def EveryItem (good : List (String × Value) → Prop) : List Value → Prop
  | [] => True
  | item :: rest => EveryObject good item ∧ EveryItem good rest

def EveryMember (good : List (String × Value) → Prop) : List (String × Value) → Prop
  | [] => True
  | (_, value) :: rest => EveryObject good value ∧ EveryMember good rest

end

def keys (members : List (String × Value)) : List String :=
  members.map Prod.fst

/-- No object has two members of one key. -/
def UniqueKeys (value : Value) : Prop :=
  EveryObject (fun members => (keys members).Nodup) value

/-- The members of every object stand in strictly ascending order of their keys. -/
def Ascending (value : Value) : Prop :=
  EveryObject (fun members => (keys members).Pairwise (· < ·)) value

theorem everyMember_iff {good : List (String × Value) → Prop} {members : List (String × Value)} :
    EveryMember good members ↔ ∀ member ∈ members, EveryObject good member.2 := by
  induction members with
  | nil => simp [EveryMember]
  | cons member rest ih =>
      rcases member with ⟨key, value⟩
      simp [EveryMember, ih]

theorem EveryMember.perm {good : List (String × Value) → Prop}
    {members others : List (String × Value)} (every : EveryMember good members)
    (same : members.Perm others) : EveryMember good others := by
  rw [everyMember_iff] at every ⊢
  intro member listed
  exact every member (same.mem_iff.mpr listed)

mutual

/-- Equality up to the order of object members, at every depth. -/
inductive Reordered : Value → Value → Prop
  | null : Reordered .null .null
  | bool (flag : Bool) : Reordered (.bool flag) (.bool flag)
  | number (integer : Int) : Reordered (.number integer) (.number integer)
  | string (text : String) : Reordered (.string text) (.string text)
  | array {items others : List Value} (same : ReorderedItems items others) :
      Reordered (.array items) (.array others)
  | object {members middle others : List (String × Value)}
      (values : ReorderedMembers members middle) (order : middle.Perm others) :
      Reordered (.object members) (.object others)

/-- Item by item. -/
inductive ReorderedItems : List Value → List Value → Prop
  | nil : ReorderedItems [] []
  | cons {item other : Value} {rest others : List Value} (head : Reordered item other)
      (tail : ReorderedItems rest others) : ReorderedItems (item :: rest) (other :: others)

/-- Member by member, with the same keys. -/
inductive ReorderedMembers : List (String × Value) → List (String × Value) → Prop
  | nil : ReorderedMembers [] []
  | cons (key : String) {value other : Value} {rest others : List (String × Value)}
      (head : Reordered value other) (tail : ReorderedMembers rest others) :
      ReorderedMembers ((key, value) :: rest) ((key, other) :: others)

end

theorem ReorderedMembers.keys_eq {members others : List (String × Value)}
    (same : ReorderedMembers members others) : keys members = keys others := by
  induction members generalizing others with
  | nil =>
      cases same with
      | nil => rfl
  | cons member rest ih =>
      cases same with
      | cons key head tail => exact congrArg (key :: ·) (ih tail)

end Mjae.Json
