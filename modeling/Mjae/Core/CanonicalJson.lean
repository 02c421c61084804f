import Mjae.Json.Value
import Mjae.Sort.Stable

/-!
# Canonical JSON

The canonical form of a JSON value, with the members of every object sorted by
key, and its bytes.  A type is bound by its canonical form when no two of its
values share one.
-/

namespace Mjae.Core

open Mjae.Json Mjae.Sort

/-- The conversion of a type to a JSON value. -/
class Serialize (T : Type) where
  toValue : T → Value

export Serialize (toValue)

/-- Order of members by key. -/
def compareKeys (a b : String × Value) : Ordering :=
  compare a.1 b.1

/-- Insert into a map that keeps the order of insertion. -/
def insertMember (members : List (String × Value)) (member : String × Value) :
    List (String × Value) :=
  if members.any fun present => present.1 = member.1 then
    members.map fun present => if present.1 = member.1 then member else present
  else members ++ [member]

mutual

/-- Sort the members of every object by key. -/
def canonicalizeValue : Value → Value
  | .object members =>
      -- the sort reads the keys alone, so the values may be canonicalized before it
      .object ((sortBy compareKeys (canonicalizeMembers members)).foldl insertMember [])
  | .array items => .array (canonicalizeItems items)
  | .null => .null
  | .bool flag => .bool flag
  | .number integer => .number integer
  | .string text => .string text

def canonicalizeItems : List Value → List Value
  | [] => []
  | item :: rest => canonicalizeValue item :: canonicalizeItems rest

def canonicalizeMembers : List (String × Value) → List (String × Value)
  | [] => []
  | (key, value) :: rest => (key, canonicalizeValue value) :: canonicalizeMembers rest

end

/-- The bytes of the canonical form. -/
def canonicalBytes {T : Type} [Serialize T] (payload : T) : Array UInt8 :=
  toVec (canonicalizeValue (toValue payload))

/-- No conversion of a payload fails. -/
def canonicalJson {T : Type} [Serialize T] (payload : T) : Except String (Array UInt8) :=
  .ok (canonicalBytes payload)

/-! ## Binding types -/

/-- A type whose values are told apart by their canonical form. -/
class Binding (T : Type) [Serialize T] : Prop where
  eq_of_canonicalizeValue : ∀ {a b : T},
    canonicalizeValue (toValue a) = canonicalizeValue (toValue b) → a = b

export Binding (eq_of_canonicalizeValue)

theorem canonicalBytes_eq_iff {T : Type} [Serialize T] [Binding T] {a b : T} :
    canonicalBytes a = canonicalBytes b ↔ a = b := by
  constructor
  · intro same
    exact eq_of_canonicalizeValue (toVec_injective same)
  · rintro rfl
    rfl

instance : Serialize UInt32 where
  toValue word := .number word.toNat

instance : Binding UInt32 where
  eq_of_canonicalizeValue same := by
    simp only [toValue, canonicalizeValue, Value.number.injEq] at same
    exact UInt32.toNat.inj (Int.ofNat.inj same)

instance : Serialize UInt64 where
  toValue word := .number word.toNat

instance : Binding UInt64 where
  eq_of_canonicalizeValue same := by
    simp only [toValue, canonicalizeValue, Value.number.injEq] at same
    exact UInt64.toNat.inj (Int.ofNat.inj same)

instance : Serialize String where
  toValue := .string

instance : Binding String where
  eq_of_canonicalizeValue same := by
    simp only [toValue, canonicalizeValue, Value.string.injEq] at same
    exact same

instance {T : Type} [Serialize T] : Serialize (List T) where
  toValue list := .array (list.map toValue)

theorem eq_of_canonicalizeItems {T : Type} [Serialize T] [Binding T] {first second : List T}
    (same : canonicalizeItems (first.map toValue) = canonicalizeItems (second.map toValue)) :
    first = second := by
  induction first generalizing second with
  | nil =>
      cases second with
      | nil => rfl
      | cons b rest => simp [canonicalizeItems] at same
  | cons a rest ih =>
      cases second with
      | nil => simp [canonicalizeItems] at same
      | cons b others =>
          simp only [List.map_cons, canonicalizeItems, List.cons.injEq] at same
          rw [eq_of_canonicalizeValue same.1, ih same.2]

instance {T : Type} [Serialize T] [Binding T] : Binding (List T) where
  eq_of_canonicalizeValue same := by
    simp only [toValue, canonicalizeValue, Value.array.injEq] at same
    exact eq_of_canonicalizeItems same

end Mjae.Core
