import Mjae.Arith.Word

/-!
# Vectors with a word-sized length

A vector is a list whose length fits the machine word that reports it, so that
the reported length is never truncated.
-/

namespace Mjae.Collections

open Mjae.Arith

universe u

/-- A growable array: its length is a 64-bit word. -/
structure Vec (α : Type u) where
  toList : List α
  length_le : toList.length ≤ U64.maxNat

namespace Vec

variable {α : Type u}

def empty : Vec α :=
  ⟨[], Nat.zero_le _⟩

def isEmpty (items : Vec α) : Bool :=
  items.toList.isEmpty

/-- The reported length. -/
def len (items : Vec α) : UInt64 :=
  UInt64.ofNat items.toList.length

@[simp]
theorem toNat_len (items : Vec α) : items.len.toNat = items.toList.length := by
  have bound := items.length_le
  rw [U64.maxNat] at bound
  exact UInt64.toNat_ofNat_of_lt' (Nat.lt_succ_of_le bound)

theorem toNat_len_ne_zero {items : Vec α} (some_item : ¬ items.isEmpty) :
    items.len.toNat ≠ 0 := by
  rw [toNat_len]
  intro noItems
  apply some_item
  rw [isEmpty, List.length_eq_zero_iff.mp noItems]
  rfl

end Vec

end Mjae.Collections
