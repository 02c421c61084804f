import Mjae.Arith.Word
import Mjae.Collections.TreeMap

/-!
# The registry

The ordered map from process identifiers to cumulative microjoules, as one
caller at a time sees it.  The concurrent reading of the same operations is in
`Mjae.Concurrent.Registry`.
-/

namespace Mjae.Core

open Mjae.Arith Mjae.Collections

structure AmalgafyRegistry where
  table : Std.ExtTreeMap UInt32 UInt64

namespace AmalgafyRegistry

def new : AmalgafyRegistry :=
  ⟨∅⟩

/-- Accumulate into the slot of `pid`; the result is the new total of `pid`. -/
def addMicroJoules (registry : AmalgafyRegistry) (pid : UInt32) (deltaUj : UInt64) :
    UInt64 × AmalgafyRegistry :=
  match registry.table[pid]? with
  | some value =>
      let next := U64.saturatingAdd value deltaUj
      (next, ⟨registry.table.insert pid next⟩)
  | none =>
      -- cold path: `get_or_insert` hands out a fresh zero slot
      let next := U64.saturatingAdd 0 deltaUj
      (next, ⟨registry.table.insert pid next⟩)

def get (registry : AmalgafyRegistry) (pid : UInt32) : Option UInt64 :=
  registry.table[pid]?

def remove (registry : AmalgafyRegistry) (pid : UInt32) : Option UInt64 × AmalgafyRegistry :=
  (registry.table[pid]?, ⟨registry.table.erase pid⟩)

def totalMicroJoules (registry : AmalgafyRegistry) : UInt64 :=
  U64.saturatingSum (registry.table.toList.map Prod.snd)

def len (registry : AmalgafyRegistry) : Nat :=
  registry.table.size

def isEmpty (registry : AmalgafyRegistry) : Bool :=
  registry.table.isEmpty

/-- All entries, in ascending order of their processes. -/
def snapshot (registry : AmalgafyRegistry) : List (UInt32 × UInt64) :=
  registry.table.toList

/-- Cumulative total of `pid`, zero when the map has no entry for it. -/
def slot (registry : AmalgafyRegistry) (pid : UInt32) : UInt64 :=
  (registry.get pid).getD 0

/-- Exact sum of all slots, before the total saturates. -/
def exactTotal (registry : AmalgafyRegistry) : Nat :=
  sumValues UInt64.toNat registry.table

@[simp]
theorem get_new (pid : UInt32) : new.get pid = none :=
  Std.ExtTreeMap.getElem?_empty

/-- A registry is what its lookups say. -/
theorem ext_get {registry other : AmalgafyRegistry}
    (same : ∀ pid, registry.get pid = other.get pid) : registry = other := by
  obtain ⟨table⟩ := registry
  obtain ⟨otherTable⟩ := other
  congr 1
  exact Std.ExtTreeMap.ext_getElem? same

/-- Both lookup paths write the same thing. -/
theorem addMicroJoules_eq (registry : AmalgafyRegistry) (pid : UInt32) (deltaUj : UInt64) :
    registry.addMicroJoules pid deltaUj =
      (U64.saturatingAdd (registry.slot pid) deltaUj,
        ⟨registry.table.insert pid (U64.saturatingAdd (registry.slot pid) deltaUj)⟩) := by
  rw [addMicroJoules, slot, get]
  cases registry.table[pid]? <;> rfl

/-- Only the slot of the named process changes. -/
theorem get_addMicroJoules (registry : AmalgafyRegistry) (pid other : UInt32)
    (deltaUj : UInt64) :
    (registry.addMicroJoules pid deltaUj).2.get other =
      if pid = other then some (U64.saturatingAdd (registry.slot pid) deltaUj)
      else registry.get other := by
  rw [addMicroJoules_eq, get, get, Std.ExtTreeMap.getElem?_insert]
  simp

/-- A snapshot has the entries of the registry. -/
@[simp]
theorem mem_snapshot_iff {registry : AmalgafyRegistry} {pid : UInt32} {value : UInt64} :
    (pid, value) ∈ registry.snapshot ↔ registry.get pid = some value :=
  Std.ExtTreeMap.mem_toList_iff_getElem?_eq_some

theorem pairwise_snapshot (registry : AmalgafyRegistry) :
    registry.snapshot.Pairwise (·.1 < ·.1) :=
  registry.table.ordered_keys_toList.imp fun before => Std.compare_eq_lt.mp before

theorem toNat_totalMicroJoules (registry : AmalgafyRegistry) :
    registry.totalMicroJoules.toNat = min registry.exactTotal U64.maxNat := by
  rw [totalMicroJoules, U64.toNat_saturatingSum, List.map_map]
  rfl

@[simp]
theorem totalMicroJoules_new : new.totalMicroJoules = 0 := by
  apply UInt64.toNat.inj
  rw [toNat_totalMicroJoules, exactTotal, new, sumValues_empty]
  rfl

/-- The exact total splits into the slot of `pid` and everything else. -/
theorem exactTotal_eq_slot_add (registry : AmalgafyRegistry) (pid : UInt32) :
    registry.exactTotal =
      (registry.slot pid).toNat + sumValues UInt64.toNat (registry.table.erase pid) := by
  rw [exactTotal, slot, get]
  cases present : registry.table[pid]? with
  | some value => exact sumValues_eq_add_erase UInt64.toNat present
  | none => simp [erase_of_getElem?_eq_none present]

/-- Per-slot saturation is invisible in the saturating total. -/
theorem totalMicroJoules_addMicroJoules (registry : AmalgafyRegistry) (pid : UInt32)
    (deltaUj : UInt64) :
    (registry.addMicroJoules pid deltaUj).2.totalMicroJoules =
      U64.saturatingAdd registry.totalMicroJoules deltaUj := by
  apply UInt64.toNat.inj
  have written : (registry.addMicroJoules pid deltaUj).2.exactTotal =
      min ((registry.slot pid).toNat + deltaUj.toNat) U64.maxNat +
        sumValues UInt64.toNat (registry.table.erase pid) := by
    rw [← U64.toNat_saturatingAdd, addMicroJoules_eq]
    exact sumValues_insert UInt64.toNat registry.table pid _
  rw [toNat_totalMicroJoules, written, min_min_add, U64.toNat_saturatingAdd,
    toNat_totalMicroJoules, min_min_add, exactTotal_eq_slot_add registry pid, Nat.add_right_comm]

end AmalgafyRegistry

end Mjae.Core
