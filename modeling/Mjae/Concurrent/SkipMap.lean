import Std.Data.ExtTreeMap

/-!
# A concurrent ordered map

A map whose entries outlive their link.  Every entry that was ever inserted is
kept as a node, and the index says which node, if any, is linked under a key.
A handle is the position of a node: it stays usable after the node is unlinked.
Each operation is one atomic step.
-/

namespace Mjae.Concurrent

open Std

universe u v

/-- An entry: its key never changes, its value is an atomic cell. -/
structure Node (κ : Type u) (ν : Type v) where
  key : κ
  value : ν

/-- The nodes in order of insertion and the linked node of each key. -/
structure SkipMap (κ : Type u) (ν : Type v) [Ord κ] [TransOrd κ] where
  nodes : List (Node κ ν)
  index : ExtTreeMap κ Nat
  /-- A linked node carries the key it is linked under. -/
  linked_key : ∀ (key : κ) (handle : Nat), index[key]? = some handle →
    (nodes[handle]?).map Node.key = some key

namespace SkipMap

variable {κ : Type u} {ν : Type v} [Ord κ] [TransOrd κ]

def empty : SkipMap κ ν where
  nodes := []
  index := ∅
  linked_key key handle linked := by
    rw [ExtTreeMap.getElem?_empty] at linked
    contradiction

def keyAt (map : SkipMap κ ν) (handle : Nat) : Option κ :=
  (map.nodes[handle]?).map Node.key

/-- Read the cell of a node, linked or not. -/
def load (map : SkipMap κ ν) (handle : Nat) : Option ν :=
  (map.nodes[handle]?).map Node.value

def get (map : SkipMap κ ν) (key : κ) : Option Nat :=
  map.index[key]?

/-- The value that a reader of `key` finds. -/
def value? (map : SkipMap κ ν) (key : κ) : Option ν :=
  (map.get key).bind map.load

/-- Write the cell of a node, linked or not. -/
def store (map : SkipMap κ ν) (handle : Nat) (value : ν) : SkipMap κ ν where
  nodes := map.nodes.modify handle fun node => { node with value }
  index := map.index
  linked_key key other linked := by
    rw [List.getElem?_modify, ← map.linked_key key other linked]
    cases map.nodes[other]? with
    | none => rfl
    | some node =>
        simp only [Option.map_eq_map, Option.map_some]
        split <;> rfl

/-- The linked entry of `key`, or a fresh one that holds `value`. -/
def getOrInsert [LawfulEqOrd κ] (map : SkipMap κ ν) (key : κ) (value : ν) : Nat × SkipMap κ ν :=
  match map.index[key]? with
  | some handle => (handle, map)
  | none =>
      (map.nodes.length,
        { nodes := map.nodes ++ [⟨key, value⟩]
          index := map.index.insert key map.nodes.length
          linked_key := by
            intro other handle linked
            rw [ExtTreeMap.getElem?_insert] at linked
            split at linked
            · rename_i same
              cases linked
              simp [LawfulEqOrd.eq_of_compare same]
            · have found := map.linked_key other handle linked
              obtain ⟨node, present, -⟩ := Option.map_eq_some_iff.mp found
              rw [List.getElem?_append_left (List.getElem?_eq_some_iff.mp present).1]
              exact found })

/-- Unlink `key`; the handle of the unlinked entry is the result. -/
def remove (map : SkipMap κ ν) (key : κ) : Option Nat × SkipMap κ ν :=
  (map.index[key]?,
    { map with
      index := map.index.erase key
      linked_key := by
        intro other handle linked
        rw [ExtTreeMap.getElem?_erase] at linked
        split at linked
        · contradiction
        · exact map.linked_key other handle linked })

/-- A compare-and-swap that may fail although the cell holds `current`; on
failure the result is the value observed. -/
def compareExchangeWeak [DecidableEq ν] (map : SkipMap κ ν) (handle : Nat) (current next : ν)
    (spurious : Bool) : Option (Except ν Unit × SkipMap κ ν) :=
  (map.load handle).map fun observed =>
    if observed = current ∧ spurious = false then (.ok (), map.store handle next)
    else (.error observed, map)

/-! ## Nodes -/

/-- A node that carries a key holds a value. -/
theorem exists_load_of_keyAt {map : SkipMap κ ν} {handle : Nat} {key : κ}
    (carried : map.keyAt handle = some key) : ∃ value, map.load handle = some value := by
  obtain ⟨node, present, -⟩ := Option.map_eq_some_iff.mp carried
  exact ⟨node.value, by rw [load, present, Option.map_some]⟩

theorem exists_keyAt_of_load {map : SkipMap κ ν} {handle : Nat} {value : ν}
    (loaded : map.load handle = some value) : ∃ key, map.keyAt handle = some key := by
  obtain ⟨node, present, -⟩ := Option.map_eq_some_iff.mp loaded
  exact ⟨node.key, by rw [keyAt, present, Option.map_some]⟩

theorem lt_length_of_keyAt {map : SkipMap κ ν} {handle : Nat} {key : κ}
    (carried : map.keyAt handle = some key) : handle < map.nodes.length := by
  obtain ⟨node, present, -⟩ := Option.map_eq_some_iff.mp carried
  exact (List.getElem?_eq_some_iff.mp present).1

theorem keyAt_of_get {map : SkipMap κ ν} {key : κ} {handle : Nat}
    (linked : map.get key = some handle) : map.keyAt handle = some key :=
  map.linked_key key handle linked

@[simp]
theorem keyAt_store (map : SkipMap κ ν) (handle other : Nat) (value : ν) :
    (map.store handle value).keyAt other = map.keyAt other := by
  rw [keyAt, store, List.getElem?_modify, keyAt]
  cases map.nodes[other]? with
  | none => rfl
  | some node =>
      simp only [Option.map_eq_map, Option.map_some]
      split <;> rfl

theorem load_store (map : SkipMap κ ν) (handle other : Nat) (value : ν) :
    (map.store handle value).load other =
      if handle = other then (map.load other).map fun _ => value else map.load other := by
  rw [load, store, List.getElem?_modify, load]
  cases map.nodes[other]? with
  | none => simp
  | some node =>
      simp only [Option.map_eq_map, Option.map_some]
      split <;> rfl

@[simp]
theorem get_store (map : SkipMap κ ν) (handle : Nat) (value : ν) (key : κ) :
    (map.store handle value).get key = map.get key :=
  rfl

/-- Storing to a node is seen under the key it is linked under, and nowhere else. -/
theorem value?_store (map : SkipMap κ ν) (handle : Nat) (value : ν) (key : κ) :
    (map.store handle value).value? key =
      if map.get key = some handle then some value else map.value? key := by
  rw [value?, get_store, value?]
  cases linked : map.get key with
  | none => simp
  | some other =>
      obtain ⟨held, loaded⟩ := exists_load_of_keyAt (keyAt_of_get linked)
      simp only [Option.bind_some, load_store, loaded, Option.some.injEq, Option.map_some,
        eq_comm (a := handle)]

/-! ## Insertion -/

section Insertion

variable [LawfulEqOrd κ]

theorem getOrInsert_of_get {map : SkipMap κ ν} {key : κ} {handle : Nat}
    (linked : map.get key = some handle) (value : ν) :
    map.getOrInsert key value = (handle, map) := by
  rw [getOrInsert, show map.index[key]? = some handle from linked]

theorem nodes_getOrInsert_of_get_eq_none {map : SkipMap κ ν} {key : κ}
    (absent : map.get key = none) (value : ν) :
    (map.getOrInsert key value).2.nodes = map.nodes ++ [⟨key, value⟩] := by
  rw [getOrInsert]
  split
  · rename_i linked
    cases absent.symm.trans linked
  · rfl

theorem fst_getOrInsert_of_get_eq_none {map : SkipMap κ ν} {key : κ}
    (absent : map.get key = none) (value : ν) :
    (map.getOrInsert key value).1 = map.nodes.length := by
  rw [getOrInsert]
  split
  · rename_i linked
    cases absent.symm.trans linked
  · rfl

/-- The handle handed out is the one linked from now on; other keys are untouched. -/
theorem get_getOrInsert [DecidableEq κ] (map : SkipMap κ ν) (key other : κ) (value : ν) :
    (map.getOrInsert key value).2.get other =
      if key = other then some (map.getOrInsert key value).1 else map.get other := by
  by_cases same : key = other
  · subst same
    rw [if_pos rfl, getOrInsert]
    split
    · assumption
    · exact ExtTreeMap.getElem?_insert_self
  · rw [if_neg same, getOrInsert]
    split
    · rfl
    · rw [get, ExtTreeMap.getElem?_insert, if_neg fun equal => same
        (LawfulEqOrd.eq_of_compare equal), get]

/-- Insertion keeps every node. -/
theorem keyAt_getOrInsert_of_keyAt {map : SkipMap κ ν} {handle : Nat} {carried : κ}
    (found : map.keyAt handle = some carried) (key : κ) (value : ν) :
    (map.getOrInsert key value).2.keyAt handle = some carried := by
  cases linked : map.get key with
  | some other => rwa [getOrInsert_of_get linked]
  | none =>
      rw [keyAt, nodes_getOrInsert_of_get_eq_none linked,
        List.getElem?_append_left (lt_length_of_keyAt found)]
      exact found

theorem load_getOrInsert_of_keyAt {map : SkipMap κ ν} {handle : Nat} {carried : κ}
    (found : map.keyAt handle = some carried) (key : κ) (value : ν) :
    (map.getOrInsert key value).2.load handle = map.load handle := by
  cases linked : map.get key with
  | some other => rw [getOrInsert_of_get linked]
  | none =>
      rw [load, nodes_getOrInsert_of_get_eq_none linked,
        List.getElem?_append_left (lt_length_of_keyAt found), load]

/-- What can be read after an insertion could be before, or is the value offered. -/
theorem load_of_load_getOrInsert {map : SkipMap κ ν} {key : κ} {value held : ν} {handle : Nat}
    (loaded : (map.getOrInsert key value).2.load handle = some held) :
    map.load handle = some held ∨ map.load handle = none ∧ held = value := by
  cases linked : map.get key with
  | some other =>
      rw [getOrInsert_of_get linked] at loaded
      exact Or.inl loaded
  | none =>
      rw [load, nodes_getOrInsert_of_get_eq_none linked] at loaded
      by_cases inside : handle < map.nodes.length
      · rw [List.getElem?_append_left inside] at loaded
        exact Or.inl loaded
      · right
        rw [Nat.not_lt] at inside
        rw [List.getElem?_append_right inside] at loaded
        obtain ⟨node, present, rfl⟩ := Option.map_eq_some_iff.mp loaded
        have only := List.mem_singleton.mp (List.mem_of_getElem? present)
        rw [load, List.getElem?_eq_none inside, only]
        exact ⟨rfl, rfl⟩

/-- A fresh entry holds the value offered; nothing else changes. -/
theorem value?_getOrInsert [DecidableEq κ] (map : SkipMap κ ν) (key other : κ)
    (value : ν) :
    (map.getOrInsert key value).2.value? other =
      if key = other then some ((map.value? other).getD value) else map.value? other := by
  rw [value?, get_getOrInsert, value?]
  by_cases same : key = other
  · subst same
    rw [if_pos rfl, if_pos rfl, Option.bind_some]
    cases linked : map.get key with
    | some handle =>
        obtain ⟨held, loaded⟩ := exists_load_of_keyAt (keyAt_of_get linked)
        rw [getOrInsert_of_get linked, Option.bind_some, loaded, Option.getD_some]
    | none =>
        rw [fst_getOrInsert_of_get_eq_none linked, load,
          nodes_getOrInsert_of_get_eq_none linked, List.getElem?_concat_length]
        rfl
  · rw [if_neg same, if_neg same]
    cases linked : map.get other with
    | none => rfl
    | some handle =>
        exact load_getOrInsert_of_keyAt (keyAt_of_get linked) key value

end Insertion

/-! ## Removal -/

theorem get_remove [LawfulEqOrd κ] [DecidableEq κ] (map : SkipMap κ ν) (key other : κ) :
    (map.remove key).2.get other = if key = other then none else map.get other := by
  rw [get, remove, ExtTreeMap.getElem?_erase, get]
  by_cases same : key = other
  · subst same
    simp
  · rw [if_neg same, if_neg fun equal => same (LawfulEqOrd.eq_of_compare equal)]

@[simp]
theorem load_remove (map : SkipMap κ ν) (key : κ) (handle : Nat) :
    (map.remove key).2.load handle = map.load handle :=
  rfl

@[simp]
theorem keyAt_remove (map : SkipMap κ ν) (key : κ) (handle : Nat) :
    (map.remove key).2.keyAt handle = map.keyAt handle :=
  rfl

end SkipMap

end Mjae.Concurrent
