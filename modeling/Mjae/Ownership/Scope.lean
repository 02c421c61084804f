import Mathlib.Data.Finset.Basic

/-!
# Owned objects

Programs that create objects, work with them and release them.  Working with an object
that is not live, or releasing it once more, is a misuse and has no result.  An object of
a scope is released when the scope ends, whatever it ends with.
-/

namespace Mjae.Ownership

/-- The objects that are live, and a bound on all objects so far. -/
structure Heap where
  live : Finset Nat
  next : Nat
  live_lt_next : ∀ object ∈ live, object < next

namespace Heap

def extend (heap : Heap) : Heap where
  live := insert heap.next heap.live
  next := heap.next + 1
  live_lt_next object member := by
    rcases Finset.mem_insert.mp member with rfl | older
    · exact Nat.lt_succ_self _
    · exact Nat.lt_succ_of_lt (heap.live_lt_next object older)

def discard (heap : Heap) (object : Nat) : Heap where
  live := heap.live.erase object
  next := heap.next
  live_lt_next other member := heap.live_lt_next other (Finset.mem_of_mem_erase member)

theorem next_not_mem_live (heap : Heap) : heap.next ∉ heap.live :=
  fun member => Nat.lt_irrefl _ (heap.live_lt_next _ member)

end Heap

abbrev Program (α : Type) : Type :=
  StateT Heap Option α

/-- A fresh object. -/
def create : Program Nat :=
  fun heap => some (heap.next, heap.extend)

/-- Work with an object. -/
def access (object : Nat) : Program Unit :=
  fun heap => if object ∈ heap.live then some ((), heap) else none

def release (object : Nat) : Program Unit :=
  fun heap => if object ∈ heap.live then some ((), heap.discard object) else none

/-- Work with an object of one's own. -/
def withOwned {α : Type} (body : Nat → Program α) : Program α := do
  let object ← create
  let result ← body object
  release object
  return result

/-- With these live objects the program misuses none, and ends as `post` says. -/
def Ends {α : Type} (program : Program α) (live : Finset Nat) (post : α → Finset Nat → Prop) :
    Prop :=
  ∀ heap : Heap, heap.live = live →
    ∃ result after, program heap = some (result, after) ∧ post result after.live

namespace Ends

variable {α β : Type} {live : Finset Nat}

theorem pure {value : α} {post : α → Finset Nat → Prop} (holds : post value live) :
    Ends (Pure.pure value) live post := by
  rintro heap rfl
  exact ⟨value, heap, rfl, holds⟩

theorem bind {program : Program α} {onward : α → Program β} {middle : α → Finset Nat → Prop}
    {post : β → Finset Nat → Prop} (first : Ends program live middle)
    (rest : ∀ value between, middle value between → Ends (onward value) between post) :
    Ends (program >>= onward) live post := by
  intro heap live_eq
  rcases first heap live_eq with ⟨value, between, program_eq, holds⟩
  rcases rest value between.live holds between rfl with ⟨result, after, onward_eq, ends⟩
  refine ⟨result, after, ?_, ends⟩
  change (program heap).bind _ = _
  rw [program_eq]
  exact onward_eq

theorem create_bind {onward : Nat → Program β} {post : β → Finset Nat → Prop}
    (rest : ∀ object, object ∉ live → Ends (onward object) (insert object live) post) :
    Ends (create >>= onward) live post := by
  rintro heap rfl
  exact rest heap.next heap.next_not_mem_live heap.extend rfl

theorem access_bind {object : Nat} {onward : Unit → Program β} {post : β → Finset Nat → Prop}
    (member : object ∈ live) (rest : Ends (onward ()) live post) :
    Ends (access object >>= onward) live post := by
  rintro heap rfl
  rcases rest heap rfl with ⟨result, after, onward_eq, holds⟩
  refine ⟨result, after, ?_, holds⟩
  change (access object heap).bind _ = _
  rw [access, if_pos member]
  exact onward_eq

theorem access {object : Nat} {post : Unit → Finset Nat → Prop} (member : object ∈ live)
    (holds : post () live) : Ends (access object) live post := by
  rintro heap rfl
  exact ⟨(), heap, if_pos member, holds⟩

theorem release {object : Nat} {post : Unit → Finset Nat → Prop} (member : object ∈ live)
    (holds : post () (live.erase object)) : Ends (release object) live post := by
  rintro heap rfl
  exact ⟨(), heap.discard object, if_pos member, holds⟩

theorem release_bind {object : Nat} {onward : Unit → Program β} {post : β → Finset Nat → Prop}
    (member : object ∈ live) (rest : Ends (onward ()) (live.erase object) post) :
    Ends (Ownership.release object >>= onward) live post := by
  have released : Ends (Ownership.release object) live fun _ after => after = live.erase object :=
    release member rfl
  apply bind released
  rintro - after rfl
  exact rest

/-- A scope ends as its body does, without the object of the scope. -/
theorem withOwned {body : Nat → Program α} {post : α → Finset Nat → Prop}
    (inside : ∀ object, object ∉ live → Ends (body object) (insert object live)
      fun result after => object ∈ after ∧ post result (after.erase object)) :
    Ends (withOwned body) live post := by
  apply create_bind
  intro object fresh
  apply bind (inside object fresh)
  rintro result after ⟨member, holds⟩
  exact release_bind member (pure holds)

end Ends

end Mjae.Ownership
