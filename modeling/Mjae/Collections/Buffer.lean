import Mathlib.Algebra.Order.Group.Nat

/-!
# Growable buffers

A buffer holds a list and has room for a number of entries.  Room is reserved
relative to the length: asking for `additional` more entries does nothing while
there is room for them, and how far the buffer grows otherwise is up to the
allocator.
-/

namespace Mjae.Collections

universe u

/-- How an allocator grows a buffer. -/
structure GrowthPolicy where
  grown : (length capacity additional : Nat) → Nat
  enough : ∀ length capacity additional, length + additional ≤ grown length capacity additional
  idle : ∀ length capacity additional, length + additional ≤ capacity →
    grown length capacity additional = capacity

/-- The allocator that grows no further than it must. -/
def GrowthPolicy.tight : GrowthPolicy where
  grown length capacity additional := max capacity (length + additional)
  enough _ _ _ := le_max_right _ _
  idle _ _ _ fits := max_eq_left fits

/-- The allocator that grows at least twofold. -/
def GrowthPolicy.doubling : GrowthPolicy where
  grown length capacity additional :=
    if length + additional ≤ capacity then capacity
    else max (2 * capacity) (length + additional)
  enough length capacity additional := by
    split
    · assumption
    · exact le_max_right _ _
  idle _ _ _ fits := if_pos fits

structure Buffer (α : Type u) where
  entries : List α
  capacity : Nat
  length_le : entries.length ≤ capacity

namespace Buffer

variable {α : Type u}

def withCapacity (capacity : Nat) : Buffer α :=
  ⟨[], capacity, Nat.zero_le _⟩

/-- Make room for `additional` more entries. -/
def reserve (policy : GrowthPolicy) (buffer : Buffer α) (additional : Nat) : Buffer α where
  entries := buffer.entries
  capacity := policy.grown buffer.entries.length buffer.capacity additional
  length_le := (Nat.le_add_right _ _).trans (policy.enough _ _ _)

/-- Overwrite the entries within the room there is. -/
def fill (buffer : Buffer α) (entries : List α) (fits : entries.length ≤ buffer.capacity) :
    Buffer α :=
  ⟨entries, buffer.capacity, fits⟩

theorem reserve_of_fits {policy : GrowthPolicy} {buffer : Buffer α} {additional : Nat}
    (fits : buffer.entries.length + additional ≤ buffer.capacity) :
    buffer.reserve policy additional = buffer := by
  obtain ⟨entries, capacity, length_le⟩ := buffer
  simp only [reserve, policy.idle _ _ _ fits]

theorem length_add_le_reserve (policy : GrowthPolicy) (buffer : Buffer α) (additional : Nat) :
    buffer.entries.length + additional ≤ (buffer.reserve policy additional).capacity :=
  policy.enough _ _ _

/-- Reserving never gives room back. -/
theorem capacity_le_reserve (policy : GrowthPolicy) (buffer : Buffer α) (additional : Nat) :
    buffer.capacity ≤ (buffer.reserve policy additional).capacity := by
  by_cases fits : buffer.entries.length + additional ≤ buffer.capacity
  · rw [reserve_of_fits fits]
  · exact (Nat.le_of_not_le fits).trans (length_add_le_reserve policy buffer additional)

/-- Reserving what the capacity falls short of some need makes progress at most
once: if the need is still not met, doing it again changes nothing. -/
theorem reserve_shortfall_again {policy : GrowthPolicy} {buffer : Buffer α} {needed : Nat}
    (short : (buffer.reserve policy (needed - buffer.capacity)).capacity ≤ needed) :
    (buffer.reserve policy (needed - buffer.capacity)).reserve policy
        (needed - (buffer.reserve policy (needed - buffer.capacity)).capacity) =
      buffer.reserve policy (needed - buffer.capacity) := by
  have grew := capacity_le_reserve policy buffer (needed - buffer.capacity)
  have room := length_add_le_reserve policy buffer (needed - buffer.capacity)
  apply reserve_of_fits
  have same : (buffer.reserve policy (needed - buffer.capacity)).entries = buffer.entries := rfl
  rw [same]
  omega

end Buffer

end Mjae.Collections
