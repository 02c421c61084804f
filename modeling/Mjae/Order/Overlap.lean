import Mathlib.Algebra.BigOperators.Group.Finset.Piecewise
import Mathlib.Algebra.Group.Action.Defs
import Mathlib.Algebra.Order.BigOperators.Group.Finset
import Mathlib.Algebra.Order.Group.Nat
import Mathlib.Algebra.Ring.Nat
import Mathlib.Order.Interval.Finset.Basic

/-!
# Overlapping windows

Half-open windows over a locally finite linear order.  Counting the points of
all windows window by window, or point by point, gives the same number; so
windows inside one interval, no point of which lies in more than `depth` of
them, have at most `depth` times as many points together as the interval.
-/

namespace Mjae.Order

universe u

variable {α : Type u} [LinearOrder α] [LocallyFiniteOrder α]

/-- Number of windows that contain `point`. -/
def overlap (windows : List (α × α)) (point : α) : Nat :=
  windows.countP fun window => window.1 ≤ point ∧ point < window.2

/-- Points of all windows, with multiplicity. -/
def totalLength (windows : List (α × α)) : Nat :=
  (windows.map fun window => (Finset.Ico window.1 window.2).card).sum

/-- Counting window by window and point by point agree. -/
theorem totalLength_eq_sum_overlap {first last : α} (windows : List (α × α))
    (inside : ∀ window ∈ windows, first ≤ window.1 ∧ window.2 ≤ last) :
    totalLength windows = ∑ point ∈ Finset.Ico first last, overlap windows point := by
  induction windows with
  | nil => simp [totalLength, overlap]
  | cons window rest ih =>
      rcases inside window List.mem_cons_self with ⟨firstLe, leLast⟩
      have restInside := ih fun other member => inside other (List.mem_cons_of_mem window member)
      have own : (Finset.Ico first last).filter
          (fun point => window.1 ≤ point ∧ point < window.2) =
          Finset.Ico window.1 window.2 := by
        ext point
        simp only [Finset.mem_filter, Finset.mem_Ico]
        constructor
        · exact And.right
        · intro within
          exact ⟨⟨firstLe.trans within.1, within.2.trans_le leLast⟩, within⟩
      have length_cons : totalLength (window :: rest) =
          (Finset.Ico window.1 window.2).card + totalLength rest := rfl
      rw [length_cons, restInside, ← own, Finset.card_filter, ← Finset.sum_add_distrib]
      apply Finset.sum_congr rfl
      intro point _
      rw [overlap, overlap, List.countP_cons, Nat.add_comm]
      simp

/-- Windows at most `depth` deep fill an interval at most `depth` times. -/
theorem totalLength_le_of_overlap_le {first last : α} {depth : Nat} (windows : List (α × α))
    (inside : ∀ window ∈ windows, first ≤ window.1 ∧ window.2 ≤ last)
    (bounded : ∀ point, overlap windows point ≤ depth) :
    totalLength windows ≤ depth * (Finset.Ico first last).card := by
  rw [totalLength_eq_sum_overlap windows inside, Nat.mul_comm, ← smul_eq_mul]
  exact Finset.sum_le_card_nsmul _ _ _ fun point _ => bounded point

end Mjae.Order
