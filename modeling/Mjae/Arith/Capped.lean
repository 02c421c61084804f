import Mathlib.Algebra.Order.Monoid.Canonical.Defs
import Mathlib.Algebra.BigOperators.Group.List.Basic

/-!
# Addition with a ceiling

Addition that stops at a fixed ceiling `top`, over any canonically ordered
additive monoid.  A capped sum depends only on the exact sum of its summands,
so capping the summands first, or the partial sums on the way, changes nothing.
-/

namespace Mjae.Arith

universe u

variable {α : Type u} [AddCommMonoid α] [LinearOrder α] [CanonicallyOrderedAdd α]

/-- Addition that stops at `top`. -/
def cappedAdd (top a b : α) : α :=
  min (a + b) top

/-- Capping a summand is absorbed by the cap on the sum. -/
theorem min_min_add (top a b : α) : min (min a top + b) top = min (a + b) top := by
  rcases le_total a top with below | above
  · rw [min_eq_left below]
  · rw [min_eq_right above, min_eq_right le_self_add,
      min_eq_right (above.trans le_self_add)]

/-- A left fold of capped additions is the capped exact sum. -/
theorem foldl_cappedAdd (top start : α) (summands : List α) :
    summands.foldl (cappedAdd top) (min start top) = min (start + summands.sum) top := by
  induction summands generalizing start with
  | nil => simp
  | cons head rest ih =>
      rw [List.foldl_cons, List.sum_cons, ← add_assoc, ← ih (start + head)]
      rw [cappedAdd, min_min_add]

/-- Capping the summands is absorbed by the cap on the sum. -/
theorem min_sum_map_min (top : α) (summands : List α) :
    min (summands.map (min · top)).sum top = min summands.sum top := by
  induction summands with
  | nil => rfl
  | cons head rest ih =>
      rw [List.map_cons, List.sum_cons, List.sum_cons, min_min_add, add_comm head,
        ← min_min_add, ih, min_min_add, add_comm]

/-- Saturation brings near totals nearer. -/
theorem near_of_min_add {first second slack : Nat}
    (near : second ≤ first ∧ first ≤ second + slack) (base cap : Nat) :
    min (base + second) cap ≤ min (base + first) cap ∧
      min (base + first) cap ≤ min (base + second) cap + slack := by
  constructor
  · exact min_le_min_right cap (Nat.add_le_add_left near.1 base)
  · omega

end Mjae.Arith
