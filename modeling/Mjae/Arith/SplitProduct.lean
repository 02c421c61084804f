import Mjae.Arith.Capped
import Mathlib.Algebra.Order.Group.Nat
import Mathlib.Algebra.Ring.Nat

/-!
# Split products

A rate over a time that is counted in whole units and a rest.  Both products and
their sum stop at `top`, and the rest is divided by the unit last.  The rest drops
back to zero whenever a unit is full, but it is never worth more than that unit.
-/

namespace Mjae.Arith

/-- A rate over whole units and a rest, cut off at `top` at every step. -/
def splitProduct (top unit rate time : Nat) : Nat :=
  min (min (rate * (time / unit)) top + min (rate * (time % unit)) top / unit) top

/-- Cutting off the whole units first changes nothing. -/
theorem splitProduct_eq (top unit rate time : Nat) :
    splitProduct top unit rate time =
      min (rate * (time / unit) + min (rate * (time % unit)) top / unit) top :=
  min_min_add _ _ _

/-- Whole units and the rest add up to the floor of the product. -/
theorem wholeUnits_add_rest {unit : Nat} (positive : 0 < unit) (rate time : Nat) :
    rate * (time / unit) + rate * (time % unit) / unit = rate * time / unit := by
  have split : rate * time = unit * (rate * (time / unit)) + rate * (time % unit) := by
    conv_lhs => rw [← Nat.div_add_mod time unit]
    rw [Nat.mul_add, Nat.mul_left_comm]
  rw [split, Nat.mul_add_div positive]

/-- Cutting off never makes more of a product than its floor. -/
theorem splitProduct_le {unit : Nat} (positive : 0 < unit) (top rate time : Nat) :
    splitProduct top unit rate time ≤ rate * time / unit := by
  rw [splitProduct_eq, ← wholeUnits_add_rest positive]
  calc
    _ ≤ rate * (time / unit) + min (rate * (time % unit)) top / unit := min_le_left _ _
    _ ≤ _ := Nat.add_le_add_left (Nat.div_le_div_right (min_le_left _ _)) _

/-- Where the rest stays below the top, only the sum is cut off. -/
theorem splitProduct_eq_of_fits {top unit rate time : Nat} (positive : 0 < unit)
    (fits : rate * (time % unit) ≤ top) :
    splitProduct top unit rate time = min (rate * time / unit) top := by
  rw [splitProduct_eq, min_eq_left fits, wholeUnits_add_rest positive]

/-- The rest is worth at most one unit of time. -/
theorem rest_div_le {unit : Nat} (positive : 0 < unit) (top rate time : Nat) :
    min (rate * (time % unit)) top / unit ≤ rate := by
  have below : time % unit ≤ unit := (Nat.mod_lt time positive).le
  calc
    min (rate * (time % unit)) top / unit ≤ rate * (time % unit) / unit :=
      Nat.div_le_div_right (min_le_left _ _)
    _ ≤ rate * unit / unit := Nat.div_le_div_right (Nat.mul_le_mul_left _ below)
    _ = rate := Nat.mul_div_cancel _ positive

theorem splitProduct_le_of_rate_le {rate rate' : Nat} (faster : rate ≤ rate')
    (top unit time : Nat) : splitProduct top unit rate time ≤ splitProduct top unit rate' time := by
  rw [splitProduct_eq, splitProduct_eq]
  apply min_le_min_right
  apply Nat.add_le_add
  · exact Nat.mul_le_mul_right _ faster
  · apply Nat.div_le_div_right
    exact min_le_min_right _ (Nat.mul_le_mul_right _ faster)

/-- A longer time either has a longer rest, or one more whole unit that outweighs
the rest it dropped. -/
theorem splitProduct_le_of_time_le {unit time time' : Nat} (positive : 0 < unit)
    (longer : time ≤ time') (top rate : Nat) :
    splitProduct top unit rate time ≤ splitProduct top unit rate time' := by
  rw [splitProduct_eq, splitProduct_eq]
  apply min_le_min_right
  rcases (Nat.div_le_div_right longer).eq_or_lt with same | crossed
  · have rest : time % unit ≤ time' % unit := by
      have split := Nat.div_add_mod time unit
      have split' := Nat.div_add_mod time' unit
      rw [same] at split
      omega
    rw [same]
    apply Nat.add_le_add_left
    apply Nat.div_le_div_right
    exact min_le_min_right _ (Nat.mul_le_mul_left _ rest)
  · calc
      rate * (time / unit) + min (rate * (time % unit)) top / unit ≤
          rate * (time / unit) + rate := Nat.add_le_add_left (rest_div_le positive _ _ _) _
      _ = rate * (time / unit + 1) := (Nat.mul_succ _ _).symm
      _ ≤ rate * (time' / unit) := Nat.mul_le_mul_left _ crossed
      _ ≤ _ := Nat.le_add_right _ _

end Mjae.Arith
