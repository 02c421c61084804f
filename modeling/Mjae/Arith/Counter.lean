import Mathlib.Algebra.Order.Group.Nat

/-!
# Wrapping counters

A counter that shows a growing quantity modulo its range.  As long as less than
one range goes by between two readings, the readings determine the growth: the
counter either moved forward by it, or went through zero exactly once.
-/

namespace Mjae.Arith

theorem mod_add_of_lt {range growth : Nat} (before : Nat) (small : growth < range) :
    ((before + growth) % range = before % range + growth) ∨
      ((before + growth) % range + range = before % range + growth) := by
  have positive : 0 < range := Nat.zero_lt_of_lt small
  have reduced : (before + growth) % range = (before % range + growth) % range := by
    rw [Nat.add_mod, Nat.mod_eq_of_lt small]
  rw [reduced]
  have below := Nat.mod_lt before positive
  by_cases wraps : range ≤ before % range + growth
  · right
    rw [Nat.mod_eq_sub_mod wraps, Nat.mod_eq_of_lt (by omega)]
    omega
  · left
    exact Nat.mod_eq_of_lt (by omega)

/-- A counter that did not step back moved by exactly the growth. -/
theorem growth_of_mod_le {range before after : Nat} (grew : before ≤ after)
    (small : after - before < range) (forward : before % range ≤ after % range) :
    after % range - before % range = after - before := by
  have shown := mod_add_of_lt before small
  rw [Nat.add_sub_cancel' grew] at shown
  omega

/-- A counter that stepped back went through zero once. -/
theorem growth_of_mod_lt {range before after : Nat} (grew : before ≤ after)
    (small : after - before < range) (stepped : after % range < before % range) :
    range - before % range + after % range = after - before := by
  have shown := mod_add_of_lt before small
  rw [Nat.add_sub_cancel' grew] at shown
  have below := Nat.mod_lt before (Nat.zero_lt_of_lt small)
  omega

end Mjae.Arith
