import Mathlib.Algebra.Order.Group.Nat
import Mathlib.Algebra.Ring.Nat
import Mjae.Arith.Capped

/-!
# Machine words

The saturating and checked operations of the fixed-width unsigned integers,
each with one lemma that gives its result as a natural number.  A checked
operation answers `none` where the plain operator would leave the word.
-/

namespace Mjae.Arith

namespace U64

/-- Largest 64-bit value, as a natural number. -/
def maxNat : Nat :=
  18446744073709551615

/-- Largest 64-bit value. -/
def max : UInt64 :=
  18446744073709551615

/-- Nearest 64-bit value: a conversion that falls back to the largest one. -/
def clamp (n : Nat) : UInt64 :=
  UInt64.ofNatClamp n

def saturatingAdd (a b : UInt64) : UInt64 :=
  clamp (a.toNat + b.toNat)

def saturatingSub (a b : UInt64) : UInt64 :=
  clamp (a.toNat - b.toNat)

def saturatingMul (a b : UInt64) : UInt64 :=
  clamp (a.toNat * b.toNat)

/-- Addition that fails on overflow. -/
def checkedAdd (a b : UInt64) : Option UInt64 :=
  if a.toNat + b.toNat ≤ maxNat then some (a + b) else none

/-- Subtraction that fails on underflow. -/
def checkedSub (a b : UInt64) : Option UInt64 :=
  if b ≤ a then some (a - b) else none

/-- Multiplication that fails on overflow. -/
def checkedMul (a b : UInt64) : Option UInt64 :=
  if a.toNat * b.toNat ≤ maxNat then some (a * b) else none

/-- Division that fails on a zero divisor. -/
def checkedDiv (a b : UInt64) : Option UInt64 :=
  if b = 0 then none else some (a / b)

/-- Left-to-right saturating sum. -/
def saturatingSum (summands : List UInt64) : UInt64 :=
  summands.foldl saturatingAdd 0

theorem toNat_le_maxNat (a : UInt64) : a.toNat ≤ maxNat := by
  have bound := a.toNat_lt
  rw [maxNat]
  omega

@[simp]
theorem toNat_clamp (n : Nat) : (clamp n).toNat = min n maxNat := by
  rw [clamp, UInt64.ofNatClamp]
  split
  · rename_i small
    rw [UInt64.toNat_ofNatLT, min_eq_left]
    rw [maxNat]
    exact Nat.le_of_lt_succ small
  · rename_i large
    rw [min_eq_right]
    · rfl
    · rw [maxNat]
      exact Nat.le_of_succ_le (Nat.not_lt.mp large)

@[simp]
theorem toNat_saturatingAdd (a b : UInt64) :
    (saturatingAdd a b).toNat = min (a.toNat + b.toNat) maxNat :=
  toNat_clamp _

/-- Additions to one total commute. -/
theorem saturatingAdd_right_comm (total a b : UInt64) :
    saturatingAdd (saturatingAdd total a) b = saturatingAdd (saturatingAdd total b) a := by
  apply UInt64.toNat.inj
  rw [toNat_saturatingAdd, toNat_saturatingAdd, toNat_saturatingAdd, toNat_saturatingAdd,
    min_min_add, min_min_add, Nat.add_right_comm]

@[simp]
theorem toNat_saturatingSub (a b : UInt64) :
    (saturatingSub a b).toNat = a.toNat - b.toNat := by
  have bound := toNat_le_maxNat a
  rw [saturatingSub, toNat_clamp]
  omega

@[simp]
theorem toNat_saturatingMul (a b : UInt64) :
    (saturatingMul a b).toNat = min (a.toNat * b.toNat) maxNat :=
  toNat_clamp _

theorem checkedAdd_eq_some {a b : UInt64} (fits : a.toNat + b.toNat ≤ maxNat) :
    checkedAdd a b = some (a + b) :=
  if_pos fits

theorem checkedSub_eq_some {a b : UInt64} (fits : b.toNat ≤ a.toNat) :
    checkedSub a b = some (a - b) :=
  if_pos (UInt64.le_iff_toNat_le.mpr fits)

theorem checkedMul_eq_some {a b : UInt64} (fits : a.toNat * b.toNat ≤ maxNat) :
    checkedMul a b = some (a * b) :=
  if_pos fits

theorem checkedDiv_eq_some {a b : UInt64} (nonzero : b.toNat ≠ 0) :
    checkedDiv a b = some (a / b) := by
  apply if_neg
  rintro rfl
  exact nonzero rfl

theorem pos_iff_toNat_pos (a : UInt64) : 0 < a ↔ 0 < a.toNat :=
  UInt64.lt_iff_toNat_lt

theorem toNat_add_of_le {a b : UInt64} (fits : a.toNat + b.toNat ≤ maxNat) :
    (a + b).toNat = a.toNat + b.toNat := by
  rw [UInt64.toNat_add, Nat.mod_eq_of_lt]
  rw [maxNat] at fits
  omega

theorem toNat_mul_of_le {a b : UInt64} (fits : a.toNat * b.toNat ≤ maxNat) :
    (a * b).toNat = a.toNat * b.toNat := by
  rw [UInt64.toNat_mul, Nat.mod_eq_of_lt]
  rw [maxNat] at fits
  omega

theorem toNat_sub_of_le {a b : UInt64} (fits : b.toNat ≤ a.toNat) :
    (a - b).toNat = a.toNat - b.toNat :=
  UInt64.toNat_sub_of_le _ _ (UInt64.le_iff_toNat_le.mpr fits)

theorem toNat_div_mul_le (a b : UInt64) : (a / b).toNat * b.toNat ≤ a.toNat := by
  rw [UInt64.toNat_div]
  exact Nat.div_mul_le_self _ _

/-- What a quotient leaves over, whichever way its product with the divisor is computed. -/
theorem sub_eq_mod {a b product : UInt64}
    (product_eq : product.toNat = (a / b).toNat * b.toNat) : a - product = a % b := by
  apply UInt64.toNat.inj
  rw [toNat_sub_of_le (product_eq.trans_le (toNat_div_mul_le a b)), product_eq,
    UInt64.toNat_div, UInt64.toNat_mod, Nat.mod_eq_sub_div_mul]

/-- The saturating sum is the exact sum, cut off at the largest word. -/
theorem toNat_saturatingSum (summands : List UInt64) :
    (saturatingSum summands).toNat = min (summands.map UInt64.toNat).sum maxNat := by
  have folded := foldl_cappedAdd maxNat 0 (summands.map UInt64.toNat)
  rw [List.foldl_map, min_eq_left (Nat.zero_le _), Nat.zero_add] at folded
  rw [← folded]
  exact (List.foldl_hom UInt64.toNat fun total summand =>
    (toNat_saturatingAdd total summand).symm).symm

/-- The order of the summands does not matter. -/
theorem saturatingSum_perm {first second : List UInt64} (same : first.Perm second) :
    saturatingSum first = saturatingSum second := by
  apply UInt64.toNat.inj
  rw [toNat_saturatingSum, toNat_saturatingSum, (same.map UInt64.toNat).sum_eq]

end U64

namespace U32

/-- Largest 32-bit value, as a natural number. -/
def maxNat : Nat :=
  4294967295

def saturatingAdd (a b : UInt32) : UInt32 :=
  UInt32.ofNatClamp (a.toNat + b.toNat)

def saturatingSub (a b : UInt32) : UInt32 :=
  UInt32.ofNatClamp (a.toNat - b.toNat)

theorem toNat_le_maxNat (a : UInt32) : a.toNat ≤ maxNat := by
  have bound := a.toNat_lt
  rw [maxNat]
  omega

theorem toNat_ofNatClamp (n : Nat) : (UInt32.ofNatClamp n).toNat = min n maxNat := by
  rw [UInt32.ofNatClamp]
  split
  · rename_i small
    rw [UInt32.toNat_ofNatLT, min_eq_left]
    rw [maxNat]
    exact Nat.le_of_lt_succ small
  · rename_i large
    rw [min_eq_right]
    · rfl
    · rw [maxNat]
      exact Nat.le_of_succ_le (Nat.not_lt.mp large)

@[simp]
theorem toNat_saturatingAdd (a b : UInt32) :
    (saturatingAdd a b).toNat = min (a.toNat + b.toNat) maxNat :=
  toNat_ofNatClamp _

@[simp]
theorem toNat_saturatingSub (a b : UInt32) :
    (saturatingSub a b).toNat = a.toNat - b.toNat := by
  have bound := toNat_le_maxNat a
  rw [saturatingSub, toNat_ofNatClamp]
  omega

end U32

end Mjae.Arith
