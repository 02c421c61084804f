import Mjae.Arith.Floor
import Mjae.Core.Attribution
import Mathlib.Algebra.BigOperators.Ring.List
import Mathlib.Algebra.Order.BigOperators.Group.List

/-!
# Shares by accelerator time

Processes that divide the busy time of the accelerator among them divide its
burst energy as well, up to the rounding of every share.
-/

namespace Mjae.Core

open Mjae.Arith

/-- The shares of the processes of one busy time. -/
def occupancyShares (totalPowerUw idlePowerUw totalBusyNs : UInt64) (times : List UInt64) :
    List UInt64 :=
  times.map fun processOnAcceleratorNs =>
    deterministicAttributionUj totalPowerUw idlePowerUw processOnAcceleratorNs totalBusyNs

/-- The capped sum of the shares is the capped sum of the floors of the burst power
over every time. -/
theorem toNat_saturatingSum_occupancyShares (totalPowerUw idlePowerUw : UInt64)
    {totalBusyNs : UInt64} {times : List UInt64}
    (within : (times.map UInt64.toNat).sum ≤ totalBusyNs.toNat) :
    (U64.saturatingSum (occupancyShares totalPowerUw idlePowerUw totalBusyNs times)).toNat =
      min ((times.map fun processNs =>
        (totalPowerUw.toNat - idlePowerUw.toNat) * processNs.toNat).map (· / 1000000000)).sum
        U64.maxNat := by
  have shares_eq :
      (occupancyShares totalPowerUw idlePowerUw totalBusyNs times).map UInt64.toNat =
        ((times.map fun processNs =>
          (totalPowerUw.toNat - idlePowerUw.toNat) * processNs.toNat).map
            (· / 1000000000)).map (min · U64.maxNat) := by
    simp only [occupancyShares, List.map_map]
    apply List.map_congr_left
    intro processNs listed
    have single : processNs.toNat ≤ (times.map UInt64.toNat).sum :=
      List.le_sum_of_mem (List.mem_map_of_mem listed)
    exact toNat_deterministicAttributionUj_of_le
      (UInt64.le_iff_toNat_le.mpr (single.trans within)) totalPowerUw idlePowerUw
  rw [U64.toNat_saturatingSum, shares_eq, min_sum_map_min]

/-- The shares never sum to more than the whole, and where the times fill the busy
time they miss less than a microjoule for every process but one. -/
theorem saturatingSum_occupancyShares_bounds
    (totalPowerUw idlePowerUw totalBusyNs : UInt64) (times : List UInt64) (some_time : times ≠ [])
    (within : (times.map UInt64.toNat).sum ≤ totalBusyNs.toNat) :
    U64.saturatingSum (occupancyShares totalPowerUw idlePowerUw totalBusyNs times) ≤
        deterministicAttributionUj totalPowerUw idlePowerUw totalBusyNs totalBusyNs ∧
      ((times.map UInt64.toNat).sum = totalBusyNs.toNat →
        (deterministicAttributionUj totalPowerUw idlePowerUw totalBusyNs totalBusyNs).toNat ≤
          (U64.saturatingSum
            (occupancyShares totalPowerUw idlePowerUw totalBusyNs times)).toNat +
            (times.length - 1)) := by
  have shares_eq := toNat_saturatingSum_occupancyShares totalPowerUw idlePowerUw within
  have whole_eq := toNat_deterministicAttributionUj_of_le (UInt64.le_refl totalBusyNs)
    totalPowerUw idlePowerUw
  have exact_sum := List.sum_map_mul_left times UInt64.toNat
    (totalPowerUw.toNat - idlePowerUw.toNat)
  constructor
  · rw [UInt64.le_iff_toNat_le, shares_eq, whole_eq]
    apply min_le_min_right
    calc
      _ ≤ _ := sum_map_div_le 1000000000 _
      _ ≤ _ := Nat.div_le_div_right (exact_sum ▸ Nat.mul_le_mul_left _ within)
  · intro filled
    have lost := sum_div_le_add_length 1000000000
      (times.map fun processNs =>
        (totalPowerUw.toNat - idlePowerUw.toNat) * processNs.toNat)
      (by simpa using some_time)
    rw [exact_sum, filled, List.length_map] at lost
    rw [shares_eq, whole_eq, ← Nat.add_min_add_right]
    exact min_le_min lost (Nat.le_add_right _ _)

/-- Three processes fill a window of one second, at one microwatt. -/
theorem saturatingSum_occupancyShares_bounds_thirds :
    U64.saturatingSum (occupancyShares 1 0 1000000000 [333333333, 333333333, 333333334]) ≤
        deterministicAttributionUj 1 0 1000000000 1000000000 ∧
      (([333333333, 333333333, 333333334] : List UInt64).map UInt64.toNat).sum = 1000000000 ∧
      (deterministicAttributionUj 1 0 1000000000 1000000000).toNat ≤
        (U64.saturatingSum (occupancyShares 1 0 1000000000
          [333333333, 333333333, 333333334])).toNat + 2 :=
  have bounds := saturatingSum_occupancyShares_bounds 1 0 1000000000
    [333333333, 333333333, 333333334] (by decide) (by decide)
  ⟨bounds.1, by decide, bounds.2 (by decide)⟩

end Mjae.Core
