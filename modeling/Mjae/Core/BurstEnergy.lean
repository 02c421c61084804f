import Mjae.Core.Attribution

/-!
# Monotonicity of the burst energy

More active power, less idle power and a longer window never lower the energy,
also where the window reaches its next whole second and wherever a product stops
at the largest word.
-/

namespace Mjae.Core

open Mjae.Arith

theorem windowEnergyUj_le_of_power_le {powerUw powerUw' : UInt64} (stronger : powerUw ≤ powerUw')
    (windowNs : UInt64) : windowEnergyUj powerUw windowNs ≤ windowEnergyUj powerUw' windowNs := by
  rw [UInt64.le_iff_toNat_le] at stronger ⊢
  rw [toNat_windowEnergyUj, toNat_windowEnergyUj]
  exact splitProduct_le_of_rate_le stronger _ _ _

theorem windowEnergyUj_le_of_window_le {windowNs windowNs' : UInt64} (longer : windowNs ≤ windowNs')
    (powerUw : UInt64) : windowEnergyUj powerUw windowNs ≤ windowEnergyUj powerUw windowNs' := by
  rw [UInt64.le_iff_toNat_le] at longer ⊢
  rw [toNat_windowEnergyUj, toNat_windowEnergyUj]
  exact splitProduct_le_of_time_le (by decide) longer _ _

theorem baselineBurstPowerUw_le {activePowerUw activePowerUw' idlePowerUw idlePowerUw' : UInt64}
    (active : activePowerUw ≤ activePowerUw') (idle : idlePowerUw' ≤ idlePowerUw) :
    baselineBurstPowerUw activePowerUw idlePowerUw ≤
      baselineBurstPowerUw activePowerUw' idlePowerUw' := by
  rw [UInt64.le_iff_toNat_le] at active idle ⊢
  rw [toNat_baselineBurstPowerUw, toNat_baselineBurstPowerUw]
  exact (Nat.sub_le_sub_right active _).trans (Nat.sub_le_sub_left idle _)

/-- The burst energy grows with the active power and the window, and falls with the
idle power. -/
theorem burstEnergyUj_mono
    (activePowerUw activePowerUw' idlePowerUw idlePowerUw' windowNs windowNs' : UInt64)
    (active : activePowerUw ≤ activePowerUw') (idle : idlePowerUw' ≤ idlePowerUw)
    (window : windowNs ≤ windowNs') :
    burstEnergyUj activePowerUw idlePowerUw windowNs ≤
      burstEnergyUj activePowerUw' idlePowerUw' windowNs' := by
  have stronger := baselineBurstPowerUw_le active idle
  calc
    burstEnergyUj activePowerUw idlePowerUw windowNs ≤
        burstEnergyUj activePowerUw' idlePowerUw' windowNs :=
      windowEnergyUj_le_of_power_le stronger _
    _ ≤ burstEnergyUj activePowerUw' idlePowerUw' windowNs' :=
      windowEnergyUj_le_of_window_le window _

/-- One nanosecond into the next second, at a power whose sub-second product stops
at the largest word. -/
theorem burstEnergyUj_mono_nextSecond :
    burstEnergyUj 18446744073709551615 1 999999999 ≤
      burstEnergyUj 18446744073709551615 0 1000000000 :=
  burstEnergyUj_mono _ _ _ _ _ _ (by decide) (by decide) (by decide)

end Mjae.Core
