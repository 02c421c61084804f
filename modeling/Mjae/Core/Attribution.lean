import Mjae.Arith.SplitProduct
import Mjae.Arith.Word

/-!
# Energy arithmetic

The closed-form conversions between power, time and energy.  Powers are
microwatts, times nanoseconds and energies microjoules, all 64-bit words.

The equal-split window energy divides a saturating product, so it stays below
the exact floor of power times time and meets it as long as the sub-second part
of the product fits a word.  The deterministic attribution takes the product in
128 bits and is exact up to the cap.
-/

namespace Mjae.Core

open Mjae.Arith

def nanosecondsPerSecond : UInt64 :=
  1000000000

def baselineBurstPowerUw (activePowerUw idlePowerUw : UInt64) : UInt64 :=
  U64.saturatingSub activePowerUw idlePowerUw

def windowEnergyUj (powerUw windowNs : UInt64) : UInt64 :=
  let wholeSeconds := windowNs / nanosecondsPerSecond
  let remainderNs := windowNs % nanosecondsPerSecond
  U64.saturatingAdd (U64.saturatingMul powerUw wholeSeconds)
    (U64.saturatingMul powerUw remainderNs / nanosecondsPerSecond)

def burstEnergyUj (activePowerUw idlePowerUw windowNs : UInt64) : UInt64 :=
  windowEnergyUj (baselineBurstPowerUw activePowerUw idlePowerUw) windowNs

/-- Burst energy of a process that held the accelerator for part of the busy time. -/
def deterministicAttributionUj (totalPowerUw idlePowerUw processOnAcceleratorNs
    totalBusyNs : UInt64) : UInt64 :=
  if totalBusyNs = 0 then
    0
  else
    let burstPowerUw := U64.saturatingSub totalPowerUw idlePowerUw
    let procNs := min processOnAcceleratorNs totalBusyNs
    -- the product is taken in 128 bits, where it cannot overflow
    let numerator := burstPowerUw.toNat * procNs.toNat
    U64.clamp (numerator / nanosecondsPerSecond.toNat)

/-- Milliwatts times milliseconds, in microjoules. -/
def nvmlWindowEnergyUj (powerMw dtMs : UInt64) : UInt64 :=
  U64.clamp (powerMw.toNat * dtMs.toNat)

@[simp]
theorem toNat_nanosecondsPerSecond : nanosecondsPerSecond.toNat = 1000000000 :=
  rfl

@[simp]
theorem toNat_baselineBurstPowerUw (activePowerUw idlePowerUw : UInt64) :
    (baselineBurstPowerUw activePowerUw idlePowerUw).toNat =
      activePowerUw.toNat - idlePowerUw.toNat :=
  U64.toNat_saturatingSub _ _

/-- The window energy is a power over whole seconds and a sub-second rest. -/
theorem toNat_windowEnergyUj (powerUw windowNs : UInt64) :
    (windowEnergyUj powerUw windowNs).toNat =
      splitProduct U64.maxNat 1000000000 powerUw.toNat windowNs.toNat := by
  simp [windowEnergyUj, splitProduct]

/-- The window energy never exceeds power times time. -/
theorem windowEnergyUj_le (powerUw windowNs : UInt64) :
    (windowEnergyUj powerUw windowNs).toNat ≤
      powerUw.toNat * windowNs.toNat / 1000000000 := by
  rw [toNat_windowEnergyUj]
  exact splitProduct_le (by decide) _ _ _

/-- As long as the sub-second product fits a word, the window energy is power
times time, cut off at the largest word. -/
theorem windowEnergyUj_eq_of_fits {powerUw windowNs : UInt64}
    (fits : powerUw.toNat * (windowNs.toNat % 1000000000) ≤ U64.maxNat) :
    (windowEnergyUj powerUw windowNs).toNat =
      min (powerUw.toNat * windowNs.toNat / 1000000000) U64.maxNat := by
  rw [toNat_windowEnergyUj, splitProduct_eq_of_fits (by decide) fits]

/-- Energy over a gap, turned into a power and back, does not grow. -/
theorem windowEnergyUj_gapPower_le (energyUj dtNs : UInt64) :
    windowEnergyUj
        (if dtNs = 0 then 0 else U64.clamp (energyUj.toNat * 1000000000 / dtNs.toNat)) dtNs ≤
      energyUj := by
  rw [UInt64.le_iff_toNat_le]
  apply (windowEnergyUj_le _ _).trans
  split
  · simp
  · rw [U64.toNat_clamp]
    calc
      _ ≤ energyUj.toNat * 1000000000 / dtNs.toNat * dtNs.toNat / 1000000000 :=
        Nat.div_le_div_right (Nat.mul_le_mul_right _ (min_le_left _ _))
      _ ≤ energyUj.toNat * 1000000000 / 1000000000 :=
        Nat.div_le_div_right (Nat.div_mul_le_self _ _)
      _ = energyUj.toNat := Nat.mul_div_cancel _ (by decide)

theorem toNat_deterministicAttributionUj {totalBusyNs : UInt64} (busy : 0 < totalBusyNs)
    (totalPowerUw idlePowerUw processOnAcceleratorNs : UInt64) :
    (deterministicAttributionUj totalPowerUw idlePowerUw processOnAcceleratorNs
      totalBusyNs).toNat =
      min ((totalPowerUw.toNat - idlePowerUw.toNat) *
        min processOnAcceleratorNs.toNat totalBusyNs.toNat / 1000000000) U64.maxNat := by
  have nonzero : totalBusyNs ≠ 0 := by
    rintro rfl
    exact absurd busy (by decide)
  rw [deterministicAttributionUj, if_neg nonzero, U64.toNat_clamp, U64.toNat_saturatingSub,
    UInt64.toNat_min, toNat_nanosecondsPerSecond]

/-- A part of the busy time, whether there is any busy time or none. -/
theorem toNat_deterministicAttributionUj_of_le {processOnAcceleratorNs totalBusyNs : UInt64}
    (within : processOnAcceleratorNs ≤ totalBusyNs) (totalPowerUw idlePowerUw : UInt64) :
    (deterministicAttributionUj totalPowerUw idlePowerUw processOnAcceleratorNs
      totalBusyNs).toNat =
      min ((totalPowerUw.toNat - idlePowerUw.toNat) * processOnAcceleratorNs.toNat / 1000000000)
        U64.maxNat := by
  rw [UInt64.le_iff_toNat_le] at within
  by_cases busy : 0 < totalBusyNs
  · rw [toNat_deterministicAttributionUj busy, min_eq_left within]
  · rw [U64.pos_iff_toNat_pos, Nat.not_lt, Nat.le_zero] at busy
    have idle : totalBusyNs = 0 := UInt64.toNat.inj busy
    rw [busy, Nat.le_zero] at within
    rw [deterministicAttributionUj, if_pos idle, within, Nat.mul_zero, Nat.zero_div, Nat.zero_min]
    rfl

@[simp]
theorem toNat_nvmlWindowEnergyUj (powerMw dtMs : UInt64) :
    (nvmlWindowEnergyUj powerMw dtMs).toNat = min (powerMw.toNat * dtMs.toNat) U64.maxNat :=
  U64.toNat_clamp _

/-! ## The two forms of the burst energy -/

/-- Saturating the sub-second product is harmless as long as its seconds are not
affected, or the whole seconds alone reach the cap. -/
theorem windowEnergyUj_eq_iff (powerUw windowNs : UInt64) :
    (windowEnergyUj powerUw windowNs).toNat =
        min (powerUw.toNat * windowNs.toNat / 1000000000) U64.maxNat ↔
      powerUw.toNat * (windowNs.toNat % 1000000000) / 1000000000 ≤ U64.maxNat / 1000000000 ∨
        U64.maxNat ≤
          powerUw.toNat * (windowNs.toNat / 1000000000) + U64.maxNat / 1000000000 := by
  by_cases fits : powerUw.toNat * (windowNs.toNat % 1000000000) ≤ U64.maxNat
  · apply iff_of_true (windowEnergyUj_eq_of_fits fits)
    left
    exact Nat.div_le_div_right fits
  · have clipped : U64.maxNat / 1000000000 ≤
        powerUw.toNat * (windowNs.toNat % 1000000000) / 1000000000 :=
      Nat.div_le_div_right (Nat.le_of_not_le fits)
    rw [toNat_windowEnergyUj, splitProduct_eq, min_eq_right (Nat.le_of_not_le fits),
      ← wholeUnits_add_rest (by decide)]
    generalize powerUw.toNat * (windowNs.toNat / 1000000000) = wholeSeconds
    generalize powerUw.toNat * (windowNs.toNat % 1000000000) / 1000000000 = rest at clipped ⊢
    generalize U64.maxNat / 1000000000 = cap at clipped ⊢
    constructor
    · intro agree
      by_cases reached : U64.maxNat ≤ wholeSeconds + cap
      · exact Or.inr reached
      · left
        rw [min_eq_left (by omega)] at agree
        rcases Nat.le_total (wholeSeconds + rest) U64.maxNat with below | above
        · rw [min_eq_left below] at agree
          omega
        · rw [min_eq_right above] at agree
          omega
    · rintro (unaffected | reached)
      · rw [le_antisymm unaffected clipped]
      · rw [min_eq_right reached, min_eq_right (by omega)]

/-- The deterministic attribution and the burst energy agree, and are the capped
floor of power times time, exactly when the sub-second energy stays within the
seconds of a word or the whole seconds alone reach the cap. -/
theorem deterministicAttributionUj_eq_burstEnergyUj_iff
    (totalPowerUw idlePowerUw processOnAcceleratorNs totalBusyNs : UInt64)
    (busy : 0 < totalBusyNs) :
    (deterministicAttributionUj totalPowerUw idlePowerUw processOnAcceleratorNs totalBusyNs =
        burstEnergyUj totalPowerUw idlePowerUw (min processOnAcceleratorNs totalBusyNs) ∧
      (deterministicAttributionUj totalPowerUw idlePowerUw processOnAcceleratorNs
        totalBusyNs).toNat =
        min U64.maxNat ((totalPowerUw.toNat - idlePowerUw.toNat) *
          (min processOnAcceleratorNs totalBusyNs).toNat / 1000000000) ∧
      (burstEnergyUj totalPowerUw idlePowerUw
        (min processOnAcceleratorNs totalBusyNs)).toNat =
        min U64.maxNat ((totalPowerUw.toNat - idlePowerUw.toNat) *
          (min processOnAcceleratorNs totalBusyNs).toNat / 1000000000)) ↔
      (totalPowerUw.toNat - idlePowerUw.toNat) *
          ((min processOnAcceleratorNs totalBusyNs).toNat % 1000000000) / 1000000000 ≤
          U64.maxNat / 1000000000 ∨
        U64.maxNat ≤ (totalPowerUw.toNat - idlePowerUw.toNat) *
          ((min processOnAcceleratorNs totalBusyNs).toNat / 1000000000) +
          U64.maxNat / 1000000000 := by
  have exact_eq := toNat_deterministicAttributionUj busy totalPowerUw idlePowerUw
    processOnAcceleratorNs
  have agrees := windowEnergyUj_eq_iff (baselineBurstPowerUw totalPowerUw idlePowerUw)
    (min processOnAcceleratorNs totalBusyNs)
  rw [toNat_baselineBurstPowerUw] at agrees
  rw [← UInt64.toNat_min, min_comm] at exact_eq
  rw [← agrees, burstEnergyUj, min_comm _ U64.maxNat]
  constructor
  · rintro ⟨-, -, burst_eq⟩
    exact burst_eq
  · intro burst_eq
    exact ⟨UInt64.toNat.inj (exact_eq.trans burst_eq.symm), exact_eq, burst_eq⟩

/-- Five and a half watts over half of a two-second busy window. -/
theorem deterministicAttributionUj_eq_burstEnergyUj_half :
    deterministicAttributionUj 8500000 3000000 1000000000 2000000000 =
        burstEnergyUj 8500000 3000000 1000000000 ∧
      (deterministicAttributionUj 8500000 3000000 1000000000 2000000000).toNat = 5500000 ∧
      (burstEnergyUj 8500000 3000000 1000000000).toNat = 5500000 :=
  (deterministicAttributionUj_eq_burstEnergyUj_iff 8500000 3000000 1000000000 2000000000
    (by decide)).mpr (by decide)

/-- The two forms differ once a sub-second product leaves the word: twenty-five
kilowatts over nine tenths of a second. -/
theorem not_deterministicAttributionUj_eq_burstEnergyUj :
    ¬ ∀ totalPowerUw idlePowerUw processOnAcceleratorNs totalBusyNs : UInt64,
      0 < totalBusyNs →
      deterministicAttributionUj totalPowerUw idlePowerUw processOnAcceleratorNs totalBusyNs =
        burstEnergyUj totalPowerUw idlePowerUw (min processOnAcceleratorNs totalBusyNs) ∧
      (deterministicAttributionUj totalPowerUw idlePowerUw processOnAcceleratorNs
        totalBusyNs).toNat =
        min U64.maxNat ((totalPowerUw.toNat - idlePowerUw.toNat) *
          (min processOnAcceleratorNs totalBusyNs).toNat / 1000000000) ∧
      (burstEnergyUj totalPowerUw idlePowerUw
        (min processOnAcceleratorNs totalBusyNs)).toNat =
        min U64.maxNat ((totalPowerUw.toNat - idlePowerUw.toNat) *
          (min processOnAcceleratorNs totalBusyNs).toNat / 1000000000) := by
  intro claim
  have agree := (claim 25000000000 0 900000000 900000000 (by decide)).1
  exact absurd agree (by decide)

end Mjae.Core
