import Mjae.Arith.Floor
import Mjae.Providers.Windows.Calls

/-!
# What an attributed window loses

An attributed window gives every process the burst energy of an equal part of the
window.  The part is rounded down to nanoseconds and its energy to microjoules.
The entries are never worth more than the window; the nanoseconds that are left
over decide whether they lose less than a microjoule for each process.
-/

namespace Mjae.Providers

open Mjae.Arith Mjae.Collections Mjae.Core

namespace WindowsProvider

/-- Every process is paid the same. -/
theorem paidTotal_burstPayments (totalPowerUw idlePowerUw windowNs : UInt64)
    (processes : Vec NvmlProcessInfoV3) :
    paidTotal (burstPayments totalPowerUw idlePowerUw windowNs processes) =
      processes.toList.length *
        (deterministicAttributionUj totalPowerUw idlePowerUw (windowNs / processes.len)
          windowNs).toNat := by
  rw [paidTotal, burstPayments, List.map_map, pidsOf, List.map_map]
  simp only [Function.comp_def, List.map_const', List.sum_replicate]
  rfl

/-- Energy of one part of a window whose whole energy fits a word. -/
theorem toNat_partEnergy {totalPowerUw idlePowerUw windowNs : UInt64}
    (fits : (totalPowerUw.toNat - idlePowerUw.toNat) * windowNs.toNat / 1000000000 ≤ U64.maxNat)
    (processes : Vec NvmlProcessInfoV3) :
    (deterministicAttributionUj totalPowerUw idlePowerUw (windowNs / processes.len)
      windowNs).toNat =
      (totalPowerUw.toNat - idlePowerUw.toNat) *
        (windowNs.toNat / processes.toList.length) / 1000000000 := by
  have part_le : windowNs.toNat / processes.toList.length ≤ windowNs.toNat := Nat.div_le_self _ _
  have part_eq : (windowNs / processes.len).toNat =
      windowNs.toNat / processes.toList.length := by
    rw [UInt64.toNat_div, Vec.toNat_len]
  rw [toNat_deterministicAttributionUj_of_le, part_eq, min_eq_left]
  · exact (Nat.div_le_div_right (Nat.mul_le_mul_left _ part_le)).trans fits
  · rw [UInt64.le_iff_toNat_le, part_eq]
    exact part_le

/-- An attributed window whose energy fits a word returns entries that are worth no
more than the window.  They lose less than a microjoule for each process exactly
when the burst energy of the nanoseconds left over, and the fractions of a
microjoule that the parts are rounded by, come to less than that. -/
theorem attributeWindow_losesLess_iff (policy : GrowthPolicy) (nvml : Nvml)
    (provider queried : WindowsProvider) (registry : AmalgafyRegistry)
    (windowStartNs windowEndNs idlePowerUw totalPowerUw : UInt64)
    (processes : Vec NvmlProcessInfoV3) (ordered : windowStartNs ≤ windowEndNs)
    (read : readPowerUw nvml = .ok totalPowerUw)
    (query : provider.sampleComputeProcesses policy nvml = some (.ok processes, queried))
    (listed : processes.toList ≠ [])
    (fits : (totalPowerUw.toNat - idlePowerUw.toNat) * (windowEndNs.toNat - windowStartNs.toNat) /
      1000000000 ≤ U64.maxNat) :
    ∃ entries next after,
      provider.attributeWindow policy nvml windowStartNs windowEndNs idlePowerUw registry =
        some (.ok entries, next, after) ∧
      entries.length = processes.toList.length ∧
      let burstUw := totalPowerUw.toNat - idlePowerUw.toNat
      let windowNs := windowEndNs - windowStartNs
      let count := processes.toList.length
      let wholeUj := (deterministicAttributionUj totalPowerUw idlePowerUw windowNs windowNs).toNat
      let attributedUj := (entries.map fun entry => entry.attributedEnergyUj.toNat).sum
      (attributedUj ≤ wholeUj ∧ wholeUj < attributedUj + count ↔
        count * (burstUw * (windowNs.toNat / count) % 1000000000) +
          burstUw * (windowNs.toNat % count) < count * 1000000000) := by
  have busy : ¬ processes.isEmpty := by
    rwa [Vec.isEmpty, List.isEmpty_iff]
  rw [UInt64.le_iff_toNat_le] at ordered
  have window_eq : U64.saturatingSub windowEndNs windowStartNs = windowEndNs - windowStartNs := by
    apply UInt64.toNat.inj
    rw [U64.toNat_saturatingSub, U64.toNat_sub_of_le ordered]
  rw [← U64.toNat_sub_of_le ordered] at fits
  rw [attributeWindow_eq read query, if_neg busy, window_eq]
  refine ⟨_, _, _, rfl, ?_, ?_⟩
  · rw [List.length_map, burstPayments, List.length_map, pidsOf, List.length_map]
  · intro burstUw windowNs count wholeUj attributedUj
    have whole_eq : wholeUj = burstUw * windowNs.toNat / 1000000000 := by
      rw [← min_eq_left fits]
      exact toNat_deterministicAttributionUj_of_le (UInt64.le_refl windowNs) _ _
    have attributed_eq : attributedUj =
        count * (burstUw * (windowNs.toNat / count) / 1000000000) := by
      have paid := paidTotal_burstPayments totalPowerUw idlePowerUw windowNs processes
      rw [toNat_partEnergy fits] at paid
      rw [← paid]
      exact congrArg List.sum (List.map_map ..)
    rw [whole_eq, attributed_eq, div_lt_parts_add_iff (by decide)]
    apply and_iff_right
    rw [← parts_mul_div_add_rest_div (by decide) burstUw windowNs.toNat count]
    exact Nat.le_add_right _ _

/-- Two processes divide ten milliseconds evenly. -/
theorem attributeWindow_losesLess_even :
    ∃ entries next after,
      serialProvider.attributeWindow GrowthPolicy.tight
        (drawing 250000 [computeProcess 7, computeProcess 9] (by decide)) 0 10000000 20000000
        AmalgafyRegistry.new = some (.ok entries, next, after) ∧
      (entries.map fun entry => entry.attributedEnergyUj.toNat).sum ≤
        (deterministicAttributionUj 250000000 20000000 10000000 10000000).toNat ∧
      (deterministicAttributionUj 250000000 20000000 10000000 10000000).toNat <
        (entries.map fun entry => entry.attributedEnergyUj.toNat).sum + 2 := by
  rcases attributeWindow_losesLess_iff GrowthPolicy.tight
    (drawing 250000 [computeProcess 7, computeProcess 9] (by decide)) serialProvider _
    AmalgafyRegistry.new 0 10000000 20000000 250000000
    ⟨[computeProcess 7, computeProcess 9], by decide⟩ (by decide) rfl rfl (by decide) (by decide)
    with ⟨entries, next, after, attributed, -, losesLess⟩
  exact ⟨entries, next, after, attributed, losesLess.mpr (by decide)⟩

/-- Three processes on a 300-watt device, a tenth of a second and a nanosecond: two
nanoseconds are left over, and three microjoules are lost. -/
theorem not_attributeWindow_losesLess :
    ¬ ∀ (policy : GrowthPolicy) (nvml : Nvml) (provider queried : WindowsProvider)
      (registry : AmalgafyRegistry) (windowStartNs windowEndNs idlePowerUw totalPowerUw : UInt64)
      (processes : Vec NvmlProcessInfoV3), windowStartNs ≤ windowEndNs →
      readPowerUw nvml = .ok totalPowerUw →
      provider.sampleComputeProcesses policy nvml = some (.ok processes, queried) →
      processes.toList ≠ [] →
      (totalPowerUw.toNat - idlePowerUw.toNat) * (windowEndNs.toNat - windowStartNs.toNat) /
        1000000000 ≤ U64.maxNat →
      ∀ entries next after,
        provider.attributeWindow policy nvml windowStartNs windowEndNs idlePowerUw registry =
          some (.ok entries, next, after) →
        let windowNs := windowEndNs - windowStartNs
        let wholeUj :=
          (deterministicAttributionUj totalPowerUw idlePowerUw windowNs windowNs).toNat
        let attributedUj := (entries.map fun entry => entry.attributedEnergyUj.toNat).sum
        attributedUj ≤ wholeUj ∧ wholeUj < attributedUj + processes.toList.length := by
  intro claim
  have lost := claim GrowthPolicy.tight
    (drawing 300000 [computeProcess 7, computeProcess 8, computeProcess 9] (by decide))
    serialProvider _ AmalgafyRegistry.new 0 100000001 0 300000000
    ⟨[computeProcess 7, computeProcess 8, computeProcess 9], by decide⟩ (by decide) rfl rfl
    (by decide) (by decide) _ _ _ rfl
  exact absurd lost (by decide)

end WindowsProvider

end Mjae.Providers
