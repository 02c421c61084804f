import Mjae.Core.Standing
import Mjae.Providers.Linux.Fences
import Mjae.Providers.Linux.Rapl

/-!
# Who leads over a long run

Sampling leaves the active processes of the Linux provider as they are, and it lists them
in ascending order.  So the lower of two processes leads, by a unit for every billed tick
whose remainder ends between the two.
-/

namespace Mjae.Providers

open Mjae.Arith Mjae.Core

namespace LinuxProvider

theorem activePidSet_samplePowerState (host : Host) (provider : LinuxProvider) :
    (samplePowerState host provider).2.activePidSet = provider.activePidSet := by
  rw [samplePowerState, readRaplPowerUw]
  cases readWord host defaultRaplEnergyPath <;> rfl

theorem stands : Stands LinuxProvider := by
  intro host provider
  simp only [EnergyProvider.activePids, EnergyProvider.samplePowerState,
    activePidSet_samplePowerState]

theorem idxOf_activePidSet_lt {provider : LinuxProvider} {low high : UInt32}
    (low_mem : low ∈ provider.activePidSet) (high_mem : high ∈ provider.activePidSet)
    (below : low < high) :
    provider.activePidSet.idxOf low < provider.activePidSet.idxOf high := by
  have ordered := List.pairwise_iff_getElem.mp provider.pairwise_activePidSet
  rcases Nat.lt_trichotomy (provider.activePidSet.idxOf low) (provider.activePidSet.idxOf high)
    with before | same | after
  · exact before
  · rw [List.idxOf_inj low_mem] at same
    exact absurd below (same ▸ UInt32.lt_irrefl low)
  · have above := ordered _ _ (List.idxOf_lt_length_iff.mpr high_mem)
      (List.idxOf_lt_length_iff.mpr low_mem) after
    rw [List.getElem_idxOf, List.getElem_idxOf] at above
    exact absurd below (UInt32.lt_asymm above)

/-- Over every run of the loop on a Linux provider with active processes, whatever its reads
and clocks answer: only active processes have a slot; each slot is the clamped sum of
the parts of the billed ticks at the position of the process; and the lower of two
processes leads, by no more than a unit for every billed tick whose remainder ends
between the two. -/
theorem startSamplingLoop_standing (provider : LinuxProvider) (hosts : List Host)
    (active : provider.activePidSet ≠ []) :
    ∃ final, startSamplingLoop provider AmalgafyRegistry.new hosts = some final ∧
      (∀ pid, pid ∉ provider.activePidSet → final.registry.get pid = none) ∧
      (∀ pid ∈ provider.activePidSet, (final.registry.slot pid).toNat =
        min ((billedAmounts provider hosts).map
          (positionUj provider.activePidSet.length (provider.activePidSet.idxOf pid))).sum
          U64.maxNat) ∧
      ∀ low ∈ provider.activePidSet, ∀ high ∈ provider.activePidSet, low < high →
        (final.registry.slot high).toNat ≤ (final.registry.slot low).toNat ∧
        (final.registry.slot low).toNat ≤ (final.registry.slot high).toNat +
          (billedAmounts provider hosts).countP fun deltaUj => decide
            (provider.activePidSet.idxOf low < deltaUj % provider.activePidSet.length ∧
              deltaUj % provider.activePidSet.length ≤ provider.activePidSet.idxOf high) := by
  have nodup : provider.activePidSet.Nodup := provider.activePids.nodup_keys
  rcases startSamplingLoop_of_stands stands provider hosts active nodup with
    ⟨final, reached, unlisted, slots⟩
  refine ⟨final, reached, unlisted, slots, ?_⟩
  intro low low_mem high high_mem below
  have lead := sum_positionUj (idxOf_activePidSet_lt low_mem high_mem below)
    provider.activePidSet.length (billedAmounts provider hosts)
  have near := near_of_min_add ⟨Nat.le.intro lead.symm, lead.le⟩ 0 U64.maxNat
  rw [Nat.zero_add, Nat.zero_add] at near
  rw [slots low low_mem, slots high high_mem]
  exact near

/-- Two ticks bill three microjoules each, and the lower of two processes gets two of them. -/
theorem startSamplingLoop_standing_pair :
    ∃ final,
      startSamplingLoop (((new "NV-H100").markPidActive 9).markPidActive 7) AmalgafyRegistry.new
        [powercapHost "90\n" "99\n" 1000000000, powercapHost "93\n" "99\n" 1100000000,
          powercapHost "96\n" "99\n" 1200000000] = some final ∧
      (final.registry.slot 7).toNat ≤ (final.registry.slot 9).toNat + 2 := by
  rcases startSamplingLoop_standing (((new "NV-H100").markPidActive 9).markPidActive 7)
      [powercapHost "90\n" "99\n" 1000000000, powercapHost "93\n" "99\n" 1100000000,
        powercapHost "96\n" "99\n" 1200000000] (by decide) with
    ⟨final, reached, -, -, leads⟩
  refine ⟨final, reached, ?_⟩
  exact (leads 7 (by decide) 9 (by decide) (by decide)).2.trans
    (Nat.add_le_add_left (by decide) _)

end LinuxProvider

end Mjae.Providers
