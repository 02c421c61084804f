import Mjae.Core.BurstEnergy
import Mjae.Providers.AppleSilicon.PowerFigure

/-!
# What the Apple loop bills

Every tick of the loop that is billed has taken a delta against the samples of the tick
before.  The energy goes through a power figure and back, less the idle baseline, and
is rounded down on the way, so that the loop never bills more than the meter of the
machine has counted.
-/

namespace Mjae.Providers

open Mjae.Arith Mjae.Collections Mjae.Core

namespace AppleSiliconProvider

/-- Nanojoules that a delta reports, over all channels. -/
def reportedNj (channels : List (Option ChannelSample)) : Nat :=
  (channels.map fun slot => slot.elim 0 fun sample => sample.rawNj.toNatClampNeg).sum

/-- Samples that the successful calls of a run store. -/
def storedSamples (provider : AppleSiliconProvider) : List AppleHost → List SamplesHandle
  | [] => []
  | host :: rest =>
      let sampled := samplePowerState host provider
      if sampled.1.isOk then
        (sampled.2.ioreportHandles.map IoReportHandles.previousSamples).toList ++
          storedSamples sampled.2 rest
      else storedSamples sampled.2 rest

/-- The delta between two samples objects is at most what the meter counts between
them. -/
def Counts (meterNj : SamplesHandle → Nat) (host : AppleHost) : Prop :=
  ∀ previous current channels,
    host.report.createSamplesDelta previous current = some (.ok channels) →
      reportedNj channels + meterNj previous ≤ meterNj current

/-! ## One sample -/

/-- A slot is worth at most its raw count. -/
theorem channelDelta_le {slot : Option ChannelSample} {delta : AppleEnergyDelta}
    (read : channelDelta slot = some delta) :
    delta.energyUj.toNat * 1000 ≤ slot.elim 0 fun sample => sample.rawNj.toNatClampNeg := by
  cases slot with
  | none => cases read
  | some sample =>
      rw [channelDelta] at read
      split at read
      · split at read
        · cases read
        · rename_i positive
          cases read
          have nonneg : 0 ≤ sample.rawNj := Int64.le_of_lt (Int64.not_le.mp positive)
          rw [Option.elim_some, ← Int64.toNat_toUInt64_of_le nonneg, UInt64.toNat_div]
          exact Nat.div_mul_le_self _ _
      · cases read

/-- The total of a delta is at most what its channels report. -/
theorem totalUj_le (channels : List (Option ChannelSample)) :
    (totalUj (channels.filterMap channelDelta)).toNat * 1000 ≤ reportedNj channels := by
  rw [totalUj, U64.toNat_saturatingSum, reportedNj]
  apply (Nat.mul_le_mul_right 1000 (min_le_left _ _)).trans
  induction channels with
  | nil => exact Nat.le_refl _
  | cons slot rest ih =>
      rw [List.map_cons, List.sum_cons]
      cases read : channelDelta slot with
      | none =>
          rw [List.filterMap_cons_none read]
          exact ih.trans (Nat.le_add_left _ _)
      | some delta =>
          rw [List.filterMap_cons_some read, List.map_cons, List.map_cons, List.sum_cons,
            Nat.add_mul]
          exact Nat.add_le_add (channelDelta_le read) ih

/-- A sample that goes through stores its samples and its clock reading, and spreads the
energy of the delta over the gap. -/
theorem samplePowerState_ok {host : AppleHost} {provider : AppleSiliconProvider}
    (answered : delivers host.report provider.ioreportHandles) :
    ∃ current deltas snapshot,
      samplePowerState host provider =
        (.ok snapshot, { provider with
          ioreportHandles := some ⟨current⟩
          ioreportState := ⟨observedAtNs host.sinceEpochNs⟩ }) ∧
      snapshot.observedAtNs = observedAtNs host.sinceEpochNs ∧
      snapshot.activePowerUw = activePowerUw (totalUj deltas)
        (gapNs (observedAtNs host.sinceEpochNs) provider.ioreportState.lastObservedAtNs) ∧
      ∀ handles, provider.ioreportHandles = some handles →
        ∃ channels, host.report.createSamplesDelta handles.previousSamples current =
          some (.ok channels) ∧ deltas = channels.filterMap channelDelta := by
  rcases sampleEnergyModelDelta_of_delivers answered with
    ⟨current, deltas, -, delta_eq, since⟩
  rw [samplePowerState, delta_eq]
  exact ⟨current, deltas, _, rfl, rfl, rfl, since⟩

/-- The loop bills at most the energy of the delta that the later snapshot is made of. -/
theorem snapshotDeltaUj_le {previous snapshot : PowerSnapshot} {energyUj lastObservedAtNs : UInt64}
    (stamped : previous.observedAtNs = lastObservedAtNs)
    (active : snapshot.activePowerUw =
      activePowerUw energyUj (gapNs snapshot.observedAtNs lastObservedAtNs)) :
    snapshotDeltaUj previous snapshot ≤ energyUj := by
  have burst : baselineBurstPowerUw snapshot.activePowerUw snapshot.idlePowerUw ≤
      snapshot.activePowerUw := by
    rw [UInt64.le_iff_toNat_le, toNat_baselineBurstPowerUw]
    exact Nat.sub_le _ _
  apply UInt64.le_trans (windowEnergyUj_le_of_power_le burst _)
  rw [active, stamped, gapNs]
  split
  · -- a clock that stood at zero gives no power
    have powerless : activePowerUw energyUj 0 = 0 := rfl
    rw [powerless, UInt64.le_iff_toNat_le]
    apply (windowEnergyUj_le _ _).trans
    simp
  · exact windowEnergyUj_activePowerUw_le energyUj _

/-! ## The loop -/

theorem sampleOutcomes_cons (provider : AppleSiliconProvider) (host : AppleHost)
    (rest : List AppleHost) :
    sampleOutcomes provider (host :: rest) =
      (samplePowerState host provider).1.toOption ::
        sampleOutcomes (samplePowerState host provider).2 rest :=
  rfl

/-- From stored samples on, the loop bills at most what the meter counts from there.  The
invariant: a previous snapshot carries the clock reading of the stored samples. -/
theorem billed_le_of_stored {meterNj : SamplesHandle → Nat} (hosts : List AppleHost)
    (provider : AppleSiliconProvider) (stored : SamplesHandle) (previous : Option PowerSnapshot)
    (handles : provider.ioreportHandles = some ⟨stored⟩)
    (stamped : ∀ snapshot ∈ previous,
      snapshot.observedAtNs = provider.ioreportState.lastObservedAtNs)
    (counts : ∀ host ∈ hosts, Counts meterNj host) :
    ((consecutiveDeltas (previous :: sampleOutcomes provider hosts)).map UInt64.toNat).sum * 1000 +
        meterNj stored ≤
      meterNj ((storedSamples provider hosts).getLastD stored) := by
  induction hosts generalizing provider stored previous with
  | nil => simp [sampleOutcomes, consecutiveDeltas, storedSamples]
  | cons host rest ih =>
      have restCounts : ∀ later ∈ rest, Counts meterNj later := fun later listed =>
        counts later (List.mem_cons_of_mem host listed)
      rw [sampleOutcomes_cons, sum_consecutiveDeltas_cons_cons, storedSamples]
      by_cases answered : delivers host.report provider.ioreportHandles
      · rcases samplePowerState_ok answered with
          ⟨current, deltas, snapshot, sampled, observed_eq, active_eq, since⟩
        rcases since _ handles with ⟨channels, delta_eq, deltas_eq⟩
        have counted := counts host List.mem_cons_self _ _ _ delta_eq
        have tail := ih { provider with
            ioreportHandles := some ⟨current⟩
            ioreportState := ⟨observedAtNs host.sinceEpochNs⟩ } current (some snapshot) rfl
          (by rintro _ ⟨⟩; exact observed_eq) restCounts
        have billed_le : (billedDelta previous (some snapshot)).elim 0 UInt64.toNat * 1000 ≤
            reportedNj channels := by
          cases previous with
          | none => simp [billedDelta]
          | some earlier =>
              rw [← observed_eq] at active_eq
              have bound := UInt64.le_iff_toNat_le.mp
                (snapshotDeltaUj_le (stamped earlier rfl) active_eq)
              rw [deltas_eq] at bound
              exact (Nat.mul_le_mul_right 1000 bound).trans (totalUj_le channels)
        rw [sampled]
        simp only [Except.toOption, Except.isOk, Except.toBool, if_true, Option.map_some,
          Option.toList_some, List.singleton_append, List.getLastD_cons]
        rw [Nat.add_mul, Nat.add_right_comm]
        have counted_le := (Nat.add_le_add_right billed_le _).trans counted
        exact (Nat.add_le_add_right counted_le _).trans ((Nat.add_comm _ _).trans_le tail)
      · rcases samplePowerState_of_not_delivers (Bool.eq_false_iff.mpr answered) with
          ⟨message, sampled⟩
        have tail := ih provider stored none handles (by simp) restCounts
        rw [sampled]
        cases previous <;>
          simpa [Except.toOption, Except.isOk, Except.toBool, billedDelta] using tail

/-- The first successful sample of the loop bills nothing. -/
theorem billed_le {meterNj : SamplesHandle → Nat} (hosts : List AppleHost)
    (provider : AppleSiliconProvider) (counts : ∀ host ∈ hosts, Counts meterNj host) :
    ((consecutiveDeltas (none :: sampleOutcomes provider hosts)).map UInt64.toNat).sum * 1000 +
        ((storedSamples provider hosts).head?.elim 0 meterNj) ≤
      ((storedSamples provider hosts).getLast?.elim 0 meterNj) := by
  induction hosts with
  | nil => simp [sampleOutcomes, consecutiveDeltas, storedSamples]
  | cons host rest ih =>
      have restCounts : ∀ later ∈ rest, Counts meterNj later := fun later listed =>
        counts later (List.mem_cons_of_mem host listed)
      rw [sampleOutcomes_cons, sum_consecutiveDeltas_cons_cons, storedSamples]
      by_cases answered : delivers host.report provider.ioreportHandles
      · rcases samplePowerState_ok answered with
          ⟨current, deltas, snapshot, sampled, observed_eq, -, -⟩
        have tail := billed_le_of_stored rest { provider with
            ioreportHandles := some ⟨current⟩
            ioreportState := ⟨observedAtNs host.sinceEpochNs⟩ } current (some snapshot) rfl
          (by rintro _ ⟨⟩; exact observed_eq) restCounts
        rw [sampled]
        simpa [Except.toOption, Except.isOk, Except.toBool, billedDelta, List.getLast?_cons]
          using tail
      · rcases samplePowerState_of_not_delivers (Bool.eq_false_iff.mpr answered) with
          ⟨message, sampled⟩
        rw [sampled]
        simpa [Except.toOption, Except.isOk, Except.toBool, billedDelta] using ih restCounts

/-- Whatever calls of IOReport fail, whatever the clock shows, and whatever idle
baseline and samples the loop starts with, it bills at most what the meter counts
between the first and the last samples that it has stored. -/
theorem startSamplingLoop_le_metered (meterNj : SamplesHandle → Nat)
    (provider : AppleSiliconProvider) (hosts : List AppleHost)
    (counts : ∀ host ∈ hosts, Counts meterNj host) :
    ∃ final, startSamplingLoop provider AmalgafyRegistry.new hosts = some final ∧
      final.registry.totalMicroJoules.toNat * 1000 +
          (storedSamples provider hosts).head?.elim 0 meterNj ≤
        (storedSamples provider hosts).getLast?.elim 0 meterNj := by
  rcases startSamplingLoop_spec provider hosts with ⟨final, final_eq, total_eq, -⟩
  have billed := billed_le hosts provider counts
  refine ⟨final, final_eq, ?_⟩
  rw [total_eq, U64.toNat_saturatingSum, ← consecutiveDeltas_none_cons]
  apply (Nat.add_le_add_right (Nat.mul_le_mul_right 1000 (min_le_left _ _)) _).trans billed

/-- A machine that reports five microjoules whenever its clock has moved that far. -/
def steadyHost (atNs : UInt64) : AppleHost where
  sinceEpochNs := some atNs.toNat
  report :=
    { groupName := .ok ()
      copyChannels := true
      createSubscription := true
      createSamples := some ⟨atNs⟩
      createSamplesDelta previous current :=
        if 5000 + previous.takenAtNs.toNat ≤ current.takenAtNs.toNat then
          some (.ok [some ⟨some (.ok "GPU Energy"), 5000⟩])
        else none }

theorem counts_steadyHost (atNs : UInt64) :
    Counts (fun samples => samples.takenAtNs.toNat) (steadyHost atNs) := by
  intro previous current channels delta
  rcases Option.ite_none_right_eq_some.mp delta with ⟨moved, channels_eq⟩
  cases channels_eq
  exact moved

/-- The clock steps back once, where no delta is delivered. -/
theorem startSamplingLoop_le_metered_steady :
    ∃ final, startSamplingLoop (new "J314s") AmalgafyRegistry.new
        [steadyHost 1000000, steadyHost 2000000, steadyHost 1500000, steadyHost 3000000,
          steadyHost 4000000] = some final ∧
      final.registry.totalMicroJoules.toNat * 1000 + 1000000 ≤ 4000000 :=
  startSamplingLoop_le_metered (fun samples => samples.takenAtNs.toNat) (new "J314s")
    [steadyHost 1000000, steadyHost 2000000, steadyHost 1500000, steadyHost 3000000,
      steadyHost 4000000] (by simp [counts_steadyHost])

end AppleSiliconProvider

end Mjae.Providers
