import Mjae.Core.Drain
import Mjae.Core.SamplingLoop

/-!
# The Apple Silicon provider

The sampler keeps two baselines: the samples object that the next energy delta
starts from, and the clock reading that the next gap starts from.  Every object
and array that IOReport hands out, and every way it can fail to, is an answer of
`IOReport`.
-/

namespace Mjae.Providers

open Mjae.Arith Mjae.Collections Mjae.Core

/-- Energy counts are reported in nanojoules. -/
def njPerUj : UInt64 :=
  1000

structure AppleEnergyDelta where
  channelName : String
  energyUj : UInt64
  deriving DecidableEq

/-- A samples object, known by the clock at the call that took it. -/
structure SamplesHandle where
  takenAtNs : UInt64
  deriving DecidableEq

structure IoReportState where
  lastObservedAtNs : UInt64
  deriving DecidableEq

structure IoReportHandles where
  previousSamples : SamplesHandle
  deriving DecidableEq

structure AppleSiliconProvider where
  hardwareSignature : String
  pending : List PidEnergyAttribution
  ioreportState : IoReportState
  ioreportHandles : Option IoReportHandles
  activePids : Vec UInt32
  idlePowerUw : UInt64

/-- One channel of a delta: its name, `none` if the reference is null, and its
raw count. -/
structure ChannelSample where
  name : Option (Except String String)
  rawNj : Int64

/-- What IOReport answers during one call. -/
structure IOReport where
  /-- Allocation of the group name. -/
  groupName : Except String Unit
  /-- Whether the channel catalogue is there. -/
  copyChannels : Bool
  /-- Whether the subscription is granted. -/
  createSubscription : Bool
  createSamples : Option SamplesHandle
  /-- The channel array of the delta between two samples objects; every slot of
  the array may be null. -/
  createSamplesDelta :
    SamplesHandle → SamplesHandle → Option (Except String (List (Option ChannelSample)))

/-- What the host answers while one power state is sampled. -/
structure AppleHost where
  sinceEpochNs : Option Nat
  report : IOReport

namespace AppleSiliconProvider

def withIdlePowerUw (hardwareSignature : String) (idlePowerUw : UInt64) :
    AppleSiliconProvider where
  hardwareSignature
  pending := []
  ioreportState := ⟨0⟩
  ioreportHandles := none
  activePids := Vec.empty
  idlePowerUw

def new (hardwareSignature : String) : AppleSiliconProvider :=
  withIdlePowerUw hardwareSignature 0

def setIdlePowerUw (provider : AppleSiliconProvider) (idlePowerUw : UInt64) :
    AppleSiliconProvider :=
  { provider with idlePowerUw }

def setActivePids (provider : AppleSiliconProvider) (pids : Vec UInt32) :
    AppleSiliconProvider :=
  { provider with activePids := pids }

/-- The entry of one slot: null slots, null or unreadable names and counts that
are not positive are passed over. -/
def channelDelta (slot : Option ChannelSample) : Option AppleEnergyDelta :=
  match slot with
  | none => none
  | some sample =>
      match sample.name with
      | some (.ok channelName) =>
          if sample.rawNj ≤ 0 then none
          else some { channelName, energyUj := sample.rawNj.toUInt64 / njPerUj }
      | _ => none

/-- Open the subscription and take the first samples. -/
def seedHandles (report : IOReport) : Except String IoReportHandles :=
  match report.groupName with
  | .error message => .error message
  | .ok () =>
      if ¬ report.copyChannels then
        .error "IOReportCopyChannelsInGroup returned NULL for the Energy Model group"
      else if ¬ report.createSubscription then
        .error "IOReportCreateSubscription failed for the Energy Model group"
      else
        match report.createSamples with
        | none => .error "IOReportCreateSamples (seed) returned NULL"
        | some previousSamples => .ok { previousSamples }

/-- Take new samples and the channels of their delta against the stored ones. -/
def slideHandles (report : IOReport) (handles : IoReportHandles) :
    Except String (List AppleEnergyDelta × IoReportHandles) :=
  match report.createSamples with
  | none => .error "IOReportCreateSamples (current) returned NULL"
  | some current =>
      match report.createSamplesDelta handles.previousSamples current with
      | none => .error "IOReportCreateSamplesDelta returned NULL"
      | some (.error message) => .error message
      | some (.ok channels) =>
          .ok (channels.filterMap channelDelta, { previousSamples := current })

def sampleEnergyModelDelta (report : IOReport) (provider : AppleSiliconProvider) :
    Except String (List AppleEnergyDelta) × AppleSiliconProvider :=
  match provider.ioreportHandles with
  | none =>
      match seedHandles report with
      | .error message => (.error message, provider)
      | .ok handles => (.ok [], { provider with ioreportHandles := some handles })
  | some handles =>
      match slideHandles report handles with
      | .error message => (.error message, provider)
      | .ok (deltas, next) => (.ok deltas, { provider with ioreportHandles := some next })

/-- The wall clock as a word, cut off at the largest one. -/
def observedAtNs (sinceEpochNs : Option Nat) : UInt64 :=
  U64.clamp (sinceEpochNs.getD 0)

def totalUj (deltas : List AppleEnergyDelta) : UInt64 :=
  U64.saturatingSum (deltas.map AppleEnergyDelta.energyUj)

/-- Energy over a gap as a power; an empty gap has none. -/
def activePowerUw (totalUj dtNs : UInt64) : UInt64 :=
  if dtNs = 0 then 0
  else U64.clamp (totalUj.toNat * 1000000000 / dtNs.toNat)

def samplePowerState (host : AppleHost) (provider : AppleSiliconProvider) :
    Except String PowerSnapshot × AppleSiliconProvider :=
  let observedAtNs := observedAtNs host.sinceEpochNs
  match sampleEnergyModelDelta host.report provider with
  | (.error message, next) =>
      (.error ("AppleSiliconProvider::sample_power_state failed to read IOReport: " ++ message),
        next)
  | (.ok deltas, next) =>
      let dtNs :=
        if next.ioreportState.lastObservedAtNs = 0 then 0
        else U64.saturatingSub observedAtNs next.ioreportState.lastObservedAtNs
      let activePowerUw := activePowerUw (totalUj deltas) dtNs
      (.ok {
        observedAtNs
        idlePowerUw := next.idlePowerUw
        activePowerUw
        cpuPowerUw := 0
        gpuPowerUw := 0
        acceleratorPowerUw := activePowerUw
        hardwareSignature := next.hardwareSignature },
        { next with ioreportState := ⟨observedAtNs⟩ })

/-- A snapshot of other hardware is refused. -/
def attributeJoulesToPid (provider : AppleSiliconProvider) (pid : UInt32)
    (windowStartNs windowEndNs : UInt64) (snapshot : PowerSnapshot) :
    Except String PidEnergyAttribution :=
  if snapshot.hardwareSignature ≠ provider.hardwareSignature then
    .error ("AppleSiliconProvider received a PowerSnapshot for different hardware (snapshot: " ++
      snapshot.hardwareSignature ++ ", provider: " ++ provider.hardwareSignature ++ ")")
  else .ok (.baselineBurst pid windowStartNs windowEndNs snapshot)

def enqueueAttribution (provider : AppleSiliconProvider) (attribution : PidEnergyAttribution) :
    AppleSiliconProvider :=
  { provider with pending := provider.pending ++ [attribution] }

def syncRegistry (provider : AppleSiliconProvider) (registry : AmalgafyRegistry) :
    UInt64 × AppleSiliconProvider × AmalgafyRegistry :=
  let drained := drainPending provider.pending registry
  (drained.1, { provider with pending := [] }, drained.2)

instance : EnergyProvider AppleSiliconProvider AppleHost where
  samplePowerState := samplePowerState
  activePids := AppleSiliconProvider.activePids

/-! ## What one call does to the baselines -/

/-- Whether IOReport answers every step of a delta, given the stored samples. -/
def delivers (report : IOReport) : Option IoReportHandles → Bool
  | none => report.groupName.isOk && report.copyChannels && report.createSubscription &&
      report.createSamples.isSome
  | some handles => (report.createSamples.bind fun current =>
      report.createSamplesDelta handles.previousSamples current).any Except.isOk

theorem seedHandles_of_not_delivers {report : IOReport} (fails : delivers report none = false) :
    ∃ message, seedHandles report = .error message := by
  rw [seedHandles]
  cases group : report.groupName with
  | error message => exact ⟨message, rfl⟩
  | ok =>
      dsimp only
      split
      · exact ⟨_, rfl⟩
      · rename_i copied
        split
        · exact ⟨_, rfl⟩
        · rename_i subscribed
          cases samples : report.createSamples with
          | none => exact ⟨_, rfl⟩
          | some current =>
              simp only [not_not] at copied subscribed
              rw [delivers, group, copied, subscribed, samples] at fails
              contradiction

theorem seedHandles_of_delivers {report : IOReport} (answered : delivers report none) :
    ∃ current, report.createSamples = some current ∧ seedHandles report = .ok ⟨current⟩ := by
  rw [delivers, Bool.and_eq_true, Bool.and_eq_true, Bool.and_eq_true] at answered
  rcases answered with ⟨⟨⟨group, copied⟩, subscribed⟩, sampled⟩
  rcases Option.isSome_iff_exists.mp sampled with ⟨current, samples⟩
  refine ⟨current, samples, ?_⟩
  rw [seedHandles]
  cases allocated : report.groupName with
  | error message =>
      rw [allocated] at group
      contradiction
  | ok => simp [copied, subscribed, samples]

theorem slideHandles_of_not_delivers {report : IOReport} {handles : IoReportHandles}
    (fails : delivers report (some handles) = false) :
    ∃ message, slideHandles report handles = .error message := by
  rw [slideHandles]
  cases samples : report.createSamples with
  | none => exact ⟨_, rfl⟩
  | some current =>
      rw [delivers, samples, Option.bind_some] at fails
      cases delta : report.createSamplesDelta handles.previousSamples current with
      | none =>
          simp only [delta]
          exact ⟨_, rfl⟩
      | some outcome =>
          rw [delta] at fails
          cases outcome with
          | error message =>
              simp only [delta]
              exact ⟨message, rfl⟩
          | ok channels => contradiction

theorem slideHandles_of_delivers {report : IOReport} {handles : IoReportHandles}
    (answered : delivers report (some handles)) :
    ∃ current channels, report.createSamples = some current ∧
      report.createSamplesDelta handles.previousSamples current = some (.ok channels) ∧
      slideHandles report handles = .ok (channels.filterMap channelDelta, ⟨current⟩) := by
  rw [delivers] at answered
  rcases (Option.any_eq_true _ _).mp answered with ⟨outcome, bound, succeeded⟩
  rcases Option.bind_eq_some_iff.mp bound with ⟨current, samples, delta⟩
  cases outcome with
  | error message => contradiction
  | ok channels =>
      refine ⟨current, channels, samples, delta, ?_⟩
      simp only [slideHandles, samples, delta]

/-- A failed delta stores nothing. -/
theorem sampleEnergyModelDelta_of_not_delivers {report : IOReport}
    {provider : AppleSiliconProvider} (fails : delivers report provider.ioreportHandles = false) :
    ∃ message, sampleEnergyModelDelta report provider = (.error message, provider) := by
  rw [sampleEnergyModelDelta]
  cases stored : provider.ioreportHandles with
  | none =>
      rw [stored] at fails
      rcases seedHandles_of_not_delivers fails with ⟨message, failed⟩
      simp only [failed]
      exact ⟨message, rfl⟩
  | some handles =>
      rw [stored] at fails
      rcases slideHandles_of_not_delivers fails with ⟨message, failed⟩
      simp only [failed]
      exact ⟨message, rfl⟩

/-- A delta that goes through stores the samples it took, and reports the
channels since the stored ones, if there were any. -/
theorem sampleEnergyModelDelta_of_delivers {report : IOReport}
    {provider : AppleSiliconProvider} (answered : delivers report provider.ioreportHandles) :
    ∃ current deltas, report.createSamples = some current ∧
      sampleEnergyModelDelta report provider =
        (.ok deltas, { provider with ioreportHandles := some ⟨current⟩ }) ∧
      ∀ handles, provider.ioreportHandles = some handles →
        ∃ channels, report.createSamplesDelta handles.previousSamples current =
          some (.ok channels) ∧ deltas = channels.filterMap channelDelta := by
  rw [sampleEnergyModelDelta]
  cases stored : provider.ioreportHandles with
  | none =>
      rw [stored] at answered
      rcases seedHandles_of_delivers answered with ⟨current, samples, seeded⟩
      simp only [seeded]
      exact ⟨current, [], samples, rfl, nofun⟩
  | some handles =>
      rw [stored] at answered
      rcases slideHandles_of_delivers answered with ⟨current, channels, samples, delta, slid⟩
      simp only [slid]
      refine ⟨current, _, samples, rfl, ?_⟩
      rintro other ⟨⟩
      exact ⟨channels, delta, rfl⟩

theorem samplePowerState_of_not_delivers {host : AppleHost} {provider : AppleSiliconProvider}
    (fails : delivers host.report provider.ioreportHandles = false) :
    ∃ message, samplePowerState host provider = (.error message, provider) := by
  rcases sampleEnergyModelDelta_of_not_delivers fails with ⟨message, failed⟩
  rw [samplePowerState, failed]
  exact ⟨_, rfl⟩

/-- A sample that goes through moves both baselines to its own call, and reports
the energy since the stored samples over the gap since the stored clock reading. -/
theorem samplePowerState_of_delivers {host : AppleHost} {provider : AppleSiliconProvider}
    (answered : delivers host.report provider.ioreportHandles) :
    ∃ current snapshot, host.report.createSamples = some current ∧
      samplePowerState host provider =
        (.ok snapshot, { provider with
          ioreportHandles := some ⟨current⟩
          ioreportState := ⟨observedAtNs host.sinceEpochNs⟩ }) ∧
      ∀ handles, provider.ioreportHandles = some handles →
        provider.ioreportState.lastObservedAtNs ≠ 0 →
        ∃ channels, host.report.createSamplesDelta handles.previousSamples current =
          some (.ok channels) ∧
          snapshot.activePowerUw = activePowerUw (totalUj (channels.filterMap channelDelta))
            (U64.saturatingSub (observedAtNs host.sinceEpochNs)
              provider.ioreportState.lastObservedAtNs) := by
  rcases sampleEnergyModelDelta_of_delivers answered with
    ⟨current, deltas, samples, delta_eq, since⟩
  rw [samplePowerState, delta_eq]
  refine ⟨current, _, samples, rfl, ?_⟩
  intro handles stored observed
  rcases since handles stored with ⟨channels, channels_eq, deltas_eq⟩
  refine ⟨channels, channels_eq, ?_⟩
  simp only [if_neg observed, deltas_eq]

end AppleSiliconProvider

end Mjae.Providers
