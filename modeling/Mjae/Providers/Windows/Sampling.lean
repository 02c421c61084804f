import Mjae.Core.BilledTicks
import Mjae.Providers.Windows.Calls

/-!
# The sampling loop on Windows

The loop goes on once a power sample has returned, and stops for good at a sample whose
process query does not return.  A run that gets through bills every window to the processes
that NVML has listed last, at the power that it has read at the end of the window.
-/

namespace Mjae.Providers

open Mjae.Arith Mjae.Collections Mjae.Core Mjae.Transition

namespace WindowsProvider

/-- The snapshot of a device that draws `powerMw`. -/
def deviceSnapshot (hardwareSignature : String) (nvml : Nvml) (powerMw : UInt32) :
    PowerSnapshot where
  observedAtNs := U64.clamp (nvml.sinceEpochNs.getD 0)
  idlePowerUw := 0
  activePowerUw := microwatts powerMw
  cpuPowerUw := 0
  gpuPowerUw := microwatts powerMw
  acceleratorPowerUw := microwatts powerMw
  hardwareSignature

/-- A power sample that has returned could not read the power, or its query has returned. -/
theorem samplePowerState_eq_some {policy : GrowthPolicy} {nvml : Nvml}
    {provider : WindowsProvider} {sampled : Except String PowerSnapshot × WindowsProvider}
    (returned : samplePowerState policy nvml provider = some sampled) :
    (∃ text, nvml.powerUsage = .error text ∧ sampled.1.toOption = none ∧
        sampled.2 = provider) ∨
      ∃ powerMw processes queried, nvml.powerUsage = .ok powerMw ∧
        sampleComputeProcesses policy nvml provider = some (processes, queried) ∧
        sampled.1.toOption = some (deviceSnapshot provider.hardwareSignature nvml powerMw) ∧
        sampled.2 = queried.refreshed (U64.clamp (nvml.sinceEpochNs.getD 0)) processes := by
  cases power : nvml.powerUsage with
  | error text =>
      simp only [samplePowerState, readPowerUw, readPowerMw, power, checkNvml, Except.map,
        Option.some.injEq] at returned
      rw [← returned]
      exact Or.inl ⟨text, rfl, rfl, rfl⟩
  | ok powerMw =>
      simp only [samplePowerState, readPowerUw, readPowerMw, power, checkNvml, Except.map,
        Option.bind_eq_bind] at returned
      rcases Option.bind_eq_some_iff.mp returned with ⟨⟨processes, queried⟩, query, sampled_eq⟩
      rcases of_sampleComputeProcesses query with ⟨scratch, rfl⟩
      right
      refine ⟨powerMw, processes, _, rfl, query, ?_⟩
      cases processes <;> cases sampled_eq <;> exact ⟨rfl, rfl⟩

/-- A power sample does not return exactly if it has read the power and its query does not
return. -/
theorem samplePowerState_eq_none_iff {policy : GrowthPolicy} {nvml : Nvml}
    {provider : WindowsProvider} :
    samplePowerState policy nvml provider = none ↔
      (∃ powerMw, nvml.powerUsage = .ok powerMw) ∧
        sampleComputeProcesses policy nvml provider = none := by
  cases power : nvml.powerUsage with
  | error text => simp [samplePowerState, readPowerUw, readPowerMw, power, checkNvml, Except.map]
  | ok powerMw =>
      simp only [samplePowerState, readPowerUw, readPowerMw, power, checkNvml, Except.map,
        Option.bind_eq_bind]
      cases sampleComputeProcesses policy nvml provider with
      | none => simp
      | some queried => simp

end WindowsProvider

/-- A provider whose active processes fit a vector. -/
structure ListedProvider where
  provider : WindowsProvider
  fits : provider.activePids.length ≤ U64.maxNat

namespace ListedProvider

open WindowsProvider

def activePids (listed : ListedProvider) : Vec UInt32 :=
  ⟨listed.provider.activePids, listed.fits⟩

theorem length_pidsOf_le (processes : Vec NvmlProcessInfoV3) :
    (pidsOf processes).length ≤ U64.maxNat := by
  rw [pidsOf, List.length_map]
  exact processes.length_le

/-- The processes that NVML lists, as a vector. -/
def pidVec (processes : Vec NvmlProcessInfoV3) : Vec UInt32 :=
  ⟨pidsOf processes, length_pidsOf_le processes⟩

theorem fits_samplePowerState {policy : GrowthPolicy} {nvml : Nvml}
    {provider : WindowsProvider} {sampled : Except String PowerSnapshot × WindowsProvider}
    (fits : provider.activePids.length ≤ U64.maxNat)
    (returned : WindowsProvider.samplePowerState policy nvml provider = some sampled) :
    sampled.2.activePids.length ≤ U64.maxNat := by
  rcases samplePowerState_eq_some returned with
    ⟨-, -, -, next_eq⟩ | ⟨-, processes, queried, -, query, -, next_eq⟩
  · rw [next_eq]
    exact fits
  · rcases of_sampleComputeProcesses query with ⟨scratch, rfl⟩
    rw [next_eq]
    cases processes with
    | ok processes => exact length_pidsOf_le processes
    | error message => exact fits

/-- A power sample, once it has returned. -/
def samplePowerState (policy : GrowthPolicy) (nvml : Nvml) (listed : ListedProvider) :
    Option (Except String PowerSnapshot × ListedProvider) :=
  (WindowsProvider.samplePowerState policy nvml listed.provider).attach.map fun sampled =>
    (sampled.1.1, ⟨sampled.1.2, fits_samplePowerState listed.fits sampled.2⟩)

/-- What the loop body is given is a sample that has returned. -/
instance : EnergyProvider ListedProvider (Except String PowerSnapshot × ListedProvider) where
  samplePowerState sampled _ := sampled
  activePids := activePids

/-- One iteration of the loop, which does not come to an end if its sample does not. -/
def tick (policy : GrowthPolicy) (state : SamplingLoop ListedProvider) (nvml : Nvml) :
    Option (SamplingLoop ListedProvider) :=
  (samplePowerState policy nvml state.provider).bind (Core.tick state)

def startSamplingLoop (policy : GrowthPolicy) (listed : ListedProvider)
    (registry : AmalgafyRegistry) (nvmls : List Nvml) : Option (SamplingLoop ListedProvider) :=
  run (tick policy) (SamplingLoop.start listed registry) nvmls

/-- Nothing but a sample that does not return stops the loop. -/
theorem tick_eq_none_iff {policy : GrowthPolicy} {state : SamplingLoop ListedProvider}
    {nvml : Nvml} : tick policy state nvml = none ↔
      WindowsProvider.samplePowerState policy nvml state.provider.provider = none := by
  have goes_on (sampled : Except String PowerSnapshot × ListedProvider) :
      Core.tick state sampled ≠ none := by
    rcases tick_eq_addAll state sampled with ⟨next, ticked, -⟩
    rw [ticked]
    exact Option.some_ne_none next
  rw [tick, Option.bind_eq_none_iff]
  constructor
  · intro stops
    have missing : samplePowerState policy nvml state.provider = none := by
      rw [Option.eq_none_iff_forall_ne_some]
      intro sampled returned
      exact goes_on sampled (stops sampled returned)
    rwa [samplePowerState, Option.map_eq_none_iff, Option.attach_eq_none_iff] at missing
  · intro missing sampled returned
    rcases Option.map_eq_some_iff.mp returned with ⟨⟨plain, plain_eq⟩, -⟩
    rw [missing] at plain_eq
    cases plain_eq

/-! ## Readings -/

/-- What a sample has learnt: the snapshot, if the power was read, and the processes, if
they were listed. -/
structure Reading where
  outcome : Option PowerSnapshot
  listedPids : Option (Vec UInt32)

/-- The processes that are active after a reading. -/
def Reading.active (told : Reading) (pids : Vec UInt32) : Vec UInt32 :=
  told.listedPids.getD pids

/-- The reading that a sample takes with a scratch buffer, and the buffer that it leaves.
There is none if the process query does not return. -/
def reading (policy : GrowthPolicy) (hardwareSignature : String)
    (scratch : Buffer NvmlProcessInfoV3) (nvml : Nvml) :
    Option (Reading × Buffer NvmlProcessInfoV3) :=
  match nvml.powerUsage with
  | .error _ => some (⟨none, none⟩, scratch)
  | .ok powerMw =>
      (queryLoop policy nvml.computeRunningProcesses scratch).map fun (processes, scratch) =>
        (⟨some (deviceSnapshot hardwareSignature nvml powerMw), processes.toOption.map pidVec⟩,
          scratch)

/-- The readings of consecutive samples, each with the buffer that the one before has
left, up to the first sample whose query does not return. -/
def readings (policy : GrowthPolicy) (hardwareSignature : String) :
    Buffer NvmlProcessInfoV3 → List Nvml → List Reading
  | _, [] => []
  | scratch, nvml :: rest =>
      match reading policy hardwareSignature scratch nvml with
      | some (told, scratch) => told :: readings policy hardwareSignature scratch rest
      | none => []

/-- A sample returns exactly if there is a reading, and has learnt it. -/
theorem samplePowerState_rel (policy : GrowthPolicy) (nvml : Nvml) (listed : ListedProvider) :
    Option.Rel (fun (sampled : Except String PowerSnapshot × ListedProvider)
        (told : Reading × Buffer NvmlProcessInfoV3) =>
        sampled.1.toOption = told.1.outcome ∧
          sampled.2.activePids = told.1.active listed.activePids ∧
          sampled.2.provider.hardwareSignature = listed.provider.hardwareSignature ∧
          sampled.2.provider.computeScratch = told.2)
      (samplePowerState policy nvml listed)
      (reading policy listed.provider.hardwareSignature listed.provider.computeScratch nvml) := by
  cases returned : samplePowerState policy nvml listed with
  | none =>
      rw [samplePowerState, Option.map_eq_none_iff, Option.attach_eq_none_iff,
        samplePowerState_eq_none_iff] at returned
      rcases returned with ⟨⟨powerMw, powered⟩, unanswered⟩
      rw [sampleComputeProcesses, Option.map_eq_none_iff] at unanswered
      rw [reading, powered]
      dsimp only
      rw [unanswered]
      exact Option.Rel.none
  | some sampled =>
      rcases Option.map_eq_some_iff.mp returned with ⟨⟨⟨outcome, next⟩, plain⟩, -, rfl⟩
      rcases samplePowerState_eq_some plain with
        ⟨text, unpowered, outcome_eq, next_eq⟩ |
        ⟨powerMw, processes, queried, powered, query, outcome_eq, next_eq⟩
      · dsimp only at outcome_eq next_eq
        subst next_eq
        rw [reading, unpowered]
        exact Option.Rel.some ⟨outcome_eq, rfl, rfl, rfl⟩
      · rcases Option.map_eq_some_iff.mp query with ⟨⟨answer, left⟩, looped, queried_eq⟩
        cases queried_eq
        dsimp only at outcome_eq next_eq
        subst next_eq
        rw [reading, powered]
        dsimp only
        rw [looped]
        cases answer <;> exact Option.Rel.some ⟨outcome_eq, rfl, rfl, rfl⟩

/-! ## Runs -/

/-- The ticks that bill, told by the readings alone: each bills the processes that were
listed last. -/
def readTicks (previous : Option PowerSnapshot) (pids : Vec UInt32) :
    List Reading → List BilledTick
  | [] => []
  | told :: rest =>
      let billed := (billedWindow previous told.outcome).map fun window =>
        ⟨window, told.active pids⟩
      billed.toList ++ readTicks told.outcome (told.active pids) rest

/-- The readings that a loop at `state` takes of the samples to come. -/
def readingsFrom (policy : GrowthPolicy) (state : SamplingLoop ListedProvider)
    (nvmls : List Nvml) : List Reading :=
  readings policy state.provider.provider.hardwareSignature
    state.provider.provider.computeScratch nvmls

/-- A tick pays for what its reading bills, and the next one reads on. -/
theorem tick_eq_some {policy : GrowthPolicy} {state next : SamplingLoop ListedProvider}
    {nvml : Nvml} (ticked : tick policy state nvml = some next) :
    ∃ told : Reading,
      (∀ rest, readingsFrom policy state (nvml :: rest) =
        told :: readingsFrom policy next rest) ∧
      next.previousSnapshot = told.outcome ∧
      next.provider.activePids = told.active state.provider.activePids ∧
      next.registry = state.registry.addAll
        (((billedWindow state.previousSnapshot told.outcome).map fun window =>
          (⟨window, told.active state.provider.activePids⟩ : BilledTick)).toList.flatMap
            BilledTick.payments) := by
  rcases Option.bind_eq_some_iff.mp ticked with ⟨sampled, returned, core⟩
  have both := samplePowerState_rel policy nvml state.provider
  rw [returned] at both
  generalize took : reading policy state.provider.provider.hardwareSignature
    state.provider.provider.computeScratch nvml = taken at both
  cases both with
  | @some _ told learnt =>
      rcases learnt with ⟨outcome_eq, pids_eq, signature_eq, scratch_eq⟩
      rcases tick_eq_addAll state sampled with
        ⟨next', ticked', provider_eq, previous_eq, registry_eq⟩
      rw [ticked'] at core
      cases core
      change next.provider = sampled.2 at provider_eq
      change next.previousSnapshot = sampled.1.toOption at previous_eq
      refine ⟨told.1, ?_, previous_eq.trans outcome_eq, ?_, ?_⟩
      · intro rest
        rw [readingsFrom, readings, took, readingsFrom, provider_eq, signature_eq, scratch_eq]
      · rw [provider_eq, pids_eq]
      · rw [registry_eq, billedDelta_eq, previous_eq, outcome_eq, provider_eq, ← pids_eq]
        cases billedWindow state.previousSnapshot told.1.outcome <;> rfl

/-- Where a sample does not return, there is no reading. -/
theorem readingsFrom_of_tick_eq_none {policy : GrowthPolicy} {state : SamplingLoop ListedProvider}
    {nvml : Nvml} (stuck : tick policy state nvml = none) (rest : List Nvml) :
    readingsFrom policy state (nvml :: rest) = [] := by
  have both := samplePowerState_rel policy nvml state.provider
  rw [samplePowerState, Option.attach_eq_none_iff.mpr (tick_eq_none_iff.mp stuck)] at both
  rw [readingsFrom, readings]
  generalize reading policy state.provider.provider.hardwareSignature
    state.provider.provider.computeScratch nvml = taken at both ⊢
  cases both
  rfl

/-- The loop goes on for as long as there are readings, and pays for their ticks. -/
theorem exists_run_of_readingsFrom (policy : GrowthPolicy) (state : SamplingLoop ListedProvider)
    (nvmls : List Nvml) :
    ∃ early reached, run (tick policy) state early = some reached ∧
      readingsFrom policy state early = readingsFrom policy state nvmls ∧
      (readingsFrom policy state nvmls).length = early.length ∧
      reached.registry = state.registry.addAll
        ((readTicks state.previousSnapshot state.provider.activePids
          (readingsFrom policy state nvmls)).flatMap BilledTick.payments) ∧
      (early = nvmls ∨ ∃ nvml later, nvmls = early ++ nvml :: later ∧
        tick policy reached nvml = none) := by
  induction nvmls generalizing state with
  | nil => exact ⟨[], state, rfl, rfl, rfl, rfl, Or.inl rfl⟩
  | cons nvml rest ih =>
      cases ticked : tick policy state nvml with
      | none =>
          rw [readingsFrom_of_tick_eq_none ticked]
          exact ⟨[], state, rfl, rfl, rfl, rfl, Or.inr ⟨nvml, rest, rfl, ticked⟩⟩
      | some next =>
          rcases tick_eq_some ticked with
            ⟨told, readings_eq, previous_eq, pids_eq, registry_eq⟩
          rcases ih next with ⟨early, reached, onward, same, length_eq, paid_eq, ends⟩
          refine ⟨nvml :: early, reached, ?_, ?_, ?_, ?_, ?_⟩
          · exact run_cons_eq_some_iff.mpr ⟨next, ticked, onward⟩
          · rw [readings_eq, readings_eq, same]
          · rw [readings_eq, List.length_cons, length_eq, List.length_cons]
          · rw [paid_eq, registry_eq, previous_eq, pids_eq, readings_eq, readTicks,
              List.flatMap_append, AmalgafyRegistry.addAll_append]
          · rcases ends with rfl | ⟨other, later, rfl, stuck⟩
            · exact Or.inl rfl
            · exact Or.inr ⟨other, later, rfl, stuck⟩

/-- A reading of the power is a snapshot of the device. -/
theorem exists_powered_of_mem_readings {policy : GrowthPolicy} {hardwareSignature : String}
    {scratch : Buffer NvmlProcessInfoV3} {nvmls : List Nvml} {told : Reading}
    (taken : told ∈ readings policy hardwareSignature scratch nvmls) {snapshot : PowerSnapshot}
    (outcome_eq : told.outcome = some snapshot) :
    ∃ nvml ∈ nvmls, ∃ powerMw, nvml.powerUsage = .ok powerMw ∧
      snapshot = deviceSnapshot hardwareSignature nvml powerMw := by
  induction nvmls generalizing scratch with
  | nil => cases taken
  | cons nvml rest ih =>
      rw [readings] at taken
      cases first : reading policy hardwareSignature scratch nvml with
      | none =>
          rw [first] at taken
          cases taken
      | some read =>
          rw [first] at taken
          rcases List.mem_cons.mp taken with rfl | later
          · refine ⟨nvml, List.mem_cons_self, ?_⟩
            cases power : nvml.powerUsage with
            | error text =>
                rw [reading, power] at first
                cases first
                cases outcome_eq
            | ok powerMw =>
                rw [reading, power] at first
                rcases Option.map_eq_some_iff.mp first with ⟨queried, -, read_eq⟩
                cases read_eq
                exact ⟨powerMw, rfl, (Option.some.inj outcome_eq).symm⟩
          · rcases ih later with ⟨other, listed, powered⟩
            exact ⟨other, List.mem_cons_of_mem nvml listed, powered⟩

/-- A window that bills ends at a snapshot of its run. -/
theorem exists_reading_of_mem_readTicks {previous : Option PowerSnapshot} {pids : Vec UInt32}
    {taken : List Reading} {billed : BilledTick}
    (listed : billed ∈ readTicks previous pids taken) :
    ∃ told ∈ taken, told.outcome = some billed.window.snapshot := by
  induction taken generalizing previous pids with
  | nil => cases listed
  | cons told rest ih =>
      rw [readTicks] at listed
      rcases List.mem_append.mp listed with own | later
      · refine ⟨told, List.mem_cons_self, ?_⟩
        rw [Option.mem_toList] at own
        rcases Option.map_eq_some_iff.mp own with ⟨window, window_eq, rfl⟩
        cases outcome : told.outcome with
        | none =>
            rw [outcome] at window_eq
            cases previous <;> cases window_eq
        | some snapshot =>
            rw [outcome] at window_eq
            cases previous with
            | none => cases window_eq
            | some earlier =>
                cases window_eq
                rfl
      · rcases ih later with ⟨other, member, outcome_eq⟩
        exact ⟨other, List.mem_cons_of_mem told member, outcome_eq⟩

/-- Below 18.4 kW no sub-second part of a window leaves its word. -/
theorem moderate_of_le {window : Window} {hardwareSignature : String} {nvml : Nvml}
    {powerMw : UInt32} (ends : window.snapshot = deviceSnapshot hardwareSignature nvml powerMw)
    (most : powerMw.toNat ≤ 18446744) : window.Moderate := by
  have burst_eq : window.burstPowerUw.toNat = powerMw.toNat * 1000 := by
    rw [Window.burstPowerUw, toNat_baselineBurstPowerUw, ends]
    exact toNat_microwatts powerMw
  rw [Window.Moderate, burst_eq, U64.maxNat]
  omega

/-- A run of the loop on an empty registry goes on for as long as the samples give
readings.  The registry then bills the ticks of these readings, each to the processes
listed last; and the run has used up all samples, or stops at one that has read the power
and whose process query does not return. -/
theorem startSamplingLoop_readings (policy : GrowthPolicy) (listed : ListedProvider)
    (nvmls : List Nvml) :
    ∃ early reached,
      startSamplingLoop policy listed AmalgafyRegistry.new early = some reached ∧
      (readings policy listed.provider.hardwareSignature listed.provider.computeScratch
        nvmls).length = early.length ∧
      Bills (readTicks none listed.activePids
        (readings policy listed.provider.hardwareSignature listed.provider.computeScratch
          nvmls)) reached.registry ∧
      ((∀ nvml ∈ early, ∀ powerMw, nvml.powerUsage = .ok powerMw →
          powerMw.toNat ≤ 18446744) →
        ∀ billed ∈ readTicks none listed.activePids
          (readings policy listed.provider.hardwareSignature listed.provider.computeScratch
            nvmls), billed.window.Moderate) ∧
      (early = nvmls ∨ ∃ nvml later, nvmls = early ++ nvml :: later ∧
        (∃ powerMw, nvml.powerUsage = .ok powerMw) ∧
        sampleComputeProcesses policy nvml reached.provider.provider = none) := by
  rcases exists_run_of_readingsFrom policy (SamplingLoop.start listed AmalgafyRegistry.new)
    nvmls with ⟨early, reached, passed, same, length_eq, registry_eq, ends⟩
  refine ⟨early, reached, passed, length_eq, ?_, ?_, ?_⟩
  · rw [registry_eq]
    exact bills_addAll _
  · intro below billed member
    rcases exists_reading_of_mem_readTicks member with ⟨told, taken, outcome_eq⟩
    change told ∈ readingsFrom policy (SamplingLoop.start listed AmalgafyRegistry.new) nvmls
      at taken
    rw [← same] at taken
    rcases exists_powered_of_mem_readings taken outcome_eq with
      ⟨nvml, device, powerMw, powered, snapshot_eq⟩
    exact moderate_of_le snapshot_eq (below nvml device powerMw powered)
  · rcases ends with all | ⟨nvml, later, nvmls_eq, stuck⟩
    · exact Or.inl all
    · have unanswered := samplePowerState_eq_none_iff.mp (tick_eq_none_iff.mp stuck)
      exact Or.inr ⟨nvml, later, nvmls_eq, unanswered⟩

end ListedProvider

end Mjae.Providers
