import Mjae.Providers.AppleSilicon

/-!
# The two baselines of the Apple sampler

A power state is energy over time, so the samples object and the clock reading
that it is measured from must come from one call.  Sampling a power state moves
both.  Sampling the energy delta alone, which is public as well, moves only the
samples; the two stay together exactly as long as no such call goes through.
-/

namespace Mjae.Providers

open Mjae.Arith Mjae.Collections Mjae.Core Mjae.Transition

/-- The public calls that touch the state. -/
inductive AppleCall where
  | samplePowerState (host : AppleHost)
  | sampleEnergyModelDelta (report : IOReport)
  | setIdlePowerUw (idlePowerUw : UInt64)
  | setActivePids (pids : Vec UInt32)

namespace AppleCall

/-- The clock and the samples object of a call show the time of the call. -/
def StampedAt (atNs : UInt64) : AppleCall → Prop
  | .samplePowerState host =>
      AppleSiliconProvider.observedAtNs host.sinceEpochNs = atNs ∧
        ∀ current ∈ host.report.createSamples, current.takenAtNs = atNs
  | .sampleEnergyModelDelta report =>
      ∀ current ∈ report.createSamples, current.takenAtNs = atNs
  | _ => True

end AppleCall

/-- A call together with its time. -/
structure TimedCall where
  atNs : UInt64
  call : AppleCall
  stamped : call.StampedAt atNs

/-- The provider, and the time of its last successful power sample. -/
structure WatchedSampler where
  provider : AppleSiliconProvider
  lastSampleNs : Option UInt64

namespace WatchedSampler

open AppleSiliconProvider

def apply (state : WatchedSampler) (timed : TimedCall) : WatchedSampler :=
  match timed.call with
  | .samplePowerState host =>
      let sampled := state.provider.samplePowerState host
      ⟨sampled.2, if sampled.1.isOk then some timed.atNs else state.lastSampleNs⟩
  | .sampleEnergyModelDelta report =>
      { state with provider := (sampleEnergyModelDelta report state.provider).2 }
  | .setIdlePowerUw idlePowerUw =>
      { state with provider := state.provider.setIdlePowerUw idlePowerUw }
  | .setActivePids pids => { state with provider := state.provider.setActivePids pids }

/-- A new provider after the listed calls. -/
def after (hardwareSignature : String) (idlePowerUw : UInt64) (calls : List TimedCall) :
    WatchedSampler :=
  calls.foldl apply ⟨withIdlePowerUw hardwareSignature idlePowerUw, none⟩

/-- Time of the call that took the stored samples, zero before the first. -/
def samplesAtNs (state : WatchedSampler) : UInt64 :=
  (state.provider.ioreportHandles.map fun handles => handles.previousSamples.takenAtNs).getD 0

/-- The stored samples and the stored clock reading are of one call. -/
def Together (state : WatchedSampler) : Prop :=
  state.samplesAtNs = state.provider.ioreportState.lastObservedAtNs

/-- If the call samples a power state, and one was sampled before, then the energy
it sums up and the gap it divides by are both those since that one. -/
def SpansSince (state : WatchedSampler) (timed : TimedCall) : Prop :=
  ∀ host snapshot sinceNs, timed.call = .samplePowerState host →
    (state.provider.samplePowerState host).1 = .ok snapshot →
    state.lastSampleNs = some sinceNs →
    ∃ handles current channels,
      state.provider.ioreportHandles = some handles ∧
      host.report.createSamples = some current ∧
      handles.previousSamples.takenAtNs = sinceNs ∧ current.takenAtNs = timed.atNs ∧
      host.report.createSamplesDelta handles.previousSamples current = some (.ok channels) ∧
      sinceNs < timed.atNs ∧
      snapshot.activePowerUw =
        activePowerUw (totalUj (channels.filterMap channelDelta)) (timed.atNs - sinceNs)

/-- The call samples the energy delta alone, and IOReport answers every step. -/
def SlidesAlone (state : WatchedSampler) (timed : TimedCall) : Prop :=
  ∃ report, timed.call = .sampleEnergyModelDelta report ∧
    delivers report state.provider.ioreportHandles

/-! ## One call -/

theorem after_snoc (hardwareSignature : String) (idlePowerUw : UInt64)
    (past : List TimedCall) (timed : TimedCall) :
    after hardwareSignature idlePowerUw (past ++ [timed]) =
      (after hardwareSignature idlePowerUw past).apply timed := by
  rw [after, List.foldl_append]
  rfl

/-- Only a delta that is sampled alone slides alone. -/
theorem not_slidesAlone {state : WatchedSampler} {timed : TimedCall}
    (other : ∀ report, timed.call ≠ .sampleEnergyModelDelta report) :
    ¬ state.SlidesAlone timed := by
  rintro ⟨report, report_eq, -⟩
  exact other report report_eq

theorem apply_samplePowerState_of_not_delivers {state : WatchedSampler} {host : AppleHost}
    {atNs : UInt64} {stamped : AppleCall.StampedAt atNs (.samplePowerState host)}
    (fails : delivers host.report state.provider.ioreportHandles = false) :
    state.apply ⟨atNs, .samplePowerState host, stamped⟩ = state := by
  rcases samplePowerState_of_not_delivers fails with ⟨message, failed⟩
  rw [apply]
  simp only [failed]
  rfl

theorem apply_samplePowerState_of_delivers {state : WatchedSampler} {host : AppleHost}
    {atNs : UInt64} {stamped : AppleCall.StampedAt atNs (.samplePowerState host)}
    (answered : delivers host.report state.provider.ioreportHandles) :
    ∃ current ∈ host.report.createSamples,
      state.apply ⟨atNs, .samplePowerState host, stamped⟩ =
        ⟨{ state.provider with
            ioreportHandles := some ⟨current⟩
            ioreportState := ⟨observedAtNs host.sinceEpochNs⟩ }, some atNs⟩ := by
  rcases samplePowerState_of_delivers answered with ⟨current, snapshot, samples, sampled, -⟩
  refine ⟨current, samples, ?_⟩
  rw [apply]
  simp only [sampled]
  rfl

theorem apply_sampleEnergyModelDelta_of_not_delivers {state : WatchedSampler} {report : IOReport}
    {atNs : UInt64} {stamped : AppleCall.StampedAt atNs (.sampleEnergyModelDelta report)}
    (fails : delivers report state.provider.ioreportHandles = false) :
    state.apply ⟨atNs, .sampleEnergyModelDelta report, stamped⟩ = state := by
  rcases sampleEnergyModelDelta_of_not_delivers fails with ⟨message, failed⟩
  rw [apply]
  simp only [failed]

theorem apply_sampleEnergyModelDelta_of_delivers {state : WatchedSampler} {report : IOReport}
    {atNs : UInt64} {stamped : AppleCall.StampedAt atNs (.sampleEnergyModelDelta report)}
    (answered : delivers report state.provider.ioreportHandles) :
    ∃ current ∈ report.createSamples,
      state.apply ⟨atNs, .sampleEnergyModelDelta report, stamped⟩ =
        { state with provider := { state.provider with ioreportHandles := some ⟨current⟩ } } := by
  rcases sampleEnergyModelDelta_of_delivers answered with ⟨current, deltas, samples, sampled, -⟩
  refine ⟨current, samples, ?_⟩
  rw [apply]
  simp only [sampled]

/-- What a call does to the two baselines: a power sample that goes through moves
both, a delta that goes through moves the samples, any other call moves neither. -/
theorem apply_cases (state : WatchedSampler) (timed : TimedCall) :
    ((state.apply timed).samplesAtNs = timed.atNs ∧
      (state.apply timed).provider.ioreportState.lastObservedAtNs = timed.atNs ∧
      (state.apply timed).lastSampleNs = some timed.atNs ∧ ¬ state.SlidesAlone timed) ∨
    ((state.apply timed).samplesAtNs = timed.atNs ∧
      (state.apply timed).provider.ioreportState = state.provider.ioreportState ∧
      (state.apply timed).lastSampleNs = state.lastSampleNs ∧ state.SlidesAlone timed) ∨
    ((state.apply timed).samplesAtNs = state.samplesAtNs ∧
      (state.apply timed).provider.ioreportState = state.provider.ioreportState ∧
      (state.apply timed).lastSampleNs = state.lastSampleNs ∧ ¬ state.SlidesAlone timed) := by
  obtain ⟨atNs, call, stamped⟩ := timed
  cases call with
  | samplePowerState host =>
      cases answered : delivers host.report state.provider.ioreportHandles with
      | false =>
          right
          right
          rw [apply_samplePowerState_of_not_delivers answered]
          exact ⟨rfl, rfl, rfl, not_slidesAlone nofun⟩
      | true =>
          rcases apply_samplePowerState_of_delivers answered with ⟨current, samples, applied⟩
          left
          rw [applied]
          exact ⟨stamped.2 current samples, stamped.1, rfl, not_slidesAlone nofun⟩
  | sampleEnergyModelDelta report =>
      cases answered : delivers report state.provider.ioreportHandles with
      | false =>
          right
          right
          rw [apply_sampleEnergyModelDelta_of_not_delivers answered]
          refine ⟨rfl, rfl, rfl, ?_⟩
          rintro ⟨other, other_eq, delivered⟩
          cases other_eq
          rw [answered] at delivered
          contradiction
      | true =>
          rcases apply_sampleEnergyModelDelta_of_delivers answered with
            ⟨current, samples, applied⟩
          right
          left
          rw [applied]
          exact ⟨stamped current samples, rfl, rfl, report, rfl, answered⟩
  | setIdlePowerUw idlePowerUw =>
      right
      right
      exact ⟨rfl, rfl, rfl, not_slidesAlone nofun⟩
  | setActivePids pids =>
      right
      right
      exact ⟨rfl, rfl, rfl, not_slidesAlone nofun⟩

/-! ## Whole runs -/

/-- The clock reading is that of the last power sample, which is among the calls. -/
structure Watches (past : List TimedCall) (state : WatchedSampler) : Prop where
  observed : state.lastSampleNs.getD 0 = state.provider.ioreportState.lastObservedAtNs
  sampled : ∀ sinceNs ∈ state.lastSampleNs, ∃ timed ∈ past, timed.atNs = sinceNs

theorem Watches.apply {past : List TimedCall} {state : WatchedSampler}
    (watches : Watches past state) (timed : TimedCall) :
    Watches (past ++ [timed]) (state.apply timed) := by
  have earlier : ∀ sinceNs ∈ state.lastSampleNs, ∃ other ∈ past ++ [timed],
      other.atNs = sinceNs := by
    intro sinceNs found
    rcases watches.sampled sinceNs found with ⟨other, member, other_eq⟩
    exact ⟨other, List.mem_append_left _ member, other_eq⟩
  rcases apply_cases state timed with
    ⟨-, observed, last, -⟩ | ⟨-, observed, last, -⟩ | ⟨-, observed, last, -⟩
  · constructor
    · rw [last, observed]
      rfl
    · rw [last]
      rintro sinceNs ⟨⟩
      exact ⟨timed, by simp, rfl⟩
  · constructor
    · rw [last, observed]
      exact watches.observed
    · rwa [last]
  · constructor
    · rw [last, observed]
      exact watches.observed
    · rwa [last]

theorem watches_after (hardwareSignature : String) (idlePowerUw : UInt64)
    (past : List TimedCall) : Watches past (after hardwareSignature idlePowerUw past) := by
  induction past using List.reverseRecOn with
  | nil => exact ⟨rfl, nofun⟩
  | append_singleton earlier timed ih =>
      rw [after_snoc]
      exact ih.apply timed

/-- The clock reading of a provider is older than every later call. -/
theorem Watches.lastObservedAtNs_lt {past : List TimedCall} {state : WatchedSampler}
    (watches : Watches past state) {timed : TimedCall} (running : timed.atNs ≠ 0)
    (later : ∀ earlier ∈ past, earlier.atNs < timed.atNs) :
    state.provider.ioreportState.lastObservedAtNs < timed.atNs := by
  rw [← watches.observed]
  cases last : state.lastSampleNs with
  | none => exact UInt64.pos_iff_ne_zero.mpr running
  | some sinceNs =>
      rcases watches.sampled sinceNs last with ⟨earlier, member, earlier_eq⟩
      rw [Option.getD_some, ← earlier_eq]
      exact later earlier member

/-- A power sample on baselines that belong together covers one interval. -/
theorem Together.spansSince {past : List TimedCall} {state : WatchedSampler} {timed : TimedCall}
    (together : state.Together) (watches : Watches past state)
    (running : ∀ earlier ∈ past, earlier.atNs ≠ 0)
    (later : ∀ earlier ∈ past, earlier.atNs < timed.atNs) : state.SpansSince timed := by
  obtain ⟨atNs, call, stamped⟩ := timed
  rintro host snapshot sinceNs rfl succeeded last
  have observed := watches.observed
  rw [last, Option.getD_some] at observed
  rcases watches.sampled sinceNs last with ⟨earlier, member, rfl⟩
  have since_lt : earlier.atNs < atNs := later earlier member
  have taken := together
  rw [Together, ← observed, samplesAtNs] at taken
  cases stored : state.provider.ioreportHandles with
  | none =>
      rw [stored] at taken
      exact absurd taken.symm (running earlier member)
  | some handles =>
      rw [stored, Option.map_some, Option.getD_some] at taken
      cases answered : delivers host.report state.provider.ioreportHandles with
      | false =>
          rcases samplePowerState_of_not_delivers answered with ⟨message, failed⟩
          rw [failed] at succeeded
          cases succeeded
      | true =>
          rcases samplePowerState_of_delivers answered with
            ⟨current, sampled, samples, sampled_eq, since⟩
          rw [sampled_eq] at succeeded
          cases succeeded
          rcases since handles stored (by rw [← observed]; exact running earlier member) with
            ⟨channels, channels_eq, power_eq⟩
          refine ⟨handles, current, channels, rfl, samples, taken, stamped.2 current samples,
            channels_eq, since_lt, ?_⟩
          have gap : U64.saturatingSub (observedAtNs host.sinceEpochNs)
              state.provider.ioreportState.lastObservedAtNs = atNs - earlier.atNs := by
            apply UInt64.toNat.inj
            rw [← observed, stamped.1, U64.toNat_saturatingSub, U64.toNat_sub_of_le
              (UInt64.lt_iff_toNat_lt.mp since_lt).le]
          rw [power_eq, gap]

/-- In a run of calls at increasing times, the two baselines are always of one
call, and every power sample after the first covers the time since the one before
it, exactly when no energy delta is sampled alone. -/
theorem together_iff_never_slidesAlone (hardwareSignature : String) (idlePowerUw : UInt64)
    (calls : List TimedCall) (clock : calls.Pairwise fun before after => before.atNs < after.atNs)
    (running : ∀ timed ∈ calls, timed.atNs ≠ 0) :
    ((∀ past, past <+: calls → (after hardwareSignature idlePowerUw past).Together) ∧
      ∀ past timed, past ++ [timed] <+: calls →
        (after hardwareSignature idlePowerUw past).SpansSince timed) ↔
      ∀ past timed, past ++ [timed] <+: calls →
        ¬ (after hardwareSignature idlePowerUw past).SlidesAlone timed := by
  have earlier_lt {past : List TimedCall} {timed : TimedCall}
      (before : past ++ [timed] <+: calls) : ∀ earlier ∈ past, earlier.atNs < timed.atNs := by
    intro earlier member
    have ordered := clock.sublist before.sublist
    exact (List.pairwise_append.mp ordered).2.2 earlier member timed List.mem_cons_self
  constructor
  · rintro ⟨together, -⟩ past timed before alone
    have watches := watches_after hardwareSignature idlePowerUw past
    have older := watches.lastObservedAtNs_lt (running timed (before.subset (by simp)))
      (earlier_lt before)
    have joined := together _ before
    rw [after_snoc, Together] at joined
    rcases apply_cases (after hardwareSignature idlePowerUw past) timed with
      ⟨-, -, -, other⟩ | ⟨taken, observed, -, -⟩ | ⟨-, -, -, other⟩
    · exact other alone
    · rw [taken, observed] at joined
      rw [← joined] at older
      exact UInt64.lt_irrefl _ older
    · exact other alone
  · intro never
    have together {past : List TimedCall} (before : past <+: calls) :
        (after hardwareSignature idlePowerUw past).Together := by
      refine prefix_induction
        (fun past => (after hardwareSignature idlePowerUw past).Together) rfl ?_ before
      intro past timed before joined
      rw [after_snoc, Together]
      rcases apply_cases (after hardwareSignature idlePowerUw past) timed with
        ⟨taken, observed, -, -⟩ | ⟨-, -, -, alone⟩ | ⟨taken, observed, -, -⟩
      · rw [taken, observed]
      · exact absurd alone (never past timed before)
      · rw [taken, observed]
        exact joined
    constructor
    · intro past before
      exact together before
    · intro past timed before
      have earlier := (List.prefix_append past [timed]).trans before
      exact (together earlier).spansSince (watches_after hardwareSignature idlePowerUw past)
        (fun other member => running other (earlier.subset member)) (earlier_lt before)

/-- A host with one channel that draws a watt. -/
def oneWattReport (atNs : UInt64) : IOReport where
  groupName := .ok ()
  copyChannels := true
  createSubscription := true
  createSamples := some ⟨atNs⟩
  createSamplesDelta previous current :=
    some (.ok [some ⟨some (.ok "GPU Energy"), (current.takenAtNs - previous.takenAtNs).toInt64⟩])

/-- A power sample of the one-watt host. -/
def oneWattSample (atNs : UInt64) : TimedCall where
  atNs
  call := .samplePowerState ⟨some atNs.toNat, oneWattReport atNs⟩
  stamped := by
    constructor
    · apply UInt64.toNat.inj
      rw [observedAtNs, U64.toNat_clamp]
      exact min_eq_left (U64.toNat_le_maxNat atNs)
    · rintro current ⟨⟩
      rfl

/-- An energy delta of the one-watt host, sampled alone. -/
def oneWattDelta (atNs : UInt64) : TimedCall where
  atNs
  call := .sampleEnergyModelDelta (oneWattReport atNs)
  stamped := by
    rintro current ⟨⟩
    rfl

/-- Two power samples and nothing in between. -/
theorem together_iff_never_slidesAlone_twice :
    ((∀ past, past <+: [oneWattSample 1000000000, oneWattSample 3000000000] →
        (after "J314s" 0 past).Together) ∧
      ∀ past timed, past ++ [timed] <+: [oneWattSample 1000000000, oneWattSample 3000000000] →
        (after "J314s" 0 past).SpansSince timed) ↔
      ∀ past timed, past ++ [timed] <+: [oneWattSample 1000000000, oneWattSample 3000000000] →
        ¬ (after "J314s" 0 past).SlidesAlone timed :=
  together_iff_never_slidesAlone "J314s" 0
    [oneWattSample 1000000000, oneWattSample 3000000000] (by decide) (by decide)

/-- A delta sampled alone at two seconds leaves the power sample at three with one
second of energy over a gap of two. -/
theorem not_together_of_slide :
    ¬ ∀ (hardwareSignature : String) (idlePowerUw : UInt64) (calls : List TimedCall),
      calls.Pairwise (fun before after => before.atNs < after.atNs) →
      (∀ timed ∈ calls, timed.atNs ≠ 0) →
      (∀ past, past <+: calls → (after hardwareSignature idlePowerUw past).Together) ∧
        ∀ past timed, past ++ [timed] <+: calls →
          (after hardwareSignature idlePowerUw past).SpansSince timed := by
  intro claim
  have spans := (claim "J314s" 0
    [oneWattSample 1000000000, oneWattDelta 2000000000, oneWattSample 3000000000]
    (by decide) (by decide)).2 [oneWattSample 1000000000, oneWattDelta 2000000000]
    (oneWattSample 3000000000) (List.prefix_refl _)
  obtain ⟨handles, current, channels, stored, -, taken, -⟩ := spans _ _ 1000000000 rfl rfl rfl
  cases stored
  exact absurd taken (by decide)

end WatchedSampler

end Mjae.Providers
