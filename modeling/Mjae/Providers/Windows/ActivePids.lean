import Mjae.Providers.Windows.Ledger

/-!
# The snapshot that the sampling loop bills

The active processes are those of the last call that recorded its snapshot.  A
power sample always records it.  The two attributing calls return early when
they have no energy to hand out, and then the processes of an older snapshot
stay active, unless they are the ones reported.
-/

namespace Mjae.Providers

open Mjae.Arith Mjae.Collections Mjae.Core Mjae.Transition

namespace WindowsCall

open WindowsProvider

/-- The processes that NVML reports to a call, if its query for them succeeds. -/
def reported (policy : GrowthPolicy) (provider : WindowsProvider) (call : WindowsCall) :
    Option (List UInt32) :=
  match provider.sampleComputeProcesses policy call.nvml with
  | some (.ok processes, _) => some (pidsOf processes)
  | _ => none

/-- The call has no energy to hand out and returns before it records `pids`. -/
def ReturnsEarly (powerMw : UInt32) (pids : List UInt32) : WindowsCall → Prop
  | samplePowerState _ => False
  | sampleWindowEnergy _ _ _ dtMs => pids = [] ∨ nvmlWindowEnergyUj powerMw.toUInt64 dtMs = 0
  | attributeWindow _ _ _ _ => pids = []

theorem reported_eq_some_iff {policy : GrowthPolicy} {provider : WindowsProvider}
    {call : WindowsCall} {pids : List UInt32} :
    call.reported policy provider = some pids ↔
      ∃ processes queried,
        provider.sampleComputeProcesses policy call.nvml = some (.ok processes, queried) ∧
        pidsOf processes = pids := by
  rw [reported]
  constructor
  · intro answered
    split at answered
    · rename_i processes queried query
      exact ⟨processes, queried, query, Option.some.inj answered⟩
    · contradiction
  · rintro ⟨processes, queried, query, rfl⟩
    rw [query]

/-- A call whose queries are answered succeeds, and the reported processes are the
active ones after it unless it returns early. -/
theorem perform_activePids {policy : GrowthPolicy} {provider queried : WindowsProvider}
    {call : WindowsCall} {powerMw : UInt32} {processes : Vec NvmlProcessInfoV3}
    (read : readPowerMw call.nvml = .ok powerMw)
    (query : provider.sampleComputeProcesses policy call.nvml = some (.ok processes, queried))
    (registry : AmalgafyRegistry) :
    ∃ entries next after,
      call.perform policy provider registry = some (.ok entries, next, after) ∧
      (call.ReturnsEarly powerMw (pidsOf processes) → next.activePids = provider.activePids) ∧
      (¬ call.ReturnsEarly powerMw (pidsOf processes) → next.activePids = pidsOf processes) := by
  rcases of_sampleComputeProcesses query with ⟨scratch, rfl⟩
  cases call with
  | samplePowerState nvml =>
      simp only [WindowsCall.nvml] at read query
      rcases samplePowerState_eq (readPowerUw_eq read) query with ⟨snapshot, sampled⟩
      rw [perform, sampled]
      exact ⟨[], _, registry, rfl, False.elim, fun _ => rfl⟩
  | sampleWindowEnergy nvml windowStartNs windowEndNs dtMs =>
      simp only [WindowsCall.nvml] at read query
      simp only [perform, ReturnsEarly, pidsOf_eq_nil_iff]
      rw [sampleWindowEnergy_eq read query]
      split
      · rename_i early
        exact ⟨_, _, _, rfl, fun _ => rfl, fun late => absurd early late⟩
      · rename_i late
        exact ⟨_, _, _, rfl, fun early => absurd early late, fun _ => rfl⟩
  | attributeWindow nvml windowStartNs windowEndNs idlePowerUw =>
      simp only [WindowsCall.nvml] at read query
      simp only [perform, ReturnsEarly, pidsOf_eq_nil_iff]
      rw [attributeWindow_eq (readPowerUw_eq read) query]
      split
      · rename_i early
        exact ⟨_, _, _, rfl, fun _ => rfl, fun late => absurd early late⟩
      · rename_i late
        exact ⟨_, _, _, rfl, fun early => absurd early late, fun _ => rfl⟩

end WindowsCall

namespace WindowsLedger

open WindowsProvider

/-- If the call succeeds, and so did its query for the processes, the active
processes after it are those that NVML reported. -/
def UpToDate (policy : GrowthPolicy) (ledger : WindowsLedger) (call : WindowsCall) : Prop :=
  ∀ entries next after pids,
    call.perform policy ledger.provider ledger.registry = some (.ok entries, next, after) →
    call.reported policy ledger.provider = some pids → next.activePids = pids

/-- If the call returns early, it is told of the processes that are active already. -/
def EarlyRepeats (policy : GrowthPolicy) (ledger : WindowsLedger) (call : WindowsCall) : Prop :=
  ∀ powerMw pids, readPowerMw call.nvml = .ok powerMw →
    call.reported policy ledger.provider = some pids →
    call.ReturnsEarly powerMw pids → pids = ledger.provider.activePids

theorem upToDate_iff (policy : GrowthPolicy) (ledger : WindowsLedger) (call : WindowsCall) :
    ledger.UpToDate policy call ↔ ledger.EarlyRepeats policy call := by
  constructor
  · intro current powerMw pids read answered early
    rcases WindowsCall.reported_eq_some_iff.mp answered with ⟨processes, queried, query, rfl⟩
    rcases WindowsCall.perform_activePids read query ledger.registry with
      ⟨entries, next, after, performed, stale, -⟩
    have active := current entries next after _ performed answered
    rw [← active, stale early]
  · intro repeats entries next after pids performed answered
    rcases WindowsCall.perform_cases performed with ⟨_, failed, -⟩ | ⟨powerMw, _, read, -⟩
    · contradiction
    · rcases WindowsCall.reported_eq_some_iff.mp answered with ⟨processes, queried, query, rfl⟩
      rcases WindowsCall.perform_activePids read query ledger.registry with
        ⟨_, _, _, same, stale, recorded⟩
      rw [performed] at same
      cases same
      by_cases early : call.ReturnsEarly powerMw (pidsOf processes)
      · rw [stale early, ← repeats powerMw _ read answered early]
      · exact recorded early

/-- In a run from any provider and registry, the active processes are those of the
most recent snapshot after every call exactly when every early return is told of
the processes that are active already. -/
theorem activePids_upToDate_iff (policy : GrowthPolicy) (start : WindowsLedger)
    (calls : List WindowsCall) :
    along (step policy) (UpToDate policy) start calls ↔
      along (step policy) (EarlyRepeats policy) start calls := by
  have agree : UpToDate policy = EarlyRepeats policy := by
    funext ledger call
    exact propext (upToDate_iff policy ledger call)
  rw [agree]

/-- An idle device after a busy one: the power sample records process 7, the
attributed window sees no process and leaves it active. -/
theorem not_activePids_upToDate :
    ¬ ∀ (policy : GrowthPolicy) (deviceIndex : UInt32) (probe : NvmlProbe)
      (provider : WindowsProvider), WindowsProvider.new deviceIndex probe = .ok provider →
      ∀ calls : List WindowsCall,
        along (step policy) (UpToDate policy) ⟨provider, AmalgafyRegistry.new, []⟩ calls := by
  intro claim
  have current := claim GrowthPolicy.tight 0 ⟨.ok (), .ok (), .ok "1321021", .ok "GPU-0"⟩
    serialProvider rfl
    [.samplePowerState (drawing 3000 [computeProcess 7] (by decide)),
      .attributeWindow (drawing 3000 [] (by decide)) 0 1000000 0]
  have idle := (current.2 _ rfl).1 _ _ _ [] rfl rfl
  exact absurd idle (by decide)

end WindowsLedger

end Mjae.Providers
