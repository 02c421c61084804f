import Mjae.Daemon.Tasks

/-!
# A task on its own

Alone on a registry, the turns of a sampling task make up the ticks of the sampling
loop, and the turns of a drain task make up the calls of a daemon that syncs.  Between
two additions a task is on its way to a state of the larger steps: the state that it
settles in once it has paid what it still owes.
-/

namespace Mjae.Daemon

open Mjae.Arith Mjae.Collections Mjae.Core Mjae.Transition

/-! ## The sampling loop -/

namespace SamplingTask

variable {σ ε ω : Type}

/-- The state of the loop once the body has run to its end. -/
def settled (task : SamplingTask σ) (registry : AmalgafyRegistry) : SamplingLoop σ :=
  match task.stage with
  | .waiting => ⟨task.provider, registry, task.previousSnapshot, task.cumulativeDeltaUj⟩
  | .bucketing snapshot deltaUj =>
      ⟨task.provider, registry.addAll [(0, deltaUj)], some snapshot,
        U64.saturatingAdd task.cumulativeDeltaUj deltaUj⟩
  | .paying snapshot deltaUj share remainder pids =>
      ⟨task.provider, registry.addAll (sharePayments share remainder pids), some snapshot,
        U64.saturatingAdd task.cumulativeDeltaUj deltaUj⟩

/-- Every share that is still to be paid fits a word. -/
def Fits (task : SamplingTask σ) : Prop :=
  match task.stage with
  | .paying _ _ share remainder _ => SharesFit share remainder
  | _ => True

theorem fits_start (provider : σ) : (start provider).Fits :=
  trivial

/-- Where a task resumes, it pays a part of what it owes. -/
theorem resume_spec {task next : SamplingTask σ} {paid : List Payment} (fits : task.Fits)
    (resumed : task.resume = some (paid, next)) (registry : AmalgafyRegistry) :
    next.settled (registry.addAll paid) = task.settled registry ∧ next.Fits := by
  rcases task with ⟨provider, previousSnapshot, cumulativeDeltaUj, stage⟩
  cases stage with
  | waiting => cases resumed
  | bucketing snapshot deltaUj =>
      cases resumed
      exact ⟨rfl, trivial⟩
  | paying snapshot deltaUj share remainder pids =>
      cases pids with
      | nil =>
          cases resumed
          exact ⟨rfl, trivial⟩
      | cons pid rest =>
          simp only [resume, U64.checkedAdd_eq_some (SharesFit.share_add_extra_le fits),
            Option.bind_eq_bind, Option.bind_some, Option.some.injEq, Prod.mk.injEq] at resumed
          rcases resumed with ⟨rfl, rfl⟩
          exact ⟨rfl, SharesFit.next fits⟩

/-- A task that is not waiting can always resume. -/
theorem exists_resume {task : SamplingTask σ} (fits : task.Fits)
    (busy : task.stage ≠ .waiting) : ∃ paid next, task.resume = some (paid, next) := by
  rcases task with ⟨provider, previousSnapshot, cumulativeDeltaUj, stage⟩
  cases stage with
  | waiting => exact absurd rfl busy
  | bucketing snapshot deltaUj => exact ⟨_, _, rfl⟩
  | paying snapshot deltaUj share remainder pids =>
      cases pids with
      | nil => exact ⟨_, _, rfl⟩
      | cons pid rest =>
          simp only [resume, U64.checkedAdd_eq_some (SharesFit.share_add_extra_le fits),
            Option.bind_eq_bind, Option.bind_some]
          exact ⟨_, _, rfl⟩

variable [EnergyProvider σ ε]

/-- A tick never leaves the word, and settles where the tick of the loop ends. -/
theorem tick_spec {task : SamplingTask σ} (idle : task.stage = .waiting) (answers : ε) :
    ∃ next, task.tick answers = some next ∧ next.Fits ∧
      ∀ registry, Core.tick (task.settled registry) answers = some (next.settled registry) := by
  rcases task with ⟨provider, previousSnapshot, cumulativeDeltaUj, stage⟩
  cases idle
  rw [tick]
  simp only [Core.tick, settled]
  rcases EnergyProvider.samplePowerState answers provider with ⟨message | snapshot, sampled⟩
  · exact ⟨_, rfl, trivial, fun _ => rfl⟩
  · cases previousSnapshot with
    | none => exact ⟨_, rfl, trivial, fun _ => rfl⟩
    | some previous =>
        simp only [splitDelta_eq_addAll, Option.bind_eq_bind, Option.bind_some]
        by_cases nobody : (EnergyProvider.activePids sampled).isEmpty
        · simp only [nobody, if_true]
          exact ⟨_, rfl, trivial, fun _ => rfl⟩
        · simp only [nobody, Bool.false_eq_true, if_false]
          rw [divideDelta_eq (Vec.toNat_len_ne_zero nobody)]
          exact ⟨_, rfl, sharesFit_div_mod _ _, fun _ => rfl⟩

/-- The answers of the ticks among some turns. -/
def ticksOf (turns : List (Turn ε ω)) : List ε :=
  turns.filterMap fun
    | .tick answers => some answers
    | _ => none

@[simp]
theorem ticksOf_append (first second : List (Turn ε ω)) :
    ticksOf (first ++ second) = ticksOf first ++ ticksOf second :=
  List.filterMap_append

/-- Alone on an empty registry, a task is on its way to where the loop ends after the
same ticks. -/
theorem settled_of_run {provider : σ} {turns : List (Turn ε ω)} {log : List Payment}
    {task : SamplingTask σ}
    (ran : run (logged act) ([], start provider) turns = some (log, task)) :
    task.Fits ∧ startSamplingLoop provider AmalgafyRegistry.new (ticksOf turns) =
      some (task.settled (AmalgafyRegistry.new.addAll log)) := by
  refine run_induction (fun past state => state.2.Fits ∧
    startSamplingLoop provider AmalgafyRegistry.new (ticksOf past) =
      some (state.2.settled (AmalgafyRegistry.new.addAll state.1))) ?_ ?_ ran
  · exact ⟨fits_start provider, rfl⟩
  · rintro past turn ⟨log, task⟩ ⟨later, next⟩ - ⟨fits, looped⟩ stepped
    rcases Option.map_eq_some_iff.mp stepped with ⟨⟨paid, moved⟩, acted, same⟩
    cases same
    rw [ticksOf_append]
    cases turn with
    | call call => cases acted
    | resume =>
        rcases resume_spec fits acted (AmalgafyRegistry.new.addAll log) with ⟨settled_eq, fitting⟩
        have noTick : ticksOf [(Turn.resume : Turn ε ω)] = [] := rfl
        refine ⟨fitting, ?_⟩
        rw [noTick, List.append_nil, looped, AmalgafyRegistry.addAll_append]
        exact congrArg some settled_eq.symm
    | tick answers =>
        rw [act] at acted
        split at acted
        · rename_i idle
          rcases tick_spec idle answers with ⟨stepped, ticked, fitting, advances⟩
          rw [ticked] at acted
          cases acted
          refine ⟨fitting, ?_⟩
          rw [List.append_nil]
          exact run_snoc_eq_some_iff.mpr ⟨_, looped, advances _⟩
        · cases acted

end SamplingTask

/-! ## Draining -/

namespace DrainTask

variable {σ ε ω : Type}

/-- The state of the daemon once the sync has run to its end. -/
def settled (task : DrainTask σ) (registry : AmalgafyRegistry) : DrainState σ :=
  match task.stage with
  | .waiting => ⟨task.provider, registry, task.returned⟩
  | .draining pending total =>
      ⟨task.provider, pending.foldl AmalgafyRegistry.post registry,
        task.returned ++ [(pending.map PidEnergyAttribution.attributedEnergyUj).foldl
          U64.saturatingAdd total]⟩

/-- Where a sync resumes, it posts a part of what it drains. -/
theorem resume_spec {task next : DrainTask σ} {paid : List Payment}
    (resumed : task.resume = some (paid, next)) (registry : AmalgafyRegistry) :
    next.settled (registry.addAll paid) = task.settled registry := by
  rcases task with ⟨provider, stage, returned⟩
  cases stage with
  | waiting => cases resumed
  | draining pending total =>
      cases pending with
      | nil =>
          cases resumed
          rfl
      | cons attribution rest =>
          cases resumed
          rfl

/-- A task within a sync can always resume. -/
theorem exists_resume {task : DrainTask σ} (busy : task.stage ≠ .waiting) :
    ∃ paid next, task.resume = some (paid, next) := by
  rcases task with ⟨provider, stage, returned⟩
  cases stage with
  | waiting => exact absurd rfl busy
  | draining pending total =>
      cases pending with
      | nil => exact ⟨_, _, rfl⟩
      | cons attribution rest => exact ⟨_, _, rfl⟩

variable [DrainProvider σ ω]

/-- A call settles where the larger step ends. -/
theorem call_spec {task : DrainTask σ} (idle : task.stage = .waiting) (call : DrainCall ω)
    (registry : AmalgafyRegistry) :
    (task.call call).settled registry = (task.settled registry).apply call := by
  rcases task with ⟨provider, stage, returned⟩
  cases idle
  cases call with
  | perform call => rfl
  | syncRegistry =>
      rw [DrainState.apply_syncRegistry]
      rfl

/-- The calls among some turns. -/
def callsOf (turns : List (Turn ε ω)) : List (DrainCall ω) :=
  turns.filterMap fun
    | .call call => some call
    | _ => none

@[simp]
theorem callsOf_append (first second : List (Turn ε ω)) :
    callsOf (first ++ second) = callsOf first ++ callsOf second :=
  List.filterMap_append

/-- Alone on an empty registry, a task is on its way to where the same calls end. -/
theorem settled_of_run {provider : σ} {turns : List (Turn ε ω)} {log : List Payment}
    {task : DrainTask σ}
    (ran : run (logged act) ([], start provider) turns = some (log, task)) :
    task.settled (AmalgafyRegistry.new.addAll log) =
      (callsOf turns).foldl DrainState.apply ⟨provider, AmalgafyRegistry.new, []⟩ := by
  refine run_induction (fun past state =>
    state.2.settled (AmalgafyRegistry.new.addAll state.1) =
      (callsOf past).foldl DrainState.apply ⟨provider, AmalgafyRegistry.new, []⟩) ?_ ?_ ran
  · rfl
  · rintro past turn ⟨log, task⟩ ⟨later, next⟩ - settled_eq stepped
    rcases Option.map_eq_some_iff.mp stepped with ⟨⟨paid, moved⟩, acted, same⟩
    cases same
    rw [callsOf_append, List.foldl_append, ← settled_eq]
    cases turn with
    | tick answers => cases acted
    | resume =>
        rw [AmalgafyRegistry.addAll_append]
        exact resume_spec acted _
    | call call =>
        rw [act] at acted
        split at acted
        · rename_i idle
          cases acted
          rw [List.append_nil]
          exact call_spec idle call _
        · cases acted

end DrainTask

/-! ## Either kind of task -/

namespace Task

variable {σ ρ ε ω : Type} [EnergyProvider σ ε] [DrainProvider ρ ω]

/-- A sampling task stays one, and runs on its own as such. -/
theorem run_sampling {task : SamplingTask σ} {turns : List (Turn ε ω)} {log : List Payment}
    {after : Task σ ρ}
    (ran : run (logged act) ([], .sampling task) turns = some (log, after)) :
    ∃ next, after = .sampling next ∧
      run (logged SamplingTask.act) ([], task) turns = some (log, next) := by
  rw [run_logged_of_embeds Task.sampling fun _ _ => rfl] at ran
  rcases Option.map_eq_some_iff.mp ran with ⟨⟨_, next⟩, own, same⟩
  cases same
  exact ⟨next, rfl, own⟩

/-- So does a drain task. -/
theorem run_drain {task : DrainTask ρ} {turns : List (Turn ε ω)} {log : List Payment}
    {after : Task σ ρ}
    (ran : run (logged act) ([], .drain task) turns = some (log, after)) :
    ∃ next, after = .drain next ∧
      run (logged DrainTask.act) ([], task) turns = some (log, next) := by
  rw [run_logged_of_embeds Task.drain fun _ _ => rfl] at ran
  rcases Option.map_eq_some_iff.mp ran with ⟨⟨_, next⟩, own, same⟩
  cases same
  exact ⟨next, rfl, own⟩

end Task

end Mjae.Daemon
