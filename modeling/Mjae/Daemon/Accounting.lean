import Mjae.Core.EqualSplit
import Mjae.Daemon.Alone
import Mjae.Providers.Drain

/-!
# The shared registry

Whatever the order in which the tasks of a daemon take their turns, every task does
what it would do alone, and the registry is worth what the tasks would have put into
registries of their own.
-/

namespace Mjae.Daemon

open Mjae.Arith Mjae.Collections Mjae.Core Mjae.Providers Mjae.Transition

/-! ## Payments commute -/

instance : RightCommutative pay where
  right_comm registry first second := by
    apply AmalgafyRegistry.ext_get
    intro pid
    have swapped := List.Perm.swap second first []
    change (registry.addAll [first, second]).get pid = (registry.addAll [second, first]).get pid
    rw [AmalgafyRegistry.get_addAll, AmalgafyRegistry.get_addAll, paidTo, paidTo,
      (swapped.map _).sum_eq]
    simp [or_comm]

/-! ## Registries side by side -/

/-- The registry that a task builds on its own. -/
def own (log : List Payment) : AmalgafyRegistry :=
  AmalgafyRegistry.new.addAll log

theorem isSome_get_own_iff (log : List Payment) (pid : UInt32) :
    ((own log).get pid).isSome ↔ pid ∈ log.map Prod.fst := by
  rw [own, AmalgafyRegistry.isSome_get_addAll, AmalgafyRegistry.get_new]
  simp

theorem toNat_slot_own (log : List Payment) (pid : UInt32) :
    ((own log).slot pid).toNat = min (paidTo pid log) U64.maxNat := by
  rw [own, AmalgafyRegistry.toNat_slot_addAll, AmalgafyRegistry.slot, AmalgafyRegistry.get_new]
  simp

theorem toNat_totalMicroJoules_own (log : List Payment) :
    (own log).totalMicroJoules.toNat = min (paidTotal log) U64.maxNat := by
  rw [own, AmalgafyRegistry.toNat_totalMicroJoules_addAll,
    AmalgafyRegistry.totalMicroJoules_new]
  simp

/-- Capping the summands does not change a capped sum. -/
theorem min_add_sum_min {α : Type} (start : Nat) (amount : α → Nat) (items : List α) :
    min (start + (items.map fun item => min (amount item) U64.maxNat).sum) U64.maxNat =
      min (start + (items.map amount).sum) U64.maxNat := by
  have capped := min_sum_map_min U64.maxNat (items.map amount)
  rw [List.map_map] at capped
  rw [Nat.add_comm, ← min_min_add]
  exact (congrArg (fun sum => min (sum + start) U64.maxNat) capped).trans
    ((min_min_add _ _ _).trans (by rw [Nat.add_comm]))

/-- An entry is there if it was there, or if one of the tasks has made it. -/
theorem isSome_get_addAll_flatten (registry : AmalgafyRegistry) (logs : List (List Payment))
    (pid : UInt32) :
    ((registry.addAll logs.flatten).get pid).isSome ↔
      (registry.get pid).isSome ∨ ∃ other ∈ logs.map own, (other.get pid).isSome := by
  rw [AmalgafyRegistry.isSome_get_addAll, List.map_flatten]
  simp [isSome_get_own_iff]

/-- Its value is what it was, and what the tasks have made it on their own. -/
theorem slot_addAll_flatten (registry : AmalgafyRegistry) (logs : List (List Payment))
    (pid : UInt32) :
    (registry.addAll logs.flatten).slot pid =
      U64.clamp ((registry.slot pid).toNat +
        ((logs.map own).map fun other => (other.slot pid).toNat).sum) := by
  apply UInt64.toNat.inj
  rw [AmalgafyRegistry.toNat_slot_addAll, U64.toNat_clamp, paidTo_flatten, List.map_map]
  simp only [Function.comp_def, toNat_slot_own, min_add_sum_min]

/-- So is the total. -/
theorem totalMicroJoules_addAll_flatten (registry : AmalgafyRegistry)
    (logs : List (List Payment)) :
    (registry.addAll logs.flatten).totalMicroJoules =
      U64.clamp (registry.totalMicroJoules.toNat +
        ((logs.map own).map fun other => other.totalMicroJoules.toNat).sum) := by
  apply UInt64.toNat.inj
  rw [AmalgafyRegistry.toNat_totalMicroJoules_addAll, U64.toNat_clamp, paidTotal_flatten,
    List.map_map]
  simp only [Function.comp_def, toNat_totalMicroJoules_own, min_add_sum_min]

/-! ## Every interleaving -/

section Execute

variable {σ ρ ε ω : Type} [EnergyProvider σ ε] [DrainProvider ρ ω]
  {registry : AmalgafyRegistry} {loops : List σ} {drains : List ρ}
  {turns : List (Nat × Turn ε ω)} {final : System AmalgafyRegistry (Task σ ρ)}

theorem getElem?_tasks_sampling {index : Nat} {provider : σ}
    (present : loops[index]? = some provider) :
    (tasks loops drains)[index]? = some (.sampling (.start provider)) := by
  have inside := (List.getElem?_eq_some_iff.mp present).1
  rw [tasks, List.getElem?_append_left (by simpa using inside), List.getElem?_map, present,
    Option.map_some]

theorem getElem?_tasks_drain {index : Nat} {provider : ρ}
    (present : drains[index]? = some provider) :
    (tasks loops drains)[loops.length + index]? = some (.drain (.start provider)) := by
  rw [tasks, List.getElem?_append_right (by simp), List.length_map, Nat.add_sub_cancel_left,
    List.getElem?_map, present, Option.map_some]

/-- In every interleaving the registry is worth, for every process, what it was worth
and what the tasks would have put into empty registries of their own, up to the largest
word; and every task stands where it would stand after its own turns alone. -/
theorem registry_of_execute (registry : AmalgafyRegistry) (loops : List σ) (drains : List ρ)
    (turns : List (Nat × Turn ε ω)) (final : System AmalgafyRegistry (Task σ ρ))
    (executed : execute registry loops drains turns = some final) :
    ∃ alone : List AmalgafyRegistry,
      alone.length = loops.length + drains.length ∧
      (∀ index provider, loops[index]? = some provider →
        ∃ other task, alone[index]? = some other ∧
          final.threads[index]? = some (.sampling task) ∧
          startSamplingLoop provider AmalgafyRegistry.new
            (SamplingTask.ticksOf (turnsOf index turns)) = some (task.settled other)) ∧
      (∀ index provider, drains[index]? = some provider →
        ∃ other task, alone[loops.length + index]? = some other ∧
          final.threads[loops.length + index]? = some (.drain task) ∧
          (DrainTask.callsOf (turnsOf (loops.length + index) turns)).foldl DrainState.apply
            ⟨provider, AmalgafyRegistry.new, []⟩ = task.settled other) ∧
      (∀ pid, (final.shared.get pid).isSome ↔
        (registry.get pid).isSome ∨ ∃ other ∈ alone, (other.get pid).isSome) ∧
      (∀ pid, final.shared.slot pid = U64.clamp
        ((registry.slot pid).toNat + (alone.map fun other => (other.slot pid).toNat).sum)) ∧
      final.shared.totalMicroJoules = U64.clamp
        (registry.totalMicroJoules.toNat +
          (alone.map fun other => other.totalMicroJoules.toNat).sum) := by
  rcases independent_of_run executed with ⟨logs, independent, shared_eq⟩
  change final.shared = registry.addAll logs.flatten at shared_eq
  refine ⟨logs.map own, ?_, ?_, ?_, ?_, ?_, ?_⟩
  · rw [List.length_map, independent.length_logs, tasks, List.length_append, List.length_map,
      List.length_map]
  · intro index provider present
    rcases independent.alone index _ (getElem?_tasks_sampling present) with
      ⟨log, _, at_logs, at_final, ran⟩
    rcases Task.run_sampling ran with ⟨task, rfl, ranOwn⟩
    refine ⟨own log, task, ?_, at_final, (SamplingTask.settled_of_run ranOwn).2⟩
    rw [List.getElem?_map, at_logs, Option.map_some]
  · intro index provider present
    rcases independent.alone _ _ (getElem?_tasks_drain present) with
      ⟨log, _, at_logs, at_final, ran⟩
    rcases Task.run_drain ran with ⟨task, rfl, ranOwn⟩
    refine ⟨own log, task, ?_, at_final, (DrainTask.settled_of_run ranOwn).symm⟩
    rw [List.getElem?_map, at_logs, Option.map_some]
  · intro pid
    rw [shared_eq]
    exact isSome_get_addAll_flatten registry logs pid
  · intro pid
    rw [shared_eq]
    exact slot_addAll_flatten registry logs pid
  · rw [shared_eq]
    exact totalMicroJoules_addAll_flatten registry logs

/-- The turns of a loop and of a sync, each within the other. -/
def tornTurns : List (Nat × Turn PowerSnapshot LinuxCall) :=
  [(0, .tick (oneMicrowatt 0)), (1, .call (.perform (.correlateFence ⟨9, 0, 4000000000, 1⟩))),
    (0, .tick (oneMicrowatt 3000000000)), (1, .call .syncRegistry), (0, .resume), (1, .resume),
    (0, .resume), (1, .resume), (0, .resume)]

/-- A sync adds to process 9 while a loop splits a tick over the processes 9 and 4. -/
theorem registry_of_execute_torn :
    ∃ final : System AmalgafyRegistry (Task FakeProvider LinuxProvider),
      execute AmalgafyRegistry.new [⟨⟨[9, 4], by decide⟩⟩] [LinuxProvider.new "NV-H100"]
        tornTurns = some final ∧
      ∃ alone : List AmalgafyRegistry, alone.length = 2 ∧
        final.shared.slot 9 =
          U64.clamp (0 + (alone.map fun other => (other.slot 9).toNat).sum) := by
  refine ⟨_, rfl, ?_⟩
  rcases registry_of_execute AmalgafyRegistry.new [(⟨⟨[9, 4], by decide⟩⟩ : FakeProvider)]
      [LinuxProvider.new "NV-H100"] tornTurns _ rfl with
    ⟨alone, length_eq, -, -, -, slot_eq, -⟩
  exact ⟨alone, length_eq, slot_eq 9⟩

/-! ## What the tasks report -/

omit [DrainProvider ρ ω] in
/-- A loop between two ticks reports what its registry is worth. -/
theorem SamplingTask.toNat_cumulativeDeltaUj {provider : σ} {inputs : List (Turn ε ω)}
    {log : List Payment} {task : SamplingTask σ}
    (ran : run (logged SamplingTask.act) ([], .start provider) inputs = some (log, task))
    (idle : task.stage = .waiting) :
    task.cumulativeDeltaUj.toNat = min (paidTotal log) U64.maxNat := by
  have looped := (SamplingTask.settled_of_run ran).2
  rcases startSamplingLoop_spec provider (SamplingTask.ticksOf inputs) with
    ⟨state, state_eq, total_eq, cumulative_eq⟩
  cases state_eq.symm.trans looped
  rw [← toNat_totalMicroJoules_own]
  simp only [SamplingTask.settled, idle] at total_eq cumulative_eq
  rw [cumulative_eq, ← total_eq, own]

omit [EnergyProvider σ ε] in
/-- Between two calls the syncs have returned what the registry is worth. -/
theorem DrainTask.sum_returned {provider : ρ} {inputs : List (Turn ε ω)} {log : List Payment}
    {task : DrainTask ρ}
    (ran : run (logged DrainTask.act) ([], .start provider) inputs = some (log, task))
    (idle : task.stage = .waiting) :
    min (task.returned.map UInt64.toNat).sum U64.maxNat = min (paidTotal log) U64.maxNat := by
  have settled_eq := DrainTask.settled_of_run ran
  have fresh : DrainState.Worth 0 (⟨provider, AmalgafyRegistry.new, []⟩ : DrainState ρ) := by
    rw [DrainState.Worth, AmalgafyRegistry.totalMicroJoules_new]
    rfl
  have worth := fresh.foldl_apply (DrainTask.callsOf inputs)
  rw [← settled_eq, DrainTask.settled, idle, DrainState.Worth, Nat.zero_add] at worth
  rw [← worth, ← toNat_totalMicroJoules_own, own]

/-- What a waiting task has reported is what it has paid, up to the largest word. -/
theorem min_reportedUj {task after : Task σ ρ} {inputs : List (Turn ε ω)} {log : List Payment}
    (listed : task ∈ tasks loops drains)
    (ran : run (logged Task.act) ([], task) inputs = some (log, after))
    (idle : after.waiting) :
    min after.reportedUj U64.maxNat = min (paidTotal log) U64.maxNat := by
  rcases List.mem_append.mp listed with sampling | draining
  · rcases List.mem_map.mp sampling with ⟨provider, -, rfl⟩
    rcases Task.run_sampling ran with ⟨next, rfl, ranOwn⟩
    have waiting : next.stage = .waiting := by
      rcases next with ⟨_, _, _, stage⟩
      cases stage with
      | waiting => rfl
      | bucketing | paying => cases idle
    rw [Task.reportedUj, SamplingTask.toNat_cumulativeDeltaUj ranOwn waiting, Nat.min_assoc,
      Nat.min_self]
  · rcases List.mem_map.mp draining with ⟨provider, -, rfl⟩
    rcases Task.run_drain ran with ⟨next, rfl, ranOwn⟩
    have waiting : next.stage = .waiting := by
      rcases next with ⟨_, stage, _⟩
      cases stage with
      | waiting => rfl
      | draining => cases idle
    rw [Task.reportedUj, DrainTask.sum_returned ranOwn waiting]

/-- When every task waits, the registry is worth what it was worth and what the tasks
have reported: the running totals of the loops and the results of the syncs. -/
theorem reported_of_execute (registry : AmalgafyRegistry) (loops : List σ) (drains : List ρ)
    (turns : List (Nat × Turn ε ω)) (final : System AmalgafyRegistry (Task σ ρ))
    (executed : execute registry loops drains turns = some final)
    (idle : ∀ task ∈ final.threads, task.waiting) :
    final.shared.totalMicroJoules = U64.clamp
      (registry.totalMicroJoules.toNat + (final.threads.map Task.reportedUj).sum) := by
  rcases independent_of_run executed with ⟨logs, independent, shared_eq⟩
  change final.shared = registry.addAll logs.flatten at shared_eq
  have capped : final.threads.map (fun task => min task.reportedUj U64.maxNat) =
      logs.map fun log => min (paidTotal log) U64.maxNat := by
    apply List.ext_getElem?
    intro index
    rw [List.getElem?_map, List.getElem?_map]
    cases present : (tasks loops drains)[index]? with
    | none =>
        have outside := List.getElem?_eq_none_iff.mp present
        rw [List.getElem?_eq_none (independent.length_after ▸ outside),
          List.getElem?_eq_none (independent.length_logs ▸ outside)]
        rfl
    | some task =>
        rcases independent.alone index task present with ⟨log, after, at_logs, at_final, ran⟩
        rw [at_logs, at_final, Option.map_some, Option.map_some,
          min_reportedUj (List.mem_of_getElem? present) ran
            (idle after (List.mem_of_getElem? at_final))]
  apply UInt64.toNat.inj
  rw [shared_eq, AmalgafyRegistry.toNat_totalMicroJoules_addAll, U64.toNat_clamp,
    paidTotal_flatten, ← min_add_sum_min, ← capped, min_add_sum_min]

/-- Both tasks wait again, and the registry is worth what they report. -/
theorem reported_of_execute_torn :
    ∃ final : System AmalgafyRegistry (Task FakeProvider LinuxProvider),
      execute AmalgafyRegistry.new [⟨⟨[9, 4], by decide⟩⟩] [LinuxProvider.new "NV-H100"]
        tornTurns = some final ∧
      (∀ task ∈ final.threads, task.waiting) ∧
      final.shared.totalMicroJoules = U64.clamp
        (AmalgafyRegistry.new.totalMicroJoules.toNat +
          (final.threads.map Task.reportedUj).sum) := by
  refine ⟨_, rfl, List.all_eq_true.mp rfl, ?_⟩
  exact reported_of_execute AmalgafyRegistry.new [(⟨⟨[9, 4], by decide⟩⟩ : FakeProvider)]
    [LinuxProvider.new "NV-H100"] tornTurns _ rfl (List.all_eq_true.mp rfl)

/-! ## No task stops -/

/-- The plain arithmetic that a task has still to do fits its words. -/
def Task.Fits : Task σ ρ → Prop
  | .sampling task => task.Fits
  | .drain _ => True

theorem Task.Fits.act {task next : Task σ ρ} {turn : Turn ε ω} {paid : List Payment}
    (fits : task.Fits) (acted : task.act turn = some (paid, next)) : next.Fits := by
  cases task with
  | drain task =>
      rcases Option.map_eq_some_iff.mp acted with ⟨_, _, same⟩
      cases same
      trivial
  | sampling task =>
      rcases Option.map_eq_some_iff.mp acted with ⟨⟨_, moved⟩, actedOwn, same⟩
      cases same
      cases turn with
      | call call => cases actedOwn
      | resume => exact (SamplingTask.resume_spec fits actedOwn AmalgafyRegistry.new).2
      | tick answers =>
          rw [SamplingTask.act] at actedOwn
          split at actedOwn
          · rename_i waiting
            rcases SamplingTask.tick_spec waiting answers with ⟨_, ticked, fitting, -⟩
            rw [ticked] at actedOwn
            cases actedOwn
            exact fitting
          · cases actedOwn

theorem fits_of_execute (executed : execute registry loops drains turns = some final) :
    ∀ task ∈ final.threads, task.Fits := by
  refine run_induction (fun _ system => ∀ task ∈ system.threads, task.Fits) ?_ ?_ executed
  · intro task listed
    rcases List.mem_append.mp listed with sampling | draining
    · rcases List.mem_map.mp sampling with ⟨provider, -, rfl⟩
      exact SamplingTask.fits_start provider
    · rcases List.mem_map.mp draining with ⟨provider, -, rfl⟩
      trivial
  · intro past turn system next _ fits stepped
    rcases System.step_eq_some_iff.mp stepped with ⟨task, after, moved, present, acted, rfl⟩
    rcases Option.map_eq_some_iff.mp acted with ⟨⟨paid, _⟩, actedOwn, same⟩
    cases same
    exact System.forall_threads_set fits
      ((fits task (List.mem_of_getElem? present)).act actedOwn) fun _ _ => id

/-- Whether the task is due for the turn: a tick or a call if it waits for one, and its
own control flow otherwise. -/
def Task.due : Task σ ρ → Turn ε ω → Bool
  | .sampling ⟨_, _, _, .waiting⟩, .tick _ => true
  | .drain ⟨_, .waiting, _⟩, .call _ => true
  | task, .resume => !task.waiting
  | _, _ => false

/-- No task is ever stopped, by its own arithmetic or by other tasks: it takes every
turn that it is due for. -/
theorem step_of_due (registry : AmalgafyRegistry) (loops : List σ) (drains : List ρ)
    (turns : List (Nat × Turn ε ω)) (final : System AmalgafyRegistry (Task σ ρ))
    (executed : execute registry loops drains turns = some final) (index : Nat)
    (task : Task σ ρ) (present : final.threads[index]? = some task) (turn : Turn ε ω)
    (due : task.due turn) : ∃ next, step final (index, turn) = some next := by
  have acts : ∃ paid moved, task.act turn = some (paid, moved) := by
    have fits := fits_of_execute executed task (List.mem_of_getElem? present)
    cases task with
    | sampling task =>
        cases turn with
        | call call => rcases task with ⟨_, _, _, _ | _ | _⟩ <;> cases due
        | tick answers =>
            rcases task with ⟨provider, previousSnapshot, cumulativeDeltaUj, stage⟩
            cases stage with
            | bucketing | paying => cases due
            | waiting =>
                have idle : (SamplingTask.mk provider previousSnapshot cumulativeDeltaUj
                  .waiting).stage = .waiting := rfl
                rcases SamplingTask.tick_spec idle answers with ⟨next, ticked, -⟩
                exact ⟨[], .sampling next, by rw [Task.act, SamplingTask.act, ticked]; rfl⟩
        | resume =>
            have busy : task.stage ≠ .waiting := by
              rcases task with ⟨_, _, _, _ | _ | _⟩
              · cases due
              · exact SamplingStage.noConfusion
              · exact SamplingStage.noConfusion
            rcases SamplingTask.exists_resume fits busy with ⟨paid, next, resumed⟩
            exact ⟨paid, .sampling next, by rw [Task.act, SamplingTask.act, resumed]; rfl⟩
    | drain task =>
        cases turn with
        | tick answers => rcases task with ⟨_, _ | _, _⟩ <;> cases due
        | call call =>
            rcases task with ⟨provider, stage, returned⟩
            cases stage with
            | waiting => exact ⟨_, _, rfl⟩
            | draining => cases due
        | resume =>
            have busy : task.stage ≠ .waiting := by
              rcases task with ⟨_, _ | _, _⟩
              · cases due
              · exact DrainStage.noConfusion
            rcases DrainTask.exists_resume busy with ⟨paid, next, resumed⟩
            exact ⟨paid, .drain next, by rw [Task.act, DrainTask.act, resumed]; rfl⟩
  rcases acts with ⟨paid, moved, acted⟩
  refine ⟨⟨paid.foldl pay final.shared, final.threads.set index moved⟩,
    System.step_eq_some_iff.mpr
      ⟨task, paid.foldl pay final.shared, moved, present, ?_, rfl⟩⟩
  rw [blind, acted, Option.map_some]

end Execute

/-- Within its sync the drain of process 9 goes on, while the loop is within a tick. -/
theorem step_of_due_torn :
    ∃ final next : System AmalgafyRegistry (Task FakeProvider LinuxProvider),
      execute AmalgafyRegistry.new [⟨⟨[9, 4], by decide⟩⟩] [LinuxProvider.new "NV-H100"]
        (tornTurns.take 5) = some final ∧ step final (1, .resume) = some next := by
  rcases step_of_due AmalgafyRegistry.new [(⟨⟨[9, 4], by decide⟩⟩ : FakeProvider)]
      [LinuxProvider.new "NV-H100"] (tornTurns.take 5) _ rfl 1 _ rfl .resume rfl with
    ⟨next, stepped⟩
  exact ⟨_, next, rfl, stepped⟩

end Mjae.Daemon
