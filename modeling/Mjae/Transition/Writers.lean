import Mjae.Transition.Interleave

/-!
# Independent writers

Threads that write to a shared object without ever reading it.  Each of them runs
as if it were alone; when the writes commute, the shared object after any
interleaving is what the threads write on their own, one thread after another.
-/

namespace Mjae.Transition

universe u v w x

variable {σ : Type u} {τ : Type v} {ι : Type w} {ω : Type x}

/-- An action that decides on its own what to write. -/
def blind (write : σ → ω → σ) (act : τ → ι → Option (List ω × τ)) (shared : σ) (thread : τ)
    (input : ι) : Option (σ × τ) :=
  (act thread input).map fun acted => (acted.1.foldl write shared, acted.2)

/-- The same action with nobody else around, keeping a log of what it writes. -/
def logged (act : τ → ι → Option (List ω × τ)) (state : List ω × τ) (input : ι) :
    Option (List ω × τ) :=
  (act state.2 input).map fun acted => (state.1 ++ acted.1, acted.2)

/-- A thread that acts as another one does runs as that one does. -/
theorem run_logged_of_embeds {τ' : Type*} {act : τ → ι → Option (List ω × τ)}
    {own : τ' → ι → Option (List ω × τ')} (embed : τ' → τ)
    (acts : ∀ thread input,
      act (embed thread) input = (own thread input).map fun acted => (acted.1, embed acted.2))
    (log : List ω) (thread : τ') (inputs : List ι) :
    run (logged act) (log, embed thread) inputs =
      (run (logged own) (log, thread) inputs).map fun state => (state.1, embed state.2) := by
  induction inputs generalizing log thread with
  | nil => rfl
  | cons input rest ih =>
      rw [run_cons, run_cons, logged, logged, acts, Option.map_map, Option.bind_map,
        Option.bind_map, Option.map_bind]
      congr 1
      funext acted
      exact ih _ acted.2

/-- The inputs that the turns hand to one thread. -/
def turnsOf (index : Nat) (turns : List (Nat × ι)) : List ι :=
  turns.filterMap fun turn => if turn.1 = index then some turn.2 else none

@[simp]
theorem turnsOf_nil (index : Nat) : turnsOf index ([] : List (Nat × ι)) = [] :=
  rfl

@[simp]
theorem turnsOf_append (index : Nat) (first second : List (Nat × ι)) :
    turnsOf index (first ++ second) = turnsOf index first ++ turnsOf index second :=
  List.filterMap_append

theorem turnsOf_singleton (index : Nat) (turn : Nat × ι) :
    turnsOf index [turn] = if turn.1 = index then [turn.2] else [] := by
  rw [turnsOf, List.filterMap_cons]
  split <;> split <;> simp_all

/-- A log that one thread extends, among the logs of all. -/
theorem flatten_set_append_perm {logs : List (List ω)} {index : Nat} {log : List ω}
    (present : logs[index]? = some log) (written : List ω) :
    ((logs.set index (log ++ written)).flatten).Perm (logs.flatten ++ written) := by
  induction logs generalizing index with
  | nil => contradiction
  | cons first rest ih =>
      cases index with
      | zero =>
          cases present
          rw [List.set_cons_zero, List.flatten_cons, List.flatten_cons, List.append_assoc,
            List.append_assoc]
          exact List.Perm.append_left log List.perm_append_comm
      | succ index =>
          rw [List.set_cons_succ, List.flatten_cons, List.flatten_cons, List.append_assoc]
          exact (ih (List.getElem?_cons_succ ▸ present)).append_left first

/-- Every thread has run as if it were alone, and its log is what it wrote. -/
structure Independent (act : τ → ι → Option (List ω × τ)) (threads : List τ)
    (turns : List (Nat × ι)) (after : List τ) (logs : List (List ω)) : Prop where
  length_after : after.length = threads.length
  length_logs : logs.length = threads.length
  alone : ∀ index thread, threads[index]? = some thread →
    ∃ log next, logs[index]? = some log ∧ after[index]? = some next ∧
      run (logged act) ([], thread) (turnsOf index turns) = some (log, next)

theorem independent_nil (act : τ → ι → Option (List ω × τ)) (threads : List τ) :
    Independent act threads [] threads (List.replicate threads.length []) where
  length_after := rfl
  length_logs := List.length_replicate
  alone := by
    intro index thread present
    refine ⟨[], thread, ?_, present, rfl⟩
    rw [List.getElem?_replicate, if_pos (List.getElem?_eq_some_iff.mp present).1]

/-- One more turn extends the log of its thread and no other. -/
theorem Independent.step {act : τ → ι → Option (List ω × τ)} {threads after : List τ}
    {turns : List (Nat × ι)} {logs : List (List ω)} {turn : Nat × ι} {thread next : τ}
    {written : List ω} (independent : Independent act threads turns after logs)
    (present : after[turn.1]? = some thread) (acted : act thread turn.2 = some (written, next)) :
    ∃ log, logs[turn.1]? = some log ∧
      Independent act threads (turns ++ [turn]) (after.set turn.1 next)
        (logs.set turn.1 (log ++ written)) := by
  have inside : turn.1 < threads.length := by
    rw [← independent.length_after]
    exact (List.getElem?_eq_some_iff.mp present).1
  rcases independent.alone turn.1 threads[turn.1] (List.getElem?_eq_getElem inside) with
    ⟨log, own, at_logs, at_after, ran⟩
  cases present.symm.trans at_after
  refine ⟨log, at_logs, ?_, ?_, ?_⟩
  · rw [List.length_set, independent.length_after]
  · rw [List.length_set, independent.length_logs]
  · intro index other at_index
    rw [turnsOf_append, turnsOf_singleton]
    by_cases own : turn.1 = index
    · subst own
      cases (List.getElem?_eq_getElem inside).symm.trans at_index
      refine ⟨log ++ written, next, ?_, ?_, ?_⟩
      · exact List.getElem?_set_self (List.getElem?_eq_some_iff.mp at_logs).1
      · exact List.getElem?_set_self (List.getElem?_eq_some_iff.mp present).1
      · rw [if_pos rfl, run_snoc_eq_some_iff]
        exact ⟨(log, thread), ran, by rw [logged, acted, Option.map_some]⟩
    · rcases independent.alone index other at_index with
        ⟨otherLog, otherNext, at_otherLogs, at_otherAfter, otherRan⟩
      refine ⟨otherLog, otherNext, ?_, ?_, ?_⟩
      · rwa [List.getElem?_set_ne own]
      · rwa [List.getElem?_set_ne own]
      · rwa [if_neg own, List.append_nil]

/-- After any interleaving every thread stands where it would stand alone, and the
shared object is what the threads have written, thread by thread. -/
theorem independent_of_run {write : σ → ω → σ} [RightCommutative write]
    {act : τ → ι → Option (List ω × τ)} {shared : σ} {threads : List τ}
    {turns : List (Nat × ι)} {final : System σ τ}
    (executed : run (System.step (blind write act)) ⟨shared, threads⟩ turns = some final) :
    ∃ logs, Independent act threads turns final.threads logs ∧
      final.shared = logs.flatten.foldl write shared := by
  refine run_induction (fun past system => ∃ logs,
    Independent act threads past system.threads logs ∧
      system.shared = logs.flatten.foldl write shared) ?_ ?_ executed
  · refine ⟨_, independent_nil act threads, ?_⟩
    rw [List.flatten_replicate_nil]
    rfl
  · rintro past turn system next - ⟨logs, independent, shared_eq⟩ stepped
    rcases System.step_eq_some_iff.mp stepped with ⟨thread, after, moved, present, acted, rfl⟩
    rcases Option.map_eq_some_iff.mp acted with ⟨⟨written, own⟩, decided, same⟩
    cases same
    rcases independent.step present decided with ⟨log, at_logs, later⟩
    refine ⟨_, later, ?_⟩
    rw [(flatten_set_append_perm at_logs written).foldl_eq, List.foldl_append, shared_eq]

end Mjae.Transition
