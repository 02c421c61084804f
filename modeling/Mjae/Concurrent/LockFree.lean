import Mathlib.Algebra.Order.BigOperators.Group.List
import Mathlib.Data.Nat.Choose.Basic
import Mjae.Concurrent.Remove

/-!
# The registry is lock-free

A failed exchange means that another caller has committed since the last look at the
cell, or that the exchange failed spuriously.  Every caller commits once, so the number
of turns that all the calls together can take has a bound, and a caller that is not
finished can take its turn whatever the others do.
-/

namespace Mjae.Concurrent

open Mjae.Arith Mjae.Transition

/-! ## Turns left -/

/-- The turns that a caller has still to take if no exchange fails. -/
def Caller.turnsLeft : Caller → Nat
  | .add _ _ .get => 4
  | .add _ _ .getOrInsert => 3
  | .add _ _ (.load _) => 2
  | .add _ _ (.compareExchange _ _) => 1
  | .add _ _ (.done _) => 0
  | .remove _ .remove => 2
  | .remove _ (.load _) => 1
  | .remove _ (.done _) => 0

/-- One for an addition that has still to commit. -/
def Caller.uncommitted : Caller → Nat
  | .add _ _ (.done _) => 0
  | .add _ _ _ => 1
  | .remove _ _ => 0

/-- One for an addition whose next exchange fails because the cell has changed. -/
def Caller.outdated (table : Table) : Caller → Nat
  | .add _ _ (.compareExchange entry current) => if table.load entry = some current then 0 else 1
  | _ => 0

/-- A bound on the turns that all callers together have left: their own turns, one
failure for each pair of additions, and the failures that are certain already. -/
def turnsLeft (system : System Table Caller) : Nat :=
  (system.threads.map Caller.turnsLeft).sum +
    (system.threads.map Caller.uncommitted).sum.choose 2 +
    (system.threads.map (Caller.outdated system.shared)).sum

theorem Caller.outdated_le (table : Table) (caller : Caller) :
    caller.outdated table ≤ caller.uncommitted := by
  rcases caller with ⟨pid, deltaUj, stage⟩ | ⟨pid, stage⟩
  · cases stage with
    | compareExchange entry current =>
        change (if _ then 0 else 1) ≤ 1
        split <;> simp
    | get | getOrInsert | load | done => exact Nat.zero_le _
  · exact Nat.zero_le _

/-- A caller reads its own entry as before when every entry reads as before. -/
theorem Bound.outdated_eq {table after : Table} {caller : Caller} (bound : Bound table caller)
    (sameReads : ∀ entry carried, table.keyAt entry = some carried →
      after.load entry = table.load entry) : caller.outdated after = caller.outdated table := by
  rcases caller with ⟨pid, deltaUj, stage⟩ | ⟨pid, stage⟩
  · cases stage with
    | compareExchange entry current =>
        rw [Caller.outdated, sameReads entry pid bound, Caller.outdated]
    | get | getOrInsert | load | done => rfl
  · rfl

/-- A move without an exchange uses up a turn of its own, a certain failure or a
spurious one. -/
theorem Moves.turnsLeft_quiet {table after : Table} {caller moved : Caller} {spurious : Bool}
    (moves : Moves table caller spurious after moved)
    (noExchange : caller.exchange table spurious = none) :
    moved.uncommitted = caller.uncommitted ∧
      moved.turnsLeft + moved.outdated after + 1 ≤
        caller.turnsLeft + caller.outdated table + spurious.toNat := by
  cases moves with
  | found | missed | inserted | unlinked | absent | read =>
      refine ⟨rfl, ?_⟩
      simp only [Caller.turnsLeft, Caller.outdated]
      omega
  | loaded holds =>
      refine ⟨rfl, ?_⟩
      simp [Caller.turnsLeft, Caller.outdated, holds]
  | @retried pid deltaUj _ entry current observed holds failed =>
      refine ⟨rfl, ?_⟩
      rcases failed with differ | rfl
      · simp [Caller.turnsLeft, Caller.outdated, holds, differ]
      · simp [Caller.turnsLeft, Caller.outdated, holds]
  | committed holds willing =>
      rw [Caller.exchange, if_pos ⟨holds, willing⟩] at noExchange
      contradiction

/-- A move with an exchange commits. -/
theorem Moves.turnsLeft_exchange {table after : Table} {caller moved : Caller} {spurious : Bool}
    {exchange : Exchange} (moves : Moves table caller spurious after moved)
    (performed : caller.exchange table spurious = some exchange) :
    caller.uncommitted = moved.uncommitted + 1 ∧ caller.turnsLeft = moved.turnsLeft + 1 := by
  rcases moves.exchanged performed with ⟨-, rfl, -, rfl⟩
  exact ⟨rfl, rfl⟩

/-- Every turn uses up what is left, or fails spuriously. -/
theorem turnsLeft_step {system next : System Table Caller} {turn : Nat × Bool}
    (bound : ∀ caller ∈ system.threads, Bound system.shared caller)
    (stepped : system.step Caller.act turn = some next) :
    turnsLeft next + 1 ≤ turnsLeft system + turn.2.toNat := by
  rcases moves_of_step stepped with ⟨caller, after, moved, present, moves, rfl⟩
  have turns := sum_map_set Caller.turnsLeft present moved
  have uncommitted := sum_map_set Caller.uncommitted present moved
  rw [turnsLeft, turnsLeft]
  dsimp only
  cases performed : caller.exchange system.shared turn.2 with
  | none =>
      rcases moves.turnsLeft_quiet performed with ⟨uncommitted_eq, less⟩
      have sameReads := fun other acting =>
        (bound other acting).outdated_eq (moves.quiet performed 0).1
      have outdated := sum_map_set (Caller.outdated after) present moved
      rw [List.map_congr_left sameReads, sameReads caller (List.mem_of_getElem? present)]
        at outdated
      rw [uncommitted_eq, Nat.add_right_cancel_iff] at uncommitted
      rw [uncommitted]
      omega
  | some exchange =>
      rcases moves.turnsLeft_exchange performed with ⟨uncommitted_eq, turns_eq⟩
      -- whoever has still to commit may have to look at the cell again
      have outdated : ((system.threads.set turn.1 moved).map (Caller.outdated after)).sum ≤
          ((system.threads.set turn.1 moved).map Caller.uncommitted).sum :=
        List.sum_le_sum fun other _ => other.outdated_le after
      rw [uncommitted_eq, ← Nat.add_assoc, Nat.add_right_comm, Nat.add_right_cancel_iff]
        at uncommitted
      have pairs (additions : Nat) :
          (additions + 1).choose 2 = additions + additions.choose 2 := by
        rw [Nat.choose_succ_succ', Nat.choose_one_right]
      rw [← uncommitted, pairs]
      omega

/-! ## Every run of all calls -/

def Call.adds : Call → Bool
  | .addMicroJoules _ _ => true
  | .remove _ => false

/-- What the calls weigh when they begin. -/
theorem sum_start_eq (weight : Caller → Nat) (forAdd forRemove : Nat) (table : Table)
    (calls : List Call)
    (weighs : ∀ call : Call, weight call.begin = if call.adds then forAdd else forRemove) :
    ((start table calls).threads.map weight).sum =
      forAdd * calls.countP Call.adds + forRemove * calls.countP (fun call => !call.adds) := by
  rw [start, List.map_map]
  induction calls with
  | nil => rfl
  | cons call rest ih =>
      rw [List.map_cons, List.sum_cons, ih, Function.comp_apply, weighs, List.countP_cons,
        List.countP_cons]
      cases call.adds <;> simp [Nat.mul_add] <;> omega

/-- The turns that the calls have left when they begin. -/
theorem turnsLeft_start (table : Table) (calls : List Call) :
    turnsLeft (start table calls) =
      4 * calls.countP Call.adds + 2 * calls.countP (fun call => !call.adds) +
        (calls.countP Call.adds).choose 2 := by
  have turns := sum_start_eq Caller.turnsLeft 4 2 table calls fun call => by cases call <;> rfl
  have uncommitted := sum_start_eq Caller.uncommitted 1 0 table calls
    fun call => by cases call <;> rfl
  have outdated : ((start table calls).threads.map (Caller.outdated table)).sum = 0 :=
    sum_start table calls fun call => by cases call <;> rfl
  rw [Nat.one_mul, Nat.zero_mul, Nat.add_zero] at uncommitted
  rw [turnsLeft, turns, uncommitted]
  exact (congrArg _ outdated).trans (Nat.add_zero _)

theorem bound_start (table : Table) (calls : List Call) :
    ∀ caller ∈ (start table calls).threads, Bound table caller := by
  intro caller member
  rcases List.mem_map.mp member with ⟨call, -, rfl⟩
  cases call <;> trivial

theorem bound_step {system next : System Table Caller} {turn : Nat × Bool}
    (bound : ∀ caller ∈ system.threads, Bound system.shared caller)
    (stepped : system.step Caller.act turn = some next) :
    ∀ caller ∈ next.threads, Bound next.shared caller := by
  rcases moves_of_step stepped with ⟨caller, after, moved, present, moves, rfl⟩
  exact System.forall_threads_set bound
    ((bound caller (List.mem_of_getElem? present)).move moves) fun other _ =>
      Bound.keeps moves.keepsKeys

theorem bound_execute {table : Table} {calls : List Call} {turns : List (Nat × Bool)}
    {final : System Table Caller} (executed : execute table calls turns = some final) :
    ∀ caller ∈ final.threads, Bound final.shared caller :=
  run_induction (fun _ system => ∀ caller ∈ system.threads, Bound system.shared caller)
    (bound_start table calls) (fun _ _ _ _ _ => bound_step) executed

/-- A caller that has not finished can take its turn. -/
theorem Bound.exists_act {table : Table} {caller : Caller} (bound : Bound table caller)
    (unfinished : caller.finished = false) (spurious : Bool) :
    ∃ after moved, caller.act table spurious = some (after, moved) := by
  cases caller with
  | add pid deltaUj stage =>
      cases stage with
      | done total => cases unfinished
      | getOrInsert => exact ⟨_, _, rfl⟩
      | get =>
          rw [Caller.act, AddStage.step]
          cases table.get pid with
          | none | some => exact ⟨_, _, rfl⟩
      | load entry =>
          rcases SkipMap.exists_load_of_keyAt bound with ⟨value, loaded⟩
          rw [Caller.act, AddStage.step, loaded]
          exact ⟨_, _, rfl⟩
      | compareExchange entry current =>
          rcases SkipMap.exists_load_of_keyAt bound with ⟨value, loaded⟩
          rw [Caller.act, AddStage.step, SkipMap.compareExchangeWeak, loaded, Option.map_some]
          split <;> exact ⟨_, _, rfl⟩
  | remove pid stage =>
      cases stage with
      | done final => cases unfinished
      | remove =>
          rw [Caller.act, RemoveStage.step, SkipMap.remove]
          cases table.index[pid]? with
          | none | some => exact ⟨_, _, rfl⟩
      | load entry =>
          rcases SkipMap.exists_load_of_keyAt bound with ⟨value, loaded⟩
          rw [Caller.act, RemoveStage.step, loaded]
          exact ⟨_, _, rfl⟩

/-- The calls take a bounded number of turns in every interleaving: at most four for an
addition and two for a removal, one more for every pair of additions and one more for
every exchange that fails spuriously.  At no point is a call stopped by the others. -/
theorem execute_lockFree (table : Table) (calls : List Call) (turns : List (Nat × Bool))
    (final : System Table Caller) (executed : execute table calls turns = some final) :
    turns.length ≤ 4 * calls.countP Call.adds + 2 * calls.countP (fun call => !call.adds) +
        (calls.countP Call.adds).choose 2 + turns.countP Prod.snd ∧
      ∀ index caller, final.threads[index]? = some caller → caller.finished = false →
        ∀ spurious, ∃ next, final.step Caller.act (index, spurious) = some next := by
  have taken := run_induction (fun past system =>
    (∀ caller ∈ system.threads, Bound system.shared caller) ∧
      past.length + turnsLeft system ≤
        turnsLeft (start table calls) + past.countP Prod.snd) ?_ ?_ executed
  · rcases taken with ⟨bound, used⟩
    rw [turnsLeft_start] at used
    refine ⟨by omega, ?_⟩
    intro index caller present unfinished spurious
    rcases (bound caller (List.mem_of_getElem? present)).exists_act unfinished spurious with
      ⟨after, moved, acted⟩
    exact ⟨⟨after, final.threads.set index moved⟩,
      System.step_eq_some_iff.mpr ⟨caller, after, moved, present, acted, rfl⟩⟩
  · exact ⟨bound_start table calls, by simp⟩
  · rintro past turn system next - ⟨bound, used⟩ stepped
    have less := turnsLeft_step bound stepped
    refine ⟨bound_step bound stepped, ?_⟩
    rw [List.length_append, List.length_singleton, List.countP_append, List.countP_singleton]
    cases spurious : turn.2 with
    | false =>
        rw [spurious, Bool.toNat_false] at less
        simp only [Bool.false_eq_true, if_false]
        omega
    | true =>
        rw [spurious, Bool.toNat_true] at less
        simp only [if_true]
        omega

/-- Two additions to one process and a removal: the second addition fails once. -/
theorem execute_lockFree_contended :
    ∃ final : System Table Caller,
      execute SkipMap.empty
        [.addMicroJoules 7 5, .addMicroJoules 7 6, .remove 7]
        [(0, false), (1, false), (0, false), (1, false), (0, false), (1, false), (0, false),
          (1, false), (1, false), (2, false), (2, false)] = some final ∧
      11 ≤ 4 * 2 + 2 * 1 + Nat.choose 2 2 + 0 := by
  refine ⟨_, rfl, ?_⟩
  exact (execute_lockFree SkipMap.empty [.addMicroJoules 7 5, .addMicroJoules 7 6, .remove 7]
    [(0, false), (1, false), (0, false), (1, false), (0, false), (1, false), (0, false),
      (1, false), (1, false), (2, false), (2, false)] _ rfl).1

end Mjae.Concurrent
