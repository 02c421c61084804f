import Mathlib.Algebra.Order.BigOperators.Group.List
import Mjae.Concurrent.Remove

/-!
# Nothing is harvested twice

A daemon removes processes that have exited and keeps what `remove` returns.  Additions
that race with it may lose their deltas, and cells may saturate; but no delta is ever
both in a returned value and in the registry, or in two returned values.
-/

namespace Mjae.Concurrent

open Mjae.Arith Mjae.Transition

/-- Before the first turn of any table, a link is the only owner of an entry. -/
theorem tracked_start_of_table (table : Table) (calls : List Call) :
    Tracked (start table calls) where
  bound caller member := by
    rcases List.mem_map.mp member with ⟨call, -, rfl⟩
    cases call <;> trivial
  single entry := by
    rw [owners, sum_start _ _ fun call => by cases call <;> rfl, Nat.zero_add]
    exact links_le_one _ entry

/-- Readers of `pid` see at most the delta of an exchange more, and only through a link. -/
theorem toNat_slot_store_le {table : Table} {exchange : Exchange}
    (carried : table.keyAt exchange.entry = some exchange.pid)
    (holds : table.load exchange.entry = some exchange.current) (pid : UInt32) :
    (slot (table.store exchange.entry (U64.saturatingAdd exchange.current exchange.deltaUj))
        pid).toNat ≤
      (slot table pid).toNat +
        (if exchange.pid = pid then exchange.deltaUj.toNat else 0) *
          links table exchange.entry := by
  by_cases linked : table.get exchange.pid = some exchange.entry
  · rw [slot_store_of_get linked, links_of_get linked]
    split
    · rename_i same
      rw [← same, slot_of_get linked holds, U64.toNat_saturatingAdd, Nat.mul_one]
      exact min_le_left _ _
    · exact Nat.le_add_right _ _
  · have unlinked : table.get pid ≠ some exchange.entry := by
      intro found
      have same := Option.some.inj (carried.symm.trans (SkipMap.keyAt_of_get found))
      exact linked (same ▸ found)
    rw [slot_store_of_get_ne unlinked]
    exact Nat.le_add_right _ _

/-- A remover takes out at most the delta of an exchange more, and only while it waits
for the entry. -/
theorem holds_store_le {table : Table} {exchange : Exchange}
    (carried : table.keyAt exchange.entry = some exchange.pid)
    (holds : table.load exchange.entry = some exchange.current) {caller : Caller}
    (bound : Bound table caller) (pid : UInt32) :
    caller.holds
        (table.store exchange.entry (U64.saturatingAdd exchange.current exchange.deltaUj)) pid ≤
      caller.holds table pid +
        (if exchange.pid = pid then exchange.deltaUj.toNat else 0) *
          caller.awaits exchange.entry := by
  cases caller with
  | add => exact Nat.zero_le _
  | remove own stage =>
      cases stage with
      | remove => exact Nat.zero_le _
      | done final => cases final <;> exact Nat.le_add_right _ _
      | load entry =>
          rw [Caller.holds, Caller.holds, Caller.awaits, SkipMap.load_store]
          by_cases same : exchange.entry = entry
          · subst same
            have own_eq := Option.some.inj (carried.symm.trans bound)
            rw [if_pos rfl, holds, Option.map_some, Option.getD_some, Option.getD_some, own_eq,
              if_pos rfl, Nat.mul_one, U64.toNat_saturatingAdd]
            split
            · exact min_le_left _ _
            · exact Nat.le_refl _
          · rw [if_neg same, if_neg (Ne.symm same), Nat.mul_zero, Nat.add_zero]

theorem sum_holds_store_le {table : Table} {exchange : Exchange}
    (carried : table.keyAt exchange.entry = some exchange.pid)
    (holds : table.load exchange.entry = some exchange.current)
    {threads : List Caller} (bound : ∀ caller ∈ threads, Bound table caller) (pid : UInt32) :
    (threads.map (Caller.holds (table.store exchange.entry
        (U64.saturatingAdd exchange.current exchange.deltaUj)) pid)).sum ≤
      (threads.map (Caller.holds table pid)).sum +
        (if exchange.pid = pid then exchange.deltaUj.toNat else 0) *
          (threads.map (Caller.awaits exchange.entry)).sum := by
  rw [← List.sum_map_mul_left, ← List.sum_map_add]
  apply List.sum_le_sum
  exact fun caller acting => holds_store_le carried holds (bound caller acting) pid

/-- What is kept grows by no more than what is added, also where a cell saturates. -/
theorem Tracked.kept_le {system next : System Table Caller} {turn : Nat × Bool}
    (tracked : Tracked system) (stepped : system.step Caller.act turn = some next)
    (pid : UInt32) :
    kept pid next + (system.threads.map (Caller.addedTo pid)).sum ≤
      kept pid system + (next.threads.map (Caller.addedTo pid)).sum := by
  rcases moves_of_step stepped with ⟨caller, after, moved, present, moves, rfl⟩
  have added := sum_map_set (Caller.addedTo pid) present moved
  have held := sum_map_set (Caller.holds after pid) present moved
  rw [kept, kept]
  dsimp only
  cases performed : caller.exchange system.shared turn.2 with
  | none =>
      rcases moves.quiet performed pid with ⟨sameLoads, sameAdded, moved_eq⟩
      have undisturbed : ∀ other ∈ system.threads,
          other.holds after pid = other.holds system.shared pid :=
        fun other acting => (tracked.bound other acting).holds_eq sameLoads pid
      rw [List.map_congr_left undisturbed, undisturbed caller (List.mem_of_getElem? present)]
        at held
      omega
  | some exchange =>
      rcases moves.exchanged performed with ⟨holds, rfl, rfl, rfl⟩
      have carried : system.shared.keyAt exchange.entry = some exchange.pid :=
        tracked.bound _ (List.mem_of_getElem? present)
      have single := tracked.single exchange.entry
      have seen := toNat_slot_store_le carried holds pid
      have taken := sum_holds_store_le carried holds tracked.bound pid
      have once : (if exchange.pid = pid then exchange.deltaUj.toNat else 0) *
          (system.threads.map (Caller.awaits exchange.entry)).sum +
          (if exchange.pid = pid then exchange.deltaUj.toNat else 0) *
            links system.shared exchange.entry ≤
          if exchange.pid = pid then exchange.deltaUj.toNat else 0 := by
        rw [← Nat.mul_add]
        exact (Nat.mul_le_mul_left _ single).trans_eq (Nat.mul_one _)
      simp only [Caller.addedTo, Caller.holds] at added held
      omega

theorem removedFrom_le_holds (table : Table) (pid : UInt32) (caller : Caller) :
    caller.removedFrom pid ≤ caller.holds table pid := by
  cases caller with
  | add => exact Nat.zero_le _
  | remove own stage =>
      cases stage with
      | remove | load => exact Nat.zero_le _
      | done final => cases final <;> exact Nat.le_refl _

theorem addedTo_le_deltaTo (pid : UInt32) (caller : Caller) :
    caller.addedTo pid ≤ caller.call.deltaTo pid := by
  cases caller with
  | add own deltaUj stage =>
      cases stage with
      | done total => exact Nat.le_refl _
      | get | getOrInsert | load | compareExchange => exact Nat.zero_le _
  | remove own stage => exact Nat.zero_le _

/-- At every point of every interleaving of additions and removals, on any table, and
wherever cells saturate or exchanges fail: what removals of a process have returned and
what is left in its slot come to no more than what the slot held and what additions have
exchanged in, and so to no more than was asked for. -/
theorem removed_add_left_le (table : Table) (calls : List Call) (turns : List (Nat × Bool))
    (system : System Table Caller) (executed : execute table calls turns = some system)
    (pid : UInt32) :
    (system.threads.map (Caller.removedFrom pid)).sum + (slot system.shared pid).toNat ≤
        (slot table pid).toNat + (system.threads.map (Caller.addedTo pid)).sum ∧
      (system.threads.map (Caller.addedTo pid)).sum ≤ (calls.map (Call.deltaTo pid)).sum := by
  constructor
  · have kept_le : Tracked system ∧ kept pid system ≤
        (slot table pid).toNat + (system.threads.map (Caller.addedTo pid)).sum := by
      apply run_induction (fun _ (system : System Table Caller) => Tracked system ∧
        kept pid system ≤
          (slot table pid).toNat + (system.threads.map (Caller.addedTo pid)).sum) _ _ executed
      · constructor
        · exact tracked_start_of_table table calls
        · rw [kept, sum_start _ _ fun call => by cases call <;> rfl,
            sum_start _ _ fun call => by cases call <;> rfl]
          exact Nat.le_refl _
      · rintro past turn state next - ⟨tracked, bounded⟩ stepped
        have grown := tracked.kept_le stepped pid
        exact ⟨tracked.step stepped, by omega⟩
    have removed_le : (system.threads.map (Caller.removedFrom pid)).sum ≤
        (system.threads.map (Caller.holds system.shared pid)).sum :=
      List.sum_le_sum fun caller _ => removedFrom_le_holds system.shared pid caller
    rw [kept] at kept_le
    omega
  · rw [← map_call_execute executed, List.map_map]
    exact List.sum_le_sum fun caller _ => addedTo_le_deltaTo pid caller

/-- The first removal takes the entry before an addition exchanges it, a second addition
makes a new one, and a second removal takes that. -/
theorem removed_add_left_le_racing :
    ∃ system : System Table Caller,
      execute SkipMap.empty
          [.addMicroJoules 7 5, .remove 7, .addMicroJoules 7 3, .remove 7]
          [(0, false), (0, false), (0, false), (1, false), (1, false), (0, false),
            (2, false), (2, false), (2, false), (2, true), (2, false), (3, false)] = some system ∧
        (system.threads.map (Caller.removedFrom 7)).sum + (slot system.shared 7).toNat ≤
          (slot SkipMap.empty 7).toNat + (system.threads.map (Caller.addedTo 7)).sum := by
  have complete : (execute SkipMap.empty
      [.addMicroJoules 7 5, .remove 7, .addMicroJoules 7 3, .remove 7]
      [(0, false), (0, false), (0, false), (1, false), (1, false), (0, false),
        (2, false), (2, false), (2, false), (2, true), (2, false), (3, false)]).isSome = true := by
    decide
  rcases Option.isSome_iff_exists.mp complete with ⟨system, executed⟩
  exact ⟨system, executed, (removed_add_left_le _ _ _ system executed 7).1⟩

end Mjae.Concurrent
