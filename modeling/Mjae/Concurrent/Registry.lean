import Mjae.Arith.Word
import Mjae.Concurrent.SkipMap
import Mjae.Transition.Interleave

/-!
# Concurrent callers of the registry

The calls of `add_micro_joules` and `remove` as sequences of atomic steps on one
shared table.  A caller keeps the handle that it looked up, so it may work on an
entry that is no longer linked.
-/

namespace Mjae.Concurrent

open Mjae.Arith Mjae.Transition

/-- The shared `SkipMap<u32, AtomicU64>`. -/
abbrev Table := SkipMap UInt32 UInt64

/-- An operation and its arguments. -/
inductive Call
  | addMicroJoules (pid : UInt32) (deltaUj : UInt64)
  | remove (pid : UInt32)

/-- Where a call of `add_micro_joules` stands; `load` and `compareExchange` are
the body of `saturating_add`. -/
inductive AddStage
  | get
  | getOrInsert
  | load (entry : Nat)
  | compareExchange (entry : Nat) (current : UInt64)
  | done (total : UInt64)

/-- Where a call of `remove` stands. -/
inductive RemoveStage
  | remove
  | load (entry : Nat)
  | done (final : Option UInt64)

inductive Caller
  | add (pid : UInt32) (deltaUj : UInt64) (stage : AddStage)
  | remove (pid : UInt32) (stage : RemoveStage)

def Call.begin : Call → Caller
  | .addMicroJoules pid deltaUj => .add pid deltaUj .get
  | .remove pid => .remove pid .remove

/-- The next atomic step of `add_micro_joules`. -/
def AddStage.step (table : Table) (pid : UInt32) (deltaUj : UInt64) (spurious : Bool) :
    AddStage → Option (Table × AddStage)
  | .get =>
      match table.get pid with
      | some entry => some (table, .load entry)
      | none => some (table, .getOrInsert)
  | .getOrInsert =>
      let (entry, table) := table.getOrInsert pid 0
      some (table, .load entry)
  | .load entry =>
      (table.load entry).map fun current => (table, .compareExchange entry current)
  | .compareExchange entry current =>
      let next := U64.saturatingAdd current deltaUj
      (table.compareExchangeWeak entry current next spurious).map fun
        | (.ok _, table) => (table, .done next)
        | (.error observed, table) => (table, .compareExchange entry observed)
  | .done _ => none

/-- The next atomic step of `remove`. -/
def RemoveStage.step (table : Table) (pid : UInt32) :
    RemoveStage → Option (Table × RemoveStage)
  | .remove =>
      match table.remove pid with
      | (some entry, table) => some (table, .load entry)
      | (none, table) => some (table, .done none)
  | .load entry => (table.load entry).map fun value => (table, .done (some value))
  | .done _ => none

/-- The next atomic step of a caller; `spurious` is the outcome that
`compare_exchange_weak` is free to choose. -/
def Caller.act (table : Table) : Caller → Bool → Option (Table × Caller)
  | .add pid deltaUj stage, spurious =>
      (stage.step table pid deltaUj spurious).map fun (table, stage) =>
        (table, .add pid deltaUj stage)
  | .remove pid stage, _ =>
      (stage.step table pid).map fun (table, stage) => (table, .remove pid stage)

def Caller.finished : Caller → Bool
  | .add _ _ (.done _) => true
  | .remove _ (.done _) => true
  | _ => false

/-- The operation that a caller performs. -/
def Caller.call : Caller → Call
  | .add pid deltaUj _ => .addMicroJoules pid deltaUj
  | .remove pid _ => .remove pid

/-- All calls about to begin on `table`. -/
def start (table : Table) (calls : List Call) : System Table Caller :=
  ⟨table, calls.map Call.begin⟩

/-- The system after `turns`, when every turn names a caller with a step left. -/
def execute (table : Table) (calls : List Call) (turns : List (Nat × Bool)) :
    Option (System Table Caller) :=
  run (System.step Caller.act) (start table calls) turns

/-- Cumulative total of `pid`, zero when no entry is linked. -/
def slot (table : Table) (pid : UInt32) : UInt64 :=
  (table.value? pid).getD 0

/-! ## What a step can do -/

/-- Everything that one atomic step of a caller can do. -/
inductive Moves (table : Table) : Caller → Bool → Table → Caller → Prop
  | found {pid deltaUj spurious entry} (linked : table.get pid = some entry) :
      Moves table (.add pid deltaUj .get) spurious table (.add pid deltaUj (.load entry))
  | missed {pid deltaUj spurious} (absent : table.get pid = none) :
      Moves table (.add pid deltaUj .get) spurious table (.add pid deltaUj .getOrInsert)
  | inserted {pid deltaUj spurious} :
      Moves table (.add pid deltaUj .getOrInsert) spurious (table.getOrInsert pid 0).2
        (.add pid deltaUj (.load (table.getOrInsert pid 0).1))
  | loaded {pid deltaUj spurious entry current} (holds : table.load entry = some current) :
      Moves table (.add pid deltaUj (.load entry)) spurious table
        (.add pid deltaUj (.compareExchange entry current))
  | retried {pid deltaUj spurious entry current observed}
      (holds : table.load entry = some observed)
      (failed : observed ≠ current ∨ spurious = true) :
      Moves table (.add pid deltaUj (.compareExchange entry current)) spurious table
        (.add pid deltaUj (.compareExchange entry observed))
  | committed {pid deltaUj spurious entry current} (holds : table.load entry = some current)
      (willing : spurious = false) :
      Moves table (.add pid deltaUj (.compareExchange entry current)) spurious
        (table.store entry (U64.saturatingAdd current deltaUj))
        (.add pid deltaUj (.done (U64.saturatingAdd current deltaUj)))
  | unlinked {pid spurious entry} (linked : table.get pid = some entry) :
      Moves table (.remove pid .remove) spurious (table.remove pid).2 (.remove pid (.load entry))
  | absent {pid spurious} (absent : table.get pid = none) :
      Moves table (.remove pid .remove) spurious (table.remove pid).2
        (.remove pid (.done none))
  | read {pid spurious entry value} (holds : table.load entry = some value) :
      Moves table (.remove pid (.load entry)) spurious table
        (.remove pid (.done (some value)))

theorem moves_of_addStage_step {table after : Table} {pid : UInt32} {deltaUj : UInt64}
    {spurious : Bool} {stage next : AddStage}
    (stepped : stage.step table pid deltaUj spurious = some (after, next)) :
    Moves table (.add pid deltaUj stage) spurious after (.add pid deltaUj next) := by
  cases stage with
  | get =>
      rw [AddStage.step] at stepped
      split at stepped
      · rename_i linked
        cases stepped
        exact .found linked
      · rename_i absent
        cases stepped
        exact .missed absent
  | getOrInsert =>
      cases stepped
      exact .inserted
  | load entry =>
      obtain ⟨current, holds, same⟩ := Option.map_eq_some_iff.mp stepped
      cases same
      exact .loaded holds
  | compareExchange entry current =>
      obtain ⟨outcome, exchanged, same⟩ := Option.map_eq_some_iff.mp stepped
      obtain ⟨observed, holds, outcome_eq⟩ := Option.map_eq_some_iff.mp exchanged
      subst outcome_eq
      split at same
      · rename_i result later succeeded
        split at succeeded
        · rename_i willing
          obtain ⟨rfl, honest⟩ := willing
          cases succeeded
          cases same
          exact .committed holds honest
        · cases succeeded
      · rename_i result later failed
        split at failed
        · cases failed
        · rename_i unwilling
          cases failed
          cases same
          apply Moves.retried holds
          by_cases same : observed = current
          · exact .inr (by simpa [same] using unwilling)
          · exact .inl same
  | done total => cases stepped

theorem moves_of_removeStage_step {table after : Table} {pid : UInt32} {spurious : Bool}
    {stage next : RemoveStage} (stepped : stage.step table pid = some (after, next)) :
    Moves table (.remove pid stage) spurious after (.remove pid next) := by
  cases stage with
  | remove =>
      rw [RemoveStage.step] at stepped
      split at stepped
      · rename_i entry unlinkedTable removed
        cases stepped
        have linked : table.get pid = some entry := congrArg Prod.fst removed
        cases congrArg Prod.snd removed
        exact .unlinked linked
      · rename_i unlinkedTable removed
        cases stepped
        have absent : table.get pid = none := congrArg Prod.fst removed
        cases congrArg Prod.snd removed
        exact .absent absent
  | load entry =>
      obtain ⟨value, holds, same⟩ := Option.map_eq_some_iff.mp stepped
      cases same
      exact .read holds
  | done final => cases stepped

theorem moves_of_act {table after : Table} {caller next : Caller} {spurious : Bool}
    (acted : caller.act table spurious = some (after, next)) :
    Moves table caller spurious after next := by
  cases caller with
  | add pid deltaUj stage =>
      obtain ⟨⟨_, _⟩, stepped, same⟩ := Option.map_eq_some_iff.mp acted
      cases same
      exact moves_of_addStage_step stepped
  | remove pid stage =>
      obtain ⟨⟨_, _⟩, stepped, same⟩ := Option.map_eq_some_iff.mp acted
      cases same
      exact moves_of_removeStage_step stepped

/-- A finished caller does not move. -/
theorem Moves.unfinished {table after : Table} {caller moved : Caller} {spurious : Bool}
    (moves : Moves table caller spurious after moved) : caller.finished = false := by
  cases moves <;> rfl

theorem Moves.call_eq {table after : Table} {caller moved : Caller} {spurious : Bool}
    (moves : Moves table caller spurious after moved) : moved.call = caller.call := by
  cases moves <;> rfl

/-- A turn of the system is a move of the caller that it names. -/
theorem moves_of_step {system next : System Table Caller} {turn : Nat × Bool}
    (stepped : system.step Caller.act turn = some next) :
    ∃ caller after moved, system.threads[turn.1]? = some caller ∧
      Moves system.shared caller turn.2 after moved ∧
      next = ⟨after, system.threads.set turn.1 moved⟩ := by
  obtain ⟨caller, after, moved, present, acted, next_eq⟩ := System.step_eq_some_iff.mp stepped
  exact ⟨caller, after, moved, present, moves_of_act acted, next_eq⟩

/-- Every caller performs its own call to the end. -/
theorem map_call_execute {table : Table} {calls : List Call} {turns : List (Nat × Bool)}
    {final : System Table Caller} (executed : execute table calls turns = some final) :
    final.threads.map Caller.call = calls := by
  refine run_induction (fun _ system => system.threads.map Caller.call = calls)
    ?_ ?_ executed
  · rw [start, List.map_map]
    apply List.map_id''
    intro call
    cases call <;> rfl
  · intro past turn system next _ called stepped
    obtain ⟨caller, after, moved, present, moves, rfl⟩ := moves_of_step stepped
    have own : calls[turn.1]? = some caller.call := by
      rw [← called, List.getElem?_map, present, Option.map_some]
    obtain ⟨inside, own_eq⟩ := List.getElem?_eq_some_iff.mp own
    rw [List.map_set, moves.call_eq, called, ← own_eq, List.set_getElem_self]

/-! ## Totals -/

theorem isSome_value? (table : Table) (pid : UInt32) :
    (table.value? pid).isSome = (table.get pid).isSome := by
  rw [SkipMap.value?]
  cases linked : table.get pid with
  | none => rfl
  | some entry =>
      obtain ⟨value, loaded⟩ := SkipMap.exists_load_of_keyAt (SkipMap.keyAt_of_get linked)
      rw [Option.bind_some, loaded]
      rfl

theorem slot_of_get {table : Table} {pid : UInt32} {entry : Nat} {value : UInt64}
    (linked : table.get pid = some entry) (holds : table.load entry = some value) :
    slot table pid = value := by
  rw [slot, SkipMap.value?, linked, Option.bind_some, holds, Option.getD_some]

/-- A fresh zero entry is invisible in the totals. -/
theorem slot_getOrInsert (table : Table) (pid other : UInt32) :
    slot (table.getOrInsert pid 0).2 other = slot table other := by
  rw [slot, SkipMap.value?_getOrInsert, slot]
  split <;> rfl

/-- An exchange on a linked entry moves the total it is linked under. -/
theorem slot_store_of_get {table : Table} {pid : UInt32} {entry : Nat}
    (linked : table.get pid = some entry) (value : UInt64) (other : UInt32) :
    slot (table.store entry value) other = if pid = other then value else slot table other := by
  have same_iff : table.get other = some entry ↔ pid = other := by
    constructor
    · intro others
      exact Option.some.inj
        ((SkipMap.keyAt_of_get linked).symm.trans (SkipMap.keyAt_of_get others))
    · rintro rfl
      exact linked
  rw [slot, SkipMap.value?_store]
  by_cases same : pid = other
  · rw [if_pos (same_iff.mpr same), if_pos same, Option.getD_some]
  · rw [if_neg fun others => same (same_iff.mp others), if_neg same, slot]

/-- An exchange on an unlinked entry is seen by no reader. -/
theorem slot_store_of_get_ne {table : Table} {pid : UInt32} {entry : Nat}
    (unlinked : table.get pid ≠ some entry) (value : UInt64) :
    slot (table.store entry value) pid = slot table pid := by
  rw [slot, SkipMap.value?_store, if_neg unlinked, slot]

end Mjae.Concurrent
