import Mathlib.Data.List.Nodup
import Mjae.Concurrent.Registry
import Mjae.Core.Registry

/-!
# Concurrent additions

Any number of concurrent calls of `add_micro_joules`, in any interleaving, act as
if they ran one after another: in the order of their successful exchanges.
-/

namespace Mjae.Concurrent

open Mjae.Arith Mjae.Core Mjae.Transition

/-- The call of an addition, given by its process and its delta. -/
def addition (addend : UInt32 × UInt64) : Call :=
  .addMicroJoules addend.1 addend.2

/-- Deltas of the additions to `pid`, in order. -/
def deltasTo (additions : List (UInt32 × UInt64)) (pid : UInt32) : List UInt64 :=
  (additions.filter fun addend => addend.1 = pid).map Prod.snd

/-- Saturating running total of `pid` after the listed additions. -/
def runningTotal (table : Table) (additions : List (UInt32 × UInt64)) (pid : UInt32) : UInt64 :=
  (deltasTo additions pid).foldl U64.saturatingAdd (slot table pid)

/-- The additions that the callers in `order` make. -/
def inOrder (additions : List (UInt32 × UInt64)) (order : List Nat) :
    List (UInt32 × UInt64) :=
  order.filterMap fun index => additions[index]?

/-! ## Running totals -/

theorem runningTotal_append (table : Table) (additions : List (UInt32 × UInt64))
    (addend : UInt32 × UInt64) (pid : UInt32) :
    runningTotal table (additions ++ [addend]) pid =
      if addend.1 = pid then U64.saturatingAdd (runningTotal table additions pid) addend.2
      else runningTotal table additions pid := by
  rw [runningTotal, deltasTo, List.filter_append, List.map_append, List.foldl_append]
  by_cases own : addend.1 = pid
  · simp [own, runningTotal, deltasTo]
  · simp [own, runningTotal, deltasTo]

/-- The order of the additions does not matter for the total. -/
theorem runningTotal_perm (table : Table) {first second : List (UInt32 × UInt64)}
    (perm : first.Perm second) (pid : UInt32) :
    runningTotal table first pid = runningTotal table second pid := by
  have : RightCommutative U64.saturatingAdd := ⟨U64.saturatingAdd_right_comm⟩
  exact ((perm.filter _).map _).foldl_eq _

theorem inOrder_append {additions : List (UInt32 × UInt64)} {index : Nat}
    {addend : UInt32 × UInt64} (present : additions[index]? = some addend) (order : List Nat) :
    inOrder additions (order ++ [index]) = inOrder additions order ++ [addend] := by
  simp [inOrder, List.filterMap_append, present]

/-- Taking every caller once, in the order of the list, makes all additions. -/
theorem inOrder_range (additions : List (UInt32 × UInt64)) :
    inOrder additions (List.range additions.length) = additions := by
  induction additions using List.reverseRecOn with
  | nil => rfl
  | append_singleton additions addend ih =>
      have earlier : inOrder (additions ++ [addend]) (List.range additions.length) =
          inOrder additions (List.range additions.length) := by
        apply List.filterMap_congr
        intro index member
        exact List.getElem?_append_left (List.mem_range.mp member)
      rw [List.length_append, List.length_singleton, List.range_succ,
        inOrder_append (List.getElem?_concat_length ..), earlier, ih]

/-! ## One caller -/

/-- An addition whose handle, once it has one, is linked under its process. -/
def Attached (table : Table) : Caller → Prop
  | .add pid _ (.load entry) => table.get pid = some entry
  | .add pid _ (.compareExchange entry _) => table.get pid = some entry
  | .add pid _ (.done _) => (table.get pid).isSome
  | .add _ _ _ => True
  | .remove _ _ => False

/-- No link goes away. -/
def Keeps (table after : Table) : Prop :=
  ∀ pid entry, table.get pid = some entry → after.get pid = some entry

theorem Keeps.refl (table : Table) : Keeps table table :=
  fun _ _ => id

theorem Keeps.trans {first second third : Table} (earlier : Keeps first second)
    (later : Keeps second third) : Keeps first third :=
  fun pid entry linked => later pid entry (earlier pid entry linked)

theorem Attached.keeps {table after : Table} {caller : Caller} (keeps : Keeps table after)
    (attached : Attached table caller) : Attached after caller := by
  cases caller with
  | add pid deltaUj stage =>
      cases stage with
      | get => trivial
      | getOrInsert => trivial
      | load entry => exact keeps pid entry attached
      | compareExchange entry current => exact keeps pid entry attached
      | done total =>
          rcases Option.isSome_iff_exists.mp attached with ⟨entry, linked⟩
          exact Option.isSome_iff_exists.mpr ⟨entry, keeps pid entry linked⟩
  | remove pid stage => exact attached

theorem keeps_getOrInsert (table : Table) (pid : UInt32) :
    Keeps table (table.getOrInsert pid 0).2 := by
  intro other entry linked
  rw [SkipMap.get_getOrInsert]
  split
  · rename_i same
    subst same
    rw [SkipMap.getOrInsert_of_get linked]
  · exact linked

/-- A move of an attached caller keeps all links and keeps it attached. -/
theorem Attached.move {table after : Table} {caller moved : Caller} {spurious : Bool}
    (attached : Attached table caller) (moves : Moves table caller spurious after moved) :
    Keeps table after ∧ Attached after moved := by
  cases moves with
  | found linked => exact ⟨Keeps.refl table, linked⟩
  | missed absent => exact ⟨Keeps.refl table, trivial⟩
  | inserted =>
      constructor
      · exact keeps_getOrInsert table _
      · rw [Attached, SkipMap.get_getOrInsert, if_pos rfl]
  | loaded holds => exact ⟨Keeps.refl table, attached⟩
  | retried holds failed => exact ⟨Keeps.refl table, attached⟩
  | committed holds willing =>
      exact ⟨Keeps.refl table, Option.isSome_iff_exists.mpr ⟨_, attached⟩⟩
  | unlinked linked => exact attached.elim
  | absent absent => exact attached.elim
  | read holds => exact attached.elim

/-- What a move of an attached caller does to the totals: nothing before the end
of the call, and at its end one saturating addition, whose result is returned. -/
theorem Attached.effect {table after : Table} {caller moved : Caller} {spurious : Bool}
    (attached : Attached table caller) (moves : Moves table caller spurious after moved) :
    (moved.finished = false ∧ ∀ pid, slot after pid = slot table pid) ∨
    ∃ pid deltaUj, moved.call = .addMicroJoules pid deltaUj ∧
      moved = .add pid deltaUj (.done (U64.saturatingAdd (slot table pid) deltaUj)) ∧
      ∀ other, slot after other =
        if pid = other then U64.saturatingAdd (slot table pid) deltaUj else slot table other := by
  cases moves with
  | found linked => exact .inl ⟨rfl, fun _ => rfl⟩
  | missed absent => exact .inl ⟨rfl, fun _ => rfl⟩
  | inserted => exact .inl ⟨rfl, slot_getOrInsert table _⟩
  | loaded holds => exact .inl ⟨rfl, fun _ => rfl⟩
  | retried holds failed => exact .inl ⟨rfl, fun _ => rfl⟩
  | @committed pid deltaUj spurious entry current holds willing =>
      refine .inr ⟨pid, deltaUj, rfl, ?_, fun other => ?_⟩
      · rw [slot_of_get attached holds]
      · rw [slot_of_get attached holds, slot_store_of_get attached]
  | unlinked linked => exact attached.elim
  | absent absent => exact attached.elim
  | read holds => exact attached.elim

/-- Only the process of the caller can become linked. -/
theorem Attached.links {table after : Table} {caller moved : Caller} {spurious : Bool}
    (attached : Attached table caller) (moves : Moves table caller spurious after moved)
    {pid : UInt32} (linked : (after.get pid).isSome) :
    (table.get pid).isSome ∨ ∃ deltaUj, caller.call = .addMicroJoules pid deltaUj := by
  cases moves with
  | found | missed | loaded | retried | committed => exact .inl linked
  | @inserted own deltaUj =>
      rw [SkipMap.get_getOrInsert] at linked
      split at linked
      · rename_i same
        exact .inr ⟨deltaUj, same ▸ rfl⟩
      · exact .inl linked
  | unlinked | absent | read => exact attached.elim

/-- A finished addition leaves its process linked. -/
theorem Attached.isSome_get {table : Table} {caller : Caller} (attached : Attached table caller)
    (finished : caller.finished) {addend : UInt32 × UInt64}
    (call_eq : caller.call = addition addend) : (table.get addend.1).isSome := by
  cases caller with
  | add pid deltaUj stage =>
      cases call_eq
      cases stage with
      | done total => exact attached
      | get | getOrInsert | load | compareExchange => contradiction
  | remove pid stage => contradiction

/-! ## All callers -/

/-- The state after the additions of the callers in `order`, one after another. -/
structure Linearized (table : Table) (additions : List (UInt32 × UInt64)) (order : List Nat)
    (system : System Table Caller) : Prop where
  attached : ∀ caller ∈ system.threads, Attached system.shared caller
  keeps : Keeps table system.shared
  links : ∀ pid, (system.shared.get pid).isSome →
    (table.get pid).isSome ∨ ∃ addend ∈ additions, addend.1 = pid
  nodup : order.Nodup
  served : ∀ index, index ∈ order ↔
    ∃ caller, system.threads[index]? = some caller ∧ caller.finished
  slots : ∀ pid, slot system.shared pid = runningTotal table (inOrder additions order) pid
  totals : ∀ before index later, order = before ++ index :: later →
    ∃ pid deltaUj, system.threads[index]? = some (.add pid deltaUj
      (.done (runningTotal table (inOrder additions (before ++ [index])) pid)))

theorem linearized_start (table : Table) (additions : List (UInt32 × UInt64)) :
    Linearized table additions [] (start table (additions.map addition)) where
  attached := by
    intro caller member
    rcases List.mem_map.mp member with ⟨call, listed, rfl⟩
    rcases List.mem_map.mp listed with ⟨addend, -, rfl⟩
    trivial
  keeps _ _ := id
  links _ linked := .inl linked
  nodup := List.nodup_nil
  served index := by
    apply iff_of_false List.not_mem_nil
    rintro ⟨caller, present, finished⟩
    rw [start, List.getElem?_map, List.getElem?_map] at present
    rcases Option.map_eq_some_iff.mp present with ⟨call, called, rfl⟩
    rcases Option.map_eq_some_iff.mp called with ⟨addend, -, rfl⟩
    contradiction
  slots _ := rfl
  totals before index later split := by
    cases before <;> contradiction

/-- The caller of an addition is at the place of its addend. -/
theorem addend_of_call {additions : List (UInt32 × UInt64)} {threads : List Caller}
    (called : threads.map Caller.call = additions.map addition) {index : Nat} {caller : Caller}
    (present : threads[index]? = some caller) {pid : UInt32} {deltaUj : UInt64}
    (call_eq : caller.call = .addMicroJoules pid deltaUj) :
    additions[index]? = some (pid, deltaUj) := by
  have listed : (additions.map addition)[index]? = some (.addMicroJoules pid deltaUj) := by
    rw [← called, List.getElem?_map, present, Option.map_some, call_eq]
  rw [List.getElem?_map] at listed
  rcases Option.map_eq_some_iff.mp listed with ⟨addend, found, same⟩
  cases same
  exact found

/-- The caller at `index` has finished. -/
def FinishedAt (threads : List Caller) (index : Nat) : Prop :=
  ∃ caller, threads[index]? = some caller ∧ caller.finished

theorem finishedAt_set_self {threads : List Caller} {index : Nat} {caller : Caller}
    (present : threads[index]? = some caller) (moved : Caller) :
    FinishedAt (threads.set index moved) index ↔ moved.finished := by
  have replaced : (threads.set index moved)[index]? = some moved :=
    List.getElem?_set_self (List.getElem?_eq_some_iff.mp present).1
  constructor
  · rintro ⟨other, found, finished⟩
    cases replaced.symm.trans found
    exact finished
  · exact fun finished => ⟨moved, replaced, finished⟩

theorem finishedAt_set_of_ne {threads : List Caller} {index other : Nat} (differ : index ≠ other)
    (moved : Caller) : FinishedAt (threads.set index moved) other ↔ FinishedAt threads other := by
  rw [FinishedAt, FinishedAt, List.getElem?_set_ne differ]

namespace Linearized

variable {table : Table} {additions : List (UInt32 × UInt64)} {order : List Nat}
  {system : System Table Caller}

/-- A caller that still moves has no place in the order. -/
theorem not_mem (linearized : Linearized table additions order system) {index : Nat}
    {caller : Caller} (present : system.threads[index]? = some caller)
    (unfinished : caller.finished = false) : index ∉ order := by
  intro member
  rcases (linearized.served index).mp member with ⟨other, found, finished⟩
  cases present.symm.trans found
  rw [unfinished] at finished
  contradiction

/-- A move before the end of a call leaves the order as it is. -/
theorem wait (linearized : Linearized table additions order system) {index : Nat}
    {caller moved : Caller} {after : Table} {spurious : Bool}
    (present : system.threads[index]? = some caller)
    (moves : Moves system.shared caller spurious after moved)
    (waiting : moved.finished = false)
    (same : ∀ pid, slot after pid = slot system.shared pid) :
    (∀ other, other ∈ order ↔ FinishedAt (system.threads.set index moved) other) ∧
    (∀ pid, slot after pid = runningTotal table (inOrder additions order) pid) ∧
    ∀ before other later, order = before ++ other :: later →
      ∃ pid deltaUj, (system.threads.set index moved)[other]? = some (.add pid deltaUj
        (.done (runningTotal table (inOrder additions (before ++ [other])) pid))) := by
  have unserved := linearized.not_mem present moves.unfinished
  refine ⟨fun other => ?_, fun pid => (same pid).trans (linearized.slots pid), ?_⟩
  · by_cases own : index = other
    · subst own
      rw [finishedAt_set_self present, waiting]
      exact iff_of_false unserved Bool.false_ne_true
    · rw [finishedAt_set_of_ne own]
      exact linearized.served other
  · intro before other later split
    have differ : index ≠ other := by
      rintro rfl
      exact unserved (split ▸ List.mem_append_right before List.mem_cons_self)
    rw [List.getElem?_set_ne differ]
    exact linearized.totals before other later split

/-- The end of a call puts its caller last in the order. -/
theorem commit (linearized : Linearized table additions order system) {index : Nat}
    {caller : Caller} {after : Table} {spurious : Bool} {pid : UInt32} {deltaUj : UInt64}
    (present : system.threads[index]? = some caller)
    (moves : Moves system.shared caller spurious after
      (.add pid deltaUj (.done (U64.saturatingAdd (slot system.shared pid) deltaUj))))
    (own : additions[index]? = some (pid, deltaUj))
    (effect : ∀ other, slot after other =
      if pid = other then U64.saturatingAdd (slot system.shared pid) deltaUj
      else slot system.shared other) :
    (order ++ [index]).Nodup ∧
    (∀ other, other ∈ order ++ [index] ↔ FinishedAt (system.threads.set index
      (.add pid deltaUj (.done (U64.saturatingAdd (slot system.shared pid) deltaUj)))) other) ∧
    (∀ other, slot after other =
      runningTotal table (inOrder additions (order ++ [index])) other) ∧
    ∀ before other later, order ++ [index] = before ++ other :: later →
      ∃ otherPid otherDelta, (system.threads.set index (.add pid deltaUj
          (.done (U64.saturatingAdd (slot system.shared pid) deltaUj))))[other]? =
        some (.add otherPid otherDelta
          (.done (runningTotal table (inOrder additions (before ++ [other])) otherPid))) := by
  have unserved := linearized.not_mem present moves.unfinished
  have added : ∀ other, slot after other =
      runningTotal table (inOrder additions (order ++ [index])) other := by
    intro other
    rw [effect, inOrder_append own, runningTotal_append, ← linearized.slots]
    split
    · rename_i same
      rw [show pid = other from same]
    · rfl
  have nodup : (order ++ [index]).Nodup :=
    List.concat_eq_append ▸ linearized.nodup.concat unserved
  refine ⟨nodup, fun other => ?_, added, ?_⟩
  · by_cases same : index = other
    · subst same
      rw [finishedAt_set_self present]
      exact iff_of_true (List.mem_append_right order List.mem_cons_self) rfl
    · rw [finishedAt_set_of_ne same, List.mem_append, List.mem_singleton]
      exact (or_iff_left (Ne.symm same)).trans (linearized.served other)
  · intro before other later split
    rcases List.eq_nil_or_concat later with rfl | ⟨between, last, rfl⟩
    · rcases List.append_inj' split rfl with ⟨rfl, last_eq⟩
      cases last_eq
      refine ⟨pid, deltaUj, ?_⟩
      rw [List.getElem?_set_self (List.getElem?_eq_some_iff.mp present).1, ← added, effect,
        if_pos rfl]
    · rw [List.concat_eq_append, ← List.cons_append, ← List.append_assoc] at split
      rcases List.append_inj' split rfl with ⟨earlier, -⟩
      have differ : index ≠ other := by
        rintro rfl
        exact unserved (earlier ▸ List.mem_append_right before List.mem_cons_self)
      rw [List.getElem?_set_ne differ]
      exact linearized.totals before other between earlier

/-- Every turn keeps the state linearized. -/
theorem step {next : System Table Caller} {turn : Nat × Bool}
    (linearized : Linearized table additions order system)
    (called : system.threads.map Caller.call = additions.map addition)
    (stepped : system.step Caller.act turn = some next) :
    ∃ longer, Linearized table additions longer next := by
  rcases moves_of_step stepped with ⟨caller, after, moved, present, moves, rfl⟩
  have attached := linearized.attached caller (List.mem_of_getElem? present)
  rcases attached.move moves with ⟨keeps, stays⟩
  have allAttached : ∀ other ∈ system.threads.set turn.1 moved, Attached after other :=
    System.forall_threads_set linearized.attached stays fun other _ => Attached.keeps keeps
  have allKept : Keeps table after := fun pid entry linked =>
    keeps pid entry (linearized.keeps pid entry linked)
  have allLinks : ∀ pid, (after.get pid).isSome →
      (table.get pid).isSome ∨ ∃ addend ∈ additions, addend.1 = pid := by
    intro pid linked
    rcases attached.links moves linked with before | ⟨deltaUj, call_eq⟩
    · exact linearized.links pid before
    · exact .inr ⟨(pid, deltaUj), List.mem_of_getElem? (addend_of_call called present call_eq), rfl⟩
  rcases attached.effect moves with ⟨waiting, same⟩ | ⟨pid, deltaUj, call_eq, rfl, effect⟩
  · rcases linearized.wait present moves waiting same with ⟨served, slots, totals⟩
    exact ⟨order, allAttached, allKept, allLinks, linearized.nodup, served, slots, totals⟩
  · have own := addend_of_call called present (moves.call_eq.symm.trans call_eq)
    rcases linearized.commit present moves own effect with ⟨nodup, served, slots, totals⟩
    exact ⟨order ++ [turn.1], allAttached, allKept, allLinks, nodup, served, slots, totals⟩

end Linearized

theorem linearized_execute {table : Table} {additions : List (UInt32 × UInt64)}
    {turns : List (Nat × Bool)} {final : System Table Caller}
    (executed : execute table (additions.map addition) turns = some final) :
    ∃ order, Linearized table additions order final := by
  refine run_induction (fun _ system =>
    ∃ order, Linearized table additions order system)
    ⟨[], linearized_start table additions⟩ ?_ executed
  rintro past turn system next reached ⟨order, linearized⟩ stepped
  exact linearized.step (map_call_execute reached) stepped

namespace Linearized

variable {table : Table} {additions : List (UInt32 × UInt64)} {order : List Nat}
  {final : System Table Caller}

/-- Once every caller has finished, every caller is in the order. -/
theorem perm_range (linearized : Linearized table additions order final)
    (called : final.threads.map Caller.call = additions.map addition)
    (finished : ∀ caller ∈ final.threads, caller.finished) :
    order.Perm (List.range additions.length) := by
  have length_eq : final.threads.length = additions.length := by
    rw [← List.length_map Caller.call, called, List.length_map]
  rw [List.perm_ext_iff_of_nodup linearized.nodup List.nodup_range]
  intro index
  rw [linearized.served, List.mem_range, ← length_eq]
  constructor
  · rintro ⟨caller, present, -⟩
    exact (List.getElem?_eq_some_iff.mp present).1
  · intro inside
    exact ⟨final.threads[index], List.getElem?_eq_getElem inside,
      finished _ (List.getElem_mem inside)⟩

/-- Once every caller has finished, exactly the processes that had an entry or were
named by a call have one. -/
theorem isSome_value?_iff (linearized : Linearized table additions order final)
    (called : final.threads.map Caller.call = additions.map addition)
    (finished : ∀ caller ∈ final.threads, caller.finished) (pid : UInt32) :
    (final.shared.value? pid).isSome ↔
      (table.value? pid).isSome ∨ ∃ addend ∈ additions, addend.1 = pid := by
  rw [isSome_value?, isSome_value?]
  constructor
  · exact linearized.links pid
  · rintro (before | ⟨addend, member, rfl⟩)
    · rcases Option.isSome_iff_exists.mp before with ⟨entry, linked⟩
      exact Option.isSome_iff_exists.mpr ⟨entry, linearized.keeps pid entry linked⟩
    · have listed : addition addend ∈ final.threads.map Caller.call :=
        called ▸ List.mem_map_of_mem member
      rcases List.mem_map.mp listed with ⟨caller, acting, call_eq⟩
      exact (linearized.attached caller acting).isSome_get (finished caller acting) call_eq

/-- Once every caller has finished, every total counts all additions. -/
theorem value?_eq (linearized : Linearized table additions order final)
    (called : final.threads.map Caller.call = additions.map addition)
    (finished : ∀ caller ∈ final.threads, caller.finished) (pid : UInt32) :
    final.shared.value? pid =
      if (table.value? pid).isSome ∨ ∃ addend ∈ additions, addend.1 = pid then
        some (runningTotal table additions pid)
      else none := by
  have perm := linearized.perm_range called finished
  have total : slot final.shared pid = runningTotal table additions pid :=
    calc slot final.shared pid
        = runningTotal table (inOrder additions order) pid := linearized.slots pid
      _ = runningTotal table (inOrder additions (List.range additions.length)) pid :=
          runningTotal_perm table (perm.filterMap _) pid
      _ = runningTotal table additions pid := by rw [inOrder_range]
  have linked_iff := linearized.isSome_value?_iff called finished pid
  split
  · rename_i named
    rcases Option.isSome_iff_exists.mp (linked_iff.mpr named) with ⟨value, found⟩
    rw [found, ← total, slot, found, Option.getD_some]
  · rename_i unnamed
    exact Option.not_isSome_iff_eq_none.mp fun linked => unnamed (linked_iff.mp linked)

end Linearized

/-- However concurrent additions interleave, once all of them are over every total
is the saturating sum of its initial value and all deltas added to it, no other
process has an entry, and there is one order of the calls in which each of them
returns the running total of its process. -/
theorem addMicroJoules_linearizable (table : Table) (additions : List (UInt32 × UInt64))
    (turns : List (Nat × Bool)) (final : System Table Caller)
    (executed : execute table (additions.map addition) turns = some final)
    (finished : ∀ caller ∈ final.threads, caller.finished) :
    (∀ pid, final.shared.value? pid =
      if (table.value? pid).isSome ∨ ∃ addend ∈ additions, addend.1 = pid then
        some (runningTotal table additions pid)
      else none) ∧
    ∃ order : List Nat, order.Perm (List.range additions.length) ∧
      ∀ before index later, order = before ++ index :: later →
        ∃ pid deltaUj, additions[index]? = some (pid, deltaUj) ∧
          final.threads[index]? = some (.add pid deltaUj
            (.done (runningTotal table (inOrder additions (before ++ [index])) pid))) := by
  rcases linearized_execute executed with ⟨order, linearized⟩
  have called := map_call_execute executed
  constructor
  · exact linearized.value?_eq called finished
  · apply Exists.intro order
    constructor
    · exact linearized.perm_range called finished
    · intro before index later split
      rcases linearized.totals before index later split with ⟨pid, deltaUj, present⟩
      exact ⟨pid, deltaUj, addend_of_call called present rfl, present⟩

/-- Two callers race on the first insertion of one process; the second of them
fails once spuriously and once on the exchange of the first. -/
theorem addMicroJoules_linearizable_racing :
    ∃ final : System Table Caller,
      execute SkipMap.empty ([(7, 3), (7, 4)].map addition)
        [(0, false), (1, false), (0, false), (1, false), (0, false), (1, false), (1, true),
          (0, false), (1, false), (1, false)] = some final ∧
      (∀ pid, final.shared.value? pid =
        if ((SkipMap.empty : Table).value? pid).isSome ∨
            ∃ addend ∈ [((7 : UInt32), (3 : UInt64)), (7, 4)], addend.1 = pid then
          some (runningTotal SkipMap.empty [(7, 3), (7, 4)] pid)
        else none) ∧
      ∃ order : List Nat, order.Perm (List.range 2) ∧
        ∀ before index later, order = before ++ index :: later →
          ∃ pid deltaUj, [((7 : UInt32), (3 : UInt64)), (7, 4)][index]? = some (pid, deltaUj) ∧
            final.threads[index]? = some (.add pid deltaUj (.done
              (runningTotal SkipMap.empty (inOrder [(7, 3), (7, 4)] (before ++ [index])) pid))) := by
  have complete : (execute SkipMap.empty ([(7, 3), (7, 4)].map addition)
      [(0, false), (1, false), (0, false), (1, false), (0, false), (1, false), (1, true),
        (0, false), (1, false), (1, false)]).any
      (fun final => final.threads.all Caller.finished) = true := by decide
  rcases (Option.any_eq_true _ _).mp complete with ⟨final, executed, finished⟩
  exact ⟨final, executed, addMicroJoules_linearizable SkipMap.empty [(7, 3), (7, 4)] _ final
    executed (List.all_eq_true.mp finished)⟩

/-! ## The sequential registry -/

/-- The additions, one after another, on the registry of a single caller. -/
def addAll (registry : AmalgafyRegistry) (additions : List (UInt32 × UInt64)) :
    AmalgafyRegistry :=
  additions.foldl (fun registry addend => (registry.addMicroJoules addend.1 addend.2).2) registry

theorem get_addAll (registry : AmalgafyRegistry) (additions : List (UInt32 × UInt64))
    (pid : UInt32) :
    (addAll registry additions).get pid =
      if (registry.get pid).isSome ∨ ∃ addend ∈ additions, addend.1 = pid then
        some ((deltasTo additions pid).foldl U64.saturatingAdd (registry.slot pid))
      else none := by
  induction additions generalizing registry with
  | nil =>
      cases found : registry.get pid with
      | none => simp [addAll, found]
      | some value => simp [addAll, found, deltasTo, AmalgafyRegistry.slot]
  | cons addend rest ih =>
      rw [addAll, List.foldl_cons, ← addAll, ih, AmalgafyRegistry.slot,
        AmalgafyRegistry.get_addMicroJoules]
      by_cases own : addend.1 = pid
      · subst own
        simp [deltasTo]
      · have named : (∃ other ∈ addend :: rest, other.1 = pid) ↔
            ∃ other ∈ rest, other.1 = pid :=
          (List.exists_mem_cons_iff ..).trans (or_iff_right own)
        have skipped : deltasTo (addend :: rest) pid = deltasTo rest pid := by
          simp [deltasTo, own]
        rw [if_neg own]
        simp only [named, skipped, AmalgafyRegistry.slot]

/-- Concurrent additions that are all over leave what the same additions leave when
a single caller makes them one after another. -/
theorem value?_eq_get_addAll (table : Table) (registry : AmalgafyRegistry)
    (same : ∀ pid, table.value? pid = registry.get pid)
    (additions : List (UInt32 × UInt64)) (turns : List (Nat × Bool))
    (final : System Table Caller)
    (executed : execute table (additions.map addition) turns = some final)
    (finished : ∀ caller ∈ final.threads, caller.finished) (pid : UInt32) :
    final.shared.value? pid = (addAll registry additions).get pid := by
  rcases linearized_execute executed with ⟨order, linearized⟩
  rw [linearized.value?_eq (map_call_execute executed) finished, get_addAll, runningTotal, slot,
    same, AmalgafyRegistry.slot]

end Mjae.Concurrent
