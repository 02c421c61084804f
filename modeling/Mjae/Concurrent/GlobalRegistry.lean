import Mjae.Concurrent.Add
import Mjae.Concurrent.LockFree
import Mjae.Transition.Once

/-!
# The process-wide registry

Threads reach the registry through `global_registry`, which constructs it on first use.
Whoever comes first, there is one registry: what the threads do with their handles is an
execution of the same calls on one table that begins empty.
-/

namespace Mjae.Concurrent

open Mjae.Transition

/-- A thread on its way to the registry, or at work on it. -/
inductive GlobalCaller
  | arriving (call : Call)
  | working (caller : Caller)

namespace GlobalCaller

def waits : GlobalCaller → Bool
  | .arriving _ => true
  | .working _ => false

/-- The call of the thread, as it stands once the thread has its handle. -/
def caller : GlobalCaller → Caller
  | .arriving call => call.begin
  | .working caller => caller

/-- A step on the registry that the handle leads to. -/
def step (registry : Option Table) (thread : GlobalCaller) (spurious : Bool) :
    Option (Option Table × GlobalCaller) :=
  match registry, thread with
  | some table, .working caller =>
      (caller.act table spurious).map fun acted => (some acted.1, .working acted.2)
  | _, _ => none

end GlobalCaller

/-- Where `get_or_init` stands when it finds nothing. -/
inductive InitRegistryStage
  | new
  | write (table : Table)
  | finish

def InitRegistryStage.step (registry : Option Table) (stage : InitRegistryStage)
    (_spurious : Bool) : Option (Option Table × Option InitRegistryStage) :=
  match stage with
  | .new => some (registry, some (.write SkipMap.empty))
  | .write table => some (some table, some .finish)
  | .finish => some (registry, none)

/-- The threads behind `GLOBAL_REGISTRY`. -/
def globalRegistry : Once (Option Table) GlobalCaller InitRegistryStage Bool where
  waits := GlobalCaller.waits
  pass thread := .working thread.caller
  opening := .new
  setup := InitRegistryStage.step
  body := GlobalCaller.step

/-- The process after `turns`, from before the first use of the registry. -/
def executeGlobal (calls : List Call) (turns : List (Nat × Bool)) :
    Option (System (Gated (Option Table)) (Visitor GlobalCaller InitRegistryStage)) :=
  run (System.step globalRegistry.act)
    (Once.gathered none (calls.map GlobalCaller.arriving)) turns

/-! ## One turn -/

/-- The registry is written once, and empty. -/
def InitRegistryStage.Reached (registry : Option Table) : Option InitRegistryStage → Prop
  | some .new => registry = none
  | some (.write table) => registry = none ∧ table = SkipMap.empty
  | some .finish => registry = some SkipMap.empty
  | none => registry = some SkipMap.empty

theorem initRegistry_of_run {inputs : List Bool} {registry : Option Table}
    {stage : Option InitRegistryStage}
    (reached : run globalRegistry.settingUp (none, some .new) inputs = some (registry, stage)) :
    InitRegistryStage.Reached registry stage := by
  refine run_induction (fun _ state => InitRegistryStage.Reached state.1 state.2) ?_ ?_ reached
  · rfl
  rintro past spurious ⟨registry, stage⟩ next _ holds stepped
  cases stage with
  | none => cases stepped
  | some stage =>
      cases stage with
      | new =>
          cases stepped
          exact ⟨holds, rfl⟩
      | write table =>
          cases stepped
          rw [holds.2]
          rfl
      | finish =>
          cases stepped
          exact holds

/-- The threads behind the gate as callers of one table. -/
def asCallers (table : Table) (threads : List GlobalCaller) : System Table Caller :=
  ⟨table, threads.map GlobalCaller.caller⟩

/-- A turn behind the gate is a turn of the callers, or hands over the registry. -/
theorem callers_of_plain {table : Table} {threads : List GlobalCaller}
    {next : System (Option Table) GlobalCaller} {turn : Nat × Bool}
    (stepped : System.step globalRegistry.plain ⟨some table, threads⟩ turn = some next) :
    ∃ after, next.shared = some after ∧
      (asCallers after next.threads = asCallers table threads ∨
        (asCallers table threads).step Caller.act turn = some (asCallers after next.threads)) := by
  obtain ⟨thread, shared, moved, present, acted, rfl⟩ := System.step_eq_some_iff.mp stepped
  cases thread with
  | arriving call =>
      cases acted
      have own : (threads.map GlobalCaller.caller)[turn.1]? = some call.begin := by
        rw [List.getElem?_map, present]
        rfl
      have unchanged : asCallers table (threads.set turn.1 (.working call.begin)) =
          asCallers table threads := by
        rw [asCallers, asCallers, List.map_set]
        exact congrArg (System.mk table) (set_eq_self own)
      exact ⟨table, rfl, Or.inl unchanged⟩
  | working caller =>
      obtain ⟨⟨after, later⟩, ran, same⟩ := Option.map_eq_some_iff.mp acted
      cases same
      have own : (asCallers table threads).threads[turn.1]? = some caller := by
        rw [asCallers, List.getElem?_map, present]
        rfl
      have set_eq : asCallers after (threads.set turn.1 (.working later)) =
          ⟨after, (asCallers table threads).threads.set turn.1 later⟩ := by
        rw [asCallers, List.map_set]
        rfl
      exact ⟨after, rfl, Or.inr (System.step_eq_some_iff.mpr
        ⟨caller, after, later, own, ran, set_eq⟩)⟩

theorem execute_of_plain {calls : List Call} {turns : List (Nat × Bool)}
    {final : System (Option Table) GlobalCaller}
    (ran : run (System.step globalRegistry.plain)
      ⟨some SkipMap.empty, calls.map GlobalCaller.arriving⟩ turns = some final) :
    ∃ table own, final.shared = some table ∧
      execute SkipMap.empty calls own = some (asCallers table final.threads) := by
  refine run_induction (fun _ system => ∃ table own, system.shared = some table ∧
    execute SkipMap.empty calls own = some (asCallers table system.threads)) ?_ ?_ ran
  · have begun : execute SkipMap.empty calls [] =
        some (asCallers SkipMap.empty (calls.map GlobalCaller.arriving)) := by
      rw [execute, run_nil, asCallers, List.map_map]
      rfl
    exact ⟨SkipMap.empty, [], rfl, begun⟩
  · rintro past turn ⟨shared, threads⟩ next - ⟨table, own, rfl, executed⟩ stepped
    obtain ⟨after, shared_eq, unchanged | acted⟩ := callers_of_plain stepped
    · exact ⟨after, own, shared_eq, by rw [executed, unchanged]⟩
    · exact ⟨after, own ++ [turn], shared_eq, run_snoc_eq_some_iff.mpr ⟨_, executed, acted⟩⟩

/-! ## Every run -/

theorem waits_arriving (calls : List Call) :
    ∀ thread ∈ calls.map GlobalCaller.arriving, thread.waits = true := by
  intro thread listed
  obtain ⟨call, -, rfl⟩ := List.mem_map.mp listed
  rfl

/-- The callers that the threads are, behind the gate or before it. -/
def callersOf (final : System (Gated (Option Table)) (Visitor GlobalCaller InitRegistryStage)) :
    List Caller :=
  final.threads.map fun visitor => visitor.own.caller

/-- Until the registry is there nobody has come further than the gate; then the threads
are callers of one table. -/
theorem callersOf_of_stands {calls : List Call}
    {final : System (Gated (Option Table)) (Visitor GlobalCaller InitRegistryStage)}
    (stands : globalRegistry.Stands none (calls.map GlobalCaller.arriving) final) :
    (final.shared.object = none ∧ callersOf final = calls.map Call.begin ∧
        ∀ visitor ∈ final.threads, visitor.own.waits = true) ∨
      ∃ table own, final.shared.object = some table ∧
        execute SkipMap.empty calls own = some ⟨table, callersOf final⟩ := by
  have at_gate : (calls.map GlobalCaller.arriving).map GlobalCaller.caller =
      calls.map Call.begin := by
    rw [List.map_map]
    rfl
  have before_gate : ((calls.map GlobalCaller.arriving).map outside).map
      (fun visitor : Visitor GlobalCaller InitRegistryStage => visitor.own.caller) =
      calls.map Call.begin := by
    rw [← at_gate, List.map_map]
    rfl
  cases stands with
  | incomplete =>
      left
      have all_wait : ∀ visitor ∈ ((calls.map GlobalCaller.arriving).map outside :
          List (Visitor GlobalCaller InitRegistryStage)), visitor.own.waits = true := by
        intro visitor listed
        obtain ⟨thread, arriving, rfl⟩ := List.mem_map.mp listed
        exact waits_arriving calls thread arriving
      exact ⟨rfl, before_gate, all_wait⟩
  | running present reached =>
      rename_i index thread inputs registry stage
      have arriving := List.mem_of_getElem? present
      have callers_eq : callersOf ⟨⟨.running, registry⟩,
          ((calls.map GlobalCaller.arriving).map outside).set index ⟨thread, some stage⟩⟩ =
          calls.map Call.begin := by
        have own : (calls.map Call.begin)[index]? = some thread.caller := by
          rw [← at_gate, List.getElem?_map, present]
          rfl
        rw [callersOf, List.map_set, before_gate]
        exact set_eq_self own
      have all_wait : ∀ visitor ∈ ((calls.map GlobalCaller.arriving).map outside).set index
          ⟨thread, some stage⟩, visitor.own.waits = true := by
        intro visitor listed
        rcases List.mem_or_eq_of_mem_set listed with other | rfl
        · obtain ⟨thread, others, rfl⟩ := List.mem_map.mp other
          exact waits_arriving calls thread others
        · exact waits_arriving calls thread arriving
      have written := initRegistry_of_run reached
      cases stage with
      | new => exact Or.inl ⟨written, callers_eq, all_wait⟩
      | write table => exact Or.inl ⟨written.1, callers_eq, all_wait⟩
      | finish =>
          right
          refine ⟨SkipMap.empty, [], written, ?_⟩
          rw [callers_eq]
          rfl
  | complete reached ran =>
      rename_i inputs turns ready registry owns
      have written := initRegistry_of_run reached
      rw [written] at ran
      obtain ⟨table, own, table_eq, executed⟩ := execute_of_plain ran
      refine Or.inr ⟨table, own, table_eq, ?_⟩
      rw [executed, asCallers, callersOf, List.map_map]
      rfl

/-- However the first uses of the registry race, it is constructed once: until it is there
no call has begun, and from then on the threads are an execution of their calls on one
table that began empty.  No thread is left waiting, and once all calls are over the
additions have left what they leave on a new registry of a single caller. -/
theorem executeGlobal_execute (calls : List Call) (turns : List (Nat × Bool))
    (final : System (Gated (Option Table)) (Visitor GlobalCaller InitRegistryStage))
    (executed : executeGlobal calls turns = some final) :
    ((final.shared.object = none ∧ callersOf final = calls.map Call.begin) ∨
      ∃ table own, final.shared.object = some table ∧
        execute SkipMap.empty calls own = some ⟨table, callersOf final⟩) ∧
      ((∀ turn, final.step globalRegistry.act turn = none) →
        ∀ caller ∈ callersOf final, caller.finished = true) ∧
      ∀ additions, calls = additions.map addition →
        (∀ caller ∈ callersOf final, caller.finished = true) → ∀ pid,
          (final.shared.object.bind fun table => table.value? pid) =
            (addAll Core.AmalgafyRegistry.new additions).get pid := by
  have stands := Once.stands_of_run (waits_arriving calls) executed
  have callers := callersOf_of_stands stands
  refine ⟨callers.imp_left fun early => ⟨early.1, early.2.1⟩, ?_, ?_⟩
  · intro stuck caller listed
    obtain ⟨visitor, present, rfl⟩ := List.mem_map.mp listed
    have left_over := stands.stuck (waits_arriving calls)
      (fun registry stage => ⟨false, by cases stage <;> rfl⟩) stuck present
    have inside : visitor.own.waits = false := left_over.2.1
    rcases callers with ⟨-, -, all_wait⟩ | ⟨table, own, table_eq, reached⟩
    · rw [all_wait visitor present] at inside
      contradiction
    · have stays := left_over.2.2 false
      rw [table_eq] at stays
      cases thread : visitor.own with
      | arriving call => simp [thread, GlobalCaller.waits] at inside
      | working caller =>
          rw [thread] at stays listed
          by_contra unfinished
          obtain ⟨after, moved, acted⟩ := (bound_execute reached caller listed).exists_act
            (Bool.eq_false_iff.mpr unfinished) false
          simp [globalRegistry, GlobalCaller.step, acted] at stays
  · rintro additions rfl finished pid
    rcases callers with ⟨absent, callers_eq, -⟩ | ⟨table, own, table_eq, reached⟩
    · have nobody : additions = [] := by
        cases additions with
        | nil => rfl
        | cons addend rest =>
            have begun := finished (addition addend).begin (by simp [callers_eq])
            contradiction
      rw [absent, nobody]
      rfl
    · rw [table_eq, Option.bind_some]
      exact value?_eq_get_addAll SkipMap.empty _ (fun _ => rfl) additions own _ reached
        finished pid

/-- Two threads race for the first use and then add to the same process. -/
theorem executeGlobal_execute_racing :
    ∃ final, executeGlobal ([(7, 3), (7, 4)].map addition)
        [(1, false), (1, false), (1, false), (1, false), (0, false), (0, false), (1, false),
          (0, false), (1, false), (0, false), (1, false), (0, false), (1, false),
          (1, false)] = some final ∧
      ∀ pid, (final.shared.object.bind fun table => table.value? pid) =
        (addAll Core.AmalgafyRegistry.new [(7, 3), (7, 4)]).get pid := by
  have complete : (executeGlobal ([(7, 3), (7, 4)].map addition)
      [(1, false), (1, false), (1, false), (1, false), (0, false), (0, false), (1, false),
        (0, false), (1, false), (0, false), (1, false), (0, false), (1, false),
        (1, false)]).any
      (fun final => (callersOf final).all Caller.finished) = true := by decide
  obtain ⟨final, executed, finished⟩ := (Option.any_eq_true _ _).mp complete
  exact ⟨final, executed, (executeGlobal_execute _ _ final executed).2.2 _ rfl
    (List.all_eq_true.mp finished)⟩

end Mjae.Concurrent
