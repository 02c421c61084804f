import Mjae.Concurrent.Walk

/-!
# Totals under concurrent additions

`total_micro_joules` sums up the entries one after another while other callers add to
them.
-/

namespace Mjae.Concurrent

open Mjae.Arith Mjae.Core Mjae.Order Mjae.Transition

/-- The saturating total of all linked entries. -/
def totalOf (table : Table) : UInt64 :=
  U64.saturatingSum (table.index.keys.map (slot table))

/-- Where a call of `total_micro_joules` stands. -/
abbrev TotalStage := Walk UInt64

/-- The next atomic step of `total_micro_joules`. -/
def TotalStage.step (table : Table) (choice : Option UInt32) (stage : TotalStage) :
    Option TotalStage :=
  Walk.step 0 (fun total _ value => U64.saturatingAdd total value) table choice stage

/-- A thread that calls, or one that walks. -/
inductive Worker
  | caller (own : Caller)
  | walker (stage : TotalStage)

/-- What an atomic step leaves open: the outcome of a weak exchange, and the next key
of an iterator. -/
structure Choice where
  spurious : Bool
  key : Option UInt32

def Worker.act (table : Table) : Worker → Choice → Option (Table × Worker)
  | .caller own, choice =>
      (own.act table choice.spurious).map fun (table, own) => (table, .caller own)
  | .walker stage, choice =>
      (stage.step table choice.key).map fun stage => (table, .walker stage)

/-- Calls and walks about to begin on `table`. -/
def startCalls (table : Table) (calls : List Call) (walks : Nat) : System Table Worker :=
  ⟨table, calls.map (fun call => .caller call.begin) ++ List.replicate walks (.walker .iter)⟩

/-- Additions and walks about to begin on `table`. -/
def startWorkers (table : Table) (additions : List (UInt32 × UInt64)) (walks : Nat) :
    System Table Worker :=
  startCalls table (additions.map addition) walks

def executeWorkers (table : Table) (additions : List (UInt32 × UInt64)) (walks : Nat)
    (turns : List (Nat × Choice)) : Option (System Table Worker) :=
  run (System.step Worker.act) (startWorkers table additions walks) turns

/-! ## Contents -/

/-- The total is the capped sum of the contents. -/
theorem toNat_totalOf (table : Table) :
    (totalOf table).toNat = min (contentSum (contents table) table.index.keys) U64.maxNat := by
  rw [totalOf, U64.toNat_saturatingSum, contentSum, List.map_map]
  simp only [contents_getD]
  rfl

/-- A move of an addition adds keys and raises values. -/
theorem Attached.grows {table after : Table} {caller moved : Caller} {spurious : Bool}
    (attached : Attached table caller) (moves : Moves table caller spurious after moved) :
    Grows (contents table) (contents after) := by
  have keeps := (attached.move moves).1
  have raised : ∀ pid, (slot table pid).toNat ≤ (slot after pid).toNat := by
    intro pid
    rcases attached.effect moves with ⟨-, same⟩ | ⟨own, deltaUj, -, -, effect⟩
    · rw [same]
    · rw [effect]
      split
      · rename_i same
        rw [← same, U64.toNat_saturatingAdd]
        exact le_min (Nat.le_add_right _ _) (U64.toNat_le_maxNat _)
      · exact Nat.le_refl _
  intro pid value found
  have linked : (table.get pid).isSome := by
    rw [← isSome_value?, ← Option.isSome_map (f := UInt64.toNat)]
    exact Option.isSome_of_eq_some found
  rcases Option.isSome_iff_exists.mp linked with ⟨entry, at_entry⟩
  rcases SkipMap.exists_load_of_keyAt (SkipMap.keyAt_of_get (keeps pid entry at_entry)) with
    ⟨later, holds⟩
  have present := contents_of_get (keeps pid entry at_entry) holds
  refine ⟨later.toNat, present, ?_⟩
  have bound := raised pid
  rw [← contents_getD, ← contents_getD, found, present] at bound
  exact bound

/-- With every entry at rest, the total is that of the sequential registry. -/
theorem totalOf_eq_totalMicroJoules {table : Table} {registry : AmalgafyRegistry}
    (same : ∀ pid, table.value? pid = registry.get pid) :
    totalOf table = registry.totalMicroJoules := by
  have entries : registry.table.toList.map Prod.snd = registry.table.keys.map (slot table) := by
    rw [← Std.ExtTreeMap.map_fst_toList_eq_keys, List.map_map]
    apply List.map_congr_left
    rintro ⟨pid, value⟩ listed
    have found := Std.ExtTreeMap.mem_toList_iff_getElem?_eq_some.mp listed
    rw [Function.comp_apply, slot, same, AmalgafyRegistry.get, found, Option.getD_some]
  have keys_perm : table.index.keys.Perm registry.table.keys := by
    rw [List.perm_ext_iff_of_nodup table.index.nodup_keys registry.table.nodup_keys]
    intro pid
    rw [mem_keys_iff, contents, Option.isSome_map, same, AmalgafyRegistry.get,
      Std.ExtTreeMap.mem_keys, Std.ExtTreeMap.mem_iff_isSome_getElem?]
  apply UInt64.toNat.inj
  rw [totalOf, AmalgafyRegistry.totalMicroJoules, entries, U64.toNat_saturatingSum,
    U64.toNat_saturatingSum, ((keys_perm.map (slot table)).map UInt64.toNat).sum_eq]

/-! ## One walk -/

/-- A total is the capped sum of the values that were read. -/
def SumsUp (total : UInt64) (reads : List (UInt32 × Nat)) : Prop :=
  total.toNat = min (reads.map Prod.snd).sum U64.maxNat

theorem tells_sumsUp :
    Tells 0 (fun total _ value => U64.saturatingAdd total value) SumsUp where
  nil := rfl
  visit made reads key value told _ := by
    rw [SumsUp] at told ⊢
    rw [U64.toNat_saturatingAdd, told, min_min_add, List.map_append, List.sum_append]
    simp

/-- What a finished walk returns lies between the sums of the contents. -/
theorem Tracks.bounds {begun : Table} {known : Known} {total : UInt64}
    (tracks : Tracks SumsUp begun known (.done total)) :
    min (contentSum known.least begun.index.keys) U64.maxNat ≤ total.toNat ∧
      ∃ keys : List UInt32, keys.Nodup ∧
        total.toNat ≤ min (contentSum known.most keys) U64.maxNat := by
  rcases tracks with ⟨reads, read, total_eq⟩
  rw [total_eq]
  constructor
  · apply min_le_min_right
    exact read.contentSum_le begun.index.nodup_keys fun _ _ => trivial
  · exact ⟨reads.map Prod.fst, read.nodup, min_le_min_right _ read.le_contentSum⟩

/-- The walk of the thread at `index`. -/
def Follows (begun : Table) (known : Known) (index : Nat) (system : System Table Worker) : Prop :=
  ∃ stage, system.threads[index]? = some (.walker stage) ∧ Tracks SumsUp begun known stage

/-- The first step of a walk remembers the table. -/
theorem follows_iter {before first : System Table Worker} {index : Nat} {choice : Choice}
    (waiting : before.threads[index]? = some (.walker .iter))
    (begins : before.step Worker.act (index, choice) = some first) (known : Known) :
    first.shared = before.shared ∧ Follows before.shared known index first := by
  rcases System.step_eq_some_iff.mp begins with ⟨worker, after, moved, present, acted, rfl⟩
  cases waiting.symm.trans present
  cases acted
  refine ⟨rfl, _, ?_, tracks_iter tells_sumsUp before.shared known⟩
  exact List.getElem?_set_self (List.getElem?_eq_some_iff.mp waiting).1

/-- Every turn keeps a walk on track. -/
theorem Follows.step {begun : Table} {known later : Known} {index : Nat}
    {system next : System Table Worker} {turn : Nat × Choice}
    (follows : Follows begun known index system) (sound : known.Sound begun system.shared)
    (extends_known : known.Extends later) (stepped : system.step Worker.act turn = some next) :
    Follows begun later index next := by
  rcases System.step_eq_some_iff.mp stepped with ⟨worker, after, moved, present, acted, rfl⟩
  rcases follows with ⟨stage, at_index, tracks⟩
  by_cases own : turn.1 = index
  · rw [own, at_index] at present
    cases present
    rcases Option.map_eq_some_iff.mp acted with ⟨further, walked, same⟩
    cases same
    refine ⟨further, ?_, (tracks.step tells_sumsUp sound walked).extends extends_known⟩
    rw [own]
    exact List.getElem?_set_self (List.getElem?_eq_some_iff.mp at_index).1
  · refine ⟨stage, ?_, tracks.extends extends_known⟩
    exact (List.getElem?_set_ne own).trans at_index

/-! ## All threads -/

/-- An addition works on the entry that is linked under its process. -/
def Worker.Sound (table : Table) : Worker → Prop
  | .caller own => Attached table own
  | .walker _ => True

theorem Worker.Sound.keeps {table after : Table} {worker : Worker} (keeps : Keeps table after)
    (sound : worker.Sound table) : worker.Sound after := by
  cases worker with
  | caller own => exact Attached.keeps keeps sound
  | walker stage => trivial

/-- A step of a thread adds keys and raises values, and leaves the links in place. -/
theorem Worker.Sound.act {table after : Table} {worker moved : Worker} {choice : Choice}
    (sound : worker.Sound table) (acted : worker.act table choice = some (after, moved)) :
    Keeps table after ∧ Grows (contents table) (contents after) ∧ moved.Sound after := by
  cases worker with
  | caller own =>
      rcases Option.map_eq_some_iff.mp acted with ⟨⟨_, next⟩, stepped, same⟩
      cases same
      have moves := moves_of_act stepped
      have moved := Attached.move sound moves
      exact ⟨moved.1, Attached.grows sound moves, moved.2⟩
  | walker stage =>
      rcases Option.map_eq_some_iff.mp acted with ⟨next, -, same⟩
      cases same
      exact ⟨Keeps.refl table, Grows.refl _, trivial⟩

/-- The threads at some point of a walk by the thread at `index` that began on `begun`. -/
structure Walking (begun : Table) (index : Nat) (system : System Table Worker) : Prop where
  sound : ∀ worker ∈ system.threads, worker.Sound system.shared
  kept : Keeps begun system.shared
  grown : Grows (contents begun) (contents system.shared)
  walker : Follows begun (growing begun system.shared) index system

/-- No turn makes an addition lose its entry. -/
theorem sound_step {system next : System Table Worker} {turn : Nat × Choice}
    (sound : ∀ worker ∈ system.threads, worker.Sound system.shared)
    (stepped : system.step Worker.act turn = some next) :
    ∀ worker ∈ next.threads, worker.Sound next.shared := by
  rcases System.step_eq_some_iff.mp stepped with ⟨worker, after, moved, present, acted, rfl⟩
  rcases (sound worker (List.mem_of_getElem? present)).act acted with ⟨keeps, -, own⟩
  exact System.forall_threads_set sound own fun _ _ => Worker.Sound.keeps keeps

/-- What holds of every thread that is about to begin. -/
theorem forall_startCalls {held : Worker → Prop} {calls : List Call}
    (begins : ∀ call ∈ calls, held (.caller call.begin)) (walks : held (.walker .iter))
    (table : Table) (count : Nat) :
    ∀ worker ∈ (startCalls table calls count).threads, held worker := by
  intro worker listed
  rcases List.mem_append.mp listed with calling | walking
  · rcases List.mem_map.mp calling with ⟨call, asked, rfl⟩
    exact begins call asked
  · rw [List.eq_of_mem_replicate walking]
    exact walks

theorem sound_executeWorkers {table : Table} {additions : List (UInt32 × UInt64)} {walks : Nat}
    {turns : List (Nat × Choice)} {final : System Table Worker}
    (executed : executeWorkers table additions walks turns = some final) :
    ∀ worker ∈ final.threads, worker.Sound final.shared := by
  refine run_induction (fun _ system => ∀ worker ∈ system.threads, worker.Sound system.shared)
    ?_ ?_ executed
  · refine forall_startCalls ?_ trivial table walks
    rw [List.forall_mem_map]
    exact fun _ _ => trivial
  · exact fun _ _ _ _ _ sound stepped => sound_step sound stepped

theorem Walking.step {begun : Table} {index : Nat} {system next : System Table Worker}
    {turn : Nat × Choice} (walking : Walking begun index system)
    (stepped : system.step Worker.act turn = some next) : Walking begun index next := by
  have sound := sound_step walking.sound stepped
  rcases System.step_eq_some_iff.mp stepped with ⟨worker, after, moved, present, acted, rfl⟩
  rcases (walking.sound worker (List.mem_of_getElem? present)).act acted with ⟨keeps, grows, -⟩
  refine ⟨sound, walking.kept.trans keeps, walking.grown.trans grows, ?_⟩
  exact walking.walker.step (sound_growing walking.kept walking.grown)
    (extends_growing keeps grows) stepped

/-- A walk among concurrent additions returns at least the total at its first step
and at most the total at its end. -/
theorem totalMicroJoules_bounds (table : Table) (additions : List (UInt32 × UInt64))
    (walks : Nat) (past during : List (Nat × Choice)) (index : Nat) (choice : Choice)
    (before final : System Table Worker) (total : UInt64)
    (reached : executeWorkers table additions walks past = some before)
    (waiting : before.threads[index]? = some (.walker .iter))
    (walked : run (System.step Worker.act) before ((index, choice) :: during) = some final)
    (returned : final.threads[index]? = some (.walker (.done total))) :
    totalOf before.shared ≤ total ∧ total ≤ totalOf final.shared := by
  rcases run_cons_eq_some_iff.mp walked with ⟨first, begins, onward⟩
  have start : Walking before.shared index first := by
    have sound := sound_step (sound_executeWorkers reached) begins
    rcases follows_iter waiting begins (growing before.shared first.shared) with ⟨same, follows⟩
    refine ⟨sound, ?_, ?_, follows⟩
    · rw [same]
      exact Keeps.refl before.shared
    · rw [same]
      exact Grows.refl _
  have finish : Walking before.shared index final :=
    run_induction (fun _ system => Walking before.shared index system) start
      (fun _ _ _ _ _ walking stepped => walking.step stepped) onward
  rcases finish.walker with ⟨stage, at_index, tracks⟩
  cases returned.symm.trans at_index
  rcases tracks.bounds with ⟨least, keys, nodup, most⟩
  rw [UInt64.le_iff_toNat_le, UInt64.le_iff_toNat_le, toNat_totalOf, toNat_totalOf]
  refine ⟨least, most.trans (min_le_min_right _ ?_)⟩
  exact contentSum_le_of_subset _ nodup fun key _ held => mem_keys_iff.mpr held

/-- Two additions commit behind and ahead of the cursor: the walk returns 3, a total
that no moment had. -/
theorem totalMicroJoules_bounds_torn :
    ∃ before final : System Table Worker,
      executeWorkers SkipMap.empty [(5, 4), (9, 3)] 1
        [(0, ⟨false, none⟩), (0, ⟨false, none⟩), (0, ⟨false, none⟩), (1, ⟨false, none⟩),
          (1, ⟨false, none⟩), (1, ⟨false, none⟩)] = some before ∧
      run (System.step Worker.act) before
        [(2, ⟨false, none⟩), (2, ⟨false, some 5⟩), (2, ⟨false, none⟩), (0, ⟨false, none⟩),
          (1, ⟨false, none⟩), (2, ⟨false, some 9⟩), (2, ⟨false, none⟩), (2, ⟨false, none⟩)] =
        some final ∧
      totalOf before.shared ≤ 3 ∧ 3 ≤ totalOf final.shared := by
  refine ⟨_, _, rfl, rfl, ?_⟩
  exact totalMicroJoules_bounds SkipMap.empty [(5, 4), (9, 3)] 1
    [(0, ⟨false, none⟩), (0, ⟨false, none⟩), (0, ⟨false, none⟩), (1, ⟨false, none⟩),
      (1, ⟨false, none⟩), (1, ⟨false, none⟩)]
    [(2, ⟨false, some 5⟩), (2, ⟨false, none⟩), (0, ⟨false, none⟩),
      (1, ⟨false, none⟩), (2, ⟨false, some 9⟩), (2, ⟨false, none⟩), (2, ⟨false, none⟩)]
    2 ⟨false, none⟩ _ _ 3 rfl rfl rfl rfl

end Mjae.Concurrent
