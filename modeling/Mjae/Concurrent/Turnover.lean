import Mjae.Concurrent.Remove
import Mjae.Concurrent.Total

/-!
# Totals while processes come and go

`total_micro_joules` walks the entries while other callers add to them, remove them and
insert new ones.  The walk may pass over an entry that is removed meanwhile, and it may
read one that is no longer linked.  What it returns still lies between the entries that
have stayed and all that there was, together with what was added during the walk.
-/

namespace Mjae.Concurrent

open Mjae.Arith Mjae.Order Mjae.Transition

def executeCalls (table : Table) (calls : List Call) (walks : Nat)
    (turns : List (Nat × Choice)) : Option (System Table Worker) :=
  run (System.step Worker.act) (startCalls table calls walks) turns

/-! ## What is exchanged -/

/-- The successful exchange that the next step of a thread performs, if it performs one. -/
def Worker.exchange (table : Table) (choice : Choice) : Worker → Option Exchange
  | .caller own => own.exchange table choice.spurious
  | .walker _ => none

def exchangeBy (system : System Table Worker) (turn : Nat × Choice) : Option Exchange :=
  (system.threads[turn.1]?).bind (Worker.exchange system.shared turn.2)

/-- Delta that an exchange adds to an entry of `pid`. -/
def Exchange.deltaTo (pid : UInt32) (exchange : Exchange) : Nat :=
  if exchange.pid = pid then exchange.deltaUj.toNat else 0

/-- Delta of `pid` that the turn exchanges in. -/
def exchangedTo (pid : UInt32) (system : System Table Worker) (turn : Nat × Choice) : Nat :=
  ((exchangeBy system turn).map (Exchange.deltaTo pid)).getD 0

/-- Delta that the turn exchanges in, for whichever process. -/
def exchangedUj (system : System Table Worker) (turn : Nat × Choice) : Nat :=
  ((exchangeBy system turn).map fun exchange => exchange.deltaUj.toNat).getD 0

/-- An exchange counts for one process. -/
theorem sum_deltaTo_le (exchange : Exchange) {keys : List UInt32} (nodup : keys.Nodup) :
    (keys.map fun key => exchange.deltaTo key).sum ≤ exchange.deltaUj.toNat := by
  induction keys with
  | nil => exact Nat.zero_le _
  | cons key rest ih =>
      rw [List.nodup_cons] at nodup
      rw [List.map_cons, List.sum_cons, Exchange.deltaTo]
      split
      · rename_i own
        have others : (rest.map fun other => exchange.deltaTo other).sum = 0 := by
          rw [List.sum_eq_zero_iff_forall_eq_nat, List.forall_mem_map]
          intro other listed
          apply if_neg
          rintro rfl
          exact nodup.1 (own ▸ listed)
        rw [others, Nat.add_zero]
      · rw [Nat.zero_add]
        exact ih nodup.2

theorem sum_exchangedTo_le {keys : List UInt32} (nodup : keys.Nodup)
    (system : System Table Worker) (turn : Nat × Choice) :
    (keys.map fun key => exchangedTo key system turn).sum ≤ exchangedUj system turn := by
  simp only [exchangedTo, exchangedUj]
  cases exchangeBy system turn with
  | none => simp
  | some exchange => exact sum_deltaTo_le exchange nodup

/-! ## What calls make of a table -/

/-- What calls can make of a table when they exchange no more than `added` into the
entries of each process. -/
structure Evolves (table after : Table) (added : UInt32 → Nat) : Prop where
  keys : KeepsKeys table after
  rises : ∀ entry value, table.load entry = some value →
    ∃ later, after.load entry = some later ∧ value.toNat ≤ later.toNat
  links : ∀ pid entry, after.get pid = some entry →
    table.get pid = some entry ∨ table.load entry = none
  capped : ∀ entry pid value, after.keyAt entry = some pid → after.load entry = some value →
    value.toNat ≤ ((table.load entry).getD 0).toNat + added pid

namespace Evolves

theorem refl (table : Table) (added : UInt32 → Nat) : Evolves table table added where
  keys _ _ := id
  rises _ value holds := ⟨value, holds, Nat.le_refl _⟩
  links _ _ := Or.inl
  capped _ _ _ _ holds := by
    rw [holds]
    exact Nat.le_add_right _ _

theorem trans {first second third : Table} {added more : UInt32 → Nat}
    (earlier : Evolves first second added) (later : Evolves second third more) :
    Evolves first third fun pid => added pid + more pid where
  keys entry pid carried := later.keys entry pid (earlier.keys entry pid carried)
  rises := by
    intro entry value holds
    rcases earlier.rises entry value holds with ⟨middle, held, risen⟩
    rcases later.rises entry middle held with ⟨last, kept, risenAgain⟩
    exact ⟨last, kept, risen.trans risenAgain⟩
  links := by
    intro pid entry linked
    rcases later.links pid entry linked with before | fresh
    · exact earlier.links pid entry before
    · right
      rw [Option.eq_none_iff_forall_ne_some]
      intro value holds
      rcases earlier.rises entry value holds with ⟨middle, held, -⟩
      rw [fresh] at held
      cases held
  capped := by
    intro entry pid value carried holds
    have step := later.capped entry pid value carried holds
    cases held : second.load entry with
    | none =>
        rw [held] at step
        exact step.trans (by simp only [Option.getD_none, UInt64.toNat_zero]; omega)
    | some middle =>
        rcases SkipMap.exists_keyAt_of_load held with ⟨own, carriedOwn⟩
        cases carried.symm.trans (later.keys entry own carriedOwn)
        have before := earlier.capped entry pid middle carriedOwn held
        rw [held, Option.getD_some] at step
        omega

/-- An entry that is linked at the end was linked all the time. -/
theorem still {begun present after : Table} {added more : UInt32 → Nat}
    (earlier : Evolves begun present added) (later : Evolves present after more)
    {pid : UInt32} {entry : Nat} (linked : begun.get pid = some entry)
    (remains : after.get pid = some entry) : present.get pid = some entry := by
  rcases later.links pid entry remains with before | fresh
  · exact before
  · rcases SkipMap.exists_load_of_keyAt (SkipMap.keyAt_of_get linked) with ⟨value, holds⟩
    rcases earlier.rises entry value holds with ⟨middle, held, -⟩
    rw [fresh] at held
    cases held

end Evolves

/-- What one move makes of a table. -/
theorem Moves.evolves {table after : Table} {caller moved : Caller} {spurious : Bool}
    (moves : Moves table caller spurious after moved) (bound : Bound table caller) :
    Evolves table after fun pid =>
      ((caller.exchange table spurious).map (Exchange.deltaTo pid)).getD 0 := by
  have keys := moves.keepsKeys
  cases moves with
  | found | missed | loaded | retried | read => exact Evolves.refl table _
  | @inserted pid =>
      refine ⟨keys, ?_, ?_, ?_⟩
      · intro entry value holds
        rcases SkipMap.exists_keyAt_of_load holds with ⟨own, carried⟩
        refine ⟨value, ?_, Nat.le_refl _⟩
        rw [SkipMap.load_getOrInsert_of_keyAt carried, holds]
      · intro other entry linked
        rw [SkipMap.get_getOrInsert] at linked
        split at linked
        · rename_i same
          subst same
          cases present : table.get pid with
          | some own =>
              rw [SkipMap.getOrInsert_of_get present] at linked
              exact Or.inl linked
          | none =>
              rw [SkipMap.fst_getOrInsert_of_get_eq_none present] at linked
              cases linked
              right
              rw [SkipMap.load, List.getElem?_eq_none (Nat.le_refl _)]
              rfl
        · exact Or.inl linked
      · intro entry other value carried holds
        rcases SkipMap.load_of_load_getOrInsert holds with before | ⟨-, rfl⟩
        · rw [before]
          exact Nat.le_add_right _ _
        · exact Nat.zero_le _
  | @committed pid deltaUj _ own current holds willing =>
      have performed : (Caller.add pid deltaUj (.compareExchange own current)).exchange table
          spurious = some ⟨pid, deltaUj, own, current⟩ := if_pos ⟨holds, willing⟩
      have stored := U64.toNat_saturatingAdd current deltaUj
      refine ⟨keys, ?_, fun _ _ => Or.inl, ?_⟩
      · intro entry value held
        rw [SkipMap.load_store]
        split
        · rename_i same
          subst same
          cases holds.symm.trans held
          refine ⟨_, congrArg (Option.map _) held, ?_⟩
          rw [stored]
          exact le_min (Nat.le_add_right _ _) (U64.toNat_le_maxNat _)
        · exact ⟨value, held, Nat.le_refl _⟩
      · intro entry other value carried held
        rw [SkipMap.load_store] at held
        rw [SkipMap.keyAt_store] at carried
        split at held
        · rename_i same
          subst same
          cases carried.symm.trans bound
          rw [holds, Option.map_some, Option.some.injEq] at held
          rw [performed, holds, ← held, stored, Option.map_some, Exchange.deltaTo, if_pos rfl]
          exact min_le_left _ _
        · rw [held]
          exact Nat.le_add_right _ _
  | unlinked | absent =>
      refine ⟨keys, fun _ value held => ⟨value, held, Nat.le_refl _⟩, ?_, ?_⟩
      · intro other entry linked
        rw [SkipMap.get_remove] at linked
        split at linked
        · cases linked
        · exact Or.inl linked
      · intro entry other value _ held
        rw [SkipMap.load_remove] at held
        rw [held]
        exact Nat.le_add_right _ _

/-- The handle of a calling thread is an entry of its process. -/
def Worker.Bound (table : Table) : Worker → Prop
  | .caller own => Concurrent.Bound table own
  | .walker _ => True

theorem Worker.Bound.keeps {table after : Table} {worker : Worker}
    (keeps : KeepsKeys table after) (bound : worker.Bound table) : worker.Bound after := by
  cases worker with
  | caller own => exact Concurrent.Bound.keeps keeps bound
  | walker stage => trivial

/-- What a step of a thread makes of a table. -/
theorem Worker.Bound.act {table after : Table} {worker moved : Worker} {choice : Choice}
    (bound : worker.Bound table) (acted : worker.act table choice = some (after, moved)) :
    Evolves table after (fun pid =>
      ((worker.exchange table choice).map (Exchange.deltaTo pid)).getD 0) ∧
      moved.Bound after := by
  cases worker with
  | caller own =>
      rcases Option.map_eq_some_iff.mp acted with ⟨⟨_, next⟩, stepped, same⟩
      cases same
      have moves := moves_of_act stepped
      exact ⟨moves.evolves bound, Concurrent.Bound.move bound moves⟩
  | walker stage =>
      rcases Option.map_eq_some_iff.mp acted with ⟨next, -, same⟩
      cases same
      exact ⟨Evolves.refl table _, trivial⟩

/-- What a turn makes of a table. -/
theorem evolves_step {system next : System Table Worker} {turn : Nat × Choice}
    (bound : ∀ worker ∈ system.threads, worker.Bound system.shared)
    (stepped : system.step Worker.act turn = some next) :
    Evolves system.shared next.shared (fun pid => exchangedTo pid system turn) ∧
      ∀ worker ∈ next.threads, worker.Bound next.shared := by
  rcases System.step_eq_some_iff.mp stepped with ⟨worker, after, moved, present, acted, rfl⟩
  rcases (bound worker (List.mem_of_getElem? present)).act acted with ⟨evolves, own⟩
  constructor
  · simpa only [exchangedTo, exchangeBy, present, Option.bind_some] using evolves
  · exact System.forall_threads_set bound own fun _ _ => Worker.Bound.keeps evolves.keys

theorem bound_executeCalls {table : Table} {calls : List Call} {walks : Nat}
    {turns : List (Nat × Choice)} {final : System Table Worker}
    (executed : executeCalls table calls walks turns = some final) :
    ∀ worker ∈ final.threads, worker.Bound final.shared := by
  refine run_induction (fun _ system => ∀ worker ∈ system.threads, worker.Bound system.shared)
    ?_ ?_ executed
  · refine forall_startCalls ?_ trivial table walks
    intro call _
    cases call <;> trivial
  · exact fun _ _ _ _ _ bound stepped => (evolves_step bound stepped).2

/-! ## What a walk reads -/

/-- The contents of the entries that are still linked. -/
def stayed (begun present : Table) (pid : UInt32) : Option Nat :=
  if present.get pid = begun.get pid then contents begun pid else none

/-- An entry that a walk may hold for a key.  It was linked when the walk began or has been
inserted since, and if the one that was linked still is, it is that one. -/
structure MayHold (begun present : Table) (key : UInt32) (entry : Nat) : Prop where
  carried : present.keyAt entry = some key
  origin : begun.get key = some entry ∨ begun.load entry = none
  own : ∀ other, begun.get key = some other → present.get key = some other → other = entry

/-- A walk lies between the entries that have stayed and all that there was, together with
what has been added to it. -/
def turningOver (begun present : Table) (added : UInt32 → Nat) : Known where
  least := stayed begun present
  most pid := some ((slot begun pid).toNat + added pid)
  holds := MayHold begun present

theorem stayed_eq_some_iff {begun present : Table} {pid : UInt32} {value : Nat} :
    stayed begun present pid = some value ↔
      ∃ entry held, begun.get pid = some entry ∧ present.get pid = some entry ∧
        begun.load entry = some held ∧ held.toNat = value := by
  rw [stayed, Option.ite_none_right_eq_some, contents, SkipMap.value?, Option.map_eq_some_iff]
  constructor
  · rintro ⟨same, held, found, rfl⟩
    rcases Option.bind_eq_some_iff.mp found with ⟨entry, linked, holds⟩
    exact ⟨entry, held, linked, same.trans linked, holds, rfl⟩
  · rintro ⟨entry, held, linked, remains, holds, rfl⟩
    exact ⟨remains.trans linked.symm, held, by rw [linked, Option.bind_some, holds], rfl⟩

section TurningOver

variable {begun present after : Table} {added more : UInt32 → Nat}

theorem sound_turningOver (evolves : Evolves begun present added) :
    (turningOver begun present added).Sound begun present where
  listed := by
    intro key value held
    rcases stayed_eq_some_iff.mp held with ⟨entry, first, linked, remains, holds, -⟩
    refine ⟨mem_keys_of_contents (contents_of_get linked holds), ?_⟩
    rw [linked, remains]
  linked := by
    intro key entry linked
    refine ⟨SkipMap.keyAt_of_get linked, evolves.links key entry linked, ?_⟩
    exact fun other _ remains => Option.some.inj (remains.symm.trans linked)
  loaded := by
    intro key entry value held holds
    constructor
    · intro least stays
      rcases stayed_eq_some_iff.mp stays with ⟨other, first, linked, remains, held_first, rfl⟩
      cases held.own other linked remains
      rcases evolves.rises entry first held_first with ⟨later, loaded, risen⟩
      cases holds.symm.trans loaded
      exact risen
    · refine ⟨_, rfl, ?_⟩
      have capped := evolves.capped entry key value held.carried holds
      rcases held.origin with linked | fresh
      · rcases SkipMap.exists_load_of_keyAt (SkipMap.keyAt_of_get linked) with ⟨first, loaded⟩
        rw [loaded, Option.getD_some, ← slot_of_get linked loaded] at capped
        exact capped
      · rw [fresh, Option.getD_none, UInt64.toNat_zero, Nat.zero_add] at capped
        exact capped.trans (Nat.le_add_left _ _)

theorem extends_turningOver (earlier : Evolves begun present added)
    (later : Evolves present after more) :
    (turningOver begun present added).Extends
      (turningOver begun after fun pid => added pid + more pid) where
  least := by
    intro key value held
    rcases stayed_eq_some_iff.mp held with ⟨entry, first, linked, remains, holds, value_eq⟩
    exact stayed_eq_some_iff.mpr
      ⟨entry, first, linked, earlier.still later linked remains, holds, value_eq⟩
  most := by
    intro key value found
    cases found
    exact ⟨_, rfl, Nat.add_le_add_left (Nat.le_add_right _ _) _⟩
  holds := by
    intro key entry held
    refine ⟨later.keys entry key held.carried, held.origin, ?_⟩
    exact fun other linked remains =>
      held.own other linked (earlier.still later linked remains)

end TurningOver

/-! ## All threads -/

/-- The threads at some point of a walk by the thread at `index` that began on `begun`,
after `added` was exchanged in. -/
structure Roaming (begun : Table) (index : Nat) (added : UInt32 → Nat)
    (system : System Table Worker) : Prop where
  bound : ∀ worker ∈ system.threads, worker.Bound system.shared
  evolves : Evolves begun system.shared added
  walker : Follows begun (turningOver begun system.shared added) index system

theorem Roaming.step {begun : Table} {index : Nat} {added : UInt32 → Nat}
    {system next : System Table Worker} {turn : Nat × Choice}
    (roaming : Roaming begun index added system)
    (stepped : system.step Worker.act turn = some next) :
    Roaming begun index (fun pid => added pid + exchangedTo pid system turn) next := by
  rcases evolves_step roaming.bound stepped with ⟨evolves, bound⟩
  refine ⟨bound, roaming.evolves.trans evolves, ?_⟩
  exact roaming.walker.step (sound_turningOver roaming.evolves)
    (extends_turningOver roaming.evolves evolves) stepped

/-- What a walk may have read of some keys is at most the table at its start and what was
exchanged in since. -/
theorem contentSum_most_le (begun present : Table) (system : System Table Worker)
    (turns : List (Nat × Choice)) {keys : List UInt32} (nodup : keys.Nodup) :
    contentSum (turningOver begun present fun pid =>
        total (System.step Worker.act) (exchangedTo pid) system turns).most keys ≤
      contentSum (contents begun) begun.index.keys +
        total (System.step Worker.act) exchangedUj system turns := by
  have split_eq : contentSum (turningOver begun present fun pid =>
      total (System.step Worker.act) (exchangedTo pid) system turns).most keys =
        contentSum (contents begun) keys +
          (keys.map fun key =>
            total (System.step Worker.act) (exchangedTo key) system turns).sum := by
    simp only [contentSum, turningOver, Option.getD_some, contents_getD, List.sum_map_add]
  rw [split_eq]
  apply Nat.add_le_add
  · exact contentSum_le_of_subset _ nodup fun key _ held => mem_keys_iff.mpr held
  · exact sum_total_le (sum_exchangedTo_le nodup) system turns

/-- A walk among additions and removals returns at least what the entries held at its first
step that are still linked at its end, and at most what the whole table held together with
everything that has been exchanged in during the walk. -/
theorem totalMicroJoules_turnover (table : Table) (calls : List Call) (walks : Nat)
    (past during : List (Nat × Choice)) (index : Nat) (choice : Choice)
    (before final : System Table Worker) (totalUj : UInt64)
    (reached : executeCalls table calls walks past = some before)
    (waiting : before.threads[index]? = some (.walker .iter))
    (walked : run (System.step Worker.act) before ((index, choice) :: during) = some final)
    (returned : final.threads[index]? = some (.walker (.done totalUj))) :
    min (contentSum (stayed before.shared final.shared) before.shared.index.keys) U64.maxNat ≤
        totalUj.toNat ∧
      totalUj.toNat ≤ contentSum (contents before.shared) before.shared.index.keys +
        total (System.step Worker.act) exchangedUj before ((index, choice) :: during) := by
  rcases run_cons_eq_some_iff.mp walked with ⟨first, begins, onward⟩
  have start : Roaming before.shared index (fun _ => 0) first := by
    rcases follows_iter waiting begins (turningOver before.shared first.shared fun _ => 0) with
      ⟨same, follows⟩
    have bound := (evolves_step (bound_executeCalls reached) begins).2
    refine ⟨bound, ?_, follows⟩
    rw [same]
    exact Evolves.refl before.shared _
  have finish : Roaming before.shared index
      (fun pid => total (System.step Worker.act) (exchangedTo pid) first during) final := by
    refine run_induction (fun past system => Roaming before.shared index
      (fun pid => total (System.step Worker.act) (exchangedTo pid) first past) system)
      start ?_ onward
    intro past turn system next passed roaming stepped
    simp only [total_snoc passed]
    exact roaming.step stepped
  rcases finish.walker with ⟨stage, at_index, tracks⟩
  cases returned.symm.trans at_index
  rcases tracks.bounds with ⟨least, keys, nodup, most⟩
  refine ⟨least, ?_⟩
  calc
    totalUj.toNat ≤ _ := most.trans (min_le_left _ _)
    _ ≤ contentSum (contents before.shared) before.shared.index.keys +
        total (System.step Worker.act) exchangedUj first during :=
      contentSum_most_le before.shared final.shared first during nodup
    _ ≤ _ := by
      rw [total, begins, Option.map_some, Option.getD_some]
      exact Nat.add_le_add_left (Nat.le_add_left _ _) _

/-- The walk reads process 7 after its removal has taken the same five microjoules out, and
then process 9 with what was added meanwhile: 10 in all, where 9 alone stays, with 3. -/
theorem totalMicroJoules_turnover_removed :
    ∃ before final : System Table Worker,
      executeCalls SkipMap.empty
          [.addMicroJoules 7 5, .addMicroJoules 9 3, .remove 7, .addMicroJoules 9 2] 1
        [(0, ⟨false, none⟩), (0, ⟨false, none⟩), (0, ⟨false, none⟩), (0, ⟨false, none⟩),
          (1, ⟨false, none⟩), (1, ⟨false, none⟩), (1, ⟨false, none⟩), (1, ⟨false, none⟩)] =
        some before ∧
      run (System.step Worker.act) before
        [(4, ⟨false, none⟩), (4, ⟨false, some 7⟩), (2, ⟨false, none⟩), (2, ⟨false, none⟩),
          (4, ⟨false, none⟩), (3, ⟨false, none⟩), (3, ⟨false, none⟩), (3, ⟨false, none⟩),
          (4, ⟨false, some 9⟩), (4, ⟨false, none⟩), (4, ⟨false, none⟩)] = some final ∧
      min (contentSum (stayed before.shared final.shared) before.shared.index.keys) U64.maxNat ≤
        10 ∧
      10 ≤ contentSum (contents before.shared) before.shared.index.keys +
        total (System.step Worker.act) exchangedUj before
          [(4, ⟨false, none⟩), (4, ⟨false, some 7⟩), (2, ⟨false, none⟩), (2, ⟨false, none⟩),
            (4, ⟨false, none⟩), (3, ⟨false, none⟩), (3, ⟨false, none⟩), (3, ⟨false, none⟩),
            (4, ⟨false, some 9⟩), (4, ⟨false, none⟩), (4, ⟨false, none⟩)] := by
  refine ⟨_, _, rfl, rfl, ?_⟩
  exact totalMicroJoules_turnover SkipMap.empty
    [.addMicroJoules 7 5, .addMicroJoules 9 3, .remove 7, .addMicroJoules 9 2] 1
    [(0, ⟨false, none⟩), (0, ⟨false, none⟩), (0, ⟨false, none⟩), (0, ⟨false, none⟩),
      (1, ⟨false, none⟩), (1, ⟨false, none⟩), (1, ⟨false, none⟩), (1, ⟨false, none⟩)]
    [(4, ⟨false, some 7⟩), (2, ⟨false, none⟩), (2, ⟨false, none⟩),
      (4, ⟨false, none⟩), (3, ⟨false, none⟩), (3, ⟨false, none⟩), (3, ⟨false, none⟩),
      (4, ⟨false, some 9⟩), (4, ⟨false, none⟩), (4, ⟨false, none⟩)]
    4 ⟨false, none⟩ _ _ 10 rfl rfl rfl rfl

end Mjae.Concurrent
