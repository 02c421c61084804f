import Mathlib.Algebra.BigOperators.Ring.List
import Mathlib.Algebra.Ring.Nat
import Mjae.Concurrent.Registry

/-!
# Removals that race with additions

`remove` unlinks an entry and then reads its cell once.  An addition that looked
the entry up before may exchange the cell after that read; what it adds is in no
returned value and under no link.  Every other delta is accounted for.
-/

namespace Mjae.Concurrent

open Mjae.Arith Mjae.Transition

/-! ## What is accounted for -/

/-- Delta that a call asks to be added to `pid`. -/
def Call.deltaTo (pid : UInt32) : Call → Nat
  | .addMicroJoules own deltaUj => if own = pid then deltaUj.toNat else 0
  | .remove _ => 0

/-- Delta that a caller has added to `pid`. -/
def Caller.addedTo (pid : UInt32) : Caller → Nat
  | .add own deltaUj (.done _) => if own = pid then deltaUj.toNat else 0
  | _ => 0

/-- Value that a successful `remove` of `pid` has returned. -/
def Caller.removedFrom (pid : UInt32) : Caller → Nat
  | .remove own (.done (some value)) => if own = pid then value.toNat else 0
  | _ => 0

/-- What a `remove` of `pid` has taken out, read already or still to be read. -/
def Caller.holds (table : Table) (pid : UInt32) : Caller → Nat
  | .remove own (.load entry) => if own = pid then ((table.load entry).getD 0).toNat else 0
  | .remove own (.done (some value)) => if own = pid then value.toNat else 0
  | _ => 0

/-! ## Who leads to an entry -/

/-- One for a `remove` that has still to read `entry`. -/
def Caller.awaits (entry : Nat) : Caller → Nat
  | .remove _ (.load own) => if own = entry then 1 else 0
  | _ => 0

/-- One for an entry that is linked under its key. -/
def links (table : Table) (entry : Nat) : Nat :=
  match table.keyAt entry with
  | some pid => if table.get pid = some entry then 1 else 0
  | none => 0

/-- Removers that have still to read an entry, and its link. -/
def owners (system : System Table Caller) (entry : Nat) : Nat :=
  (system.threads.map (Caller.awaits entry)).sum + links system.shared entry

/-- No key leads to the entry and no `remove` has still to read it. -/
def Orphaned (system : System Table Caller) (entry : Nat) : Prop :=
  (∀ pid, system.shared.get pid ≠ some entry) ∧
    ∀ pid, .remove pid (.load entry) ∉ system.threads

theorem links_of_get {table : Table} {pid : UInt32} {entry : Nat}
    (linked : table.get pid = some entry) : links table entry = 1 := by
  rw [links, SkipMap.keyAt_of_get linked]
  exact if_pos linked

theorem links_le_one (table : Table) (entry : Nat) : links table entry ≤ 1 := by
  rw [links]
  split
  · split <;> decide
  · decide

theorem links_eq_zero_iff {table : Table} {entry : Nat} :
    links table entry = 0 ↔ ∀ pid, table.get pid ≠ some entry := by
  constructor
  · intro zero pid linked
    rw [links_of_get linked] at zero
    contradiction
  · intro unlinked
    rw [links]
    split
    · exact if_neg (unlinked _)
    · rfl

/-- An entry that gains no link is not linked more often. -/
theorem links_mono {table after : Table} {entry : Nat}
    (noneNew : ∀ pid, after.get pid = some entry → table.get pid = some entry) :
    links after entry ≤ links table entry := by
  by_cases unlinked : ∀ pid, after.get pid ≠ some entry
  · rw [links_eq_zero_iff.mpr unlinked]
    exact Nat.zero_le _
  · rcases not_forall_not.mp unlinked with ⟨pid, linked⟩
    rw [links_of_get (noneNew pid linked)]
    exact links_le_one after entry

theorem awaits_eq_zero_iff {entry : Nat} {caller : Caller} :
    caller.awaits entry = 0 ↔ ∀ pid, caller ≠ .remove pid (.load entry) := by
  cases caller with
  | add pid deltaUj stage => exact iff_of_true rfl fun _ => Caller.noConfusion
  | remove pid stage =>
      cases stage with
      | load own => simp [Caller.awaits]
      | remove | done => simp [Caller.awaits]

theorem orphaned_iff {system : System Table Caller} {entry : Nat} :
    Orphaned system entry ↔ owners system entry = 0 := by
  rw [owners, Nat.add_eq_zero_iff, links_eq_zero_iff, List.sum_eq_zero_iff_forall_eq_nat,
    and_comm, Orphaned]
  apply and_congr_right
  intro _
  simp only [List.forall_mem_map, awaits_eq_zero_iff]
  constructor
  · rintro unread caller acting pid rfl
    exact unread pid acting
  · exact fun unread pid acting => unread _ acting pid rfl

/-! ## Exchanges -/

/-- A successful exchange. -/
structure Exchange where
  pid : UInt32
  deltaUj : UInt64
  entry : Nat
  current : UInt64

/-- The successful exchange that the next step of a caller performs, if it performs one. -/
def Caller.exchange (table : Table) (spurious : Bool) : Caller → Option Exchange
  | .add pid deltaUj (.compareExchange entry current) =>
      if table.load entry = some current ∧ spurious = false then
        some ⟨pid, deltaUj, entry, current⟩
      else none
  | _ => none

def exchangeOf (system : System Table Caller) (turn : Nat × Bool) : Option Exchange :=
  (system.threads[turn.1]?).bind (Caller.exchange system.shared turn.2)

/-- The turn does not saturate a cell. -/
def Fits (system : System Table Caller) (turn : Nat × Bool) : Prop :=
  ∀ exchange ∈ exchangeOf system turn,
    exchange.current.toNat + exchange.deltaUj.toNat ≤ U64.maxNat

instance (system : System Table Caller) (turn : Nat × Bool) : Decidable (Fits system turn) :=
  inferInstanceAs (Decidable (∀ exchange ∈ exchangeOf system turn, _))

/-- The turn adds a positive delta to an entry that nobody leads to any more. -/
def Late (system : System Table Caller) (turn : Nat × Bool) : Prop :=
  ∃ exchange ∈ exchangeOf system turn, exchange.deltaUj ≠ 0 ∧ Orphaned system exchange.entry

/-- Delta of `pid` that the turn adds to an entry that nobody leads to. -/
def lateUj (pid : UInt32) (system : System Table Caller) (turn : Nat × Bool) : Nat :=
  match exchangeOf system turn with
  | some exchange =>
      if exchange.pid = pid ∧ owners system exchange.entry = 0 then exchange.deltaUj.toNat else 0
  | none => 0

theorem not_late_iff {system : System Table Caller} {turn : Nat × Bool} :
    ¬ Late system turn ↔ ∀ pid, lateUj pid system turn = 0 := by
  simp only [Late, lateUj, orphaned_iff]
  cases exchangeOf system turn with
  | none => simp
  | some exchange =>
      have zero_iff : exchange.deltaUj = 0 ↔ exchange.deltaUj.toNat = 0 :=
        ⟨fun zero => by rw [zero]; rfl, fun zero => UInt64.toNat.inj zero⟩
      simp only [Option.mem_some_iff, exists_eq_left', not_and, Ne, zero_iff]
      constructor
      · intro timely pid
        split
        · rename_i unowned
          exact not_not.mp fun positive => timely positive unowned.2
        · rfl
      · intro none positive unowned
        have own := none exchange.pid
        rw [if_pos ⟨rfl, unowned⟩] at own
        exact positive own

/-! ## Handles -/

/-- The handle of a caller, if it has one, is an entry of its process. -/
def Bound (table : Table) : Caller → Prop
  | .add pid _ (.load entry) => table.keyAt entry = some pid
  | .add pid _ (.compareExchange entry _) => table.keyAt entry = some pid
  | .remove pid (.load entry) => table.keyAt entry = some pid
  | _ => True

/-- No entry goes away or changes its key. -/
def KeepsKeys (table after : Table) : Prop :=
  ∀ entry pid, table.keyAt entry = some pid → after.keyAt entry = some pid

theorem Moves.keepsKeys {table after : Table} {caller moved : Caller} {spurious : Bool}
    (moves : Moves table caller spurious after moved) : KeepsKeys table after := by
  cases moves with
  | inserted => exact fun entry pid carried => SkipMap.keyAt_getOrInsert_of_keyAt carried _ _
  | committed holds willing => exact fun entry pid carried => (SkipMap.keyAt_store ..).trans carried
  | found | missed | loaded | retried | unlinked | absent | read => exact fun _ _ => id

theorem Bound.keeps {table after : Table} {caller : Caller} (keeps : KeepsKeys table after)
    (bound : Bound table caller) : Bound after caller := by
  cases caller with
  | add pid deltaUj stage =>
      cases stage with
      | load entry => exact keeps entry pid bound
      | compareExchange entry current => exact keeps entry pid bound
      | get | getOrInsert | done => trivial
  | remove pid stage =>
      cases stage with
      | load entry => exact keeps entry pid bound
      | remove | done => trivial

theorem Bound.move {table after : Table} {caller moved : Caller} {spurious : Bool}
    (bound : Bound table caller) (moves : Moves table caller spurious after moved) :
    Bound after moved := by
  cases moves with
  | found linked => exact SkipMap.keyAt_of_get linked
  | @inserted pid =>
      have linked : (table.getOrInsert pid 0).2.get pid =
          some (table.getOrInsert pid 0).1 := by
        rw [SkipMap.get_getOrInsert, if_pos rfl]
      exact SkipMap.keyAt_of_get linked
  | loaded holds => exact bound
  | retried holds failed => exact bound
  | unlinked linked => exact (SkipMap.keyAt_remove ..).trans (SkipMap.keyAt_of_get linked)
  | missed | committed | absent | read => trivial

/-- Nobody waits for an entry that does not exist yet. -/
theorem Bound.awaits_length {table : Table} {caller : Caller} (bound : Bound table caller) :
    caller.awaits table.nodes.length = 0 := by
  rw [awaits_eq_zero_iff]
  rintro pid rfl
  exact absurd (SkipMap.lt_length_of_keyAt bound) (Nat.lt_irrefl _)

/-- A move hands an entry on or gives it up; only a fresh entry gains a link. -/
theorem Moves.awaits_add_links {table after : Table} {caller moved : Caller} {spurious : Bool}
    (moves : Moves table caller spurious after moved) (entry : Nat) :
    moved.awaits entry + links after entry ≤ caller.awaits entry + links table entry ∨
      entry = table.nodes.length ∧ moved.awaits entry = 0 := by
  cases moves with
  | found | missed | loaded | retried => exact .inl (Nat.le_refl _)
  | @inserted pid =>
      by_cases fresh : entry = table.nodes.length
      · exact .inr ⟨fresh, rfl⟩
      · left
        apply Nat.add_le_add_left
        apply links_mono
        intro other linked
        rw [SkipMap.get_getOrInsert] at linked
        split at linked
        · rename_i same
          subst same
          cases present : table.get pid with
          | some own =>
              rw [SkipMap.getOrInsert_of_get present] at linked
              exact linked
          | none =>
              rw [SkipMap.fst_getOrInsert_of_get_eq_none present] at linked
              exact absurd (Option.some.inj linked).symm fresh
        · exact linked
  | @committed pid deltaUj _ own current holds willing =>
      left
      have passed : links (table.store own (U64.saturatingAdd current deltaUj)) entry ≤
          links table entry := links_mono fun _ => id
      simpa [Caller.awaits] using passed
  | @unlinked pid _ own linked =>
      left
      have keptOthers : ∀ other, (table.remove pid).2.get other = some entry →
          pid ≠ other ∧ table.get other = some entry := by
        intro other found
        rw [SkipMap.get_remove] at found
        split at found
        · contradiction
        · rename_i differ
          exact ⟨differ, found⟩
      by_cases same : own = entry
      · subst same
        have unlinked : links (table.remove pid).2 own = 0 := by
          apply links_eq_zero_iff.mpr
          intro other found
          rcases keptOthers other found with ⟨differ, before⟩
          exact differ (Option.some.inj
            ((SkipMap.keyAt_of_get linked).symm.trans (SkipMap.keyAt_of_get before)))
        rw [unlinked, links_of_get linked]
        simp [Caller.awaits]
      · have passed : links (table.remove pid).2 entry ≤ links table entry :=
          links_mono fun other found => (keptOthers other found).2
        simpa [Caller.awaits, same] using passed
  | absent none =>
      left
      apply Nat.add_le_add_left
      apply links_mono
      intro other found
      rw [SkipMap.get_remove] at found
      split at found
      · contradiction
      · exact found
  | read holds =>
      left
      simp [Caller.awaits]

/-- Every handle is an entry of its process, and at most one way leads on from
every entry. -/
structure Tracked (system : System Table Caller) : Prop where
  bound : ∀ caller ∈ system.threads, Bound system.shared caller
  single : ∀ entry, owners system entry ≤ 1

/-- What weighs nothing at the beginning of every call sums to nothing at the start. -/
theorem sum_start {weight : Caller → Nat} (table : Table) (calls : List Call)
    (weightless : ∀ call : Call, weight call.begin = 0) :
    ((start table calls).threads.map weight).sum = 0 := by
  rw [List.sum_eq_zero_iff_forall_eq_nat, start, List.map_map, List.forall_mem_map]
  exact fun call _ => weightless call

theorem tracked_start (calls : List Call) : Tracked (start SkipMap.empty calls) where
  bound caller member := by
    rcases List.mem_map.mp member with ⟨call, -, rfl⟩
    cases call <;> trivial
  single entry := by
    rw [owners, sum_start _ _ fun call => by cases call <;> rfl, Nat.zero_add]
    exact links_le_one _ entry

theorem Tracked.step {system next : System Table Caller} {turn : Nat × Bool}
    (tracked : Tracked system) (stepped : system.step Caller.act turn = some next) :
    Tracked next := by
  rcases moves_of_step stepped with ⟨caller, after, moved, present, moves, rfl⟩
  have bound := tracked.bound caller (List.mem_of_getElem? present)
  constructor
  · exact System.forall_threads_set tracked.bound (bound.move moves) fun other _ =>
      Bound.keeps moves.keepsKeys
  · intro entry
    have replaced := sum_map_set (Caller.awaits entry) present moved
    have single := tracked.single entry
    rw [owners] at single ⊢
    dsimp only
    rcases moves.awaits_add_links entry with handedOn | ⟨rfl, unread⟩
    · omega
    · -- nobody can wait for the fresh entry, so its link is its only owner
      have nobody : (system.threads.map (Caller.awaits system.shared.nodes.length)).sum = 0 := by
        rw [List.sum_eq_zero_iff_forall_eq_nat, List.forall_mem_map]
        exact fun other acting => (tracked.bound other acting).awaits_length
      have linked := links_le_one after system.shared.nodes.length
      omega

/-! ## The balance -/

/-- What readers and removers still have of the deltas added to `pid`. -/
def kept (pid : UInt32) (system : System Table Caller) : Nat :=
  (slot system.shared pid).toNat + (system.threads.map (Caller.holds system.shared pid)).sum

theorem slot_remove (table : Table) (pid other : UInt32) :
    slot (table.remove pid).2 other = if pid = other then 0 else slot table other := by
  rw [slot, SkipMap.value?, SkipMap.get_remove]
  split <;> rfl

theorem slot_of_get_eq_none {table : Table} {pid : UInt32} (absent : table.get pid = none) :
    slot table pid = 0 := by
  rw [slot, SkipMap.value?, absent]
  rfl

/-- A move without an exchange reads every entry as before and moves nothing in or
out of what is kept. -/
theorem Moves.quiet {table after : Table} {caller moved : Caller} {spurious : Bool}
    (moves : Moves table caller spurious after moved)
    (noExchange : caller.exchange table spurious = none) (pid : UInt32) :
    (∀ entry carried, table.keyAt entry = some carried → after.load entry = table.load entry) ∧
      moved.addedTo pid = caller.addedTo pid ∧
      (slot after pid).toNat + moved.holds after pid =
        (slot table pid).toNat + caller.holds table pid := by
  cases moves with
  | found | missed | loaded | retried => exact ⟨fun _ _ _ => rfl, rfl, rfl⟩
  | inserted =>
      refine ⟨fun entry carried found => SkipMap.load_getOrInsert_of_keyAt found _ _, rfl, ?_⟩
      rw [slot_getOrInsert]
      rfl
  | committed holds willing =>
      rw [Caller.exchange, if_pos ⟨holds, willing⟩] at noExchange
      contradiction
  | @unlinked own _ entry linked =>
      refine ⟨fun _ _ _ => rfl, rfl, ?_⟩
      rcases SkipMap.exists_load_of_keyAt (SkipMap.keyAt_of_get linked) with ⟨value, holds⟩
      have before : (Caller.remove own .remove).holds table pid = 0 := rfl
      rw [slot_remove, before, Caller.holds, SkipMap.load_remove, holds, Option.getD_some]
      split
      · rename_i same
        rw [← same, slot_of_get linked holds]
        exact Nat.add_comm ..
      · rfl
  | @absent own _ none =>
      refine ⟨fun _ _ _ => rfl, rfl, ?_⟩
      rw [slot_remove]
      split
      · rename_i same
        rw [← same, slot_of_get_eq_none none]
        rfl
      · rfl
  | read holds =>
      refine ⟨fun _ _ _ => rfl, rfl, ?_⟩
      rw [Caller.holds, holds]
      rfl

/-- An exchange, its guard and its result. -/
theorem Moves.exchanged {table after : Table} {caller moved : Caller} {spurious : Bool}
    {exchange : Exchange} (moves : Moves table caller spurious after moved)
    (performed : caller.exchange table spurious = some exchange) :
    table.load exchange.entry = some exchange.current ∧
      caller = .add exchange.pid exchange.deltaUj
        (.compareExchange exchange.entry exchange.current) ∧
      after = table.store exchange.entry
        (U64.saturatingAdd exchange.current exchange.deltaUj) ∧
      moved = .add exchange.pid exchange.deltaUj
        (.done (U64.saturatingAdd exchange.current exchange.deltaUj)) := by
  cases moves with
  | committed holds willing =>
      rw [Caller.exchange, if_pos ⟨holds, willing⟩] at performed
      cases performed
      exact ⟨holds, rfl, rfl, rfl⟩
  | retried holds failed =>
      rw [Caller.exchange, if_neg] at performed
      · contradiction
      · rintro ⟨found, honest⟩
        rcases failed with differ | spurious
        · exact differ (Option.some.inj (holds.symm.trans found))
        · rw [honest] at spurious
          contradiction
  | found | missed | inserted | loaded | unlinked | absent | read => contradiction

/-- The share of an exchange that readers of `pid` see. -/
theorem toNat_slot_store {table : Table} {exchange : Exchange}
    (carried : table.keyAt exchange.entry = some exchange.pid)
    (holds : table.load exchange.entry = some exchange.current)
    (fits : exchange.current.toNat + exchange.deltaUj.toNat ≤ U64.maxNat) (pid : UInt32) :
    (slot (table.store exchange.entry (U64.saturatingAdd exchange.current exchange.deltaUj))
        pid).toNat =
      (slot table pid).toNat +
        (if exchange.pid = pid then exchange.deltaUj.toNat else 0) *
          links table exchange.entry := by
  by_cases linked : table.get exchange.pid = some exchange.entry
  · rw [slot_store_of_get linked, links_of_get linked]
    split
    · rename_i same
      rw [← same, slot_of_get linked holds, U64.toNat_saturatingAdd, min_eq_left fits,
        Nat.mul_one]
    · rw [Nat.zero_mul, Nat.add_zero]
  · have unlinked : ∀ other, table.get other ≠ some exchange.entry := by
      intro other found
      have same := Option.some.inj (carried.symm.trans (SkipMap.keyAt_of_get found))
      exact linked (same ▸ found)
    rw [slot_store_of_get_ne (unlinked pid), links_eq_zero_iff.mpr unlinked, Nat.mul_zero,
      Nat.add_zero]

/-- The share of an exchange that a remover takes out. -/
theorem holds_store {table : Table} {exchange : Exchange}
    (carried : table.keyAt exchange.entry = some exchange.pid)
    (holds : table.load exchange.entry = some exchange.current)
    (fits : exchange.current.toNat + exchange.deltaUj.toNat ≤ U64.maxNat) {caller : Caller}
    (bound : Bound table caller) (pid : UInt32) :
    caller.holds
        (table.store exchange.entry (U64.saturatingAdd exchange.current exchange.deltaUj)) pid =
      caller.holds table pid +
        (if exchange.pid = pid then exchange.deltaUj.toNat else 0) *
          caller.awaits exchange.entry := by
  cases caller with
  | add => rfl
  | remove own stage =>
      cases stage with
      | remove => rfl
      | done final => cases final <;> rfl
      | load entry =>
          rw [Caller.holds, Caller.holds, Caller.awaits, SkipMap.load_store]
          by_cases same : exchange.entry = entry
          · subst same
            have own_eq := Option.some.inj (carried.symm.trans bound)
            rw [if_pos rfl, holds, Option.map_some, Option.getD_some, Option.getD_some, own_eq,
              if_pos rfl, Nat.mul_one, U64.toNat_saturatingAdd, min_eq_left fits]
            split <;> rfl
          · rw [if_neg same, if_neg (Ne.symm same), Nat.mul_zero, Nat.add_zero]

theorem Bound.holds_eq {table after : Table} {caller : Caller} (bound : Bound table caller)
    (sameLoads : ∀ entry carried, table.keyAt entry = some carried →
      after.load entry = table.load entry) (pid : UInt32) :
    caller.holds after pid = caller.holds table pid := by
  cases caller with
  | add => rfl
  | remove own stage =>
      cases stage with
      | remove => rfl
      | done final => cases final <;> rfl
      | load entry => rw [Caller.holds, Caller.holds, sameLoads entry own bound]

/-- The share of an exchange that all removers together take out. -/
theorem sum_holds_store {table : Table} {exchange : Exchange}
    (carried : table.keyAt exchange.entry = some exchange.pid)
    (holds : table.load exchange.entry = some exchange.current)
    (fits : exchange.current.toNat + exchange.deltaUj.toNat ≤ U64.maxNat)
    {threads : List Caller} (bound : ∀ caller ∈ threads, Bound table caller) (pid : UInt32) :
    (threads.map (Caller.holds (table.store exchange.entry
        (U64.saturatingAdd exchange.current exchange.deltaUj)) pid)).sum =
      (threads.map (Caller.holds table pid)).sum +
        (if exchange.pid = pid then exchange.deltaUj.toNat else 0) *
          (threads.map (Caller.awaits exchange.entry)).sum := by
  rw [← List.sum_map_mul_left, ← List.sum_map_add]
  exact congrArg List.sum (List.map_congr_left fun caller acting =>
    holds_store carried holds fits (bound caller acting) pid)

/-- With at most one owner the exchange is kept once or comes too late. -/
theorem lateUj_of_exchange {system : System Table Caller} {turn : Nat × Bool}
    {exchange : Exchange} (performed : exchangeOf system turn = some exchange)
    (single : owners system exchange.entry ≤ 1) (pid : UInt32) :
    (if exchange.pid = pid then exchange.deltaUj.toNat else 0) * owners system exchange.entry +
      lateUj pid system turn = if exchange.pid = pid then exchange.deltaUj.toNat else 0 := by
  rw [lateUj, performed]
  dsimp only
  rcases Nat.le_one_iff_eq_zero_or_eq_one.mp single with orphaned | owned
  · simp [orphaned]
  · simp [owned]

/-- Every turn moves what was added by what is kept and what comes too late. -/
theorem Tracked.balance {system next : System Table Caller} {turn : Nat × Bool}
    (tracked : Tracked system) (fits : Fits system turn)
    (stepped : system.step Caller.act turn = some next) (pid : UInt32) :
    (next.threads.map (Caller.addedTo pid)).sum + kept pid system =
      (system.threads.map (Caller.addedTo pid)).sum + kept pid next +
        lateUj pid system turn := by
  rcases moves_of_step stepped with ⟨caller, after, moved, present, moves, rfl⟩
  have exchange_eq : exchangeOf system turn = caller.exchange system.shared turn.2 := by
    rw [exchangeOf, present, Option.bind_some]
  have added := sum_map_set (Caller.addedTo pid) present moved
  have held := sum_map_set (Caller.holds after pid) present moved
  rw [kept, kept]
  dsimp only
  cases performed : caller.exchange system.shared turn.2 with
  | none =>
      rcases moves.quiet performed pid with ⟨sameLoads, sameAdded, moved_eq⟩
      have undisturbed : ∀ other ∈ system.threads,
          other.holds after pid = other.holds system.shared pid :=
        fun other acting => (tracked.bound other acting).holds_eq sameLoads pid
      have timely : lateUj pid system turn = 0 := by
        rw [lateUj, exchange_eq, performed]
      rw [List.map_congr_left undisturbed, undisturbed caller (List.mem_of_getElem? present)]
        at held
      omega
  | some exchange =>
      rcases moves.exchanged performed with ⟨holds, rfl, rfl, rfl⟩
      have carried : system.shared.keyAt exchange.entry = some exchange.pid :=
        tracked.bound _ (List.mem_of_getElem? present)
      have fitting := fits exchange (exchange_eq.trans performed)
      have late := lateUj_of_exchange (exchange_eq.trans performed)
        (tracked.single exchange.entry) pid
      have seen := toNat_slot_store carried holds fitting pid
      have taken := sum_holds_store carried holds fitting tracked.bound pid
      rw [owners, Nat.mul_add] at late
      simp only [Caller.addedTo, Caller.holds] at added held
      omega

/-! ## Complete runs -/

theorem kept_start (calls : List Call) (pid : UInt32) :
    kept pid (start SkipMap.empty calls) = 0 := by
  rw [kept, sum_start _ _ fun call => by cases call <;> rfl]
  rfl

/-- Over a run without saturation every delta added so far is kept or came too late. -/
theorem added_eq_kept_add_late {calls : List Call} {turns : List (Nat × Bool)}
    {final : System Table Caller} (executed : execute SkipMap.empty calls turns = some final)
    (fits : along (System.step Caller.act) Fits (start SkipMap.empty calls) turns)
    (pid : UInt32) :
    (final.threads.map (Caller.addedTo pid)).sum =
      kept pid final +
        total (System.step Caller.act) (lateUj pid) (start SkipMap.empty calls) turns := by
  have balance := run_balance Tracked
    (fun system => (system.threads.map (Caller.addedTo pid)).sum) (kept pid) (lateUj pid)
    (fun _ _ _ tracked stepped => tracked.step stepped)
    (fun _ _ _ tracked fits stepped => tracked.balance fits stepped pid)
    (tracked_start calls) fits executed
  rw [kept_start, sum_start _ _ fun call => by cases call <;> rfl, Nat.add_zero,
    Nat.zero_add] at balance
  exact balance

theorem addedTo_of_finished {caller : Caller} (finished : caller.finished) (pid : UInt32) :
    caller.addedTo pid = caller.call.deltaTo pid := by
  cases caller with
  | add own deltaUj stage =>
      cases stage with
      | done total => rfl
      | get | getOrInsert | load | compareExchange => contradiction
  | remove own stage => rfl

theorem holds_of_finished {caller : Caller} (finished : caller.finished) (table : Table)
    (pid : UInt32) : caller.holds table pid = caller.removedFrom pid := by
  cases caller with
  | add => rfl
  | remove own stage =>
      cases stage with
      | done final => cases final <;> rfl
      | remove | load => contradiction

/-- In a complete run on an empty registry, without saturation, the deltas added to
each process are the values that its successful removals returned and the value
left, exactly when no positive delta is exchanged into an entry that was unlinked
and read before. -/
theorem added_eq_removed_add_left_iff (calls : List Call) (turns : List (Nat × Bool))
    (final : System Table Caller)
    (executed : execute SkipMap.empty calls turns = some final)
    (finished : ∀ caller ∈ final.threads, caller.finished)
    (fits : along (System.step Caller.act) Fits (start SkipMap.empty calls) turns) :
    (∀ pid, (calls.map (Call.deltaTo pid)).sum =
      (final.threads.map (Caller.removedFrom pid)).sum + (slot final.shared pid).toNat) ↔
    along (System.step Caller.act) (fun system turn => ¬ Late system turn)
      (start SkipMap.empty calls) turns := by
  have requested : ∀ pid, (calls.map (Call.deltaTo pid)).sum =
      (final.threads.map (Caller.addedTo pid)).sum := by
    intro pid
    rw [← map_call_execute executed, List.map_map]
    exact congrArg List.sum (List.map_congr_left fun caller acting =>
      (addedTo_of_finished (finished caller acting) pid).symm)
  have returned : ∀ pid, (final.threads.map (Caller.holds final.shared pid)).sum =
      (final.threads.map (Caller.removedFrom pid)).sum := fun pid =>
    congrArg List.sum (List.map_congr_left fun caller acting =>
      holds_of_finished (finished caller acting) final.shared pid)
  have balanced_iff : ∀ pid, ((calls.map (Call.deltaTo pid)).sum =
      (final.threads.map (Caller.removedFrom pid)).sum + (slot final.shared pid).toNat) ↔
      total (System.step Caller.act) (lateUj pid) (start SkipMap.empty calls) turns = 0 := by
    intro pid
    have accounted := added_eq_kept_add_late executed fits pid
    rw [kept, returned] at accounted
    rw [requested]
    omega
  simp only [balanced_iff, total_eq_zero_iff, forall_along_iff, not_late_iff]

/-- One addition that is over before its process is removed. -/
theorem added_eq_removed_add_left_iff_sequential :
    ∃ final : System Table Caller,
      execute SkipMap.empty [.addMicroJoules 7 5, .remove 7]
        [(0, false), (0, false), (0, false), (0, false), (1, false), (1, false)] = some final ∧
      ((∀ pid, ([Call.addMicroJoules 7 5, .remove 7].map (Call.deltaTo pid)).sum =
        (final.threads.map (Caller.removedFrom pid)).sum + (slot final.shared pid).toNat) ↔
      along (System.step Caller.act) (fun system turn => ¬ Late system turn)
        (start SkipMap.empty [.addMicroJoules 7 5, .remove 7])
        [(0, false), (0, false), (0, false), (0, false), (1, false), (1, false)]) := by
  have complete : (execute SkipMap.empty [.addMicroJoules 7 5, .remove 7]
      [(0, false), (0, false), (0, false), (0, false), (1, false), (1, false)]).any
      (fun final => final.threads.all Caller.finished) = true := by decide
  rcases (Option.any_eq_true _ _).mp complete with ⟨final, executed, finished⟩
  exact ⟨final, executed, added_eq_removed_add_left_iff _ _ final executed
    (List.all_eq_true.mp finished) (by decide)⟩

/-- The addition looks its entry up, the removal unlinks and reads it, and only then
does the addition exchange: its delta is nowhere. -/
theorem not_added_eq_removed_add_left :
    ¬ ∀ (calls : List Call) (turns : List (Nat × Bool)) (final : System Table Caller),
      execute SkipMap.empty calls turns = some final →
      (∀ caller ∈ final.threads, caller.finished) →
      along (System.step Caller.act) Fits (start SkipMap.empty calls) turns →
      ∀ pid, (calls.map (Call.deltaTo pid)).sum =
        (final.threads.map (Caller.removedFrom pid)).sum + (slot final.shared pid).toNat := by
  intro accounted
  have complete : (execute SkipMap.empty [.addMicroJoules 7 5, .remove 7]
      [(0, false), (0, false), (0, false), (1, false), (1, false), (0, false)]).any
      (fun final => final.threads.all Caller.finished &&
        (final.threads.map (Caller.removedFrom 7)).sum + (slot final.shared 7).toNat == 0) =
      true := by decide
  rcases (Option.any_eq_true _ _).mp complete with ⟨final, executed, outcome⟩
  rcases Bool.and_eq_true_iff.mp outcome with ⟨finished, lost⟩
  have claimed := accounted _ _ final executed (List.all_eq_true.mp finished) (by decide) 7
  rw [eq_of_beq lost] at claimed
  contradiction

end Mjae.Concurrent
