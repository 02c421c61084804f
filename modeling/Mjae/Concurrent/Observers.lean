import Mjae.Concurrent.Total
import Mjae.Order.Sessions

/-!
# Observers among concurrent additions

An observer calls `get` and `snapshot` again and again while other callers add.  No
answer is the state of one moment, but an observer never sees the registry go back.
-/

namespace Mjae.Concurrent

open Mjae.Arith Mjae.Core Mjae.Order Mjae.Transition

/-- Where a call of `get` stands. -/
inductive GetStage
  | get
  | load (entry : Nat)
  | done (value : Option UInt64)

def GetStage.step (table : Table) (pid : UInt32) : GetStage → Option GetStage
  | .get =>
      match table.get pid with
      | some entry => some (.load entry)
      | none => some (.done none)
  | .load entry => (table.load entry).map fun value => .done (some value)
  | .done _ => none

/-- Where a call of `snapshot` stands. -/
abbrev SnapshotStage := Walk (List (UInt32 × UInt64))

/-- The next atomic step of `snapshot`. -/
def SnapshotStage.step (table : Table) (choice : Option UInt32) (stage : SnapshotStage) :
    Option SnapshotStage :=
  Walk.step [] (fun entries key value => entries ++ [(key, value)]) table choice stage

/-- What a call has returned. -/
inductive Seen
  | get (pid : UInt32) (value : Option UInt64)
  | snapshot (entries : List (UInt32 × UInt64))

inductive ObserverStage
  | idle
  | get (pid : UInt32) (stage : GetStage)
  | snapshot (stage : SnapshotStage)

/-- A thread that observes: what its calls have returned so far, and the present call. -/
structure Observer where
  seen : List Seen
  stage : ObserverStage

/-- What the next turn of a thread leaves open. -/
inductive Glance
  | get (pid : UInt32)
  | snapshot
  | resume (choice : Choice)

def Observer.act (table : Table) (observer : Observer) : Glance → Option Observer
  | .get pid =>
      match observer.stage with
      | .idle => some { observer with stage := .get pid .get }
      | _ => none
  | .snapshot =>
      match observer.stage with
      | .idle => some { observer with stage := .snapshot .iter }
      | _ => none
  | .resume choice =>
      match observer.stage with
      | .idle => none
      | .get pid (.done value) =>
          some { seen := observer.seen ++ [.get pid value], stage := .idle }
      | .get pid stage => (stage.step table pid).map fun stage => ⟨observer.seen, .get pid stage⟩
      | .snapshot (.done entries) =>
          some { seen := observer.seen ++ [.snapshot entries], stage := .idle }
      | .snapshot stage =>
          (stage.step table choice.key).map fun stage => ⟨observer.seen, .snapshot stage⟩

/-- A thread that adds, or one that observes. -/
inductive Party
  | adder (caller : Caller)
  | observer (observer : Observer)

def Party.act (table : Table) : Party → Glance → Option (Table × Party)
  | .adder caller, .resume choice =>
      (caller.act table choice.spurious).map fun (table, caller) => (table, .adder caller)
  | .adder _, _ => none
  | .observer own, glance => (own.act table glance).map fun own => (table, .observer own)

/-- Additions about to begin on `table`, and observers that have seen nothing. -/
def startParties (table : Table) (additions : List (UInt32 × UInt64)) (observers : Nat) :
    System Table Party :=
  ⟨table, additions.map (fun addend => .adder (addition addend).begin) ++
    List.replicate observers (.observer ⟨[], .idle⟩)⟩

def executeParties (table : Table) (additions : List (UInt32 × UInt64)) (observers : Nat)
    (turns : List (Nat × Glance)) : Option (System Table Party) :=
  run (System.step Party.act) (startParties table additions observers) turns

/-! ## Answers as sights -/

/-- The entries as numbers. -/
def readsOf (entries : List (UInt32 × UInt64)) : List (UInt32 × Nat) :=
  entries.map fun entry => (entry.1, entry.2.toNat)

/-- A snapshot covers all processes, and a lookup one. -/
def Seen.sight : Seen → Sight UInt32 Nat
  | .get pid value => ⟨(· = pid), readsOf (value.toList.map (pid, ·))⟩
  | .snapshot entries => ⟨fun _ => True, readsOf entries⟩

def Ascending (entries : List (UInt32 × UInt64)) : Prop :=
  entries.Pairwise (·.1 < ·.1)

def Seen.Ascending : Seen → Prop
  | .get _ _ => True
  | .snapshot entries => Concurrent.Ascending entries

/-- The look that a call of `get` takes. -/
def GetStage.Looks (base : UInt32 → Option Nat) (present : Table)
    (sights : List (Sight UInt32 Nat)) (pid : UInt32) : GetStage → Prop
  | .get => True
  | .load entry => present.get pid = some entry
  | .done value => ∃ begun, Look base begun (contents present) sights (· = pid)
      (readsOf (value.toList.map (pid, ·)))

/-- A snapshot lists what was read, in ascending order. -/
def Lists (entries : List (UInt32 × UInt64)) (reads : List (UInt32 × Nat)) : Prop :=
  reads = readsOf entries ∧ Ascending entries

/-- The look that a call of `snapshot` takes, once it has begun. -/
def SnapshotStage.Looks (base : UInt32 → Option Nat) (present : Table)
    (sights : List (Sight UInt32 Nat)) (stage : SnapshotStage) : Prop :=
  stage = .iter ∨ ∃ begun, Keeps begun present ∧
    Look base (contents begun) (contents present) sights (fun _ => False) [] ∧
    Tracks Lists begun (growing begun present) stage

theorem readsOf_append (entries others : List (UInt32 × UInt64)) :
    readsOf (entries ++ others) = readsOf entries ++ readsOf others :=
  List.map_append

theorem mem_readsOf_iff {entries : List (UInt32 × UInt64)} {pid : UInt32} {value : UInt64} :
    (pid, value.toNat) ∈ readsOf entries ↔ (pid, value) ∈ entries := by
  rw [readsOf, List.mem_map]
  constructor
  · rintro ⟨⟨other, held⟩, listed, same⟩
    rcases Prod.mk.inj same with ⟨rfl, held_eq⟩
    cases UInt64.toNat.inj held_eq
    exact listed
  · exact fun listed => ⟨_, listed, rfl⟩

theorem mem_readsOf {entries : List (UInt32 × UInt64)} {entry : UInt32 × UInt64}
    (listed : entry ∈ entries) : (entry.1, entry.2.toNat) ∈ readsOf entries :=
  List.mem_map_of_mem listed

theorem tells_lists : Tells [] (fun entries key value => entries ++ [(key, value)]) Lists where
  nil := ⟨rfl, List.Pairwise.nil⟩
  visit entries reads key value told above := by
    rcases told with ⟨rfl, ascending⟩
    refine ⟨(readsOf_append entries [(key, value)]).symm, ?_⟩
    apply List.pairwise_append.mpr
    refine ⟨ascending, List.pairwise_singleton _ _, ?_⟩
    intro earlier listed last member
    rw [List.mem_singleton.mp member]
    exact above _ (mem_readsOf listed)

/-! ## One call -/

section Looks

variable {base : UInt32 → Option Nat} {present after : Table}
  {sights : List (Sight UInt32 Nat)}

/-- Additions of other callers do not disturb a lookup. -/
theorem GetStage.Looks.grows {pid : UInt32} {stage : GetStage}
    (looks : stage.Looks base present sights pid) (keeps : Keeps present after)
    (grows : Grows (contents present) (contents after)) :
    stage.Looks base after sights pid := by
  cases stage with
  | get => trivial
  | load entry => exact keeps pid entry looks
  | done value =>
      rcases looks with ⟨begun, look⟩
      exact ⟨begun, look.grows grows⟩

/-- A lookup sees one moment: the one of its last read. -/
theorem GetStage.Looks.step {pid : UInt32} {stage next : GetStage}
    (looks : stage.Looks base present sights pid)
    (begin : Look base (contents present) (contents present) sights (fun _ => False) [])
    (stepped : stage.step present pid = some next) : next.Looks base present sights pid := by
  cases stage with
  | get =>
      rw [GetStage.step] at stepped
      cases linked : present.get pid with
      | some entry =>
          rw [linked] at stepped
          cases stepped
          exact linked
      | none =>
          rw [linked] at stepped
          cases stepped
          refine ⟨contents present, begin.advance (fun _ => False.elim) ?_⟩
          rintro other value found rfl
          rw [contents, SkipMap.value?, linked] at found
          contradiction
  | load entry =>
      rcases Option.map_eq_some_iff.mp stepped with ⟨value, holds, rfl⟩
      refine ⟨contents present, ?_⟩
      exact begin.read not_false (fun _ => iff_of_eq (false_or _).symm) (contents_of_get looks holds)
  | done value => cases stepped

/-- Nor do they disturb a snapshot. -/
theorem SnapshotStage.Looks.grows {stage : SnapshotStage}
    (looks : stage.Looks base present sights) (keeps : Keeps present after)
    (grows : Grows (contents present) (contents after)) : stage.Looks base after sights := by
  rcases looks with waiting | ⟨begun, kept, look, tracks⟩
  · exact Or.inl waiting
  · exact Or.inr ⟨begun, kept.trans keeps, look.grows grows,
      tracks.extends (extends_growing keeps grows)⟩

/-- A step of the snapshot itself. -/
theorem SnapshotStage.Looks.step {stage next : SnapshotStage} (choice : Option UInt32)
    (looks : stage.Looks base present sights)
    (begin : Look base (contents present) (contents present) sights (fun _ => False) [])
    (stepped : stage.step present choice = some next) : next.Looks base present sights := by
  rcases looks with rfl | ⟨begun, kept, look, tracks⟩
  · cases stepped
    exact Or.inr ⟨present, Keeps.refl present, begin, tracks_iter tells_lists present _⟩
  · exact Or.inr ⟨begun, kept, look,
      tracks.step tells_lists (sound_growing kept look.grown) stepped⟩

/-- A snapshot that is over has looked at everything. -/
theorem SnapshotStage.Looks.done {entries : List (UInt32 × UInt64)}
    (looks : SnapshotStage.Looks base present sights (.done entries)) :
    ∃ begun, Ascending entries ∧
      Look base begun (contents present) sights (fun _ => True) (readsOf entries) := by
  rcases looks with waiting | ⟨begun, -, look, reads, read, rfl, ascending⟩
  · cases waiting
  · exact ⟨contents begun, ascending, { look with known := read }⟩

end Looks

/-! ## One observer -/

/-- What an observer has seen is a session that began with the contents `base`. -/
structure Observer.Sound (base : UInt32 → Option Nat) (present : Table)
    (observer : Observer) : Prop where
  session : Session base (contents present) (observer.seen.map Seen.sight)
  ascending : ∀ seen ∈ observer.seen, seen.Ascending
  looks : match observer.stage with
    | .idle => True
    | .get pid stage => stage.Looks base present (observer.seen.map Seen.sight) pid
    | .snapshot stage => stage.Looks base present (observer.seen.map Seen.sight)

namespace Observer.Sound

variable {base : UInt32 → Option Nat} {present after : Table} {observer : Observer}

theorem grows (sound : observer.Sound base present) (keeps : Keeps present after)
    (grows : Grows (contents present) (contents after)) : observer.Sound base after where
  session := sound.session.grows grows
  ascending := sound.ascending
  looks := by
    have looks := sound.looks
    rcases observer with ⟨seen, stage⟩
    cases stage with
    | idle => trivial
    | get pid stage => exact GetStage.Looks.grows looks keeps grows
    | snapshot stage => exact SnapshotStage.Looks.grows looks keeps grows

/-- A call that is over adds what it returns. -/
theorem finish (sound : observer.Sound base present) (seen : Seen) (ascending : seen.Ascending)
    {begun : UInt32 → Option Nat}
    (look : Look base begun (contents present) (observer.seen.map Seen.sight)
      seen.sight.covers seen.sight.reads) :
    Observer.Sound base present ⟨observer.seen ++ [seen], .idle⟩ where
  session := by
    rw [List.map_append]
    exact sound.session.close look
  ascending := List.forall_mem_append.mpr ⟨sound.ascending, List.forall_mem_singleton.mpr ascending⟩
  looks := trivial

/-- A turn of the observer itself. -/
theorem act {next : Observer} {glance : Glance} (sound : observer.Sound base present)
    (acted : observer.act present glance = some next) : next.Sound base present := by
  have begin := sound.session.look
  rcases observer with ⟨seen, stage⟩
  cases glance with
  | get pid =>
      cases stage with
      | idle =>
          cases acted
          exact ⟨sound.session, sound.ascending, trivial⟩
      | get | snapshot => cases acted
  | snapshot =>
      cases stage with
      | idle =>
          cases acted
          exact ⟨sound.session, sound.ascending, Or.inl rfl⟩
      | get | snapshot => cases acted
  | resume choice =>
      cases stage with
      | idle => cases acted
      | get pid stage =>
          cases stage with
          | done value =>
              cases acted
              rcases sound.looks with ⟨begun, look⟩
              exact sound.finish (.get pid value) trivial look
          | get | load =>
              rcases Option.map_eq_some_iff.mp acted with ⟨later, stepped, rfl⟩
              exact ⟨sound.session, sound.ascending,
                GetStage.Looks.step sound.looks begin stepped⟩
      | snapshot stage =>
          cases stage with
          | done entries =>
              cases acted
              rcases SnapshotStage.Looks.done sound.looks with ⟨begun, ascending, look⟩
              exact sound.finish (.snapshot entries) ascending look
          | iter =>
              cases acted
              exact ⟨sound.session, sound.ascending,
                SnapshotStage.Looks.step choice.key sound.looks begin rfl⟩
          | next | load =>
              rcases Option.map_eq_some_iff.mp acted with ⟨later, stepped, rfl⟩
              exact ⟨sound.session, sound.ascending,
                SnapshotStage.Looks.step choice.key sound.looks begin stepped⟩

end Observer.Sound

/-! ## All threads -/

/-- An addition works on the entry that is linked under its process, and an observer
is in a session. -/
def Party.Sound (base : UInt32 → Option Nat) (table : Table) : Party → Prop
  | .adder caller => Attached table caller
  | .observer own => own.Sound base table

/-- A turn of one thread adds keys and raises values, and leaves the links in place. -/
theorem Party.Sound.act {base : UInt32 → Option Nat} {table after : Table} {party moved : Party}
    {glance : Glance} (sound : party.Sound base table)
    (acted : party.act table glance = some (after, moved)) :
    Keeps table after ∧ Grows (contents table) (contents after) ∧ moved.Sound base after := by
  cases party with
  | adder caller =>
      cases glance with
      | get pid => cases acted
      | snapshot => cases acted
      | resume choice =>
          rcases Option.map_eq_some_iff.mp acted with ⟨⟨_, next⟩, stepped, same⟩
          cases same
          have moves := moves_of_act stepped
          have moved := Attached.move sound moves
          exact ⟨moved.1, Attached.grows sound moves, moved.2⟩
  | observer own =>
      rcases Option.map_eq_some_iff.mp acted with ⟨next, observed, same⟩
      cases same
      exact ⟨Keeps.refl table, Grows.refl _, Observer.Sound.act sound observed⟩

theorem Party.Sound.grows {base : UInt32 → Option Nat} {table after : Table} {party : Party}
    (sound : party.Sound base table) (keeps : Keeps table after)
    (grows : Grows (contents table) (contents after)) : party.Sound base after := by
  cases party with
  | adder caller => exact Attached.keeps keeps sound
  | observer own => exact Observer.Sound.grows sound keeps grows

theorem sound_executeParties {table : Table} {additions : List (UInt32 × UInt64)}
    {observers : Nat} {turns : List (Nat × Glance)} {final : System Table Party}
    (executed : executeParties table additions observers turns = some final) :
    ∀ party ∈ final.threads, party.Sound (contents table) final.shared := by
  refine run_induction
    (fun _ system => ∀ party ∈ system.threads, party.Sound (contents table) system.shared)
    ?_ ?_ executed
  · intro party listed
    rcases List.mem_append.mp listed with adding | observing
    · rcases List.mem_map.mp adding with ⟨addend, -, rfl⟩
      trivial
    · rw [List.eq_of_mem_replicate observing]
      exact ⟨session_nil _, fun _ => nofun, trivial⟩
  · intro past turn system next _ sound stepped
    rcases System.step_eq_some_iff.mp stepped with ⟨party, after, moved, present, acted, rfl⟩
    rcases (sound party (List.mem_of_getElem? present)).act acted with ⟨keeps, grows, own⟩
    exact System.forall_threads_set sound own fun _ _ held => held.grows keeps grows

/-- What an observer has seen of a registry that additions work on. -/
theorem sound_observer {table : Table} {additions : List (UInt32 × UInt64)}
    {observers : Nat} {turns : List (Nat × Glance)} {final : System Table Party}
    (executed : executeParties table additions observers turns = some final) {index : Nat}
    {observer : Observer} (present : final.threads[index]? = some (.observer observer)) :
    observer.Sound (contents table) final.shared :=
  sound_executeParties executed _ (List.mem_of_getElem? present)

/-- Every answer is between the contents at the beginning and the contents now. -/
theorem Observer.Sound.seen {base : UInt32 → Option Nat} {present : Table} {observer : Observer}
    (sound : observer.Sound base present) (seen : Seen) (listed : seen ∈ observer.seen) :
    seen.Ascending ∧
      (∀ pid value, base pid = some value → seen.sight.covers pid →
        ∃ later, (pid, later) ∈ seen.sight.reads ∧ value ≤ later) ∧
      Below seen.sight.reads (contents present) := by
  have sighted := List.mem_map_of_mem (f := Seen.sight) listed
  exact ⟨sound.ascending seen listed, sound.session.above _ sighted, sound.session.below _ sighted⟩

/-- Among concurrent additions, an observer finds whatever it has found before, never
with a smaller value; every snapshot is in strictly ascending order; and every answer
lies between the registry at the beginning and the registry now. -/
theorem seen_of_executeParties (table : Table) (additions : List (UInt32 × UInt64))
    (observers : Nat) (turns : List (Nat × Glance)) (final : System Table Party)
    (executed : executeParties table additions observers turns = some final) (index : Nat)
    (observer : Observer) (present : final.threads[index]? = some (.observer observer)) :
    (observer.seen.map Seen.sight).Pairwise Sight.le ∧
      ∀ seen ∈ observer.seen, seen.Ascending ∧
        (∀ pid value, contents table pid = some value → seen.sight.covers pid →
          ∃ later, (pid, later) ∈ seen.sight.reads ∧ value ≤ later) ∧
        Below seen.sight.reads (contents final.shared) := by
  have sound := sound_observer executed present
  exact ⟨sound.session.ordered, sound.seen⟩

/-- A lookup of process 7, a snapshot that misses process 5, and one that has both. -/
def glances : List (Nat × Glance) :=
  [(0, .resume ⟨false, none⟩), (0, .resume ⟨false, none⟩), (0, .resume ⟨false, none⟩),
    (2, .get 7), (2, .resume ⟨false, none⟩), (2, .resume ⟨false, none⟩),
    (2, .resume ⟨false, none⟩), (2, .snapshot), (2, .resume ⟨false, none⟩),
    (2, .resume ⟨false, some 7⟩), (1, .resume ⟨false, none⟩), (0, .resume ⟨false, none⟩),
    (2, .resume ⟨false, none⟩), (1, .resume ⟨false, none⟩), (2, .resume ⟨false, none⟩),
    (2, .resume ⟨false, none⟩), (2, .snapshot), (2, .resume ⟨false, none⟩),
    (2, .resume ⟨false, some 5⟩), (2, .resume ⟨false, none⟩), (2, .resume ⟨false, some 7⟩),
    (2, .resume ⟨false, none⟩), (2, .resume ⟨false, none⟩), (2, .resume ⟨false, none⟩)]

/-- Nothing that the observer has found is lost again. -/
theorem seen_of_executeParties_glances :
    ∃ final : System Table Party, ∃ observer : Observer,
      executeParties SkipMap.empty [(7, 3), (5, 4)] 1 glances = some final ∧
      final.threads[2]? = some (.observer observer) ∧
      observer.seen = [.get 7 (some 0), .snapshot [(7, 3)], .snapshot [(5, 0), (7, 3)]] ∧
      (observer.seen.map Seen.sight).Pairwise Sight.le := by
  refine ⟨_, _, rfl, rfl, rfl, ?_⟩
  exact (seen_of_executeParties SkipMap.empty [(7, 3), (5, 4)] 1 glances _ rfl 2 _ rfl).1

/-! ## A registry at rest -/

/-- Observers alone leave the registry as it is. -/
theorem shared_of_executeParties_nil {table : Table} {observers : Nat}
    {turns : List (Nat × Glance)} {final : System Table Party}
    (executed : executeParties table [] observers turns = some final) : final.shared = table := by
  have alone := run_induction (fun _ system => system.shared = table ∧
    ∀ party ∈ system.threads, ∃ own, party = .observer own) ?_ ?_ executed
  · exact alone.1
  · exact ⟨rfl, fun party listed => ⟨_, List.eq_of_mem_replicate listed⟩⟩
  · rintro past turn system next - ⟨rest, observing⟩ stepped
    rcases System.step_eq_some_iff.mp stepped with ⟨party, after, moved, present, acted, rfl⟩
    rcases observing party (List.mem_of_getElem? present) with ⟨own, rfl⟩
    rcases Option.map_eq_some_iff.mp acted with ⟨later, -, same⟩
    cases same
    exact ⟨rest, System.forall_threads_set observing ⟨later, rfl⟩ fun _ _ => id⟩

/-- Lists in strictly ascending order are equal when they have the same entries. -/
theorem Ascending.eq_of_mem_iff {entries others : List (UInt32 × UInt64)}
    (ascending : Ascending entries) (othersAscending : Ascending others)
    (same : ∀ pid value, (pid, value) ∈ entries ↔ (pid, value) ∈ others) : entries = others := by
  have nodup {entries : List (UInt32 × UInt64)} (ascending : Ascending entries) :
      entries.Nodup :=
    ascending.imp fun {first second} before equal => UInt32.ne_of_lt before (congrArg _ equal)
  apply List.Perm.eq_of_pairwise _ ascending othersAscending
  · rw [List.perm_ext_iff_of_nodup (nodup ascending) (nodup othersAscending)]
    exact fun entry => same entry.1 entry.2
  · exact fun _ _ _ _ before after => absurd after (UInt32.lt_asymm before)

/-- In a strictly ascending list a process has one value. -/
theorem Ascending.value_eq {entries : List (UInt32 × UInt64)} (ascending : Ascending entries)
    {pid : UInt32} {value other : UInt64} (listed : (pid, value) ∈ entries)
    (otherListed : (pid, other) ∈ entries) : value = other := by
  by_contra differ
  have ordered := List.Pairwise.forall_of_forall_of_flip (R := fun first second =>
    first.1 = second.1 → first = second) ?_ ?_ ?_ listed otherListed rfl
  · exact differ (congrArg Prod.snd ordered)
  · exact fun _ _ _ => rfl
  · exact ascending.imp fun before same => absurd same (UInt32.ne_of_lt before)
  · exact ascending.imp fun before same => absurd same.symm (UInt32.ne_of_lt before)

/-- When no addition is under way, lookups and snapshots answer as those of a single
caller do. -/
theorem seen_at_rest {table : Table} {registry : AmalgafyRegistry}
    (same : ∀ pid, table.value? pid = registry.get pid) {observers : Nat}
    {turns : List (Nat × Glance)} {final : System Table Party}
    (executed : executeParties table [] observers turns = some final) {index : Nat}
    {observer : Observer} (present : final.threads[index]? = some (.observer observer)) :
    (∀ pid value, .get pid value ∈ observer.seen → value = registry.get pid) ∧
      ∀ entries, .snapshot entries ∈ observer.seen → entries = registry.snapshot := by
  have seen := (sound_observer executed present).seen
  have contents_iff : ∀ pid (value : UInt64),
      contents table pid = some value.toNat ↔ registry.get pid = some value := by
    intro pid value
    rw [contents, same, Option.map_eq_some_iff]
    constructor
    · rintro ⟨held, found, held_eq⟩
      rwa [← UInt64.toNat.inj held_eq]
    · exact fun found => ⟨value, found, rfl⟩
  rw [shared_of_executeParties_nil executed] at seen
  constructor
  · intro pid value listed
    rcases seen _ listed with ⟨-, above, below⟩
    apply Option.ext
    intro held
    rw [← contents_iff, ← below.mem_iff (fun value found => above pid value found rfl) ?_]
    · rw [Seen.sight, mem_readsOf_iff]
      simp [Option.mem_toList]
    · intro first second firstListed secondListed
      rw [Seen.sight] at firstListed secondListed
      cases value with
      | none => cases firstListed
      | some value => simp_all [readsOf]
  · intro entries listed
    rcases seen _ listed with ⟨ascending, above, below⟩
    apply Ascending.eq_of_mem_iff ascending registry.pairwise_snapshot
    intro pid value
    rw [AmalgafyRegistry.mem_snapshot_iff, ← contents_iff, ← mem_readsOf_iff]
    apply below.mem_iff fun value found => above pid value found trivial
    intro first second firstListed secondListed
    rcases List.mem_map.mp firstListed with ⟨⟨_, firstValue⟩, firstMember, firstEq⟩
    rcases List.mem_map.mp secondListed with ⟨⟨_, secondValue⟩, secondMember, secondEq⟩
    cases firstEq
    cases secondEq
    exact congrArg _ (Ascending.value_eq ascending firstMember secondMember)

/-- Once concurrent additions are all over, lookups and snapshots answer as if a single
caller had made the additions one after another. -/
theorem seen_of_settled (table : Table) (registry : AmalgafyRegistry)
    (same : ∀ pid, table.value? pid = registry.get pid) (additions : List (UInt32 × UInt64))
    (turns : List (Nat × Bool)) (settled : System Table Caller)
    (executed : execute table (additions.map addition) turns = some settled)
    (finished : ∀ caller ∈ settled.threads, caller.finished) (observers : Nat)
    (glances : List (Nat × Glance)) (final : System Table Party)
    (observed : executeParties settled.shared [] observers glances = some final) (index : Nat)
    (observer : Observer) (present : final.threads[index]? = some (.observer observer)) :
    (∀ pid value, .get pid value ∈ observer.seen →
        value = (addAll registry additions).get pid) ∧
      ∀ entries, .snapshot entries ∈ observer.seen →
        entries = (addAll registry additions).snapshot :=
  seen_at_rest (value?_eq_get_addAll table registry same additions turns settled executed finished)
    observed present

/-- Two additions to process 7 and one to process 5, and then a snapshot. -/
theorem seen_of_settled_snapshot :
    ∃ settled : System Table Caller, ∃ final : System Table Party, ∃ observer : Observer,
      execute SkipMap.empty ([(7, 3), (5, 4), (7, 2)].map addition)
        [(0, false), (0, false), (0, false), (1, false), (0, false), (1, false), (2, false),
          (1, false), (2, false), (1, false), (2, false)] = some settled ∧
      executeParties settled.shared [] 1
        [(0, .snapshot), (0, .resume ⟨false, none⟩), (0, .resume ⟨false, some 5⟩),
          (0, .resume ⟨false, none⟩), (0, .resume ⟨false, some 7⟩), (0, .resume ⟨false, none⟩),
          (0, .resume ⟨false, none⟩), (0, .resume ⟨false, none⟩)] = some final ∧
      final.threads[0]? = some (.observer observer) ∧
      [(5, 4), (7, 5)] = (addAll AmalgafyRegistry.new [(7, 3), (5, 4), (7, 2)]).snapshot := by
  refine ⟨_, _, _, rfl, rfl, rfl, ?_⟩
  refine (seen_of_settled SkipMap.empty AmalgafyRegistry.new ?_ [(7, 3), (5, 4), (7, 2)]
    [(0, false), (0, false), (0, false), (1, false), (0, false), (1, false), (2, false),
      (1, false), (2, false), (1, false), (2, false)] _ rfl (List.all_eq_true.mp rfl) 1
    [(0, .snapshot), (0, .resume ⟨false, none⟩), (0, .resume ⟨false, some 5⟩),
      (0, .resume ⟨false, none⟩), (0, .resume ⟨false, some 7⟩), (0, .resume ⟨false, none⟩),
      (0, .resume ⟨false, none⟩), (0, .resume ⟨false, none⟩)] _ rfl 0 _ rfl).2
    [(5, 4), (7, 5)] List.mem_cons_self
  intro pid
  rw [AmalgafyRegistry.get_new, SkipMap.value?, SkipMap.get, SkipMap.empty,
    Std.ExtTreeMap.getElem?_empty, Option.bind_none]

end Mjae.Concurrent
