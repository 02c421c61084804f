import Mjae.Concurrent.Add
import Mjae.Order.GrowingWalk

/-!
# Walks over the entries

`total_micro_joules` and `snapshot` read the entries one after another while other callers
work on them.  The iterator goes up the keys; it passes over no entry that was linked when
it began and still is, and may or may not meet the keys that are linked on its way.
-/

namespace Mjae.Concurrent

open Mjae.Order

/-- Whether an iterator has yet to come to `key`. -/
def ahead (cursor : Option UInt32) (key : UInt32) : Bool :=
  cursor.all (· < key)

/-- Whether an iterator that began on `begun` must not pass over `key`: it has yet to come
to it, and the entry that was linked at its first step still is. -/
def due (begun table : Table) (cursor : Option UInt32) (key : UInt32) : Bool :=
  ahead cursor key && table.get key == begun.get key

/-- The next step of an iterator over the entries; `choice` is the key that it comes to,
or `none` at its end. -/
def iteratorNext (begun table : Table) (cursor choice : Option UInt32) :
    Option (Option (UInt32 × Nat)) :=
  match choice with
  | some key =>
      if ahead cursor key && begun.index.keys.all fun other =>
          !due begun table cursor other || key ≤ other then
        (table.get key).map fun entry => some (key, entry)
      else none
  | none =>
      if begun.index.keys.all fun other => !due begun table cursor other then some none else none

/-- Where a walk stands, with what it has made of the entries that it has read.  `begun` is
the table at its first step; it only says which keys the iterator must not pass over. -/
inductive Walk (α : Type)
  | iter
  | next (begun : Table) (cursor : Option UInt32) (made : α)
  | load (begun : Table) (key : UInt32) (entry : Nat) (made : α)
  | done (made : α)

/-- The next atomic step of a walk that begins with `empty`; `choice` is what the iterator
comes to. -/
def Walk.step {α : Type} (empty : α) (visit : α → UInt32 → UInt64 → α) (table : Table)
    (choice : Option UInt32) : Walk α → Option (Walk α)
  | .iter => some (.next table none empty)
  | .next begun cursor made =>
      (iteratorNext begun table cursor choice).map fun
        | some (key, entry) => .load begun key entry made
        | none => .done made
  | .load begun key entry made =>
      (table.load entry).map fun value => .next begun (some key) (visit made key value)
  | .done _ => none

/-! ## Contents -/

/-- What a walk can read: the linked keys and their values. -/
def contents (table : Table) (pid : UInt32) : Option Nat :=
  (table.value? pid).map UInt64.toNat

theorem mem_keys_iff {table : Table} {pid : UInt32} :
    pid ∈ table.index.keys ↔ (contents table pid).isSome := by
  rw [contents, Option.isSome_map, isSome_value?, Std.ExtTreeMap.mem_keys,
    Std.ExtTreeMap.mem_iff_isSome_getElem?, SkipMap.get]

theorem mem_keys_of_contents {table : Table} {pid : UInt32} {value : Nat}
    (held : contents table pid = some value) : pid ∈ table.index.keys :=
  mem_keys_iff.mpr (Option.isSome_of_eq_some held)

theorem contents_of_get {table : Table} {pid : UInt32} {entry : Nat} {value : UInt64}
    (linked : table.get pid = some entry) (holds : table.load entry = some value) :
    contents table pid = some value.toNat := by
  rw [contents, SkipMap.value?, linked, Option.bind_some, holds, Option.map_some]

theorem contents_getD (table : Table) (pid : UInt32) :
    (contents table pid).getD 0 = (slot table pid).toNat := by
  rw [contents, slot]
  cases table.value? pid <;> rfl

/-! ## The iterator -/

section Iterator

variable {begun table : Table} {cursor choice : Option UInt32}

/-- An iterator comes to a linked key ahead of it, and every key that it passes over is
not due. -/
theorem iteratorNext_eq_some_iff {key : UInt32} {entry : Nat} :
    iteratorNext begun table cursor choice = some (some (key, entry)) ↔
      choice = some key ∧ ahead cursor key ∧ table.get key = some entry ∧
        ∀ other ∈ begun.index.keys, other < key → due begun table cursor other = false := by
  have first_iff (other : UInt32) :
      (!due begun table cursor other || decide (key ≤ other)) = true ↔
        (other < key → due begun table cursor other = false) := by
    rw [Bool.or_eq_true, Bool.not_eq_true', decide_eq_true_eq, or_comm, or_iff_not_imp_left,
      UInt32.not_le]
  cases choice with
  | none => simp [iteratorNext]
  | some chosen =>
      rw [iteratorNext, Option.ite_none_right_eq_some, Bool.and_eq_true, List.all_eq_true]
      constructor
      · rintro ⟨⟨reached, first⟩, arrived⟩
        rcases Option.map_eq_some_iff.mp arrived with ⟨own, linked, same⟩
        cases same
        exact ⟨rfl, reached, linked, fun other listed => (first_iff other).mp (first other listed)⟩
      · rintro ⟨chosen_eq, reached, linked, first⟩
        cases chosen_eq
        refine ⟨⟨reached, fun other listed => (first_iff other).mpr (first other listed)⟩, ?_⟩
        rw [linked, Option.map_some]

/-- An iterator ends when no key is due. -/
theorem iteratorNext_eq_end_iff :
    iteratorNext begun table cursor choice = some none ↔
      choice = none ∧ ∀ other ∈ begun.index.keys, due begun table cursor other = false := by
  cases choice with
  | none => simp [iteratorNext]
  | some key =>
      rw [iteratorNext]
      split <;> simp

/-- A key whose entry is still linked and that is not due has been passed. -/
theorem not_ahead_of_not_due {key : UInt32} (still : table.get key = begun.get key)
    (settled : due begun table cursor key = false) : ahead cursor key = false := by
  rwa [due, still, beq_self_eq_true, Bool.and_true] at settled

/-- No link goes away among additions. -/
theorem Keeps.get_eq (keeps : Keeps begun table) {key : UInt32}
    (listed : key ∈ begun.index.keys) : table.get key = begun.get key := by
  rw [mem_keys_iff, contents, Option.isSome_map, isSome_value?] at listed
  rcases Option.isSome_iff_exists.mp listed with ⟨entry, linked⟩
  rw [linked, keeps key entry linked]

/-- A key that is not ahead of the cursor is below every key that is. -/
theorem lt_of_not_ahead {key other : UInt32} (passed : ahead cursor key = false)
    (reached : ahead cursor other) : key < other := by
  cases cursor with
  | none => cases passed
  | some last =>
      rw [ahead, Option.all_some, decide_eq_false_iff_not, UInt32.not_lt] at passed
      rw [ahead, Option.all_some, decide_eq_true_eq] at reached
      exact UInt32.lt_of_le_of_lt passed reached

/-- Behind a cursor at `key` are the keys below it and `key` itself. -/
theorem not_ahead_some_iff {key other : UInt32} :
    ahead (some key) other = false ↔ other < key ∨ other = key := by
  rw [ahead, Option.all_some, decide_eq_false_iff_not, UInt32.not_lt, UInt32.le_iff_lt_or_eq]

end Iterator

/-! ## One walk -/

/-- What is known of the entries of a table: contents that a walk does not fall short of,
contents that it does not exceed, and the entries that it may hold. -/
structure Known where
  least : UInt32 → Option Nat
  most : UInt32 → Option Nat
  holds : UInt32 → Nat → Prop

/-- What is known applies to a walk that began on `begun` and takes a step on `present`. -/
structure Known.Sound (known : Known) (begun present : Table) : Prop where
  listed : ∀ key value, known.least key = some value →
    key ∈ begun.index.keys ∧ present.get key = begun.get key
  linked : ∀ key entry, present.get key = some entry → known.holds key entry
  loaded : ∀ key entry value, known.holds key entry → present.load entry = some value →
    (∀ held, known.least key = some held → held ≤ value.toNat) ∧
      ∃ later, known.most key = some later ∧ value.toNat ≤ later

/-- What is known later on allows for whatever was. -/
structure Known.Extends (known later : Known) : Prop where
  least : ∀ key value, later.least key = some value → known.least key = some value
  most : Grows known.most later.most
  holds : ∀ key entry, known.holds key entry → later.holds key entry

/-- What a walk makes of the entries tells of their keys and values: of none at first, and
of one more above all others with every visit. -/
structure Tells {α : Type} (empty : α) (visit : α → UInt32 → UInt64 → α)
    (tells : α → List (UInt32 × Nat) → Prop) : Prop where
  nil : tells empty []
  visit : ∀ made reads key value, tells made reads → (∀ read ∈ reads, read.1 < key) →
    tells (visit made key value) (reads ++ [(key, value.toNat)])

/-- A walk that began on `begun` has read between what is known, and tells of it. -/
def Tracks {α : Type} (tells : α → List (UInt32 × Nat) → Prop) (begun : Table)
    (known : Known) : Walk α → Prop
  | .iter => False
  | .next start cursor made =>
      start = begun ∧
        ∃ reads, Reads known.least known.most (ahead cursor · = false) reads ∧ tells made reads
  | .load start key entry made =>
      start = begun ∧ known.holds key entry ∧
        ∃ reads, Reads known.least known.most (· < key) reads ∧ tells made reads
  | .done made =>
      ∃ reads, Reads known.least known.most (fun _ => True) reads ∧ tells made reads

section Tracks

variable {α : Type} {empty : α} {visit : α → UInt32 → UInt64 → α}
  {tells : α → List (UInt32 × Nat) → Prop} {begun present : Table} {known later : Known}

/-- The first step has read nothing. -/
theorem tracks_iter (telling : Tells empty visit tells) (begun : Table) (known : Known) :
    Tracks tells begun known (.next begun none empty) := by
  refine ⟨rfl, [], ?_, telling.nil⟩
  apply (reads_nil known.least known.most).advance
  · exact fun _ => False.elim
  · exact fun _ _ _ passed => Bool.noConfusion passed

/-- Steps of others do not disturb a walk. -/
theorem Tracks.extends {stage : Walk α} (tracks : Tracks tells begun known stage)
    (extends_known : known.Extends later) : Tracks tells begun later stage := by
  have still {passed : UInt32 → Prop} {reads : List (UInt32 × Nat)}
      (read : Reads known.least known.most passed reads) :
      Reads later.least later.most passed reads :=
    (read.narrow extends_known.least).grows extends_known.most
  cases stage with
  | iter => exact tracks
  | next start cursor made =>
      rcases tracks with ⟨start_eq, reads, read, told⟩
      exact ⟨start_eq, reads, still read, told⟩
  | load start key entry made =>
      rcases tracks with ⟨start_eq, held, reads, read, told⟩
      exact ⟨start_eq, extends_known.holds key entry held, reads, still read, told⟩
  | done made =>
      rcases tracks with ⟨reads, read, told⟩
      exact ⟨reads, still read, told⟩

/-- A step of the walk itself. -/
theorem Tracks.step {stage next : Walk α} {choice : Option UInt32}
    (telling : Tells empty visit tells) (tracks : Tracks tells begun known stage)
    (sound : known.Sound begun present)
    (stepped : stage.step empty visit present choice = some next) :
    Tracks tells begun known next := by
  cases stage with
  | iter => exact tracks.elim
  | next start cursor made =>
      rcases tracks with ⟨rfl, reads, read, told⟩
      rcases Option.map_eq_some_iff.mp stepped with ⟨arrival, arrived, rfl⟩
      cases arrival with
      | some found =>
          -- the iterator comes to a key: what it has not passed below that key is new
          rcases iteratorNext_eq_some_iff.mp arrived with ⟨-, reached, at_entry, first⟩
          refine ⟨rfl, sound.linked _ _ at_entry, reads, read.advance ?_ ?_, told⟩
          · exact fun other passed => lt_of_not_ahead passed reached
          · intro other value held below
            rcases sound.listed other value held with ⟨listed, still⟩
            exact not_ahead_of_not_due still (first other listed below)
      | none =>
          rcases iteratorNext_eq_end_iff.mp arrived with ⟨-, finished⟩
          refine ⟨reads, read.advance (fun _ _ => trivial) ?_, told⟩
          intro other value held _
          rcases sound.listed other value held with ⟨listed, still⟩
          exact not_ahead_of_not_due still (finished other listed)
  | load start key entry made =>
      rcases tracks with ⟨rfl, held, reads, read, told⟩
      rcases Option.map_eq_some_iff.mp stepped with ⟨value, holds, rfl⟩
      rcases sound.loaded key entry value held holds with ⟨least, most⟩
      refine ⟨rfl, reads ++ [(key, value.toNat)], ?_, ?_⟩
      · exact read.readBetween (UInt32.lt_irrefl key) (fun _ => not_ahead_some_iff) least most
      · exact telling.visit made reads key value told read.within
  | done made => cases stepped

end Tracks

/-! ## Growing tables -/

/-- While keys are added and values grow, a walk lies between the contents at its start
and the contents now. -/
def growing (begun present : Table) : Known where
  least := contents begun
  most := contents present
  holds key entry := present.get key = some entry

theorem sound_growing {begun present : Table} (keeps : Keeps begun present)
    (grows : Grows (contents begun) (contents present)) :
    (growing begun present).Sound begun present where
  listed key value held := by
    have listed := mem_keys_of_contents held
    exact ⟨listed, keeps.get_eq listed⟩
  linked _ _ at_entry := at_entry
  loaded key entry value at_entry holds := by
    have found := contents_of_get at_entry holds
    constructor
    · intro held begunHeld
      rcases grows key held begunHeld with ⟨later, kept, bound⟩
      rw [found] at kept
      exact Option.some.inj kept ▸ bound
    · exact ⟨value.toNat, found, Nat.le_refl _⟩

theorem extends_growing {begun present after : Table} (keeps : Keeps present after)
    (grows : Grows (contents present) (contents after)) :
    (growing begun present).Extends (growing begun after) where
  least _ _ := id
  most := grows
  holds := keeps

end Mjae.Concurrent
