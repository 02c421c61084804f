import Mathlib.Algebra.Order.BigOperators.Group.List
import Mathlib.Algebra.Order.Monoid.Canonical.Defs
import Mathlib.Data.List.Nodup
import Mathlib.Data.List.Perm.Subperm

/-!
# Walks over growing contents

A walk reads the values of a map one by one while keys are added and values grow.
No key is read twice, and none that was there at the start is passed over.  What it
has read may be the contents of no single moment, but it lies between the contents
at the start and the contents now, and so does its sum.  Where keys go away too, the
same holds of any contents below and above what the walk can read.
-/

namespace Mjae.Order

universe u v

variable {κ : Type u} {ν : Type v}

/-- Keys are added and values grow. -/
def Grows [LE ν] (before after : κ → Option ν) : Prop :=
  ∀ key value, before key = some value → ∃ later, after key = some later ∧ value ≤ later

section Preorder

variable [Preorder ν]

theorem Grows.refl (contents : κ → Option ν) : Grows contents contents :=
  fun _ value found => ⟨value, found, le_refl value⟩

theorem Grows.trans {first second third : κ → Option ν} (earlier : Grows first second)
    (later : Grows second third) : Grows first third := by
  intro key value found
  rcases earlier key value found with ⟨middle, present, grown⟩
  rcases later key middle present with ⟨last, kept, grownAgain⟩
  exact ⟨last, kept, grown.trans grownAgain⟩

/-- What a walk has read once it has passed some keys: `begun` are the contents at its
start, `present` the contents now. -/
structure Reads (begun present : κ → Option ν) (passed : κ → Prop) (reads : List (κ × ν)) :
    Prop where
  nodup : (reads.map Prod.fst).Nodup
  within : ∀ read ∈ reads, passed read.1
  covered : ∀ key value, begun key = some value → passed key → key ∈ reads.map Prod.fst
  below : ∀ read ∈ reads, ∃ later, present read.1 = some later ∧ read.2 ≤ later
  above : ∀ read ∈ reads, ∀ value, begun read.1 = some value → value ≤ read.2

/-- Nothing is read before any key is passed. -/
theorem reads_nil (begun present : κ → Option ν) : Reads begun present (fun _ => False) [] where
  nodup := List.nodup_nil
  within _ := nofun
  covered _ _ _ := False.elim
  below _ := nofun
  above _ := nofun

namespace Reads

variable {begun present : κ → Option ν} {passed : κ → Prop} {reads : List (κ × ν)}

/-- Growth leaves what was read below the contents. -/
theorem grows {after : κ → Option ν} (known : Reads begun present passed reads)
    (grows : Grows present after) : Reads begun after passed reads where
  nodup := known.nodup
  within := known.within
  covered := known.covered
  below read listed := by
    rcases known.below read listed with ⟨later, found, bound⟩
    rcases grows read.1 later found with ⟨last, kept, grown⟩
    exact ⟨last, kept, bound.trans grown⟩
  above := known.above

/-- A walk may pass keys that were not there at its start. -/
theorem advance {further : κ → Prop} (known : Reads begun present passed reads)
    (more : ∀ key, passed key → further key)
    (skipped : ∀ key value, begun key = some value → further key → passed key) :
    Reads begun present further reads where
  nodup := known.nodup
  within read listed := more read.1 (known.within read listed)
  covered key value found reached := known.covered key value found (skipped key value found reached)
  below := known.below
  above := known.above

/-- Nothing is lost by asking for fewer keys. -/
theorem narrow {fewer : κ → Option ν} (known : Reads begun present passed reads)
    (among : ∀ key value, fewer key = some value → begun key = some value) :
    Reads fewer present passed reads where
  nodup := known.nodup
  within := known.within
  covered key value found := known.covered key value (among key value found)
  below := known.below
  above read listed value found := known.above read listed value (among read.1 value found)

/-- Reading a key that is not passed yet, with a value between the bounds. -/
theorem readBetween {key : κ} {value : ν} {further : κ → Prop}
    (known : Reads begun present passed reads) (fresh : ¬ passed key)
    (further_iff : ∀ other, further other ↔ passed other ∨ other = key)
    (least : ∀ held, begun key = some held → held ≤ value)
    (most : ∃ later, present key = some later ∧ value ≤ later) :
    Reads begun present further (reads ++ [(key, value)]) where
  nodup := by
    rw [List.map_append, List.map_singleton, ← List.concat_eq_append]
    apply known.nodup.concat
    intro listed
    rcases List.mem_map.mp listed with ⟨read, member, rfl⟩
    exact fresh (known.within read member)
  within := by
    intro read listed
    rw [further_iff]
    rcases List.mem_append.mp listed with earlier | last
    · exact Or.inl (known.within read earlier)
    · exact Or.inr (congrArg Prod.fst (List.mem_singleton.mp last))
  covered := by
    intro other held foundOther reached
    rw [List.map_append, List.mem_append]
    rcases (further_iff other).mp reached with earlier | rfl
    · exact Or.inl (known.covered other held foundOther earlier)
    · exact Or.inr List.mem_cons_self
  below := by
    intro read listed
    rcases List.mem_append.mp listed with earlier | last
    · exact known.below read earlier
    · rw [List.mem_singleton.mp last]
      exact most
  above := by
    intro read listed held begunHeld
    rcases List.mem_append.mp listed with earlier | last
    · exact known.above read earlier held begunHeld
    · rw [List.mem_singleton.mp last] at begunHeld ⊢
      exact least held begunHeld

/-- Reading what a key holds now, when the contents have only grown. -/
theorem read {key : κ} {value : ν} {further : κ → Prop}
    (known : Reads begun present passed reads) (fresh : ¬ passed key)
    (further_iff : ∀ other, further other ↔ passed other ∨ other = key)
    (found : present key = some value) (grown : Grows begun present) :
    Reads begun present further (reads ++ [(key, value)]) := by
  apply known.readBetween fresh further_iff
  · intro held begunHeld
    rcases grown key held begunHeld with ⟨later, kept, bound⟩
    rw [found] at kept
    exact Option.some.inj kept ▸ bound
  · exact ⟨value, found, le_refl value⟩

end Reads

end Preorder

/-! ## Sums -/

section Sum

variable [AddCommMonoid ν]

/-- Sum of the contents of the listed keys. -/
def contentSum (contents : κ → Option ν) (keys : List κ) : ν :=
  (keys.map fun key => (contents key).getD 0).sum

/-- Keys without contents add nothing. -/
theorem contentSum_filter (contents : κ → Option ν) (keys : List κ) :
    contentSum contents (keys.filter fun key => (contents key).isSome) =
      contentSum contents keys := by
  induction keys with
  | nil => rfl
  | cons key rest ih =>
      rw [contentSum, contentSum] at ih
      cases held : contents key with
      | none => simp [contentSum, held, ih]
      | some value => simp [contentSum, held, ih]

variable [PartialOrder ν] [IsOrderedAddMonoid ν] {begun present : κ → Option ν}
  {passed : κ → Prop} {reads : List (κ × ν)}

/-- What a walk has read is at most the contents now of the keys that it has read. -/
theorem Reads.le_contentSum (known : Reads begun present passed reads) :
    (reads.map Prod.snd).sum ≤ contentSum present (reads.map Prod.fst) := by
  calc
    (reads.map Prod.snd).sum ≤ (reads.map fun read => (present read.1).getD 0).sum := by
      apply List.sum_le_sum
      intro read listed
      rcases known.below read listed with ⟨later, found, bound⟩
      rw [found]
      exact bound
    _ = contentSum present (reads.map Prod.fst) := by
      rw [contentSum, List.map_map]
      rfl

variable [CanonicallyOrderedAdd ν]

/-- More keys have a larger sum; those without contents need not be among them. -/
theorem contentSum_le_of_subset (contents : κ → Option ν) {keys others : List κ}
    (nodup : keys.Nodup) (subset : ∀ key ∈ keys, (contents key).isSome → key ∈ others) :
    contentSum contents keys ≤ contentSum contents others := by
  have among : keys.filter (fun key => (contents key).isSome) ⊆ others := by
    intro key listed
    rcases List.mem_filter.mp listed with ⟨member, held⟩
    exact subset key member held
  rcases List.subperm_of_subset (nodup.filter _) among with ⟨middle, same, part⟩
  rw [← contentSum_filter, contentSum, ← (same.map _).sum_eq]
  exact (part.map _).sum_le_sum fun _ _ => zero_le

/-- What a walk has read is at least the contents at its start of the keys passed. -/
theorem Reads.contentSum_le (known : Reads begun present passed reads) {keys : List κ}
    (nodup : keys.Nodup) (all_passed : ∀ key ∈ keys, passed key) :
    contentSum begun keys ≤ (reads.map Prod.snd).sum := by
  have subset : ∀ key ∈ keys, (begun key).isSome → key ∈ reads.map Prod.fst := by
    intro key listed held
    rcases Option.isSome_iff_exists.mp held with ⟨value, found⟩
    exact known.covered key value found (all_passed key listed)
  calc
    contentSum begun keys ≤ contentSum begun (reads.map Prod.fst) :=
      contentSum_le_of_subset begun nodup subset
    _ = (reads.map fun read => (begun read.1).getD 0).sum := by
      rw [contentSum, List.map_map]
      rfl
    _ ≤ (reads.map Prod.snd).sum := by
      apply List.sum_le_sum
      intro read listed
      cases held : begun read.1 with
      | none => exact zero_le
      | some value => exact known.above read listed value held

end Sum

end Mjae.Order
