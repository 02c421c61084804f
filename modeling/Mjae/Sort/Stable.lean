import Mathlib.Data.List.Sort

/-!
# Stable sorting

Sorting by a comparison that may tie.  A stable sort keeps tied elements in the
order in which they came, so it forgets exactly the order between elements that
do not tie: two lists sort to the same list when every class of tied elements
comes in the same order in both.
-/

namespace Mjae.Sort

open Std

universe u

variable {α : Type u} (cmp : α → α → Ordering)

/-- `a` may stand before `b`. -/
def Before (a b : α) : Prop :=
  (cmp a b).isLE

instance : DecidableRel (Before cmp) := fun a b =>
  inferInstanceAs (Decidable ((cmp a b).isLE = true))

/-- Stable sort by a comparison. -/
def sortBy (list : List α) : List α :=
  list.insertionSort (Before cmp)

/-- The elements that tie with `element`, in order. -/
def tied (element : α) (list : List α) : List α :=
  list.filter fun other => cmp element other = .eq

variable {cmp} [TransCmp cmp]

instance : IsTrans α (Before cmp) :=
  ⟨fun _ _ _ first second => TransCmp.isLE_trans first second⟩

instance : Std.Total (Before cmp) where
  total a b := by
    by_cases before : (cmp a b).isLE
    · exact .inl before
    · right
      apply Ordering.isLE_of_eq_lt
      exact OrientedCmp.lt_of_not_isLE before

omit [TransCmp cmp] in
theorem tied_cons (element a : α) (rest : List α) :
    tied cmp element (a :: rest) =
      if cmp element a = .eq then a :: tied cmp element rest else tied cmp element rest := by
  simp [tied, List.filter_cons]

theorem mem_tied_self {a : α} {list : List α} (member : a ∈ list) : a ∈ tied cmp a list := by
  apply List.mem_filter.mpr
  simp [member, ReflCmp.compare_self]

/-- Inserting an element puts it before everything that ties with it. -/
theorem tied_orderedInsert (element a : α) (list : List α) :
    tied cmp element (list.orderedInsert (Before cmp) a) = tied cmp element (a :: list) := by
  induction list with
  | nil => rfl
  | cons b rest ih =>
      rw [List.orderedInsert_cons]
      split
      · rfl
      · rename_i later
        rw [tied_cons, ih, tied_cons, tied_cons, tied_cons]
        by_cases tieA : cmp element a = .eq
        · have noTie : cmp element b ≠ .eq := by
            intro tieB
            apply later
            apply Ordering.isLE_of_eq_eq
            exact TransCmp.eq_trans (OrientedCmp.eq_symm tieA) tieB
          simp [tieA, noTie]
        · simp [tieA]

/-- Sorting keeps every class of tied elements in order. -/
theorem tied_sortBy (element : α) (list : List α) :
    tied cmp element (sortBy cmp list) = tied cmp element list := by
  induction list with
  | nil => rfl
  | cons a rest ih =>
      rw [sortBy, List.insertionSort_cons, tied_orderedInsert, tied_cons, tied_cons]
      rw [sortBy] at ih
      rw [ih]

theorem pairwise_sortBy (list : List α) : (sortBy cmp list).Pairwise (Before cmp) :=
  List.pairwise_insertionSort _ list

theorem before_of_mem {a b : α} {rest : List α} (sorted : (a :: rest).Pairwise (Before cmp))
    (member : b ∈ a :: rest) : Before cmp a b := by
  rcases List.mem_cons.mp member with rfl | later
  · exact ReflCmp.isLE_rfl
  · exact List.rel_of_pairwise_cons sorted later

/-- The first element of a sorted list comes before every element that ties with
an element of another list with the same classes. -/
theorem before_of_tied_eq {a b : α} {first second : List α}
    (sorted : (a :: first).Pairwise (Before cmp))
    (same : tied cmp b (a :: first) = tied cmp b (b :: second)) : Before cmp a b := by
  have member : b ∈ tied cmp b (a :: first) := by
    rw [same]
    exact mem_tied_self List.mem_cons_self
  exact before_of_mem sorted (List.mem_filter.mp member).1

/-- Sorted lists with the same classes of tied elements are the same. -/
theorem eq_of_tied_eq {first second : List α} (firstSorted : first.Pairwise (Before cmp))
    (secondSorted : second.Pairwise (Before cmp))
    (same : ∀ element, tied cmp element first = tied cmp element second) : first = second := by
  induction first generalizing second with
  | nil =>
      cases second with
      | nil => rfl
      | cons b rest =>
          have member : b ∈ tied cmp b ([] : List α) := by
            rw [same b]
            exact mem_tied_self List.mem_cons_self
          contradiction
  | cons a rest ih =>
      cases second with
      | nil =>
          have member : a ∈ tied cmp a ([] : List α) := by
            rw [← same a]
            exact mem_tied_self List.mem_cons_self
          contradiction
      | cons b others =>
          have tie : cmp a b = .eq := by
            apply OrientedCmp.isLE_antisymm
            · exact before_of_tied_eq firstSorted (same b)
            · exact before_of_tied_eq secondSorted (same a).symm
          have heads : a = b := by
            have own := same a
            rw [tied_cons, tied_cons, if_pos ReflCmp.compare_self, if_pos tie] at own
            exact List.head_eq_of_cons_eq own
          subst heads
          congr 1
          apply ih firstSorted.tail secondSorted.tail
          intro element
          have own := same element
          rw [tied_cons, tied_cons] at own
          split at own
          · exact List.tail_eq_of_cons_eq own
          · exact own

/-- Two lists sort to the same list exactly when every class of tied elements
comes in the same order in both. -/
theorem sortBy_eq_iff {first second : List α} :
    sortBy cmp first = sortBy cmp second ↔
      ∀ element, tied cmp element first = tied cmp element second := by
  constructor
  · intro same element
    rw [← tied_sortBy, same, tied_sortBy]
  · intro same
    apply eq_of_tied_eq (pairwise_sortBy first) (pairwise_sortBy second)
    intro element
    rw [tied_sortBy, tied_sortBy, same]

end Mjae.Sort
