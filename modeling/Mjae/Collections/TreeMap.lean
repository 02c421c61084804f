import Std.Data.ExtTreeMap
import Mathlib.Algebra.BigOperators.Group.List.Basic
import Mathlib.Data.List.Nodup

/-!
# Sums over ordered maps

The sum of a weight over all values of an ordered map.  Writing one key moves
the sum by exactly the weight written and the weight replaced, so a quantity
spread over the values can be followed through a run of writes.
-/

namespace Mjae.Collections

open Std

universe u v w

variable {κ : Type u} {β : Type v} {M : Type w} {cmp : κ → κ → Ordering}
  [TransCmp cmp] [LawfulEqCmp cmp]

omit [LawfulEqCmp cmp] in
theorem nodup_toList (table : ExtTreeMap κ β cmp) : table.toList.Nodup := by
  have keys := table.nodup_keys
  rw [← ExtTreeMap.map_fst_toList_eq_keys] at keys
  exact keys.of_map Prod.fst

/-- A present key splits its entry off the listing. -/
theorem toList_perm_cons_erase {table : ExtTreeMap κ β cmp} {key : κ} {value : β}
    (present : table[key]? = some value) :
    table.toList.Perm ((key, value) :: (table.erase key).toList) := by
  have absent : (key, value) ∉ (table.erase key).toList := by
    rw [ExtTreeMap.mem_toList_iff_getElem?_eq_some]
    simp
  rw [List.perm_ext_iff_of_nodup (nodup_toList _) ((nodup_toList _).cons absent)]
  rintro ⟨other, found⟩
  rw [List.mem_cons, ExtTreeMap.mem_toList_iff_getElem?_eq_some,
    ExtTreeMap.mem_toList_iff_getElem?_eq_some, ExtTreeMap.getElem?_erase, Prod.mk.injEq]
  by_cases same : key = other
  · subst same
    simp [present, eq_comm]
  · simp [same, Ne.symm same, LawfulEqCmp.compare_eq_iff_eq]

/-- Writing a key and erasing it again forgets the write. -/
theorem erase_insert_self (table : ExtTreeMap κ β cmp) (key : κ) (value : β) :
    (table.insert key value).erase key = table.erase key := by
  apply ExtTreeMap.ext_getElem?
  intro other
  rw [ExtTreeMap.getElem?_erase, ExtTreeMap.getElem?_erase, ExtTreeMap.getElem?_insert]
  split <;> rfl

theorem erase_of_getElem?_eq_none {table : ExtTreeMap κ β cmp} {key : κ}
    (absent : table[key]? = none) : table.erase key = table := by
  apply ExtTreeMap.ext_getElem?
  intro other
  rw [ExtTreeMap.getElem?_erase]
  split
  · rename_i same
    rw [← LawfulEqCmp.eq_of_compare same, absent]
  · rfl

variable [AddCommMonoid M]

/-- Sum of `weight` over the values of a map. -/
def sumValues (weight : β → M) (table : ExtTreeMap κ β cmp) : M :=
  (table.toList.map fun entry => weight entry.2).sum

theorem sumValues_eq_add_erase (weight : β → M) {table : ExtTreeMap κ β cmp} {key : κ}
    {value : β} (present : table[key]? = some value) :
    sumValues weight table = weight value + sumValues weight (table.erase key) := by
  rw [sumValues, ((toList_perm_cons_erase present).map _).sum_eq]
  rfl

theorem sumValues_insert (weight : β → M) (table : ExtTreeMap κ β cmp) (key : κ) (value : β) :
    sumValues weight (table.insert key value) =
      weight value + sumValues weight (table.erase key) := by
  rw [← erase_insert_self table key value]
  exact sumValues_eq_add_erase weight ExtTreeMap.getElem?_insert_self

omit [LawfulEqCmp cmp] in
@[simp]
theorem sumValues_empty (weight : β → M) :
    sumValues weight (∅ : ExtTreeMap κ β cmp) = 0 := by
  rw [sumValues, ExtTreeMap.toList_eq_nil_iff.mpr rfl]
  rfl

end Mjae.Collections
