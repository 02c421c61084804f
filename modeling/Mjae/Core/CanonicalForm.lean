import Mjae.Core.CanonicalJson
import Mjae.Json.Members

/-!
# The canonical form

Sorting the members of every object forgets their order and nothing else: two
values have the same canonical bytes exactly when they are equal up to the order of
object members.
-/

namespace Mjae.Core

open Mjae.Json Mjae.Sort

/-- A JSON value is its own payload. -/
instance instSerializeValue : Serialize Value where
  toValue value := value

/-! ## Sorted members -/

theorem canonicalizeMembers_eq_map (members : List (String × Value)) :
    canonicalizeMembers members =
      members.map fun member => (member.1, canonicalizeValue member.2) := by
  induction members with
  | nil => rfl
  | cons member rest ih =>
      rcases member with ⟨key, value⟩
      rw [canonicalizeMembers, ih]
      rfl

theorem keys_canonicalizeMembers (members : List (String × Value)) :
    keys (canonicalizeMembers members) = keys members := by
  rw [canonicalizeMembers_eq_map, keys, List.map_map]
  rfl

/-- Inserting members with new keys appends them. -/
theorem foldl_insertMember {start members : List (String × Value)}
    (fresh : (keys (start ++ members)).Nodup) :
    members.foldl insertMember start = start ++ members := by
  induction members generalizing start with
  | nil => exact (List.append_nil _).symm
  | cons member rest ih =>
      have absent : ¬ start.any fun present => present.1 = member.1 := by
        rw [keys, List.map_append, List.map_cons] at fresh
        have apart := (List.nodup_append.mp fresh).2.2
        simp only [List.any_eq_true, decide_eq_true_eq, not_exists, not_and]
        intro present listed
        exact apart _ (List.mem_map_of_mem listed) _ List.mem_cons_self
      rw [List.foldl_cons, insertMember, if_neg absent, ih]
      · exact List.append_assoc _ _ _
      · rwa [List.append_assoc]

instance instTransCmpCompareKeys : Std.TransCmp compareKeys :=
  inferInstanceAs (Std.TransCmp (compareOn Prod.fst))

theorem sortBy_perm (members : List (String × Value)) :
    (sortBy compareKeys members).Perm members :=
  List.perm_insertionSort _ members

theorem keys_sortBy_perm (members : List (String × Value)) :
    (keys (sortBy compareKeys members)).Perm (keys members) :=
  (sortBy_perm members).map Prod.fst

/-- Members with unique keys sort to the same list exactly when they are the same
members. -/
theorem sortBy_eq_iff_perm {members others : List (String × Value)}
    (unique : (keys members).Nodup) :
    sortBy compareKeys members = sortBy compareKeys others ↔ members.Perm others := by
  constructor
  · intro same
    calc
      members.Perm (sortBy compareKeys members) := (sortBy_perm members).symm
      _ = sortBy compareKeys others := same
      List.Perm _ others := sortBy_perm others
  · intro same
    have sorted : (sortBy compareKeys members).Perm (sortBy compareKeys others) :=
      (sortBy_perm members).trans (same.trans (sortBy_perm others).symm)
    apply List.Perm.eq_of_pairwise _ (pairwise_sortBy members) (pairwise_sortBy others) sorted
    intro first second firstListed secondListed before after
    have same_key : compareKeys first second = .eq := Std.OrientedCmp.isLE_antisymm before after
    have tie : first.1 = second.1 := Std.LawfulEqOrd.eq_of_compare same_key
    apply List.inj_on_of_nodup_map unique _ _ tie
    · exact (sortBy_perm members).subset firstListed
    · exact same.symm.subset ((sortBy_perm others).subset secondListed)

/-- Sorted members with unique keys stand in strictly ascending order. -/
theorem pairwise_keys_sortBy {members : List (String × Value)}
    (unique : (keys members).Nodup) :
    (keys (sortBy compareKeys members)).Pairwise (· < ·) := by
  have distinct : (keys (sortBy compareKeys members)).Nodup :=
    (keys_sortBy_perm members).nodup_iff.mpr unique
  rw [keys, List.pairwise_map]
  rw [keys, List.Nodup, List.pairwise_map] at distinct
  apply (pairwise_sortBy members).imp₂ _ distinct
  intro first second before apart
  rcases Ordering.isLE_iff_eq_lt_or_eq_eq.mp before with less | tie
  · exact compareOfLessAndEq_eq_lt.mp less
  · exact absurd (Std.LawfulEqOrd.eq_of_compare tie) apart

/-- The canonical form of an object with unique keys is its sorted members. -/
theorem canonicalizeValue_object {members : List (String × Value)}
    (unique : (keys members).Nodup) :
    canonicalizeValue (.object members) =
      .object (sortBy compareKeys (canonicalizeMembers members)) := by
  rw [canonicalizeValue, foldl_insertMember, List.nil_append]
  rw [List.nil_append, (keys_sortBy_perm _).nodup_iff, keys_canonicalizeMembers]
  exact unique

theorem canonicalizeMembers_perm {members others : List (String × Value)}
    (same : members.Perm others) :
    (canonicalizeMembers members).Perm (canonicalizeMembers others) := by
  rw [canonicalizeMembers_eq_map, canonicalizeMembers_eq_map]
  exact same.map _

/-- Members whose canonical forms are a permutation of each other are, one by one, the
members of a permutation. -/
theorem exists_perm_of_canonicalizeMembers {members others : List (String × Value)}
    (same : (canonicalizeMembers members).Perm (canonicalizeMembers others)) :
    ∃ middle, canonicalizeMembers members = canonicalizeMembers middle ∧
      middle.Perm others := by
  rw [canonicalizeMembers_eq_map others] at same
  have composed := List.eq_map_comp_perm fun member : String × Value =>
    (member.1, canonicalizeValue member.2)
  rcases (congrFun (congrFun composed (canonicalizeMembers members)) others).mpr same with
    ⟨middle, mapped, order⟩
  exact ⟨middle, mapped.trans (canonicalizeMembers_eq_map middle).symm, order⟩

/-! ## Values up to the order of members -/

mutual

/-- Values that differ in the order of members have one canonical form. -/
theorem canonicalizeValue_eq_of_reordered : ∀ {first second : Value},
    Reordered first second → UniqueKeys first →
    canonicalizeValue first = canonicalizeValue second
  | _, _, .null, _ => rfl
  | _, _, .bool _, _ => rfl
  | _, _, .number _, _ => rfl
  | _, _, .string _, _ => rfl
  | _, _, .array same, unique => by
      rw [UniqueKeys, EveryObject] at unique
      rw [canonicalizeValue, canonicalizeValue, canonicalizeItems_eq_of_reordered same unique]
  | _, _, .object values order, unique => by
      rw [UniqueKeys, EveryObject] at unique
      rcases unique with ⟨distinct, inner⟩
      have othersDistinct := distinct
      rw [values.keys_eq, keys, (order.map Prod.fst).nodup_iff] at othersDistinct
      rw [canonicalizeValue_object distinct, canonicalizeValue_object othersDistinct]
      congr 1
      rw [sortBy_eq_iff_perm (by rwa [keys_canonicalizeMembers]),
        canonicalizeMembers_eq_of_reordered values inner]
      exact canonicalizeMembers_perm order

theorem canonicalizeItems_eq_of_reordered : ∀ {items others : List Value},
    ReorderedItems items others → EveryItem (fun members => (keys members).Nodup) items →
    canonicalizeItems items = canonicalizeItems others
  | _, _, .nil, _ => rfl
  | _, _, .cons head tail, unique => by
      rw [EveryItem] at unique
      rw [canonicalizeItems, canonicalizeItems, canonicalizeValue_eq_of_reordered head unique.1,
        canonicalizeItems_eq_of_reordered tail unique.2]

theorem canonicalizeMembers_eq_of_reordered : ∀ {members others : List (String × Value)},
    ReorderedMembers members others →
    EveryMember (fun members => (keys members).Nodup) members →
    canonicalizeMembers members = canonicalizeMembers others
  | _, _, .nil, _ => rfl
  | _, _, .cons key head tail, unique => by
      rw [EveryMember] at unique
      rw [canonicalizeMembers, canonicalizeMembers,
        canonicalizeValue_eq_of_reordered head unique.1,
        canonicalizeMembers_eq_of_reordered tail unique.2]

end

mutual

/-- Values with one canonical form differ in the order of members alone. -/
theorem reordered_of_canonicalizeValue_eq : ∀ (first second : Value),
    UniqueKeys first → UniqueKeys second →
    canonicalizeValue first = canonicalizeValue second → Reordered first second
  | .null, second, _, _, same => by
      cases second with
      | null => exact .null
      | _ => simp [canonicalizeValue] at same
  | .bool flag, second, _, _, same => by
      cases second with
      | bool other =>
          rw [canonicalizeValue, canonicalizeValue] at same
          exact same ▸ .bool flag
      | _ => simp [canonicalizeValue] at same
  | .number integer, second, _, _, same => by
      cases second with
      | number other =>
          rw [canonicalizeValue, canonicalizeValue] at same
          exact same ▸ .number integer
      | _ => simp [canonicalizeValue] at same
  | .string text, second, _, _, same => by
      cases second with
      | string other =>
          rw [canonicalizeValue, canonicalizeValue] at same
          exact same ▸ .string text
      | _ => simp [canonicalizeValue] at same
  | .array items, second, unique, otherUnique, same => by
      cases second with
      | array others =>
          rw [UniqueKeys, EveryObject] at unique otherUnique
          rw [canonicalizeValue, canonicalizeValue] at same
          exact .array (reordered_of_canonicalizeItems_eq items others unique otherUnique
            (Value.array.inj same))
      | _ => simp [canonicalizeValue] at same
  | .object members, second, unique, otherUnique, same => by
      cases second with
      | object others =>
          rw [UniqueKeys, EveryObject] at unique otherUnique
          rcases unique with ⟨distinct, inner⟩
          rcases otherUnique with ⟨othersDistinct, othersInner⟩
          rw [canonicalizeValue_object distinct, canonicalizeValue_object othersDistinct] at same
          have order := (sortBy_eq_iff_perm (by rwa [keys_canonicalizeMembers])).mp
            (Value.object.inj same)
          rcases exists_perm_of_canonicalizeMembers order with ⟨middle, values, moved⟩
          exact .object (reordered_of_canonicalizeMembers_eq members middle inner
            (othersInner.perm moved.symm) values) moved
      | _ => simp [canonicalizeValue] at same

theorem reordered_of_canonicalizeItems_eq : ∀ (items others : List Value),
    EveryItem (fun members => (keys members).Nodup) items →
    EveryItem (fun members => (keys members).Nodup) others →
    canonicalizeItems items = canonicalizeItems others → ReorderedItems items others
  | [], others, _, _, same => by
      cases others with
      | nil => exact .nil
      | cons other rest => simp [canonicalizeItems] at same
  | item :: rest, others, unique, otherUnique, same => by
      cases others with
      | nil => simp [canonicalizeItems] at same
      | cons other tail =>
          rw [EveryItem] at unique otherUnique
          rw [canonicalizeItems, canonicalizeItems] at same
          have heads := List.head_eq_of_cons_eq same
          have tails := List.tail_eq_of_cons_eq same
          exact .cons
            (reordered_of_canonicalizeValue_eq item other unique.1 otherUnique.1 heads)
            (reordered_of_canonicalizeItems_eq rest tail unique.2 otherUnique.2 tails)

theorem reordered_of_canonicalizeMembers_eq : ∀ (members others : List (String × Value)),
    EveryMember (fun members => (keys members).Nodup) members →
    EveryMember (fun members => (keys members).Nodup) others →
    canonicalizeMembers members = canonicalizeMembers others → ReorderedMembers members others
  | [], others, _, _, same => by
      cases others with
      | nil => exact .nil
      | cons other rest =>
          rcases other with ⟨key, value⟩
          simp [canonicalizeMembers] at same
  | (key, value) :: rest, others, unique, otherUnique, same => by
      cases others with
      | nil => simp [canonicalizeMembers] at same
      | cons other tail =>
          rcases other with ⟨otherKey, otherValue⟩
          rw [EveryMember] at unique otherUnique
          simp only [canonicalizeMembers, List.cons.injEq, Prod.mk.injEq] at same
          rcases same with ⟨⟨rfl, values⟩, tails⟩
          exact .cons key
            (reordered_of_canonicalizeValue_eq value otherValue unique.1 otherUnique.1 values)
            (reordered_of_canonicalizeMembers_eq rest tail unique.2 otherUnique.2 tails)

end

mutual

/-- Every object of a canonical form is sorted. -/
theorem ascending_canonicalizeValue : ∀ (value : Value), UniqueKeys value →
    Ascending (canonicalizeValue value)
  | .null, _ => trivial
  | .bool _, _ => trivial
  | .number _, _ => trivial
  | .string _, _ => trivial
  | .array items, unique => by
      rw [UniqueKeys, EveryObject] at unique
      rw [canonicalizeValue, Ascending, EveryObject]
      exact ascending_canonicalizeItems items unique
  | .object members, unique => by
      rw [UniqueKeys, EveryObject] at unique
      rcases unique with ⟨distinct, inner⟩
      rw [canonicalizeValue_object distinct, Ascending, EveryObject]
      constructor
      · apply pairwise_keys_sortBy
        rwa [keys_canonicalizeMembers]
      · exact (ascending_canonicalizeMembers members inner).perm (sortBy_perm _).symm

theorem ascending_canonicalizeItems : ∀ (items : List Value),
    EveryItem (fun members => (keys members).Nodup) items →
    EveryItem (fun members => (keys members).Pairwise (· < ·)) (canonicalizeItems items)
  | [], _ => trivial
  | item :: rest, unique => by
      rw [EveryItem] at unique
      rw [canonicalizeItems, EveryItem]
      exact ⟨ascending_canonicalizeValue item unique.1,
        ascending_canonicalizeItems rest unique.2⟩

theorem ascending_canonicalizeMembers : ∀ (members : List (String × Value)),
    EveryMember (fun members => (keys members).Nodup) members →
    EveryMember (fun members => (keys members).Pairwise (· < ·)) (canonicalizeMembers members)
  | [], _ => trivial
  | (_, value) :: rest, unique => by
      rw [EveryMember] at unique
      rw [canonicalizeMembers, EveryMember]
      exact ⟨ascending_canonicalizeValue value unique.1,
        ascending_canonicalizeMembers rest unique.2⟩

end

/-- Values with unique keys have the same canonical bytes exactly when they are equal up
to the order of object members, and the bytes are those of a value whose objects are
all in strictly ascending order. -/
theorem canonicalJson_eq_iff (first second : Value) (firstUnique : UniqueKeys first)
    (secondUnique : UniqueKeys second) :
    (canonicalJson first = canonicalJson second ↔ Reordered first second) ∧
      ∃ output, canonicalJson first = .ok (toVec output) ∧ Ascending output := by
  constructor
  · rw [canonicalJson, canonicalJson, Except.ok.injEq]
    constructor
    · intro same
      exact reordered_of_canonicalizeValue_eq first second firstUnique secondUnique
        (toVec_injective same)
    · intro same
      exact congrArg toVec (canonicalizeValue_eq_of_reordered same firstUnique)
  · exact ⟨canonicalizeValue first, rfl, ascending_canonicalizeValue first firstUnique⟩

/-- Two objects whose members, and those of an inner object, come in different order. -/
theorem canonicalJson_eq_iff_nested :
    canonicalJson (Value.object [("b", .number 2),
        ("a", .array [.object [("d", .null), ("c", .bool true)]])]) =
      canonicalJson (Value.object
        [("a", .array [.object [("c", .bool true), ("d", .null)]]), ("b", .number 2)]) ∧
      ∃ output, canonicalJson (Value.object [("b", .number 2),
        ("a", .array [.object [("d", .null), ("c", .bool true)]])]) = .ok (toVec output) ∧
        Ascending output := by
  have form := canonicalJson_eq_iff
    (.object [("b", .number 2), ("a", .array [.object [("d", .null), ("c", .bool true)]])])
    (.object [("a", .array [.object [("c", .bool true), ("d", .null)]]), ("b", .number 2)])
    (by simp [UniqueKeys, EveryObject, EveryMember, EveryItem, keys])
    (by simp [UniqueKeys, EveryObject, EveryMember, EveryItem, keys])
  have inner : Reordered (.object [("d", .null), ("c", .bool true)])
      (.object [("c", .bool true), ("d", .null)]) :=
    .object (.cons "d" .null (.cons "c" (.bool true) .nil)) (.swap ..)
  have items := Reordered.array (.cons inner .nil)
  exact ⟨form.1.mpr (.object (.cons "b" (.number 2) (.cons "a" items .nil)) (.swap ..)), form.2⟩

end Mjae.Core
