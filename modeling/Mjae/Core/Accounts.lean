import Mathlib.Logic.Function.Basic
import Mjae.Core.Registry

/-!
# The registry as a book of accounts

An account is the exact sum of what was added to a process since it was last removed.
Every operation of the registry answers what the book says, cut off at the largest word,
and what is removed comes from what was added.
-/

namespace Mjae.Core

open Mjae.Arith Mjae.Collections

inductive RegistryCall
  | addMicroJoules (pid : UInt32) (deltaUj : UInt64)
  | get (pid : UInt32)
  | remove (pid : UInt32)
  | len
  | isEmpty
  | totalMicroJoules
  | snapshot

inductive RegistryAnswer
  | total (totalUj : UInt64)
  | account (accountUj : Option UInt64)
  | count (length : Nat)
  | flag (empty : Bool)
  | entries (entries : List (UInt32 × UInt64))

namespace AmalgafyRegistry

def perform (registry : AmalgafyRegistry) : RegistryCall → RegistryAnswer × AmalgafyRegistry
  | .addMicroJoules pid deltaUj =>
      (.total (registry.addMicroJoules pid deltaUj).1, (registry.addMicroJoules pid deltaUj).2)
  | .get pid => (.account (registry.get pid), registry)
  | .remove pid => (.account (registry.remove pid).1, (registry.remove pid).2)
  | .len => (.count registry.len, registry)
  | .isEmpty => (.flag registry.isEmpty, registry)
  | .totalMicroJoules => (.total registry.totalMicroJoules, registry)
  | .snapshot => (.entries registry.snapshot, registry)

/-- The answers to a run of calls, and the registry after it. -/
def performAll (registry : AmalgafyRegistry) :
    List RegistryCall → List RegistryAnswer × AmalgafyRegistry
  | [] => ([], registry)
  | call :: rest =>
      ((registry.perform call).1 :: ((registry.perform call).2.performAll rest).1,
        ((registry.perform call).2.performAll rest).2)

end AmalgafyRegistry

/-! ## The book -/

/-- The exact amount of every process, `none` for one without an account. -/
abbrev Accounts : Type :=
  UInt32 → Option Nat

namespace Accounts

def empty : Accounts :=
  fun _ => none

def after (accounts : Accounts) : RegistryCall → Accounts
  | .addMicroJoules pid deltaUj =>
      Function.update accounts pid (some ((accounts pid).getD 0 + deltaUj.toNat))
  | .remove pid => Function.update accounts pid none
  | _ => accounts

/-- What a reader sees of an account. -/
def shown (accounts : Accounts) (pid : UInt32) : Option UInt64 :=
  (accounts pid).map U64.clamp

/-- The entries are the accounts, in ascending order of their processes. -/
structure Lists (accounts : Accounts) (entries : List (UInt32 × UInt64)) : Prop where
  ascending : entries.Pairwise (·.1 < ·.1)
  mem_iff : ∀ pid value, (pid, value) ∈ entries ↔ accounts.shown pid = some value

/-- What the book says a call answers. -/
def Answers (accounts : Accounts) : RegistryCall → RegistryAnswer → Prop
  | .addMicroJoules pid deltaUj, .total totalUj =>
      totalUj = U64.clamp ((accounts pid).getD 0 + deltaUj.toNat)
  | .get pid, .account accountUj => accountUj = accounts.shown pid
  | .remove pid, .account accountUj => accountUj = accounts.shown pid
  | .len, .count length => ∃ entries, accounts.Lists entries ∧ length = entries.length
  | .isEmpty, .flag empty => empty = true ↔ ∀ pid, accounts pid = none
  | .totalMicroJoules, .total totalUj => ∃ entries, accounts.Lists entries ∧
      totalUj = U64.clamp (entries.map fun entry => (accounts entry.1).getD 0).sum
  | .snapshot, .entries entries => accounts.Lists entries
  | _, _ => False

/-- What the book says a run of calls answers. -/
def AnswersAll (accounts : Accounts) : List RegistryCall → List RegistryAnswer → Prop
  | [], [] => True
  | call :: rest, answer :: later =>
      accounts.Answers call answer ∧ (accounts.after call).AnswersAll rest later
  | _, _ => False

end Accounts

open Accounts

/-- The registry shows the book. -/
def AmalgafyRegistry.Shows (registry : AmalgafyRegistry) (accounts : Accounts) : Prop :=
  ∀ pid, registry.get pid = accounts.shown pid

namespace AmalgafyRegistry.Shows

variable {registry : AmalgafyRegistry} {accounts : Accounts}

theorem toNat_slot (shows : registry.Shows accounts) (pid : UInt32) :
    (registry.slot pid).toNat = min ((accounts pid).getD 0) U64.maxNat := by
  rw [slot, shows, shown]
  cases accounts pid with
  | none => rfl
  | some amount => exact U64.toNat_clamp amount

theorem lists (shows : registry.Shows accounts) : accounts.Lists registry.snapshot where
  ascending := registry.pairwise_snapshot
  mem_iff pid value := by rw [mem_snapshot_iff, shows]

/-- A registry without accounts is a new one. -/
theorem eq_new_iff (shows : registry.Shows accounts) :
    registry = new ↔ ∀ pid, accounts pid = none := by
  constructor
  · rintro rfl pid
    have shown_eq := shows pid
    rwa [get_new, shown, eq_comm, Option.map_eq_none_iff] at shown_eq
  · intro nobody
    apply ext_get
    intro pid
    rw [shows, shown, nobody, get_new]
    rfl

theorem isEmpty_iff (shows : registry.Shows accounts) :
    registry.isEmpty = true ↔ ∀ pid, accounts pid = none := by
  rw [← shows.eq_new_iff, AmalgafyRegistry.isEmpty, Std.ExtTreeMap.isEmpty_iff]
  obtain ⟨table⟩ := registry
  simp [new]

/-- Cutting the accounts off is invisible in the total. -/
theorem totalMicroJoules_eq (shows : registry.Shows accounts) :
    registry.totalMicroJoules =
      U64.clamp (registry.snapshot.map fun entry => (accounts entry.1).getD 0).sum := by
  have entries_eq : (registry.snapshot.map Prod.snd).map UInt64.toNat =
      (registry.snapshot.map fun entry => (accounts entry.1).getD 0).map (min · U64.maxNat) := by
    rw [List.map_map, List.map_map]
    apply List.map_congr_left
    rintro ⟨pid, value⟩ listed
    have slot_eq := shows.toNat_slot pid
    rw [slot, mem_snapshot_iff.mp listed] at slot_eq
    exact slot_eq
  apply UInt64.toNat.inj
  rw [totalMicroJoules, U64.toNat_saturatingSum, U64.toNat_clamp]
  rw [← min_sum_map_min U64.maxNat (registry.snapshot.map fun entry => (accounts entry.1).getD 0),
    ← entries_eq]
  rfl

theorem addMicroJoules (shows : registry.Shows accounts) (pid : UInt32) (deltaUj : UInt64) :
    (registry.addMicroJoules pid deltaUj).1 =
        U64.clamp ((accounts pid).getD 0 + deltaUj.toNat) ∧
      (registry.addMicroJoules pid deltaUj).2.Shows
        (accounts.after (.addMicroJoules pid deltaUj)) := by
  have added : U64.saturatingAdd (registry.slot pid) deltaUj =
      U64.clamp ((accounts pid).getD 0 + deltaUj.toNat) := by
    apply UInt64.toNat.inj
    rw [U64.toNat_saturatingAdd, U64.toNat_clamp, shows.toNat_slot, min_min_add]
  constructor
  · rw [addMicroJoules_eq, added]
  · intro other
    rw [get_addMicroJoules, added, shown, after]
    by_cases own : pid = other
    · subst own
      rw [if_pos rfl, Function.update_self]
      rfl
    · rw [if_neg own, Function.update_of_ne (Ne.symm own), shows]
      rfl

theorem remove (shows : registry.Shows accounts) (pid : UInt32) :
    (registry.remove pid).2.Shows (accounts.after (.remove pid)) := by
  intro other
  rw [AmalgafyRegistry.remove, get, Std.ExtTreeMap.getElem?_erase, shown, after]
  by_cases own : pid = other
  · subst own
    simp
  · rw [Function.update_of_ne (Ne.symm own), if_neg (by simpa using own)]
    exact shows other

/-- Every call answers what the book says and leaves what it says. -/
theorem perform (shows : registry.Shows accounts) (call : RegistryCall) :
    accounts.Answers call (registry.perform call).1 ∧
      (registry.perform call).2.Shows (accounts.after call) := by
  cases call with
  | addMicroJoules pid deltaUj => exact shows.addMicroJoules pid deltaUj
  | get pid => exact ⟨shows pid, shows⟩
  | remove pid => exact ⟨shows pid, shows.remove pid⟩
  | len => exact ⟨⟨registry.snapshot, shows.lists, (Std.ExtTreeMap.length_toList).symm⟩, shows⟩
  | isEmpty => exact ⟨shows.isEmpty_iff, shows⟩
  | totalMicroJoules =>
      exact ⟨⟨registry.snapshot, shows.lists, shows.totalMicroJoules_eq⟩, shows⟩
  | snapshot => exact ⟨shows.lists, shows⟩

theorem performAll (shows : registry.Shows accounts) (calls : List RegistryCall) :
    accounts.AnswersAll calls (registry.performAll calls).1 := by
  induction calls generalizing registry accounts with
  | nil => trivial
  | cons call rest ih =>
      have performed := shows.perform call
      exact ⟨performed.1, ih performed.2⟩

end AmalgafyRegistry.Shows

/-! ## What is removed -/

/-- What a call adds. -/
def RegistryCall.addedUj : RegistryCall → Nat
  | .addMicroJoules _ deltaUj => deltaUj.toNat
  | _ => 0

/-- What a call takes out, going by its answer. -/
def removedUj : RegistryCall × RegistryAnswer → Nat
  | (.remove _, .account accountUj) => (accountUj.getD 0).toNat
  | _ => 0

namespace AmalgafyRegistry

/-- What a removal takes out is what was there. -/
theorem exactTotal_remove (registry : AmalgafyRegistry) (pid : UInt32) :
    ((registry.remove pid).1.getD 0).toNat + (registry.remove pid).2.exactTotal =
      registry.exactTotal := by
  rw [registry.exactTotal_eq_slot_add pid, AmalgafyRegistry.remove, exactTotal, slot, get]

/-- An addition adds no more than its delta, and all of it if there is room. -/
theorem exactTotal_addMicroJoules (registry : AmalgafyRegistry) (pid : UInt32)
    (deltaUj : UInt64) :
    (registry.addMicroJoules pid deltaUj).2.exactTotal ≤ registry.exactTotal + deltaUj.toNat ∧
      (registry.exactTotal + deltaUj.toNat ≤ U64.maxNat →
        (registry.addMicroJoules pid deltaUj).2.exactTotal =
          registry.exactTotal + deltaUj.toNat) := by
  have written : (registry.addMicroJoules pid deltaUj).2.exactTotal =
      min ((registry.slot pid).toNat + deltaUj.toNat) U64.maxNat +
        sumValues UInt64.toNat (registry.table.erase pid) := by
    rw [← U64.toNat_saturatingAdd, addMicroJoules_eq]
    exact sumValues_insert UInt64.toNat registry.table pid _
  have before := registry.exactTotal_eq_slot_add pid
  omega

theorem exactTotal_perform (registry : AmalgafyRegistry) (call : RegistryCall) :
    removedUj (call, (registry.perform call).1) + (registry.perform call).2.exactTotal ≤
        registry.exactTotal + call.addedUj ∧
      (registry.exactTotal + call.addedUj ≤ U64.maxNat →
        removedUj (call, (registry.perform call).1) + (registry.perform call).2.exactTotal =
          registry.exactTotal + call.addedUj) := by
  cases call with
  | addMicroJoules pid deltaUj =>
      simpa [perform, removedUj, RegistryCall.addedUj] using
        registry.exactTotal_addMicroJoules pid deltaUj
  | remove pid => simp [perform, removedUj, RegistryCall.addedUj, exactTotal_remove]
  | get pid => simp [perform, removedUj, RegistryCall.addedUj]
  | len => simp [perform, removedUj, RegistryCall.addedUj]
  | isEmpty => simp [perform, removedUj, RegistryCall.addedUj]
  | totalMicroJoules => simp [perform, removedUj, RegistryCall.addedUj]
  | snapshot => simp [perform, removedUj, RegistryCall.addedUj]

theorem exactTotal_performAll (registry : AmalgafyRegistry) (calls : List RegistryCall) :
    ((calls.zip (registry.performAll calls).1).map removedUj).sum +
          (registry.performAll calls).2.exactTotal ≤
        registry.exactTotal + (calls.map RegistryCall.addedUj).sum ∧
      (registry.exactTotal + (calls.map RegistryCall.addedUj).sum ≤ U64.maxNat →
        ((calls.zip (registry.performAll calls).1).map removedUj).sum +
            (registry.performAll calls).2.exactTotal =
          registry.exactTotal + (calls.map RegistryCall.addedUj).sum) := by
  induction calls generalizing registry with
  | nil => simp [performAll]
  | cons call rest ih =>
      have first := registry.exactTotal_perform call
      have later := ih (registry.perform call).2
      simp only [performAll, List.zip_cons_cons, List.map_cons, List.sum_cons]
      omega

end AmalgafyRegistry

/-- Over every run of calls on a new registry, every answer is what the exact accounts say,
cut off at the largest word.  What the removals have returned and what is left never
exceed what was added, and make it up as long as that fits a word. -/
theorem performAll_accounts (calls : List RegistryCall) :
    Accounts.empty.AnswersAll calls (AmalgafyRegistry.new.performAll calls).1 ∧
      ((calls.zip (AmalgafyRegistry.new.performAll calls).1).map removedUj).sum +
          (AmalgafyRegistry.new.performAll calls).2.exactTotal ≤
        (calls.map RegistryCall.addedUj).sum ∧
      ((calls.map RegistryCall.addedUj).sum ≤ U64.maxNat →
        ((calls.zip (AmalgafyRegistry.new.performAll calls).1).map removedUj).sum +
            (AmalgafyRegistry.new.performAll calls).2.totalMicroJoules.toNat =
          (calls.map RegistryCall.addedUj).sum) := by
  have shows : AmalgafyRegistry.new.Shows Accounts.empty := fun pid => by
    simp [Accounts.shown, Accounts.empty]
  have nothing : AmalgafyRegistry.new.exactTotal = 0 := sumValues_empty UInt64.toNat
  have balance := AmalgafyRegistry.new.exactTotal_performAll calls
  rw [nothing, Nat.zero_add] at balance
  constructor
  · exact shows.performAll calls
  · constructor
    · exact balance.1
    · intro fits
      have exact_eq := balance.2 fits
      rw [AmalgafyRegistry.toNat_totalMicroJoules, min_eq_left (by omega)]
      exact exact_eq

/-- Two processes, one of which exits in between. -/
theorem performAll_accounts_exit :
    (([.addMicroJoules 7 5, .addMicroJoules 8 2, .remove 7, .addMicroJoules 7 1] :
        List RegistryCall).zip (AmalgafyRegistry.new.performAll
          [.addMicroJoules 7 5, .addMicroJoules 8 2, .remove 7, .addMicroJoules 7 1]).1
          |>.map removedUj).sum +
        (AmalgafyRegistry.new.performAll
          [.addMicroJoules 7 5, .addMicroJoules 8 2, .remove 7,
            .addMicroJoules 7 1]).2.totalMicroJoules.toNat = 8 :=
  (performAll_accounts _).2.2 (by decide)

end Mjae.Core
