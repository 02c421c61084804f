import Mjae.Core.Provider
import Mjae.Core.Shares

/-!
# Posting attributions

Attributions posted to an empty registry one after another leave, for every
process, the saturating sum of what was posted for it, and nothing for a process
that never appeared.
-/

namespace Mjae.Core

open Mjae.Arith

/-- The account of `pid` after the listed attributions: none if it never appears. -/
def accountOf (pid : UInt32) (posted : List PidEnergyAttribution) : Option UInt64 :=
  if ∀ attribution ∈ posted, attribution.pid ≠ pid then none
  else some (U64.saturatingSum
    ((posted.filter fun attribution => attribution.pid = pid).map
      PidEnergyAttribution.attributedEnergyUj))

/-- The payment that an attribution stands for. -/
def PidEnergyAttribution.payment (attribution : PidEnergyAttribution) : UInt32 × UInt64 :=
  (attribution.pid, attribution.attributedEnergyUj)

namespace AmalgafyRegistry

/-- Post one attribution. -/
def post (registry : AmalgafyRegistry) (attribution : PidEnergyAttribution) :
    AmalgafyRegistry :=
  (registry.addMicroJoules attribution.pid attribution.attributedEnergyUj).2

/-- The registry holds exactly the accounts of what was posted. -/
def Holds (registry : AmalgafyRegistry) (posted : List PidEnergyAttribution) : Prop :=
  ∀ pid, registry.get pid = accountOf pid posted

theorem holds_new : new.Holds [] := by
  intro pid
  rw [get_new, accountOf, if_pos]
  exact fun _ member => absurd member List.not_mem_nil

end AmalgafyRegistry

open AmalgafyRegistry

theorem accountOf_append_of_ne {pid : UInt32} {attribution : PidEnergyAttribution}
    (differ : attribution.pid ≠ pid) (posted : List PidEnergyAttribution) :
    accountOf pid (posted ++ [attribution]) = accountOf pid posted := by
  simp [accountOf, differ, List.filter_append, or_imp, forall_and]

/-- The empty account counts as zero for the next posting. -/
theorem accountOf_append_self (posted : List PidEnergyAttribution)
    (attribution : PidEnergyAttribution) :
    accountOf attribution.pid (posted ++ [attribution]) =
      some (U64.saturatingAdd ((accountOf attribution.pid posted).getD 0)
        attribution.attributedEnergyUj) := by
  have appears : ¬ ∀ other ∈ posted ++ [attribution], other.pid ≠ attribution.pid := by
    intro never
    exact never attribution (List.mem_append_right posted List.mem_cons_self) rfl
  have own : (posted ++ [attribution]).filter (fun other => other.pid = attribution.pid) =
      posted.filter (fun other => other.pid = attribution.pid) ++ [attribution] := by
    simp [List.filter_append]
  rw [accountOf, if_neg appears, own, List.map_append, U64.saturatingSum, List.foldl_append]
  by_cases fresh : ∀ other ∈ posted, other.pid ≠ attribution.pid
  · have noneOwn : posted.filter (fun other => other.pid = attribution.pid) = [] := by
      rw [List.filter_eq_nil_iff]
      intro other member
      simpa using fresh other member
    rw [accountOf, if_pos fresh, noneOwn]
    rfl
  · rw [accountOf, if_neg fresh]
    rfl

namespace AmalgafyRegistry

theorem Holds.post {registry : AmalgafyRegistry} {posted : List PidEnergyAttribution}
    (holds : registry.Holds posted) (attribution : PidEnergyAttribution) :
    (registry.post attribution).Holds (posted ++ [attribution]) := by
  intro pid
  rw [AmalgafyRegistry.post, get_addMicroJoules]
  by_cases same : attribution.pid = pid
  · subst same
    rw [if_pos rfl, accountOf_append_self, slot, holds]
  · rw [if_neg same, accountOf_append_of_ne same, holds]

theorem Holds.postAll {registry : AmalgafyRegistry} {posted : List PidEnergyAttribution}
    (holds : registry.Holds posted) (batch : List PidEnergyAttribution) :
    (batch.foldl AmalgafyRegistry.post registry).Holds (posted ++ batch) := by
  induction batch generalizing registry posted with
  | nil => rwa [List.append_nil]
  | cons attribution rest ih =>
      rw [List.append_cons]
      exact ih (holds.post attribution)

/-- Posting attributions is adding their payments. -/
theorem foldl_post_eq_addAll (registry : AmalgafyRegistry) (batch : List PidEnergyAttribution) :
    batch.foldl AmalgafyRegistry.post registry =
      registry.addAll (batch.map PidEnergyAttribution.payment) := by
  rw [addAll, List.foldl_map]
  rfl

/-- Adding payments is posting one entry for each of them. -/
theorem addAll_eq_foldl_post {entry : UInt32 × UInt64 → PidEnergyAttribution}
    (pays : ∀ payment, (entry payment).payment = payment) (registry : AmalgafyRegistry)
    (payments : List (UInt32 × UInt64)) :
    registry.addAll payments = (payments.map entry).foldl AmalgafyRegistry.post registry := by
  have paid : PidEnergyAttribution.payment ∘ entry = id := funext pays
  rw [foldl_post_eq_addAll, List.map_map, paid, List.map_id]

/-- The accounts determine the registry. -/
theorem Holds.eq_addAll {registry : AmalgafyRegistry} {posted : List PidEnergyAttribution}
    (holds : registry.Holds posted) :
    registry = new.addAll (posted.map PidEnergyAttribution.payment) := by
  apply ext_get
  intro pid
  rw [holds, ← foldl_post_eq_addAll]
  exact (holds_new.postAll posted pid).symm

theorem totalMicroJoules_postAll (registry : AmalgafyRegistry)
    (batch : List PidEnergyAttribution) :
    (batch.foldl AmalgafyRegistry.post registry).totalMicroJoules.toNat =
      min (registry.totalMicroJoules.toNat +
        (batch.map fun attribution => attribution.attributedEnergyUj.toNat).sum) U64.maxNat := by
  rw [foldl_post_eq_addAll, toNat_totalMicroJoules_addAll, paidTotal, List.map_map]
  rfl

end AmalgafyRegistry

end Mjae.Core
