import Mathlib.Algebra.Order.BigOperators.Group.List
import Mjae.Core.EqualSplit

/-!
# A standing list of active processes

The remainder of every split goes to the first processes of the list.  Over a run in
which the list stands, nobody is ever ahead of a process listed before, and the lead of
an earlier process is one unit for every split whose remainder ends between the two.
-/

namespace Mjae.Core

open Mjae.Arith Mjae.Collections Mjae.Transition

/-! ## What a run pays -/

/-- The payments of one billed tick. -/
def splitPayments (pids : Vec UInt32) (deltaUj : UInt64) : List (UInt32 × UInt64) :=
  if pids.isEmpty then [(0, deltaUj)]
  else sharePayments (deltaUj / pids.len) (deltaUj % pids.len) pids.toList

section Loop

variable {σ ε : Type} [EnergyProvider σ ε]

/-- The list of active processes never changes while the loop runs. -/
def Stands (σ : Type) {ε : Type} [EnergyProvider σ ε] : Prop :=
  ∀ (answers : ε) (provider : σ),
    EnergyProvider.activePids (EnergyProvider.samplePowerState answers provider).2 =
      EnergyProvider.activePids provider

/-- A tick pays the split of what it bills. -/
theorem tick_eq_addAll (state : SamplingLoop σ) (answers : ε) :
    ∃ next, tick state answers = some next ∧
      next.provider = (EnergyProvider.samplePowerState answers state.provider).2 ∧
      next.previousSnapshot =
        (EnergyProvider.samplePowerState answers state.provider).1.toOption ∧
      next.registry = state.registry.addAll
        ((billedDelta state.previousSnapshot next.previousSnapshot).toList.flatMap
          (splitPayments (EnergyProvider.activePids next.provider))) := by
  rw [tick]
  obtain ⟨outcome, provider⟩ := EnergyProvider.samplePowerState answers state.provider
  cases outcome with
  | error message =>
      refine ⟨_, rfl, rfl, rfl, ?_⟩
      cases state.previousSnapshot <;> rfl
  | ok snapshot =>
      cases state.previousSnapshot with
      | none => exact ⟨_, rfl, rfl, rfl, rfl⟩
      | some previous =>
          simp only [splitDelta_eq_addAll, Option.bind_eq_bind, Option.bind_some]
          refine ⟨_, rfl, rfl, rfl, ?_⟩
          simp only [billedDelta, Option.toList_some, List.flatMap_singleton]
          rfl

/-- A run over a standing list pays the splits of what it bills. -/
theorem run_tick_eq_addAll (stands : Stands σ) (state : SamplingLoop σ) (answers : List ε) :
    ∃ final, run tick state answers = some final ∧
      final.registry = state.registry.addAll
        ((consecutiveDeltas
          (state.previousSnapshot :: sampleOutcomes state.provider answers)).flatMap
            (splitPayments (EnergyProvider.activePids state.provider))) := by
  induction answers generalizing state with
  | nil => exact ⟨state, rfl, rfl⟩
  | cons input rest ih =>
      rcases tick_eq_addAll state input with ⟨next, stepped, provider_eq, previous_eq, registry_eq⟩
      rcases ih next with ⟨final, onward, final_eq⟩
      refine ⟨final, run_cons_eq_some_iff.mpr ⟨next, stepped, onward⟩, ?_⟩
      have outcomes_eq : sampleOutcomes state.provider (input :: rest) =
          next.previousSnapshot :: sampleOutcomes next.provider rest := by
        rw [sampleOutcomes, previous_eq, provider_eq]
      have listed_eq : EnergyProvider.activePids next.provider =
          EnergyProvider.activePids state.provider := by
        rw [provider_eq, stands]
      rw [final_eq, registry_eq, outcomes_eq, consecutiveDeltas_cons_cons, List.flatMap_append,
        AmalgafyRegistry.addAll_append, listed_eq]

end Loop

/-! ## What a process gets -/

/-- The part of `deltaUj` at a position of a list without repetitions. -/
def positionUj (count position deltaUj : Nat) : Nat :=
  deltaUj / count + if position < deltaUj % count then 1 else 0

theorem listedUj_eq_positionUj {pids : List UInt32} {pid : UInt32} (nodup : pids.Nodup)
    (listed : pid ∈ pids) (deltaUj : Nat) :
    listedUj deltaUj pids pid = positionUj pids.length (pids.idxOf pid) deltaUj := by
  have once := (nodup.sublist (List.take_sublist (deltaUj % pids.length) pids)).count (a := pid)
  rw [listedUj, List.count_eq_one_of_mem nodup listed, Nat.mul_one, once, positionUj]
  simp only [List.mem_take_iff_idxOf_lt listed]

theorem map_fst_splitPayments {pids : Vec UInt32} (active : pids.toList ≠ [])
    (deltaUj : UInt64) : (splitPayments pids deltaUj).map Prod.fst = pids.toList := by
  have some_active : ¬ pids.isEmpty := by
    rwa [Vec.isEmpty, List.isEmpty_iff]
  rw [splitPayments, if_neg some_active, map_fst_sharePayments]

theorem paidTo_splitPayments {pids : Vec UInt32} (active : pids.toList ≠ []) (pid : UInt32)
    (deltaUj : UInt64) :
    paidTo pid (splitPayments pids deltaUj) = listedUj deltaUj.toNat pids.toList pid := by
  have some_active : ¬ pids.isEmpty := by
    rwa [Vec.isEmpty, List.isEmpty_iff]
  rw [splitPayments, if_neg some_active, paidTo_sharePayments (sharesFit_div_mod _ _),
    UInt64.toNat_div, UInt64.toNat_mod, Vec.toNat_len, listedUj]

theorem paidTo_flatMap_splitPayments {pids : Vec UInt32} (active : pids.toList ≠ [])
    (pid : UInt32) (deltas : List UInt64) :
    paidTo pid (deltas.flatMap (splitPayments pids)) =
      (deltas.map fun deltaUj => listedUj deltaUj.toNat pids.toList pid).sum := by
  rw [List.flatMap_def, paidTo_flatten, List.map_map]
  apply congrArg List.sum
  apply List.map_congr_left
  exact fun deltaUj _ => paidTo_splitPayments active pid deltaUj

/-- An earlier position gets as much as a later one, and a unit more for every remainder
that ends between the two. -/
theorem sum_positionUj {earlier later : Nat} (before : earlier < later) (count : Nat)
    (deltas : List Nat) :
    (deltas.map (positionUj count earlier)).sum =
      (deltas.map (positionUj count later)).sum +
        deltas.countP fun deltaUj =>
          decide (earlier < deltaUj % count ∧ deltaUj % count ≤ later) := by
  induction deltas with
  | nil => rfl
  | cons deltaUj rest ih =>
      rw [List.map_cons, List.map_cons, List.sum_cons, List.sum_cons, List.countP_cons, ih,
        positionUj, positionUj]
      simp only [decide_eq_true_eq]
      split <;> split <;> split <;> omega

/-- What the run bills, in microjoules. -/
def billedAmounts {σ ε : Type} [EnergyProvider σ ε] (provider : σ) (answers : List ε) : List Nat :=
  (consecutiveDeltas (sampleOutcomes provider answers)).map UInt64.toNat

/-- Over a run with a standing list without repetitions, a process that is not listed gets
no slot, and the slot of a listed one is the sum of its parts of what was billed. -/
theorem startSamplingLoop_of_stands {σ ε : Type} [EnergyProvider σ ε] (stands : Stands σ)
    (provider : σ) (answers : List ε)
    (active : (EnergyProvider.activePids provider).toList ≠ [])
    (nodup : (EnergyProvider.activePids provider).toList.Nodup) :
    ∃ final, startSamplingLoop provider AmalgafyRegistry.new answers = some final ∧
      (∀ pid, pid ∉ (EnergyProvider.activePids provider).toList →
        final.registry.get pid = none) ∧
      ∀ pid ∈ (EnergyProvider.activePids provider).toList,
        (final.registry.slot pid).toNat =
          min ((billedAmounts provider answers).map
            (positionUj (EnergyProvider.activePids provider).toList.length
              ((EnergyProvider.activePids provider).toList.idxOf pid))).sum U64.maxNat := by
  rcases run_tick_eq_addAll stands (SamplingLoop.start provider AmalgafyRegistry.new) answers with
    ⟨final, reached, registry_eq⟩
  simp only [SamplingLoop.start, consecutiveDeltas_none_cons] at registry_eq
  refine ⟨final, reached, ?_, ?_⟩
  · intro pid unlisted
    rw [registry_eq, AmalgafyRegistry.get_addAll, if_neg, AmalgafyRegistry.get_new]
    intro paid
    rcases List.mem_map.mp paid with ⟨payment, member, rfl⟩
    rcases List.mem_flatMap.mp member with ⟨deltaUj, -, member⟩
    apply unlisted
    rw [← map_fst_splitPayments active deltaUj]
    exact List.mem_map_of_mem member
  · intro pid listed
    rw [registry_eq, AmalgafyRegistry.toNat_slot_addAll, paidTo_flatMap_splitPayments active,
      AmalgafyRegistry.slot, AmalgafyRegistry.get_new, Option.getD_none, UInt64.toNat_zero,
      Nat.zero_add, billedAmounts, List.map_map]
    congr 3
    funext deltaUj
    exact listedUj_eq_positionUj nodup listed _

end Mjae.Core
