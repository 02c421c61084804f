import Mjae.Core.Standing
import Mjae.Core.Tiling

/-!
# The ticks that bill

A tick after a successful one bills the window between the two snapshots to the
processes that are active at the later one.  Whatever the provider and however its
processes change, the loop pays every process its part of these windows, and rounding
loses less than a microjoule for every window but one.
-/

namespace Mjae.Core

open Mjae.Arith Mjae.Collections Mjae.Transition

/-- A window that the loop bills, and the processes it is billed to. -/
structure BilledTick where
  window : Window
  pids : Vec UInt32

namespace BilledTick

def payments (tick : BilledTick) : List (UInt32 × UInt64) :=
  splitPayments tick.pids tick.window.energyUj

/-- What a process gets: its entries of the list, or everything for process 0 of an empty
list. -/
def partUj (pid : UInt32) (tick : BilledTick) : Nat :=
  if tick.pids.toList = [] then
    if pid = 0 then tick.window.energyUj.toNat else 0
  else listedUj tick.window.energyUj.toNat tick.pids.toList pid

/-- The process is listed, or nobody is and it is process 0. -/
def Pays (pid : UInt32) (tick : BilledTick) : Prop :=
  pid ∈ tick.pids.toList ∨ tick.pids.toList = [] ∧ pid = 0

theorem payments_of_nil {tick : BilledTick} (inactive : tick.pids.toList = []) :
    tick.payments = [(0, tick.window.energyUj)] := by
  rw [payments, splitPayments, Vec.isEmpty, inactive]
  rfl

theorem mem_map_fst_payments {pid : UInt32} {tick : BilledTick} :
    pid ∈ tick.payments.map Prod.fst ↔ tick.Pays pid := by
  rw [Pays]
  by_cases inactive : tick.pids.toList = []
  · rw [payments_of_nil inactive]
    simp [inactive]
  · rw [payments, map_fst_splitPayments inactive]
    simp [inactive]

theorem paidTo_payments (pid : UInt32) (tick : BilledTick) :
    paidTo pid tick.payments = tick.partUj pid := by
  rw [partUj]
  split
  · rename_i inactive
    rw [payments_of_nil inactive]
    simp [paidTo, eq_comm]
  · rename_i active
    exact paidTo_splitPayments active pid _

/-- A tick pays out its window. -/
theorem paidTotal_payments (tick : BilledTick) :
    paidTotal tick.payments = tick.window.energyUj.toNat := by
  by_cases inactive : tick.pids.toList = []
  · rw [payments_of_nil inactive]
    simp [paidTotal]
  · have some_active : ¬ tick.pids.isEmpty := by
      rwa [Vec.isEmpty, List.isEmpty_iff]
    rw [payments, splitPayments, if_neg some_active]
    exact paidTotal_div_mod _ (Vec.toNat_len _) inactive

end BilledTick

/-- The registry holds what the ticks bill, and nothing else. -/
structure Bills (ticks : List BilledTick) (registry : AmalgafyRegistry) : Prop where
  isSome_get_iff : ∀ pid, (registry.get pid).isSome ↔ ∃ tick ∈ ticks, tick.Pays pid
  toNat_slot : ∀ pid, (registry.slot pid).toNat =
    min (ticks.map (BilledTick.partUj pid)).sum U64.maxNat
  /-- The total never exceeds the exact energy of the windows. -/
  total_le : registry.totalMicroJoules.toNat ≤
    (ticks.map fun tick => tick.window.work).sum / 1000000000
  /-- Rounding loses less than a microjoule for every window but one. -/
  le_total : (∀ tick ∈ ticks, tick.window.Moderate) →
    min ((ticks.map fun tick => tick.window.work).sum / 1000000000) U64.maxNat ≤
      registry.totalMicroJoules.toNat + (ticks.length - 1)

theorem bills_addAll (ticks : List BilledTick) :
    Bills ticks (AmalgafyRegistry.new.addAll (ticks.flatMap BilledTick.payments)) := by
  have total_eq : (AmalgafyRegistry.new.addAll
      (ticks.flatMap BilledTick.payments)).totalMicroJoules.toNat =
      min ((ticks.map BilledTick.window).map fun window => window.energyUj.toNat).sum
        U64.maxNat := by
    rw [AmalgafyRegistry.toNat_totalMicroJoules_addAll, AmalgafyRegistry.totalMicroJoules_new,
      UInt64.toNat_zero, Nat.zero_add, List.flatMap_def, paidTotal_flatten, List.map_map,
      List.map_map]
    congr 3
    funext tick
    exact tick.paidTotal_payments
  have work_eq : (ticks.map fun tick => tick.window.work) =
      (ticks.map BilledTick.window).map Window.work := by
    rw [List.map_map]
    rfl
  constructor
  · intro pid
    rw [AmalgafyRegistry.isSome_get_addAll, AmalgafyRegistry.get_new, List.map_flatMap,
      List.mem_flatMap]
    simp [BilledTick.mem_map_fst_payments]
  · intro pid
    rw [AmalgafyRegistry.toNat_slot_addAll, AmalgafyRegistry.slot, AmalgafyRegistry.get_new,
      Option.getD_none, UInt64.toNat_zero, Nat.zero_add, List.flatMap_def, paidTo_flatten,
      List.map_map]
    congr 3
    funext tick
    exact tick.paidTo_payments pid
  · rw [total_eq, work_eq]
    exact (min_le_left _ _).trans (Window.sum_toNat_energyUj_le _)
  · intro moderate
    have moderate_windows : ∀ window ∈ ticks.map BilledTick.window, window.Moderate := by
      intro window listed
      rcases List.mem_map.mp listed with ⟨tick, member, rfl⟩
      exact moderate tick member
    have lost := Window.min_work_le_min_sum_add moderate_windows 0
    rwa [Nat.zero_add, Nat.zero_add, ← total_eq, ← work_eq, List.length_map] at lost

section Loop

variable {σ ε : Type} [EnergyProvider σ ε]

/-- The window between two outcomes, if both are snapshots. -/
def billedWindow : Option PowerSnapshot → Option PowerSnapshot → Option Window
  | some previous, some snapshot =>
      some ⟨previous.observedAtNs, snapshot.observedAtNs, snapshot⟩
  | _, _ => none

/-- The ticks of a run that bill, after an outcome. -/
def billedTicks (previous : Option PowerSnapshot) (provider : σ) : List ε → List BilledTick
  | [] => []
  | answers :: rest =>
      let sampled := EnergyProvider.samplePowerState answers provider
      let billed := (billedWindow previous sampled.1.toOption).map fun window =>
        ⟨window, EnergyProvider.activePids sampled.2⟩
      billed.toList ++ billedTicks sampled.1.toOption sampled.2 rest

theorem billedDelta_eq (previous outcome : Option PowerSnapshot) :
    billedDelta previous outcome = (billedWindow previous outcome).map Window.energyUj := by
  cases previous <;> cases outcome <;> rfl

/-- A run pays for the ticks that bill, and for nothing else. -/
theorem run_tick_eq_billedTicks (state : SamplingLoop σ) (answers : List ε) :
    ∃ final, run tick state answers = some final ∧
      final.registry = state.registry.addAll
        ((billedTicks state.previousSnapshot state.provider answers).flatMap
          BilledTick.payments) := by
  induction answers generalizing state with
  | nil => exact ⟨state, rfl, rfl⟩
  | cons input rest ih =>
      rcases tick_eq_addAll state input with ⟨next, stepped, provider_eq, previous_eq, registry_eq⟩
      rcases ih next with ⟨final, onward, final_eq⟩
      refine ⟨final, run_cons_eq_some_iff.mpr ⟨next, stepped, onward⟩, ?_⟩
      rw [final_eq, registry_eq, ← AmalgafyRegistry.addAll_append, billedTicks, provider_eq,
        previous_eq, List.flatMap_append, billedDelta_eq]
      congr 2
      cases billedWindow state.previousSnapshot
        (EnergyProvider.samplePowerState input state.provider).1.toOption <;> rfl

/-- Over every run of the loop on an empty registry, whatever the provider samples and
however its active processes change, the registry bills the ticks that bill. -/
theorem startSamplingLoop_billedTicks (provider : σ) (answers : List ε) :
    ∃ final, startSamplingLoop provider AmalgafyRegistry.new answers = some final ∧
      Bills (billedTicks none provider answers) final.registry := by
  rcases run_tick_eq_billedTicks (SamplingLoop.start provider AmalgafyRegistry.new) answers with
    ⟨final, reached, registry_eq⟩
  refine ⟨final, reached, ?_⟩
  rw [registry_eq]
  exact bills_addAll _

end Loop

end Mjae.Core
