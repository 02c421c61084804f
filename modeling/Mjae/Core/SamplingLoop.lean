import Mjae.Core.Provider
import Mjae.Core.Shares
import Mjae.Transition.Run

/-!
# The differential sampling loop

The loop keeps the previous snapshot and a running total.  Every tick that
follows a successful one turns the two snapshots into an energy difference and
splits it over the active processes.  Plain arithmetic is checked: a tick of
the model answers `none` if one of its plain operators left the word.
-/

namespace Mjae.Core

open Mjae.Arith Mjae.Collections Mjae.Transition

/-- Pay `share` to every listed process, and one unit more to as many of the
first ones as there are units left in `remainder`. -/
def payShares (share : UInt64) :
    UInt64 → List UInt32 → AmalgafyRegistry → Option AmalgafyRegistry
  | _, [], registry => some registry
  | remainder, pid :: rest, registry => do
      let extra : UInt64 := if 0 < remainder then 1 else 0
      let amount ← U64.checkedAdd share extra
      payShares share (remainder - extra) rest (registry.addMicroJoules pid amount).2

/-- Split `deltaUj` over the active processes, or bucket it under process 0. -/
def splitDelta (registry : AmalgafyRegistry) (pids : Vec UInt32) (deltaUj : UInt64) :
    Option AmalgafyRegistry :=
  if pids.isEmpty then
    some (registry.addMicroJoules 0 deltaUj).2
  else do
    let numPids := pids.len
    let share ← U64.checkedDiv deltaUj numPids
    let remainder ← U64.checkedSub deltaUj (U64.saturatingMul share numPids)
    payShares share remainder pids.toList registry

/-- Energy between two snapshots, at the burst power of the later one. -/
def snapshotDeltaUj (previous snapshot : PowerSnapshot) : UInt64 :=
  windowEnergyUj (baselineBurstPowerUw snapshot.activePowerUw snapshot.idlePowerUw)
    (U64.saturatingSub snapshot.observedAtNs previous.observedAtNs)

structure SamplingLoop (σ : Type) where
  provider : σ
  registry : AmalgafyRegistry
  previousSnapshot : Option PowerSnapshot
  cumulativeDeltaUj : UInt64

section Loop

variable {σ ε : Type} [EnergyProvider σ ε]

/-- One iteration of the loop body. -/
def tick (state : SamplingLoop σ) (answers : ε) : Option (SamplingLoop σ) :=
  match EnergyProvider.samplePowerState answers state.provider with
  | (.error _, provider) =>
      -- the next successful tick re-seeds instead of bridging the gap
      some { state with provider, previousSnapshot := none }
  | (.ok snapshot, provider) =>
      match state.previousSnapshot with
      | some previous => do
          let deltaUj := snapshotDeltaUj previous snapshot
          let registry ←
            splitDelta state.registry (EnergyProvider.activePids provider) deltaUj
          some {
            provider
            registry
            previousSnapshot := some snapshot
            cumulativeDeltaUj := U64.saturatingAdd state.cumulativeDeltaUj deltaUj }
      | none => some { state with provider, previousSnapshot := some snapshot }

/-- The loop before its first tick. -/
def SamplingLoop.start (provider : σ) (registry : AmalgafyRegistry) : SamplingLoop σ where
  provider
  registry
  previousSnapshot := none
  cumulativeDeltaUj := 0

/-- The loop after one tick for every entry of `answers`. -/
def startSamplingLoop (provider : σ) (registry : AmalgafyRegistry) (answers : List ε) :
    Option (SamplingLoop σ) :=
  run tick (SamplingLoop.start provider registry) answers

/-- What each tick sampled: `none` where the provider failed. -/
def sampleOutcomes (provider : σ) : List ε → List (Option PowerSnapshot)
  | [] => []
  | answers :: rest =>
      let sampled := EnergyProvider.samplePowerState answers provider
      sampled.1.toOption :: sampleOutcomes sampled.2 rest

end Loop

/-- Energy billed at a tick, given the outcomes of the tick before and of the
tick itself. -/
def billedDelta : Option PowerSnapshot → Option PowerSnapshot → Option UInt64
  | some previous, some snapshot => some (snapshotDeltaUj previous snapshot)
  | _, _ => none

/-- Energies of the pairs of consecutive ticks that both sampled. -/
def consecutiveDeltas (outcomes : List (Option PowerSnapshot)) : List UInt64 :=
  (outcomes.zip outcomes.tail).filterMap fun pair => billedDelta pair.1 pair.2

/-! ## Splitting keeps the total -/

/-- Paying shares leaves no word, and amounts to a list of payments. -/
theorem payShares_eq_addAll {share remainder : UInt64} (fits : SharesFit share remainder)
    (pids : List UInt32) (registry : AmalgafyRegistry) :
    payShares share remainder pids registry =
      some (registry.addAll (sharePayments share remainder pids)) := by
  induction pids generalizing remainder registry with
  | nil => rfl
  | cons pid rest ih =>
      rw [payShares]
      simp only [U64.checkedAdd_eq_some fits.share_add_extra_le, Option.bind_eq_bind,
        Option.bind_some]
      exact ih fits.next _

/-- The plain operators that compute the share and the remainder stay in the word. -/
theorem divideDelta_eq {count : UInt64} (nonzero : count.toNat ≠ 0) (deltaUj : UInt64)
    {α : Type} (onward : UInt64 → UInt64 → Option α) :
    ((U64.checkedDiv deltaUj count).bind fun share =>
      (U64.checkedSub deltaUj (U64.saturatingMul share count)).bind fun remainder =>
        onward share remainder) =
      onward (deltaUj / count) (deltaUj % count) := by
  have paid_le := U64.toNat_div_mul_le deltaUj count
  have product_eq : (U64.saturatingMul (deltaUj / count) count).toNat =
      (deltaUj / count).toNat * count.toNat := by
    rw [U64.toNat_saturatingMul, min_eq_left (paid_le.trans (U64.toNat_le_maxNat _))]
  rw [U64.checkedDiv_eq_some nonzero, Option.bind_some,
    U64.checkedSub_eq_some (product_eq.trans_le paid_le), Option.bind_some,
    U64.sub_eq_mod product_eq]

/-- A split never leaves the word.  Without active processes everything goes to
process 0, otherwise the shares of the whole list are paid. -/
theorem splitDelta_eq_addAll (registry : AmalgafyRegistry) (pids : Vec UInt32)
    (deltaUj : UInt64) :
    splitDelta registry pids deltaUj = some (registry.addAll
      (if pids.isEmpty then [(0, deltaUj)]
      else sharePayments (deltaUj / pids.len) (deltaUj % pids.len) pids.toList)) := by
  rw [splitDelta]
  by_cases noneActive : pids.isEmpty
  · rw [if_pos noneActive, if_pos noneActive]
    rfl
  · rw [if_neg noneActive, if_neg noneActive]
    simp only [Option.bind_eq_bind]
    rw [divideDelta_eq (Vec.toNat_len_ne_zero noneActive)]
    exact payShares_eq_addAll (sharesFit_div_mod deltaUj pids.len) _ _

/-- Splitting never leaves the word and adds exactly the difference it split. -/
theorem splitDelta_total (registry : AmalgafyRegistry) (pids : Vec UInt32) (deltaUj : UInt64) :
    ∃ paid, splitDelta registry pids deltaUj = some paid ∧
      paid.totalMicroJoules = U64.saturatingAdd registry.totalMicroJoules deltaUj := by
  refine ⟨_, splitDelta_eq_addAll registry pids deltaUj, ?_⟩
  apply UInt64.toNat.inj
  rw [AmalgafyRegistry.toNat_totalMicroJoules_addAll, U64.toNat_saturatingAdd]
  congr 2
  by_cases noneActive : pids.isEmpty
  · rw [if_pos noneActive]
    rfl
  · have listed : pids.toList ≠ [] := by
      intro noPids
      apply noneActive
      rw [Vec.isEmpty, noPids]
      rfl
    rw [if_neg noneActive, paidTotal_div_mod deltaUj (Vec.toNat_len pids) listed]

/-! ## The loop is accountable -/

@[simp]
theorem consecutiveDeltas_cons_cons (first second : Option PowerSnapshot)
    (rest : List (Option PowerSnapshot)) :
    consecutiveDeltas (first :: second :: rest) =
      (billedDelta first second).toList ++ consecutiveDeltas (second :: rest) := by
  rw [consecutiveDeltas, List.tail_cons, List.zip_cons_cons, List.filterMap_cons]
  cases billedDelta first second <;> rfl

/-- What a run bills, pair by pair. -/
theorem sum_consecutiveDeltas_cons_cons (first second : Option PowerSnapshot)
    (rest : List (Option PowerSnapshot)) :
    ((consecutiveDeltas (first :: second :: rest)).map UInt64.toNat).sum =
      (billedDelta first second).elim 0 UInt64.toNat +
        ((consecutiveDeltas (second :: rest)).map UInt64.toNat).sum := by
  rw [consecutiveDeltas_cons_cons, List.map_append, List.sum_append]
  cases billedDelta first second <;> rfl

/-- A run starts as if an unbilled failure had come before it. -/
theorem consecutiveDeltas_none_cons (outcomes : List (Option PowerSnapshot)) :
    consecutiveDeltas (none :: outcomes) = consecutiveDeltas outcomes := by
  cases outcomes with
  | nil => rfl
  | cons second rest => exact consecutiveDeltas_cons_cons none second rest

section Loop

variable {σ ε : Type} [EnergyProvider σ ε]

/-- What one tick does: it never fails, hands the outcome on, and adds the same
billed energy to the registry and to the running total. -/
theorem tick_spec (state : SamplingLoop σ) (answers : ε) :
    ∃ next, tick state answers = some next ∧
      next.provider = (EnergyProvider.samplePowerState answers state.provider).2 ∧
      next.previousSnapshot =
        (EnergyProvider.samplePowerState answers state.provider).1.toOption ∧
      next.registry.totalMicroJoules =
        (billedDelta state.previousSnapshot next.previousSnapshot).toList.foldl
          U64.saturatingAdd state.registry.totalMicroJoules ∧
      next.cumulativeDeltaUj =
        (billedDelta state.previousSnapshot next.previousSnapshot).toList.foldl
          U64.saturatingAdd state.cumulativeDeltaUj := by
  rw [tick]
  obtain ⟨outcome, provider⟩ := EnergyProvider.samplePowerState answers state.provider
  cases outcome with
  | error message =>
      refine ⟨_, rfl, rfl, rfl, ?_, ?_⟩ <;> cases state.previousSnapshot <;> rfl
  | ok snapshot =>
      cases previous_eq : state.previousSnapshot with
      | none => exact ⟨_, rfl, rfl, rfl, rfl, rfl⟩
      | some previous =>
          obtain ⟨paid, paid_eq, total_eq⟩ := splitDelta_total state.registry
            (EnergyProvider.activePids provider) (snapshotDeltaUj previous snapshot)
          simp only [paid_eq, Option.bind_eq_bind, Option.bind_some]
          exact ⟨_, rfl, rfl, rfl, total_eq, rfl⟩

/-- Both accumulators of a run are the saturating sum of what its ticks billed. -/
theorem run_tick_spec (state : SamplingLoop σ) (answers : List ε) :
    ∃ final, run tick state answers = some final ∧
      final.registry.totalMicroJoules =
        (consecutiveDeltas
          (state.previousSnapshot :: sampleOutcomes state.provider answers)).foldl
          U64.saturatingAdd state.registry.totalMicroJoules ∧
      final.cumulativeDeltaUj =
        (consecutiveDeltas
          (state.previousSnapshot :: sampleOutcomes state.provider answers)).foldl
          U64.saturatingAdd state.cumulativeDeltaUj := by
  induction answers generalizing state with
  | nil => exact ⟨state, rfl, rfl, rfl⟩
  | cons input rest ih =>
      rcases tick_spec state input with
        ⟨next, next_eq, provider_eq, previous_eq, total_eq, cumulative_eq⟩
      obtain ⟨final, final_eq, finalTotal, finalCumulative⟩ := ih next
      have outcomes_eq : sampleOutcomes state.provider (input :: rest) =
          next.previousSnapshot :: sampleOutcomes next.provider rest := by
        rw [sampleOutcomes, previous_eq, provider_eq]
      refine ⟨final, ?_, ?_, ?_⟩
      · rw [run_cons, next_eq]
        exact final_eq
      · rw [outcomes_eq, consecutiveDeltas_cons_cons, List.foldl_append, ← total_eq]
        exact finalTotal
      · rw [outcomes_eq, consecutiveDeltas_cons_cons, List.foldl_append, ← cumulative_eq]
        exact finalCumulative

/-- A loop started on an empty registry never fails and fills both accumulators
with the saturating sum of what its ticks billed. -/
theorem startSamplingLoop_spec (provider : σ) (answers : List ε) :
    ∃ state, startSamplingLoop provider AmalgafyRegistry.new answers = some state ∧
      state.registry.totalMicroJoules =
        U64.saturatingSum (consecutiveDeltas (sampleOutcomes provider answers)) ∧
      state.cumulativeDeltaUj =
        U64.saturatingSum (consecutiveDeltas (sampleOutcomes provider answers)) := by
  rcases run_tick_spec (SamplingLoop.start provider AmalgafyRegistry.new) answers with
    ⟨final, final_eq, total_eq, cumulative_eq⟩
  simp only [SamplingLoop.start, AmalgafyRegistry.totalMicroJoules_new,
    consecutiveDeltas_none_cons] at total_eq cumulative_eq
  exact ⟨final, final_eq, total_eq, cumulative_eq⟩

/-- Energy accountability: no tick leaves the word, and after any number of
ticks the registry total, the running total and the saturating sum over the
pairs of consecutive successful ticks agree. -/
theorem startSamplingLoop_accountable (provider : σ) (answers : List ε) :
    ∃ state, startSamplingLoop provider AmalgafyRegistry.new answers = some state ∧
      state.registry.totalMicroJoules = state.cumulativeDeltaUj ∧
      state.cumulativeDeltaUj =
        U64.saturatingSum (consecutiveDeltas (sampleOutcomes provider answers)) := by
  obtain ⟨final, final_eq, total_eq, cumulative_eq⟩ := startSamplingLoop_spec provider answers
  exact ⟨final, final_eq, total_eq.trans cumulative_eq.symm, cumulative_eq⟩

end Loop

end Mjae.Core
