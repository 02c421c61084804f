import Mjae.Core.Ledger

/-!
# Draining a provider

Every provider keeps the records that wait for the registry in a buffer, and a sync
drains the buffer into the registry.  The loop of the sync is the same for all of
them; a provider only says which buffer it empties.
-/

namespace Mjae.Core

open Mjae.Arith

/-- Add every waiting record to the registry; the result is their sum. -/
def drainPending (pending : List PidEnergyAttribution) (registry : AmalgafyRegistry) :
    UInt64 × AmalgafyRegistry :=
  pending.foldl
    (fun state attribution =>
      (U64.saturatingAdd state.1 attribution.attributedEnergyUj,
        (state.2.addMicroJoules attribution.pid attribution.attributedEnergyUj).2))
    (0, registry)

/-- A drain returns the saturating sum of the buffer and posts every record of it. -/
theorem drainPending_eq (pending : List PidEnergyAttribution) (registry : AmalgafyRegistry) :
    drainPending pending registry =
      (U64.saturatingSum (pending.map PidEnergyAttribution.attributedEnergyUj),
        pending.foldl AmalgafyRegistry.post registry) := by
  rw [drainPending, U64.saturatingSum]
  generalize (0 : UInt64) = total
  induction pending generalizing total registry with
  | nil => rfl
  | cons attribution rest ih => exact ih _ _

/-- The part of the provider contract that is about waiting records.  `ω` are the calls
that leave the registry alone; they may add records. -/
class DrainProvider (σ : Type) (ω : outParam Type) where
  perform : ω → σ → σ
  pending : σ → List PidEnergyAttribution
  syncRegistry : σ → AmalgafyRegistry → UInt64 × σ × AmalgafyRegistry
  /-- The provider that a sync leaves behind. -/
  drained : σ → σ
  /-- A sync drains the buffer. -/
  syncRegistry_eq : ∀ (provider : σ) (registry : AmalgafyRegistry),
    syncRegistry provider registry =
      (U64.saturatingSum ((pending provider).map PidEnergyAttribution.attributedEnergyUj),
        drained provider, (pending provider).foldl AmalgafyRegistry.post registry)
  /-- A sync leaves nothing waiting. -/
  pending_drained : ∀ provider : σ, pending (drained provider) = []

/-- A call of a daemon on one provider. -/
inductive DrainCall (ω : Type)
  | perform (call : ω)
  | syncRegistry

/-- A provider, the registry it is drained into, and what its syncs returned. -/
structure DrainState (σ : Type) where
  provider : σ
  registry : AmalgafyRegistry
  returned : List UInt64

namespace DrainState

variable {σ ω : Type} [DrainProvider σ ω]

def apply (state : DrainState σ) : DrainCall ω → DrainState σ
  | .perform call => { state with provider := DrainProvider.perform call state.provider }
  | .syncRegistry =>
      let synced := DrainProvider.syncRegistry state.provider state.registry
      { provider := synced.2.1
        registry := synced.2.2
        returned := state.returned ++ [synced.1] }

theorem apply_syncRegistry (state : DrainState σ) :
    state.apply .syncRegistry =
      { provider := DrainProvider.drained state.provider
        registry := (DrainProvider.pending state.provider).foldl AmalgafyRegistry.post
          state.registry
        returned := state.returned ++ [U64.saturatingSum
          ((DrainProvider.pending state.provider).map
            PidEnergyAttribution.attributedEnergyUj)] } := by
  rw [apply, DrainProvider.syncRegistry_eq]

/-- The registry is worth `startUj` and what the syncs have returned. -/
def Worth (startUj : Nat) (state : DrainState σ) : Prop :=
  state.registry.totalMicroJoules.toNat =
    min (startUj + (state.returned.map UInt64.toNat).sum) U64.maxNat

/-- A sync returns what it adds to the total. -/
theorem Worth.apply {startUj : Nat} {state : DrainState σ} (worth : state.Worth startUj)
    (call : DrainCall ω) : (state.apply call).Worth startUj := by
  cases call with
  | perform call => exact worth
  | syncRegistry =>
      rw [Worth] at worth
      rw [apply_syncRegistry, Worth, AmalgafyRegistry.totalMicroJoules_postAll, worth,
        List.map_append, List.sum_append, List.map_singleton, List.sum_singleton,
        U64.toNat_saturatingSum, List.map_map, min_min_add, ← Nat.add_assoc,
        Nat.add_comm _ (min _ _), min_min_add, Nat.add_comm]
      rfl

theorem Worth.foldl_apply {startUj : Nat} {state : DrainState σ} (worth : state.Worth startUj)
    (calls : List (DrainCall ω)) : (calls.foldl DrainState.apply state).Worth startUj := by
  induction calls generalizing state with
  | nil => exact worth
  | cons call rest ih => exact ih (worth.apply call)

end DrainState

end Mjae.Core
