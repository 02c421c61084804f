import Mathlib.Data.List.DropRight
import Mjae.Core.Ledger
import Mjae.Providers.Linux

/-!
# Exactly-once draining

Two producers append to the pending buffer, two bookkeeping operations touch
only the in-flight counts, and a sync drains the buffer into the registry.  In
any order of these operations every record is posted by the first sync after it
and by no other.
-/

namespace Mjae.Providers

open Mjae.Arith Mjae.Core

namespace LinuxProvider

/-- The operations that a daemon interleaves on one provider and one registry. -/
inductive LedgerOp where
  | correlateFence (event : DmaFenceEvent)
  | enqueueAttribution (attribution : PidEnergyAttribution)
  | markPidActive (pid : UInt32)
  | markPidIdle (pid : UInt32)
  | syncRegistry
  deriving DecidableEq

structure LedgerState where
  provider : LinuxProvider
  registry : AmalgafyRegistry

namespace LedgerState

def apply (state : LedgerState) : LedgerOp → LedgerState
  | .correlateFence event =>
      { state with provider := (state.provider.correlateFence event).2 }
  | .enqueueAttribution attribution =>
      { state with provider := state.provider.enqueueAttribution attribution }
  | .markPidActive pid => { state with provider := state.provider.markPidActive pid }
  | .markPidIdle pid => { state with provider := state.provider.markPidIdle pid }
  | .syncRegistry =>
      let synced := state.provider.syncRegistry state.registry
      ⟨synced.2.1, synced.2.2⟩

/-- A new provider and an empty registry after the listed operations. -/
def after (hardwareSignature : String) (ops : List LedgerOp) : LedgerState :=
  ops.foldl apply ⟨LinuxProvider.new hardwareSignature, AmalgafyRegistry.new⟩

end LedgerState

namespace LedgerOp

/-- The record an operation creates, if it creates one. -/
def created (hardwareSignature : String) : LedgerOp → Option PidEnergyAttribution
  | .correlateFence event => some ((LinuxProvider.new hardwareSignature).correlateFence event).1
  | .enqueueAttribution attribution => some attribution
  | _ => none

end LedgerOp

/-- Records created before the last sync. -/
def drained (hardwareSignature : String) (ops : List LedgerOp) : List PidEnergyAttribution :=
  (ops.rdropWhile (· ≠ .syncRegistry)).filterMap (LedgerOp.created hardwareSignature)

/-- Records created since the last sync. -/
def undrained (hardwareSignature : String) (ops : List LedgerOp) : List PidEnergyAttribution :=
  (ops.rtakeWhile (· ≠ .syncRegistry)).filterMap (LedgerOp.created hardwareSignature)

/-! ## What one operation does to the two lists -/

theorem drained_append_of_ne {op : LedgerOp} (other : op ≠ .syncRegistry)
    (hardwareSignature : String) (ops : List LedgerOp) :
    drained hardwareSignature (ops ++ [op]) = drained hardwareSignature ops := by
  rw [drained, List.rdropWhile_concat, if_pos (decide_eq_true other), drained]

theorem undrained_append_of_ne {op : LedgerOp} (other : op ≠ .syncRegistry)
    (hardwareSignature : String) (ops : List LedgerOp) :
    undrained hardwareSignature (ops ++ [op]) =
      undrained hardwareSignature ops ++ (op.created hardwareSignature).toList := by
  rw [undrained, List.rtakeWhile_concat, if_pos (decide_eq_true other), List.filterMap_append,
    undrained]
  cases created : op.created hardwareSignature <;> simp [created]

theorem undrained_append_sync (hardwareSignature : String) (ops : List LedgerOp) :
    undrained hardwareSignature (ops ++ [.syncRegistry]) = [] := by
  rw [undrained, List.rtakeWhile_concat, if_neg (by decide)]
  rfl

/-- A sync moves everything created so far to the drained side. -/
theorem drained_append_sync (hardwareSignature : String) (ops : List LedgerOp) :
    drained hardwareSignature (ops ++ [.syncRegistry]) =
      drained hardwareSignature ops ++ undrained hardwareSignature ops := by
  rw [drained, List.rdropWhile_concat, if_neg (by decide), drained, undrained,
    ← List.filterMap_append, List.rdropWhile, List.rtakeWhile, ← List.reverse_append,
    List.takeWhile_append_dropWhile, List.reverse_reverse, List.filterMap_append]
  exact List.append_nil _

/-! ## The ledger invariant -/

/-- A sync returns the saturating sum of the buffer, posts every record of it in
order, and empties it. -/
theorem syncRegistry_eq (provider : LinuxProvider) (registry : AmalgafyRegistry) :
    provider.syncRegistry registry =
      (U64.saturatingSum (provider.pending.map PidEnergyAttribution.attributedEnergyUj),
        { provider with pending := [] },
        provider.pending.foldl AmalgafyRegistry.post registry) := by
  have folded (pending : List PidEnergyAttribution) (total : UInt64)
      (start : AmalgafyRegistry) :
      pending.foldl
        (fun (state : UInt64 × AmalgafyRegistry) attribution =>
          (U64.saturatingAdd state.1 attribution.attributedEnergyUj,
            (state.2.addMicroJoules attribution.pid attribution.attributedEnergyUj).2))
        (total, start) =
      ((pending.map PidEnergyAttribution.attributedEnergyUj).foldl U64.saturatingAdd total,
        pending.foldl AmalgafyRegistry.post start) := by
    induction pending generalizing total start with
    | nil => rfl
    | cons attribution rest ih => exact ih _ _
  rw [syncRegistry, folded]
  rfl

/-- The buffer holds what was created since the last sync, the registry holds
the accounts of what was created before it. -/
structure LedgerInvariant (hardwareSignature : String) (ops : List LedgerOp)
    (state : LedgerState) : Prop where
  signature : state.provider.hardwareSignature = hardwareSignature
  pending : state.provider.pending = undrained hardwareSignature ops
  posted : state.registry.Holds (drained hardwareSignature ops)

theorem LedgerInvariant.apply {hardwareSignature : String} {ops : List LedgerOp}
    {state : LedgerState} (invariant : LedgerInvariant hardwareSignature ops state)
    (op : LedgerOp) :
    LedgerInvariant hardwareSignature (ops ++ [op]) (state.apply op) := by
  by_cases sync : op = .syncRegistry
  · subst sync
    rw [LedgerState.apply, syncRegistry_eq]
    refine ⟨invariant.signature, ?_, ?_⟩
    · rw [undrained_append_sync]
    · rw [drained_append_sync, ← invariant.pending]
      exact invariant.posted.postAll state.provider.pending
  · have posted : state.registry.Holds (drained hardwareSignature (ops ++ [op])) := by
      rw [drained_append_of_ne sync]
      exact invariant.posted
    have pending_eq := undrained_append_of_ne sync hardwareSignature ops
    rw [← invariant.pending] at pending_eq
    cases op with
    | correlateFence event =>
        refine ⟨invariant.signature, ?_, posted⟩
        rw [pending_eq, LedgerOp.created, Option.toList_some]
        rw [LedgerState.apply, correlateFence, correlateFence, fenceAttribution,
          fenceAttribution, invariant.signature]
        rfl
    | enqueueAttribution attribution => exact ⟨invariant.signature, pending_eq.symm, posted⟩
    | markPidActive pid =>
        exact ⟨invariant.signature, (pending_eq.trans (List.append_nil _)).symm, posted⟩
    | markPidIdle pid =>
        exact ⟨invariant.signature, (pending_eq.trans (List.append_nil _)).symm, posted⟩
    | syncRegistry => exact absurd rfl sync

theorem ledgerInvariant_after (hardwareSignature : String) (ops : List LedgerOp) :
    LedgerInvariant hardwareSignature ops (LedgerState.after hardwareSignature ops) := by
  induction ops using List.reverseRecOn with
  | nil => exact ⟨rfl, rfl, AmalgafyRegistry.holds_new⟩
  | append_singleton past op ih =>
      rw [LedgerState.after, List.foldl_append]
      exact ih.apply op

/-- Exactly-once draining, after any sequence of operations: the registry holds
the saturating sum of every record drained so far and nothing else, the buffer
is what was created since, the next sync returns the sum of the buffer, and the
bookkeeping operations change none of this. -/
theorem drains_exactly_once (hardwareSignature : String) (ops : List LedgerOp) :
    let state := LedgerState.after hardwareSignature ops
    (∀ pid, state.registry.get pid =
      if ∀ attribution ∈ drained hardwareSignature ops, attribution.pid ≠ pid then none
      else some (U64.saturatingSum
        (((drained hardwareSignature ops).filter fun attribution => attribution.pid = pid).map
          PidEnergyAttribution.attributedEnergyUj))) ∧
    state.provider.pending = undrained hardwareSignature ops ∧
    (state.provider.syncRegistry state.registry).1 =
      U64.saturatingSum
        ((undrained hardwareSignature ops).map PidEnergyAttribution.attributedEnergyUj) ∧
    ∀ pid, ∀ op ∈ [LedgerOp.markPidActive pid, LedgerOp.markPidIdle pid],
      (state.apply op).registry = state.registry ∧
        (state.apply op).provider.pending = state.provider.pending := by
  have invariant := ledgerInvariant_after hardwareSignature ops
  refine ⟨invariant.posted, invariant.pending, ?_, ?_⟩
  · rw [syncRegistry_eq, invariant.pending]
  · intro pid op member
    rcases List.mem_pair.mp member with rfl | rfl <;> exact ⟨rfl, rfl⟩

end LinuxProvider

end Mjae.Providers
