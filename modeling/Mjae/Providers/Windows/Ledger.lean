import Mjae.Providers.Windows.Calls
import Mjae.Transition.Run

/-!
# What the Windows provider seals and registers

Power samples and both ways of attributing a window, in any order and with any
NVML answers.  Every call that hands out energy returns one entry for each
payment to the registry, so the accounts of what was returned for sealing are
the accounts of the registry.
-/

namespace Mjae.Providers

open Mjae.Arith Mjae.Collections Mjae.Core Mjae.Transition

/-- The calls of a daemon on one provider and one registry. -/
inductive WindowsCall where
  | samplePowerState (nvml : Nvml)
  | sampleWindowEnergy (nvml : Nvml) (windowStartNs windowEndNs dtMs : UInt64)
  | attributeWindow (nvml : Nvml) (windowStartNs windowEndNs idlePowerUw : UInt64)

namespace WindowsCall

/-- What NVML and the host answer to the call. -/
def nvml : WindowsCall → Nvml
  | samplePowerState nvml => nvml
  | sampleWindowEnergy nvml _ _ _ => nvml
  | attributeWindow nvml _ _ _ => nvml

/-- The entries that a call returns, none for a power sample, with the provider
and the registry after it. -/
def perform (policy : GrowthPolicy) (provider : WindowsProvider) (registry : AmalgafyRegistry) :
    WindowsCall →
      Option (Except String (List PidEnergyAttribution) × WindowsProvider × AmalgafyRegistry)
  | samplePowerState nvml =>
      (provider.samplePowerState policy nvml).map fun outcome =>
        (outcome.1.map fun _ => [], outcome.2, registry)
  | sampleWindowEnergy nvml windowStartNs windowEndNs dtMs =>
      provider.sampleWindowEnergy policy nvml windowStartNs windowEndNs dtMs registry
  | attributeWindow nvml windowStartNs windowEndNs idlePowerUw =>
      provider.attributeWindow policy nvml windowStartNs windowEndNs idlePowerUw registry

end WindowsCall

/-- Entries of a returned result; a failed call returns none. -/
def sealable : Except String (List PidEnergyAttribution) → List PidEnergyAttribution
  | .ok entries => entries
  | .error _ => []

structure WindowsLedger where
  provider : WindowsProvider
  registry : AmalgafyRegistry
  /-- Everything that was returned for sealing so far. -/
  returned : List PidEnergyAttribution

namespace WindowsLedger

def step (policy : GrowthPolicy) (ledger : WindowsLedger) (call : WindowsCall) :
    Option WindowsLedger :=
  (call.perform policy ledger.provider ledger.registry).map fun performed => {
    provider := performed.2.1
    registry := performed.2.2
    returned := ledger.returned ++ sealable performed.1 }

end WindowsLedger

namespace WindowsCall

open WindowsProvider

/-- A call fails and changes neither the registry nor the busy state, or it has read
the power and the registry is posted what it returns. -/
theorem perform_cases {policy : GrowthPolicy} {provider next : WindowsProvider}
    {registry after : AmalgafyRegistry} {call : WindowsCall}
    {result : Except String (List PidEnergyAttribution)}
    (performed : call.perform policy provider registry = some (result, next, after)) :
    (∃ message, result = .error message ∧ after = registry ∧
        next.busyState = provider.busyState) ∨
      ∃ powerMw entries, readPowerMw call.nvml = .ok powerMw ∧ result = .ok entries ∧
        after = entries.foldl AmalgafyRegistry.post registry := by
  cases call with
  | samplePowerState nvml =>
      rcases Option.map_eq_some_iff.mp performed with ⟨⟨sampled, sampledNext⟩, returned, outcome⟩
      cases outcome
      rcases samplePowerState_cases returned with ⟨message, rfl, rfl⟩ |
        ⟨powerMw, processes, queried, read, query⟩
      · exact Or.inl ⟨message, rfl, rfl, rfl⟩
      · rcases samplePowerState_eq (readPowerUw_eq read) query with ⟨snapshot, sampled_eq⟩
        rw [sampled_eq] at returned
        cases returned
        exact Or.inr ⟨powerMw, [], read, rfl, rfl⟩
  | sampleWindowEnergy nvml windowStartNs windowEndNs dtMs =>
      rcases sampleWindowEnergy_cases performed with failed |
        ⟨powerMw, processes, queried, read, query⟩
      · exact Or.inl failed
      · right
        rw [perform, sampleWindowEnergy_eq read query] at performed
        split at performed
        · cases performed
          exact ⟨powerMw, [], read, rfl, rfl⟩
        · cases performed
          exact ⟨powerMw, _, read, rfl,
            AmalgafyRegistry.addAll_eq_foldl_post (fun _ => rfl) _ _⟩
  | attributeWindow nvml windowStartNs windowEndNs idlePowerUw =>
      rcases attributeWindow_cases performed with failed |
        ⟨powerMw, processes, queried, read, query⟩
      · exact Or.inl failed
      · right
        rw [perform, attributeWindow_eq (readPowerUw_eq read) query] at performed
        split at performed
        · cases performed
          exact ⟨powerMw, [], read, rfl, rfl⟩
        · cases performed
          exact ⟨powerMw, _, read, rfl,
            AmalgafyRegistry.addAll_eq_foldl_post (fun _ => rfl) _ _⟩

end WindowsCall

namespace WindowsLedger

/-- The registry holds the accounts of what was returned, and its total. -/
structure Balanced (ledger : WindowsLedger) : Prop where
  accounts : ledger.registry.Holds ledger.returned
  total : ledger.registry.totalMicroJoules =
    U64.saturatingSum (ledger.returned.map PidEnergyAttribution.attributedEnergyUj)

theorem Balanced.step {policy : GrowthPolicy} {ledger next : WindowsLedger} {call : WindowsCall}
    (balanced : ledger.Balanced) (stepped : ledger.step policy call = some next) :
    next.Balanced := by
  rcases Option.map_eq_some_iff.mp stepped with ⟨⟨result, provider, after⟩, performed, rfl⟩
  rcases WindowsCall.perform_cases performed with
    ⟨message, rfl, rfl, -⟩ | ⟨powerMw, entries, -, rfl, rfl⟩
  · constructor
    · rw [sealable, List.append_nil]
      exact balanced.accounts
    · rw [sealable, List.append_nil]
      exact balanced.total
  · constructor
    · exact balanced.accounts.postAll entries
    · apply UInt64.toNat.inj
      rw [AmalgafyRegistry.totalMicroJoules_postAll, balanced.total, U64.toNat_saturatingSum,
        U64.toNat_saturatingSum, min_min_add, sealable, List.map_append, List.map_append,
        List.sum_append, List.map_map, List.map_map]
      rfl

theorem balanced_new (provider : WindowsProvider) :
    (WindowsLedger.mk provider AmalgafyRegistry.new []).Balanced :=
  ⟨AmalgafyRegistry.holds_new, AmalgafyRegistry.totalMicroJoules_new⟩

end WindowsLedger

namespace WindowsProvider

/-- A window sample returns nothing, or entries worth the energy of the window. -/
theorem sampleWindowEnergy_conserves {policy : GrowthPolicy} {nvml : Nvml}
    {windowStartNs windowEndNs dtMs : UInt64} {provider next : WindowsProvider}
    {registry after : AmalgafyRegistry} {entries : List PidEnergyAttribution}
    (returned : sampleWindowEnergy policy nvml windowStartNs windowEndNs dtMs provider registry =
      some (.ok entries, next, after)) :
    ∃ powerMw processes queried, readPowerMw nvml = .ok powerMw ∧
      sampleComputeProcesses policy nvml provider = some (.ok processes, queried) ∧
      (processes.toList ≠ [] → nvmlWindowEnergyUj powerMw.toUInt64 dtMs ≠ 0 →
        (entries.map fun entry => entry.attributedEnergyUj.toNat).sum =
          (nvmlWindowEnergyUj powerMw.toUInt64 dtMs).toNat) := by
  rcases sampleWindowEnergy_cases returned with ⟨message, failed, -⟩ |
    ⟨powerMw, processes, queried, read, query⟩
  · contradiction
  · refine ⟨powerMw, processes, queried, read, query, ?_⟩
    intro listed positive
    have busy : ¬ processes.isEmpty := by
      rwa [Vec.isEmpty, List.isEmpty_iff]
    have attributed := not_or.mpr ⟨busy, positive⟩
    rw [sampleWindowEnergy_eq read query, if_neg attributed] at returned
    cases returned
    rw [List.map_map, ← paidTotal_windowPayments _ busy]
    rfl

/-- What is registered is what is returned for sealing.  After any run of calls
from an empty registry, a slot is the saturating sum of the entries returned for
its process, and missing if there are none, and the total is that of all
entries; the next call changes neither the registry nor the busy state when it
fails; and the next window sample returns exactly the energy of its window if it
has processes and energy. -/
theorem registers_what_it_returns (policy : GrowthPolicy) (provider : WindowsProvider)
    (calls : List WindowsCall) (ledger : WindowsLedger)
    (reached : run (WindowsLedger.step policy) ⟨provider, AmalgafyRegistry.new, []⟩ calls =
      some ledger) :
    (∀ pid, ledger.registry.get pid =
      if ∀ entry ∈ ledger.returned, entry.pid ≠ pid then none
      else some (U64.saturatingSum
        ((ledger.returned.filter fun entry => entry.pid = pid).map
          PidEnergyAttribution.attributedEnergyUj))) ∧
    ledger.registry.totalMicroJoules =
      U64.saturatingSum (ledger.returned.map PidEnergyAttribution.attributedEnergyUj) ∧
    (∀ call message next after,
      WindowsCall.perform policy ledger.provider ledger.registry call =
        some (.error message, next, after) →
      after = ledger.registry ∧ next.busyState = ledger.provider.busyState) ∧
    ∀ nvml windowStartNs windowEndNs dtMs entries next after,
      ledger.provider.sampleWindowEnergy policy nvml windowStartNs windowEndNs dtMs
        ledger.registry = some (.ok entries, next, after) →
      ∃ powerMw processes queried, readPowerMw nvml = .ok powerMw ∧
        ledger.provider.sampleComputeProcesses policy nvml = some (.ok processes, queried) ∧
        (processes.toList ≠ [] → nvmlWindowEnergyUj powerMw.toUInt64 dtMs ≠ 0 →
          (entries.map fun entry => entry.attributedEnergyUj.toNat).sum =
            (nvmlWindowEnergyUj powerMw.toUInt64 dtMs).toNat) := by
  have balanced : ledger.Balanced :=
    run_induction (fun _ state => state.Balanced) (WindowsLedger.balanced_new provider)
      (fun _ _ _ _ _ before stepped => before.step stepped) reached
  refine ⟨balanced.accounts, balanced.total, ?_, ?_⟩
  · intro call message next after performed
    rcases WindowsCall.perform_cases performed with ⟨_, _, kept⟩ | ⟨_, _, _, succeeded, _⟩
    · exact kept
    · contradiction
  · intro nvml windowStartNs windowEndNs dtMs entries next after returned
    exact sampleWindowEnergy_conserves returned

/-- Three instances of two processes share three millijoules, and a window without
a power reading adds nothing. -/
theorem registers_what_it_returns_shared :
    ∃ ledger, run (WindowsLedger.step GrowthPolicy.tight) ⟨serialProvider, AmalgafyRegistry.new, []⟩
        [.sampleWindowEnergy
          (drawing 3000 [computeProcess 7, computeProcess 9, computeProcess 7] (by decide))
          0 1000000 1,
        .attributeWindow ⟨.error "GPU is lost", [], none⟩ 0 1000000 0] = some ledger ∧
      ledger.registry.get 7 = some 2000 ∧ ledger.registry.get 8 = none ∧
      ledger.registry.totalMicroJoules = 3000 := by
  refine ⟨_, rfl, ?_⟩
  have registered := registers_what_it_returns GrowthPolicy.tight serialProvider
    [.sampleWindowEnergy
      (drawing 3000 [computeProcess 7, computeProcess 9, computeProcess 7] (by decide)) 0 1000000 1,
    .attributeWindow ⟨.error "GPU is lost", [], none⟩ 0 1000000 0] _ rfl
  exact ⟨(registered.1 7).trans (by decide), (registered.1 8).trans (by decide),
    registered.2.1.trans (by decide)⟩

end WindowsProvider

end Mjae.Providers
