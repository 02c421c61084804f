import Mjae.Core.Ledger
import Mjae.Providers.Windows

/-!
# The calls of the Windows provider

What each call does once its queries are answered.  Both ways of attributing a
window return one entry for every payment that they make, and no plain operator
of them leaves its word.
-/

namespace Mjae.Providers

open Mjae.Arith Mjae.Collections Mjae.Core

namespace WindowsProvider

/-- Process identifiers of an NVML answer. -/
def pidsOf (processes : Vec NvmlProcessInfoV3) : List UInt32 :=
  processes.toList.map NvmlProcessInfoV3.pid

theorem pidsOf_eq_nil_iff (processes : Vec NvmlProcessInfoV3) :
    pidsOf processes = [] ↔ processes.isEmpty := by
  rw [pidsOf, List.map_eq_nil_iff, Vec.isEmpty, List.isEmpty_iff]

/-- A process query changes the scratch buffer only. -/
theorem of_sampleComputeProcesses {policy : GrowthPolicy} {nvml : Nvml}
    {provider next : WindowsProvider} {processes : Except String (Vec NvmlProcessInfoV3)}
    (queried : sampleComputeProcesses policy nvml provider = some (processes, next)) :
    ∃ scratch, next = { provider with computeScratch := scratch } := by
  rcases Option.map_eq_some_iff.mp queried with ⟨outcome, -, outcome_eq⟩
  cases outcome_eq
  exact ⟨_, rfl⟩

theorem readPowerUw_eq {nvml : Nvml} {powerMw : UInt32} (read : readPowerMw nvml = .ok powerMw) :
    readPowerUw nvml = .ok (microwatts powerMw) := by
  rw [readPowerUw, read]
  rfl

theorem toNat_microwatts (powerMw : UInt32) :
    (microwatts powerMw).toNat = powerMw.toNat * 1000 := by
  have power_le := U32.toNat_le_maxNat powerMw
  rw [U32.maxNat] at power_le
  rw [microwatts, U64.toNat_mul_of_le]
  · simp
  · rw [UInt32.toNat_toUInt64, U64.maxNat]
    simp
    omega

/-! ## Splitting a window -/

/-- Splitting a window leaves no word, and returns and adds the shares of a list
of payments. -/
theorem splitWindow_eq {share remainder : UInt64} (fits : SharesFit share remainder)
    (attribution : UInt32 → UInt64 → PidEnergyAttribution) (processes : List NvmlProcessInfoV3)
    (registry : AmalgafyRegistry) :
    splitWindow attribution share remainder processes registry =
      some ((sharePayments share remainder (processes.map NvmlProcessInfoV3.pid)).map
          (fun payment => attribution payment.1 payment.2),
        registry.addAll
          (sharePayments share remainder (processes.map NvmlProcessInfoV3.pid))) := by
  induction processes generalizing remainder registry with
  | nil => rfl
  | cons proc rest ih =>
      rw [splitWindow]
      simp only [U64.checkedAdd_eq_some fits.share_add_extra_le, Option.bind_eq_bind,
        Option.bind_some]
      rw [ih fits.next, Option.bind_some]
      rfl

/-- The payments of an equal split of `totalUj`. -/
def windowPayments (totalUj : UInt64) (processes : Vec NvmlProcessInfoV3) :
    List (UInt32 × UInt64) :=
  sharePayments (totalUj / processes.len) (totalUj % processes.len) (pidsOf processes)

@[simp]
theorem map_fst_windowPayments (totalUj : UInt64) (processes : Vec NvmlProcessInfoV3) :
    (windowPayments totalUj processes).map Prod.fst = pidsOf processes :=
  map_fst_sharePayments _ _ _

/-- The payments of a non-empty list are worth the whole window. -/
theorem paidTotal_windowPayments (totalUj : UInt64) {processes : Vec NvmlProcessInfoV3}
    (busy : ¬ processes.isEmpty) :
    paidTotal (windowPayments totalUj processes) = totalUj.toNat := by
  apply paidTotal_div_mod
  · rw [Vec.toNat_len, pidsOf, List.length_map]
  · exact fun nobody => busy ((pidsOf_eq_nil_iff processes).mp nobody)

/-- The three plain operators that compute the share and the remainder stay in
the word. -/
theorem divide_eq_some (totalUj : UInt64) {count : UInt64} (nonzero : count.toNat ≠ 0)
    {α : Type} (onward : UInt64 → UInt64 → Option α) :
    ((U64.checkedDiv totalUj count).bind fun share =>
      (U64.checkedMul share count).bind fun paid =>
        (U64.checkedSub totalUj paid).bind fun remainder => onward share remainder) =
      onward (totalUj / count) (totalUj % count) := by
  have paid_le := U64.toNat_div_mul_le totalUj count
  have fits := paid_le.trans (U64.toNat_le_maxNat totalUj)
  have product_eq := U64.toNat_mul_of_le fits
  rw [U64.checkedDiv_eq_some nonzero, Option.bind_some, U64.checkedMul_eq_some fits,
    Option.bind_some, U64.checkedSub_eq_some (product_eq.trans_le paid_le), Option.bind_some,
    U64.sub_eq_mod product_eq]

/-! ## The three calls -/

/-- The provider after a window was attributed to `pids`. -/
def sampledAt (provider : WindowsProvider) (lastSampleNs : UInt64) (pids : List UInt32) :
    WindowsProvider :=
  { provider with busyState := { lastSampleNs, lastPids := pids } }

/-- An entry of the equal split. -/
def windowEntry (provider : WindowsProvider) (powerMw : UInt32)
    (windowStartNs windowEndNs : UInt64) (payment : UInt32 × UInt64) : PidEnergyAttribution where
  pid := payment.1
  windowStartNs
  windowEndNs
  burstPowerUw := microwatts powerMw
  attributedEnergyUj := payment.2
  hardwareSignature := provider.hardwareSignature

/-- The equal split, once power and processes are read. -/
theorem sampleWindowEnergy_eq {policy : GrowthPolicy} {nvml : Nvml}
    {provider next : WindowsProvider} {powerMw : UInt32} {processes : Vec NvmlProcessInfoV3}
    (read : readPowerMw nvml = .ok powerMw)
    (queried : sampleComputeProcesses policy nvml provider = some (.ok processes, next))
    (windowStartNs windowEndNs dtMs : UInt64) (registry : AmalgafyRegistry) :
    sampleWindowEnergy policy nvml windowStartNs windowEndNs dtMs provider registry =
      some (if processes.isEmpty ∨ nvmlWindowEnergyUj powerMw.toUInt64 dtMs = 0 then
        (.ok [], next, registry)
      else
        (.ok ((windowPayments (nvmlWindowEnergyUj powerMw.toUInt64 dtMs) processes).map
            (windowEntry next powerMw windowStartNs windowEndNs)),
          next.sampledAt windowEndNs (pidsOf processes),
          registry.addAll
            (windowPayments (nvmlWindowEnergyUj powerMw.toUInt64 dtMs) processes))) := by
  rw [sampleWindowEnergy, read]
  simp only [queried, Option.bind_eq_bind, Option.bind_some]
  split
  · rfl
  · rename_i attributed
    have busy : ¬ processes.isEmpty := fun idle => attributed (Or.inl idle)
    rw [divide_eq_some _ (Vec.toNat_len_ne_zero busy), splitWindow_eq (sharesFit_div_mod _ _),
      Option.bind_some]
    have pids_eq := map_fst_windowPayments (nvmlWindowEnergyUj powerMw.toUInt64 dtMs) processes
    rw [sampledAt, ← pids_eq, List.map_map]
    rfl

/-- An entry of the deterministic attribution. -/
def burstEntry (provider : WindowsProvider) (totalPowerUw idlePowerUw windowStartNs
    windowEndNs : UInt64) (payment : UInt32 × UInt64) : PidEnergyAttribution where
  pid := payment.1
  windowStartNs
  windowEndNs
  burstPowerUw := U64.saturatingSub totalPowerUw idlePowerUw
  attributedEnergyUj := payment.2
  hardwareSignature := provider.hardwareSignature

/-- The payments of the deterministic attribution: everyone gets the burst energy
of an equal part of the window. -/
def burstPayments (totalPowerUw idlePowerUw windowNs : UInt64)
    (processes : Vec NvmlProcessInfoV3) : List (UInt32 × UInt64) :=
  (pidsOf processes).map fun pid =>
    (pid, deterministicAttributionUj totalPowerUw idlePowerUw (windowNs / processes.len) windowNs)

/-- The deterministic attribution, once power and processes are read. -/
theorem attributeWindow_eq {policy : GrowthPolicy} {nvml : Nvml}
    {provider next : WindowsProvider} {totalPowerUw : UInt64} {processes : Vec NvmlProcessInfoV3}
    (read : readPowerUw nvml = .ok totalPowerUw)
    (queried : sampleComputeProcesses policy nvml provider = some (.ok processes, next))
    (windowStartNs windowEndNs idlePowerUw : UInt64) (registry : AmalgafyRegistry) :
    attributeWindow policy nvml windowStartNs windowEndNs idlePowerUw provider registry =
      some (if processes.isEmpty then
        (.ok [], next, registry)
      else
        (.ok ((burstPayments totalPowerUw idlePowerUw
            (U64.saturatingSub windowEndNs windowStartNs) processes).map
            (burstEntry next totalPowerUw idlePowerUw windowStartNs windowEndNs)),
          next.sampledAt windowEndNs (pidsOf processes),
          registry.addAll (burstPayments totalPowerUw idlePowerUw
            (U64.saturatingSub windowEndNs windowStartNs) processes))) := by
  rw [attributeWindow, read]
  simp only [queried, Option.bind_eq_bind, Option.bind_some]
  split
  · rfl
  · rename_i busy
    rw [U64.checkedDiv_eq_some (Vec.toNat_len_ne_zero busy), Option.bind_some]
    rw [sampledAt, burstPayments, pidsOf, List.map_map, List.map_map, List.map_map,
      AmalgafyRegistry.addAll, List.foldl_map, List.foldl_map]
    rfl

/-- The provider after a power sample, which records the processes only if their
query has succeeded. -/
def refreshed (provider : WindowsProvider) (observedAtNs : UInt64) :
    Except String (Vec NvmlProcessInfoV3) → WindowsProvider
  | .ok processes => provider.sampledAt observedAtNs (pidsOf processes)
  | .error _ => provider

/-- A power sample, once the power is read and the query has returned. -/
theorem samplePowerState_eq {policy : GrowthPolicy} {nvml : Nvml}
    {provider next : WindowsProvider} {powerUw : UInt64}
    {processes : Except String (Vec NvmlProcessInfoV3)} (read : readPowerUw nvml = .ok powerUw)
    (queried : sampleComputeProcesses policy nvml provider = some (processes, next)) :
    ∃ snapshot, samplePowerState policy nvml provider =
      some (.ok snapshot, next.refreshed (U64.clamp (nvml.sinceEpochNs.getD 0)) processes) := by
  rw [samplePowerState, read]
  simp only [queried, Option.bind_eq_bind, Option.bind_some]
  cases processes <;> exact ⟨_, rfl⟩

/-! ## What a call that has returned did -/

/-- A window sample fails and changes neither the registry nor the busy state, or
both of its queries were answered. -/
theorem sampleWindowEnergy_cases {policy : GrowthPolicy} {nvml : Nvml}
    {windowStartNs windowEndNs dtMs : UInt64} {provider next : WindowsProvider}
    {registry after : AmalgafyRegistry} {result : Except String (List PidEnergyAttribution)}
    (returned : sampleWindowEnergy policy nvml windowStartNs windowEndNs dtMs provider registry =
      some (result, next, after)) :
    (∃ message, result = .error message ∧ after = registry ∧
        next.busyState = provider.busyState) ∨
      ∃ powerMw processes queried, readPowerMw nvml = .ok powerMw ∧
        sampleComputeProcesses policy nvml provider = some (.ok processes, queried) := by
  cases read : readPowerMw nvml with
  | error message =>
      rw [sampleWindowEnergy, read] at returned
      cases returned
      exact Or.inl ⟨message, rfl, rfl, rfl⟩
  | ok powerMw =>
      rw [sampleWindowEnergy, read] at returned
      rcases Option.bind_eq_some_iff.mp returned with ⟨⟨message | processes, queried⟩, query, rest⟩
      · cases rest
        rcases of_sampleComputeProcesses query with ⟨scratch, rfl⟩
        exact Or.inl ⟨message, rfl, rfl, rfl⟩
      · exact Or.inr ⟨powerMw, processes, queried, rfl, query⟩

/-- So does an attributed window. -/
theorem attributeWindow_cases {policy : GrowthPolicy} {nvml : Nvml}
    {windowStartNs windowEndNs idlePowerUw : UInt64} {provider next : WindowsProvider}
    {registry after : AmalgafyRegistry} {result : Except String (List PidEnergyAttribution)}
    (returned : attributeWindow policy nvml windowStartNs windowEndNs idlePowerUw provider
      registry = some (result, next, after)) :
    (∃ message, result = .error message ∧ after = registry ∧
        next.busyState = provider.busyState) ∨
      ∃ powerMw processes queried, readPowerMw nvml = .ok powerMw ∧
        sampleComputeProcesses policy nvml provider = some (.ok processes, queried) := by
  cases read : readPowerMw nvml with
  | error message =>
      rw [attributeWindow, readPowerUw, read] at returned
      cases returned
      exact Or.inl ⟨message, rfl, rfl, rfl⟩
  | ok powerMw =>
      rw [attributeWindow, readPowerUw_eq read] at returned
      rcases Option.bind_eq_some_iff.mp returned with ⟨⟨message | processes, queried⟩, query, rest⟩
      · cases rest
        rcases of_sampleComputeProcesses query with ⟨scratch, rfl⟩
        exact Or.inl ⟨message, rfl, rfl, rfl⟩
      · exact Or.inr ⟨powerMw, processes, queried, rfl, query⟩

/-- A power sample fails and leaves the provider as it was, or the power was read
and the query has returned. -/
theorem samplePowerState_cases {policy : GrowthPolicy} {nvml : Nvml}
    {provider next : WindowsProvider} {result : Except String PowerSnapshot}
    (returned : samplePowerState policy nvml provider = some (result, next)) :
    (∃ message, result = .error message ∧ next = provider) ∨
      ∃ powerMw processes queried, readPowerMw nvml = .ok powerMw ∧
        sampleComputeProcesses policy nvml provider = some (processes, queried) := by
  cases read : readPowerMw nvml with
  | error message =>
      rw [samplePowerState, readPowerUw, read] at returned
      cases returned
      exact Or.inl ⟨message, rfl, rfl⟩
  | ok powerMw =>
      rw [samplePowerState, readPowerUw_eq read] at returned
      rcases Option.bind_eq_some_iff.mp returned with ⟨⟨processes, queried⟩, query, -⟩
      exact Or.inr ⟨powerMw, processes, queried, rfl, query⟩

end WindowsProvider

end Mjae.Providers
