import Mjae.Providers.Windows.BurstSplit
import Mjae.Providers.Windows.Ledger

/-!
# The two ways of attributing a window

A daemon samples the energy of a window in milliwatts and milliseconds, or attributes
it at an idle power of zero in microwatts and nanoseconds.  Over the same windows and
the same NVML answers both daemons return the same records but for their energies,
and these differ by the roundings of one record.  A window of no power or no time is
the exception: sampling skips it, while attributing records its processes with nothing.
-/

namespace Mjae.Core

open Mjae.Arith

/-- An equal split and any other way of paying the same processes, payment by payment.
The amount is the share, or one more while there is a remainder. -/
theorem forall₂_sharePayments {related : UInt32 × UInt64 → UInt32 × UInt64 → Prop}
    {share remainder : UInt64} {other : UInt32 → UInt32 × UInt64} (fits : SharesFit share remainder)
    (each : ∀ pid amount, share.toNat ≤ amount.toNat →
      amount.toNat ≤ share.toNat + min remainder.toNat 1 → related (pid, amount) (other pid))
    (pids : List UInt32) :
    List.Forall₂ related (sharePayments share remainder pids) (pids.map other) := by
  induction pids generalizing remainder with
  | nil => exact List.Forall₂.nil
  | cons pid rest ih =>
      rw [sharePayments, List.map_cons]
      constructor
      · apply each
        · rw [fits.toNat_amount]
          exact Nat.le_add_right _ _
        · exact fits.toNat_amount.le
      · apply ih fits.next
        intro listed amount least most
        apply each listed amount least
        rw [toNat_remainder_sub_extra] at most
        exact most.trans (Nat.add_le_add_left (min_le_min_right 1 (Nat.sub_le _ _)) _)

end Mjae.Core

namespace Mjae.Providers

open Mjae.Arith Mjae.Collections Mjae.Core Mjae.Transition

/-- A window, with what NVML and the host answer when it is billed. -/
structure BilledWindow where
  nvml : Nvml
  startNs : UInt64
  dtMs : UInt64

namespace BilledWindow

def endNs (window : BilledWindow) : UInt64 :=
  window.startNs + window.dtMs * 1000000

/-- Bill the window by its milliseconds. -/
def sampled (window : BilledWindow) : WindowsCall :=
  .sampleWindowEnergy window.nvml window.startNs window.endNs window.dtMs

/-- Bill the window by its nanoseconds, with nothing off for an idle device. -/
def attributed (window : BilledWindow) : WindowsCall :=
  .attributeWindow window.nvml window.startNs window.endNs 0

/-- The end of the window and the energy that it is billed are words. -/
structure Bounded (window : BilledWindow) : Prop where
  ends : window.startNs.toNat + window.dtMs.toNat * 1000000 ≤ U64.maxNat
  fits : ∀ powerMw, WindowsProvider.readPowerMw window.nvml = .ok powerMw →
    powerMw.toNat * window.dtMs.toNat ≤ U64.maxNat

theorem toNat_length {window : BilledWindow} (bounded : window.Bounded) :
    (window.dtMs * 1000000).toNat = window.dtMs.toNat * 1000000 :=
  U64.toNat_mul_of_le ((Nat.le_add_left _ _).trans bounded.ends)

theorem toNat_endNs {window : BilledWindow} (bounded : window.Bounded) :
    window.endNs.toNat = window.startNs.toNat + window.dtMs.toNat * 1000000 := by
  have length_eq := toNat_length bounded
  have ends : window.startNs.toNat + (window.dtMs * 1000000).toNat ≤ U64.maxNat := by
    rw [length_eq]
    exact bounded.ends
  rw [endNs, U64.toNat_add_of_le ends, length_eq]

theorem saturatingSub_endNs {window : BilledWindow} (bounded : window.Bounded) :
    (U64.saturatingSub window.endNs window.startNs).toNat = window.dtMs.toNat * 1000000 := by
  rw [U64.toNat_saturatingSub, toNat_endNs bounded, Nat.add_sub_cancel_left]

/-- Only a window of no time ends where it starts. -/
theorem endNs_eq_startNs_iff {window : BilledWindow} (bounded : window.Bounded) :
    window.endNs = window.startNs ↔ window.dtMs.toNat = 0 := by
  rw [← UInt64.toNat_inj, toNat_endNs bounded]
  omega

end BilledWindow

/-- Two records of one window: the same but for the energy, where the first one is worth
as much as the second, up to the energy of a nanosecond and two microjoules more. -/
structure Near (sampled attributed : PidEnergyAttribution) : Prop where
  same : { sampled with attributedEnergyUj := attributed.attributedEnergyUj } = attributed
  covers : attributed.attributedEnergyUj.toNat ≤ sampled.attributedEnergyUj.toNat
  slack : sampled.attributedEnergyUj.toNat ≤ attributed.attributedEnergyUj.toNat +
    (attributed.burstPowerUw.toNat / 1000000000 + 2)

/-- A record of no power or no time. -/
def blank (record : PidEnergyAttribution) : Bool :=
  record.burstPowerUw == 0 || record.windowEndNs == record.windowStartNs

namespace WindowsProvider

/-- The energy that a sampled window is billed. -/
theorem toNat_windowEnergy {window : BilledWindow} (bounded : window.Bounded)
    {powerMw : UInt32} (read : readPowerMw window.nvml = .ok powerMw) :
    (nvmlWindowEnergyUj powerMw.toUInt64 window.dtMs).toNat =
      powerMw.toNat * window.dtMs.toNat := by
  rw [toNat_nvmlWindowEnergyUj, UInt32.toNat_toUInt64]
  exact min_eq_left (bounded.fits powerMw read)

/-- The energy of one part of it. -/
theorem toNat_attributedEnergy {window : BilledWindow} (bounded : window.Bounded)
    {powerMw : UInt32} (read : readPowerMw window.nvml = .ok powerMw)
    (processes : Vec NvmlProcessInfoV3) :
    (deterministicAttributionUj (microwatts powerMw) 0
        (U64.saturatingSub window.endNs window.startNs / processes.len)
        (U64.saturatingSub window.endNs window.startNs)).toNat =
      powerMw.toNat * (window.dtMs.toNat * 1000000 / processes.toList.length) / 1000000 := by
  have scale (timeNs : Nat) : powerMw.toNat * 1000 * timeNs / 1000000000 =
      powerMw.toNat * timeNs / 1000000 := by
    rw [Nat.mul_right_comm]
    exact Nat.mul_div_mul_right _ 1000000 (by decide : 0 < 1000)
  have whole : powerMw.toNat * (window.dtMs.toNat * 1000000) / 1000000 ≤ U64.maxNat := by
    rw [← Nat.mul_assoc, Nat.mul_div_cancel _ (by decide)]
    exact bounded.fits powerMw read
  rw [toNat_partEnergy, toNat_microwatts, BilledWindow.saturatingSub_endNs bounded]
  · exact scale _
  · rw [toNat_microwatts, BilledWindow.saturatingSub_endNs bounded]
    exact (scale _).trans_le whole

/-- Nothing is taken off for an idle device. -/
theorem saturatingSub_zero (powerUw : UInt64) : U64.saturatingSub powerUw 0 = powerUw := by
  apply UInt64.toNat.inj
  rw [U64.toNat_saturatingSub]
  rfl

/-- The windows that sampling skips are those whose records are blank. -/
theorem blank_burstEntry_iff {window : BilledWindow} (bounded : window.Bounded)
    {powerMw : UInt32} (read : readPowerMw window.nvml = .ok powerMw) (next : WindowsProvider)
    (payment : UInt32 × UInt64) :
    blank (burstEntry next (microwatts powerMw) 0 window.startNs window.endNs payment) ↔
      nvmlWindowEnergyUj powerMw.toUInt64 window.dtMs = 0 := by
  have powerless_iff : microwatts powerMw = 0 ↔ powerMw.toNat = 0 := by
    rw [← UInt64.toNat_inj, toNat_microwatts]
    exact Nat.mul_eq_zero.trans (or_iff_left (by decide))
  rw [blank, burstEntry, saturatingSub_zero, Bool.or_eq_true, beq_iff_eq, beq_iff_eq,
    powerless_iff, BilledWindow.endNs_eq_startNs_iff bounded, ← UInt64.toNat_inj,
    toNat_windowEnergy bounded read]
  exact Nat.mul_eq_zero.symm

/-- They are worth nothing. -/
theorem attributedEnergy_eq_zero {window : BilledWindow} (bounded : window.Bounded)
    {powerMw : UInt32} (read : readPowerMw window.nvml = .ok powerMw)
    (nothing : nvmlWindowEnergyUj powerMw.toUInt64 window.dtMs = 0)
    (processes : Vec NvmlProcessInfoV3) :
    deterministicAttributionUj (microwatts powerMw) 0
      (U64.saturatingSub window.endNs window.startNs / processes.len)
      (U64.saturatingSub window.endNs window.startNs) = 0 := by
  have product_eq := toNat_windowEnergy bounded read
  rw [nothing, eq_comm] at product_eq
  apply UInt64.toNat.inj
  rw [toNat_attributedEnergy bounded read]
  rcases Nat.mul_eq_zero.mp product_eq with powerless | timeless
  · rw [powerless, Nat.zero_mul]
    rfl
  · rw [timeless, Nat.zero_mul, Nat.zero_div, Nat.mul_zero]
    rfl

/-- The records of one window. -/
theorem near_entries {window : BilledWindow} (bounded : window.Bounded) {powerMw : UInt32}
    (read : readPowerMw window.nvml = .ok powerMw) {processes : Vec NvmlProcessInfoV3} (busy : ¬ processes.isEmpty) (next : WindowsProvider) :
    List.Forall₂ Near
      ((windowPayments (nvmlWindowEnergyUj powerMw.toUInt64 window.dtMs) processes).map
        (windowEntry next powerMw window.startNs window.endNs))
      ((burstPayments (microwatts powerMw) 0
        (U64.saturatingSub window.endNs window.startNs) processes).map
        (burstEntry next (microwatts powerMw) 0 window.startNs window.endNs)) := by
  have some_part : 0 < processes.toList.length :=
    Nat.pos_of_ne_zero (Vec.toNat_len processes ▸ Vec.toNat_len_ne_zero busy)
  rw [List.forall₂_map_left_iff, List.forall₂_map_right_iff, burstPayments, windowPayments]
  apply forall₂_sharePayments (sharesFit_div_mod _ _)
  intro pid amount least most
  rw [UInt64.toNat_div, Vec.toNat_len, toNat_windowEnergy bounded read] at least most
  rw [UInt64.toNat_mod, Vec.toNat_len, toNat_windowEnergy bounded read] at most
  have part_eq := toNat_attributedEnergy bounded read processes
  constructor
  · simp [windowEntry, burstEntry, saturatingSub_zero]
  · rw [windowEntry, burstEntry, part_eq]
    exact (rate_mul_part_div_le (by decide) _ _ some_part).trans least
  · have slack := le_rate_mul_part_div_add (by decide : 0 < 1000000) some_part most
    rw [windowEntry, burstEntry, part_eq, saturatingSub_zero, toNat_microwatts, ← Nat.add_assoc]
    rwa [show powerMw.toNat * 1000 / 1000000000 = powerMw.toNat / 1000000 from
      Nat.mul_div_mul_right _ 1000000 (by decide : 0 < 1000)]

/-- The busy state has no part in a process query. -/
theorem sampleComputeProcesses_busyState (policy : GrowthPolicy) (nvml : Nvml)
    (provider : WindowsProvider) (busyState : GpuBusyState) :
    sampleComputeProcesses policy nvml { provider with busyState } =
      (sampleComputeProcesses policy nvml provider).map fun outcome =>
        (outcome.1, { outcome.2 with busyState }) := by
  rw [sampleComputeProcesses, sampleComputeProcesses, Option.map_map]
  rfl

end WindowsProvider

/-! ## Two daemons -/

/-- The records that are not blank. -/
def drawn (records : List PidEnergyAttribution) : List PidEnergyAttribution :=
  records.filter fun record => !blank record

/-- Two daemons with the same provider but for the busy state, which is the same too
unless the last record is blank.  Their records are near one by one, the blank ones aside,
which are worth nothing. -/
structure Alike (sampled attributed : WindowsLedger) : Prop where
  provider : attributed.provider =
    { sampled.provider with busyState := attributed.provider.busyState }
  busyState : (∀ record ∈ attributed.returned.getLast?, ¬ blank record) →
    sampled.provider.busyState = attributed.provider.busyState
  records : List.Forall₂ Near sampled.returned (drawn attributed.returned)
  blanks : ∀ record ∈ attributed.returned, blank record → record.attributedEnergyUj = 0

namespace Alike

open WindowsProvider

/-- A new daemon is like itself. -/
theorem start (provider : WindowsProvider) (registry : AmalgafyRegistry) :
    Alike ⟨provider, registry, []⟩ ⟨provider, registry, []⟩ where
  provider := rfl
  busyState _ := rfl
  records := List.Forall₂.nil
  blanks _ unlisted := absurd unlisted List.not_mem_nil

section Records

variable {sampled attributed : WindowsLedger} {provider other : WindowsProvider}
  {registry otherRegistry : AmalgafyRegistry} {news entries : List PidEnergyAttribution}

/-- A call without records keeps two daemons alike. -/
theorem keep (alike : Alike sampled attributed)
    (provider_eq : other = { provider with busyState := attributed.provider.busyState })
    (busyState_eq : provider.busyState = sampled.provider.busyState) :
    Alike ⟨provider, registry, sampled.returned⟩ ⟨other, otherRegistry, attributed.returned⟩ where
  provider := by
    rw [provider_eq]
  busyState last := by
    rw [provider_eq, busyState_eq]
    exact alike.busyState last
  records := alike.records
  blanks := alike.blanks

/-- So do blank records of one of them. -/
theorem skip (alike : Alike sampled attributed)
    (provider_eq : other = { provider with busyState := other.busyState })
    (nonempty : entries ≠ []) (all_blank : ∀ record ∈ entries, blank record)
    (worthless : ∀ record ∈ entries, record.attributedEnergyUj = 0) :
    Alike ⟨provider, registry, sampled.returned⟩
      ⟨other, otherRegistry, attributed.returned ++ entries⟩ where
  provider := provider_eq
  busyState last := by
    rw [List.getLast?_append_of_ne_nil _ nonempty,
      List.getLast?_eq_some_getLast nonempty] at last
    exact absurd (all_blank _ (List.getLast_mem nonempty)) (last _ rfl)
  records := by
    have none_drawn : entries.filter (fun record => !blank record) = [] := by
      rw [List.filter_eq_nil_iff]
      exact fun record listed => by simp [all_blank record listed]
    rw [drawn, List.filter_append, none_drawn, List.append_nil]
    exact alike.records
  blanks := by
    intro record listed own
    rcases List.mem_append.mp listed with earlier | new
    · exact alike.blanks record earlier own
    · exact worthless record new

/-- And so do near records of both. -/
theorem append (alike : Alike sampled attributed) (near : List.Forall₂ Near news entries)
    (none_blank : ∀ record ∈ entries, ¬ blank record) :
    Alike ⟨provider, registry, sampled.returned ++ news⟩
      ⟨provider, otherRegistry, attributed.returned ++ entries⟩ where
  provider := rfl
  busyState _ := rfl
  records := by
    have all_drawn : entries.filter (fun record => !blank record) = entries := by
      rw [List.filter_eq_self]
      exact fun record listed => by simp [none_blank record listed]
    rw [drawn, List.filter_append, all_drawn]
    exact List.rel_append alike.records near
  blanks := by
    intro record listed own
    rcases List.mem_append.mp listed with earlier | new
    · exact alike.blanks record earlier own
    · exact absurd own (none_blank record new)

end Records

/-- Billing one window keeps two daemons alike, and neither is stopped by it alone. -/
theorem step {policy : GrowthPolicy} {sampled attributed : WindowsLedger} {window : BilledWindow}
    (bounded : window.Bounded) (alike : Alike sampled attributed) :
    Option.Rel Alike (sampled.step policy window.sampled)
      (attributed.step policy window.attributed) := by
  rw [WindowsLedger.step, WindowsLedger.step, BilledWindow.sampled, BilledWindow.attributed,
    WindowsCall.perform, WindowsCall.perform]
  cases read : readPowerMw window.nvml with
  | error message =>
      rw [sampleWindowEnergy, attributeWindow, readPowerUw, read]
      apply Option.Rel.some
      simp only [sealable, List.append_nil]
      exact alike.keep alike.provider rfl
  | ok powerMw =>
      have otherQuery := sampleComputeProcesses_busyState policy window.nvml sampled.provider
        attributed.provider.busyState
      rw [← alike.provider] at otherQuery
      cases query : sampleComputeProcesses policy window.nvml sampled.provider with
      | none =>
          rw [query] at otherQuery
          rw [sampleWindowEnergy, attributeWindow, readPowerUw_eq read, read]
          simp only [query, otherQuery]
          exact Option.Rel.none
      | some answered =>
          rw [query] at otherQuery
          rcases of_sampleComputeProcesses query with ⟨scratch, next_eq⟩
          have busyState_eq : answered.2.busyState = sampled.provider.busyState := by
            rw [next_eq]
          rcases answered with ⟨message | processes, next⟩
          · rw [sampleWindowEnergy, attributeWindow, readPowerUw_eq read, read]
            simp only [query, otherQuery]
            apply Option.Rel.some
            simp only [sealable, List.append_nil]
            exact alike.keep rfl busyState_eq
          · rw [sampleWindowEnergy_eq read query,
              attributeWindow_eq (readPowerUw_eq read) otherQuery]
            by_cases idle : processes.isEmpty
            · rw [if_pos (Or.inl idle), if_pos idle]
              apply Option.Rel.some
              simp only [sealable, List.append_nil]
              exact alike.keep rfl busyState_eq
            · rw [if_neg idle]
              by_cases nothing : nvmlWindowEnergyUj powerMw.toUInt64 window.dtMs = 0
              · rw [if_pos (Or.inr nothing)]
                apply Option.Rel.some
                simp only [sealable, List.append_nil]
                apply alike.skip rfl
                · simp [burstPayments, pidsOf_eq_nil_iff, idle]
                · rw [List.forall_mem_map]
                  exact fun _ _ => (blank_burstEntry_iff bounded read _ _).mpr nothing
                · rw [List.forall_mem_map, burstPayments, List.forall_mem_map]
                  exact fun _ _ => attributedEnergy_eq_zero bounded read nothing processes
              · rw [if_neg (not_or.mpr ⟨idle, nothing⟩)]
                apply Option.Rel.some
                apply alike.append (near_entries bounded read idle next)
                rw [List.forall_mem_map]
                intro _ _ own
                exact nothing ((blank_burstEntry_iff bounded read _ _).mp own)

end Alike

/-- What the records of one list may fall short of those of another. -/
def slackUj (records : List PidEnergyAttribution) : Nat :=
  (records.map fun record => record.burstPowerUw.toNat / 1000000000 + 2).sum

theorem slackUj_cons (record : PidEnergyAttribution) (rest : List PidEnergyAttribution) :
    slackUj (record :: rest) = (record.burstPowerUw.toNat / 1000000000 + 2) + slackUj rest := by
  rw [slackUj, List.map_cons, List.sum_cons, ← slackUj]

theorem Near.pid_eq {sampled attributed : PidEnergyAttribution} (near : Near sampled attributed) :
    sampled.pid = attributed.pid := by
  rw [← near.same]

theorem map_pid_eq {sampled attributed : List PidEnergyAttribution}
    (records : List.Forall₂ Near sampled attributed) :
    sampled.map PidEnergyAttribution.pid = attributed.map PidEnergyAttribution.pid := by
  induction records with
  | nil => rfl
  | cons near _ ih => rw [List.map_cons, List.map_cons, near.pid_eq, ih]

theorem paidTo_near (pid : UInt32) {sampled attributed : List PidEnergyAttribution}
    (records : List.Forall₂ Near sampled attributed) :
    paidTo pid (attributed.map PidEnergyAttribution.payment) ≤
        paidTo pid (sampled.map PidEnergyAttribution.payment) ∧
      paidTo pid (sampled.map PidEnergyAttribution.payment) ≤
        paidTo pid (attributed.map PidEnergyAttribution.payment) +
          slackUj (attributed.filter fun record => record.pid = pid) := by
  induction records with
  | nil => exact ⟨Nat.le_refl _, Nat.le_refl _⟩
  | @cons first second _ _ near _ ih =>
      have covers := near.covers
      have slack := near.slack
      rw [List.map_cons, List.map_cons, paidTo_cons, paidTo_cons, PidEnergyAttribution.payment,
        PidEnergyAttribution.payment, near.pid_eq, List.filter_cons]
      by_cases own : second.pid = pid
      · simp only [own, if_true, decide_true, slackUj_cons]
        omega
      · simpa [own] using ih

theorem paidTotal_near {sampled attributed : List PidEnergyAttribution}
    (records : List.Forall₂ Near sampled attributed) :
    paidTotal (attributed.map PidEnergyAttribution.payment) ≤
        paidTotal (sampled.map PidEnergyAttribution.payment) ∧
      paidTotal (sampled.map PidEnergyAttribution.payment) ≤
        paidTotal (attributed.map PidEnergyAttribution.payment) + slackUj attributed := by
  induction records with
  | nil => exact ⟨Nat.le_refl _, Nat.le_refl _⟩
  | cons near _ ih =>
      have covers := near.covers
      have slack := near.slack
      rw [List.map_cons, List.map_cons, paidTotal_cons, paidTotal_cons, slackUj_cons,
        PidEnergyAttribution.payment, PidEnergyAttribution.payment]
      dsimp only
      omega

/-- Records that are worth nothing pay nothing. -/
theorem paid_drawn {records : List PidEnergyAttribution}
    (worthless : ∀ record ∈ records, blank record → record.attributedEnergyUj = 0) :
    (∀ pid, paidTo pid ((drawn records).map PidEnergyAttribution.payment) =
        paidTo pid (records.map PidEnergyAttribution.payment)) ∧
      paidTotal ((drawn records).map PidEnergyAttribution.payment) =
        paidTotal (records.map PidEnergyAttribution.payment) := by
  induction records with
  | nil => exact ⟨fun _ => rfl, rfl⟩
  | cons record rest ih =>
      rw [List.forall_mem_cons] at worthless
      rcases ih worthless.2 with ⟨each, all⟩
      rw [drawn] at each all
      simp only [drawn, List.filter_cons, List.map_cons, paidTo_cons, paidTotal_cons]
      by_cases own : blank record
      · have nothing : (PidEnergyAttribution.payment record).2.toNat = 0 := by
          rw [PidEnergyAttribution.payment, worthless.1 own]
          rfl
        simp [own, nothing, each, all]
      · simp [own, each, all, paidTo_cons, paidTotal_cons]

/-- Two daemons whose registries differ by no more than their records may.  The one that
attributes has registered the processes of blank records too. -/
structure Agree (sampled attributed : WindowsLedger) : Prop where
  alike : Alike sampled attributed
  registered : ∀ pid, (attributed.registry.get pid).isSome ↔
    (sampled.registry.get pid).isSome ∨
      ∃ record ∈ attributed.returned, record.pid = pid ∧ blank record
  slots : ∀ pid,
    (attributed.registry.slot pid).toNat ≤ (sampled.registry.slot pid).toNat ∧
      (sampled.registry.slot pid).toNat ≤ (attributed.registry.slot pid).toNat +
        slackUj ((drawn attributed.returned).filter fun record => record.pid = pid)
  total :
    attributed.registry.totalMicroJoules.toNat ≤ sampled.registry.totalMicroJoules.toNat ∧
      sampled.registry.totalMicroJoules.toNat ≤
        attributed.registry.totalMicroJoules.toNat + slackUj (drawn attributed.returned)

theorem WindowsLedger.balanced_of_run {policy : GrowthPolicy} {provider : WindowsProvider}
    {calls : List WindowsCall} {ledger : WindowsLedger}
    (reached : run (WindowsLedger.step policy) ⟨provider, AmalgafyRegistry.new, []⟩ calls =
      some ledger) : ledger.Balanced :=
  run_induction (fun _ state => state.Balanced) (balanced_new provider)
    (fun _ _ _ _ _ before stepped => before.step stepped) reached

/-- The processes of the records are those of the drawn and the blank ones. -/
theorem mem_map_pid_iff {records : List PidEnergyAttribution} {pid : UInt32} :
    pid ∈ records.map PidEnergyAttribution.pid ↔
      pid ∈ (drawn records).map PidEnergyAttribution.pid ∨
        ∃ record ∈ records, record.pid = pid ∧ blank record := by
  simp only [drawn, List.mem_map, List.mem_filter, Bool.not_eq_true']
  constructor
  · rintro ⟨record, listed, own⟩
    cases kind : blank record with
    | false => exact Or.inl ⟨record, ⟨listed, kind⟩, own⟩
    | true => exact Or.inr ⟨record, listed, own, kind⟩
  · rintro (⟨record, ⟨listed, -⟩, own⟩ | ⟨record, listed, own, -⟩)
    · exact ⟨record, listed, own⟩
    · exact ⟨record, listed, own⟩

theorem Alike.agree {sampled attributed : WindowsLedger} (alike : Alike sampled attributed)
    (balanced : sampled.Balanced) (otherBalanced : attributed.Balanced) :
    Agree sampled attributed := by
  have registry_eq := balanced.accounts.eq_addAll
  have other_eq := otherBalanced.accounts.eq_addAll
  rcases paid_drawn alike.blanks with ⟨paidTo_eq, paidTotal_eq⟩
  constructor
  · exact alike
  · intro pid
    have unregistered : ¬ (AmalgafyRegistry.new.get pid).isSome := by
      rw [AmalgafyRegistry.get_new]
      exact Bool.false_ne_true
    rw [registry_eq, other_eq, AmalgafyRegistry.isSome_get_addAll,
      AmalgafyRegistry.isSome_get_addAll, List.map_map, List.map_map, or_iff_right unregistered,
      or_iff_right unregistered]
    have pids_eq := map_pid_eq alike.records
    change pid ∈ attributed.returned.map PidEnergyAttribution.pid ↔
      pid ∈ sampled.returned.map PidEnergyAttribution.pid ∨ _
    rw [pids_eq]
    exact mem_map_pid_iff
  · intro pid
    rw [registry_eq, other_eq, AmalgafyRegistry.toNat_slot_addAll,
      AmalgafyRegistry.toNat_slot_addAll, ← paidTo_eq]
    exact near_of_min_add (paidTo_near pid alike.records) _ _
  · rw [registry_eq, other_eq, AmalgafyRegistry.toNat_totalMicroJoules_addAll,
      AmalgafyRegistry.toNat_totalMicroJoules_addAll, ← paidTotal_eq]
    exact near_of_min_add (paidTotal_near alike.records) _ _

namespace WindowsProvider

/-- Over every run of windows whose ends and energies are words, with any NVML answers,
the two ways of billing them go equally far.  Wherever one daemon gets, the other one gets
with the same provider, busy state aside, the same records up to their roundings and the
same processes in the registry, except that attributing a window of no power or no time
leaves blank records and registers their processes.  Attributing never registers more
energy than sampling, for any process and in total, and at most the roundings of its
records less. -/
theorem windows_agree (policy : GrowthPolicy) (provider : WindowsProvider)
    (windows : List BilledWindow) (bounded : ∀ window ∈ windows, window.Bounded) :
    Option.Rel Agree
      (run (WindowsLedger.step policy) ⟨provider, AmalgafyRegistry.new, []⟩
        (windows.map BilledWindow.sampled))
      (run (WindowsLedger.step policy) ⟨provider, AmalgafyRegistry.new, []⟩
        (windows.map BilledWindow.attributed)) := by
  have kept : ∀ window ∈ windows, ∀ sampled attributed, Alike sampled attributed →
      Option.Rel Alike (sampled.step policy window.sampled)
        (attributed.step policy window.attributed) :=
    fun window listed _ _ alike => alike.step (bounded window listed)
  apply rel_imp (run_rel kept (Alike.start provider AmalgafyRegistry.new))
  intro sampled attributed reached otherReached alike
  exact alike.agree (WindowsLedger.balanced_of_run reached)
    (WindowsLedger.balanced_of_run otherReached)

/-- Two processes share ten milliseconds, the next reading fails, three processes share a
window that cannot be divided, and the device draws no power for process 5. -/
theorem windows_agree_shared :
    let windows : List BilledWindow := [
      ⟨drawing 250000 [computeProcess 7, computeProcess 9] (by decide), 0, 10⟩,
      ⟨⟨.error "GPU is lost", [], none⟩, 10000000, 10⟩,
      ⟨drawing 300001 [computeProcess 7, computeProcess 8, computeProcess 7] (by decide),
        20000000, 100⟩,
      ⟨drawing 0 [computeProcess 5] (by decide), 120000000, 10⟩]
    ∃ sampled attributed,
      run (WindowsLedger.step GrowthPolicy.tight) ⟨serialProvider, AmalgafyRegistry.new, []⟩
          (windows.map BilledWindow.sampled) = some sampled ∧
        run (WindowsLedger.step GrowthPolicy.tight) ⟨serialProvider, AmalgafyRegistry.new, []⟩
          (windows.map BilledWindow.attributed) = some attributed ∧
        Agree sampled attributed := by
  intro windows
  have agree := windows_agree GrowthPolicy.tight serialProvider windows (by
    simp only [windows, List.forall_mem_cons]
    refine ⟨⟨by decide, ?_⟩, ⟨by decide, ?_⟩, ⟨by decide, ?_⟩, ⟨by decide, ?_⟩, ?_⟩
    · rintro _ ⟨⟩
      decide
    · rintro _ ⟨⟩
    · rintro _ ⟨⟩
      decide
    · rintro _ ⟨⟩
      decide
    · exact fun _ unlisted => absurd unlisted List.not_mem_nil)
  refine ⟨_, _, rfl, rfl, ?_⟩
  cases (agree : Option.Rel Agree (some _) (some _))
  assumption

end WindowsProvider

end Mjae.Providers
