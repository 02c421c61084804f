import Mjae.Core.Tiling
import Mjae.Providers.Drain

/-!
# Billing windows by snapshot

A daemon attributes windows of its processes at the powers of a snapshot, queues the
records that it gets, and syncs now and then.  Whatever the order of the calls, a
process is billed for its own windows only, and never more than their exact energy.
-/

namespace Mjae.Daemon

open Mjae.Arith Mjae.Core Mjae.Providers

/-- The part of the provider contract that is about windows. -/
class WindowProvider (σ : Type) (ω : outParam Type) extends DrainProvider σ ω where
  attributeJoulesToPid : σ → UInt32 → UInt64 → UInt64 → PowerSnapshot →
    Except String PidEnergyAttribution
  enqueueAttribution : σ → PidEnergyAttribution → σ
  /-- Whether the provider bills at this snapshot. -/
  accepts : σ → PowerSnapshot → Bool
  ok_of_accepts : ∀ (provider : σ) (pid : UInt32) (window : Window),
    accepts provider window.snapshot = true →
      attributeJoulesToPid provider pid window.windowStartNs window.windowEndNs
        window.snapshot = .ok (window.record pid)
  error_of_not_accepts : ∀ (provider : σ) (pid : UInt32) (window : Window),
    accepts provider window.snapshot = false → ∃ message,
      attributeJoulesToPid provider pid window.windowStartNs window.windowEndNs
        window.snapshot = .error message
  pending_enqueueAttribution : ∀ (provider : σ) (attribution : PidEnergyAttribution),
    pending (enqueueAttribution provider attribution) = pending provider ++ [attribution]
  accepts_enqueueAttribution : ∀ (provider : σ) (attribution : PidEnergyAttribution),
    accepts (enqueueAttribution provider attribution) = accepts provider
  accepts_drained : ∀ provider : σ, accepts (drained provider) = accepts provider

instance : WindowProvider LinuxProvider LinuxCall where
  attributeJoulesToPid := LinuxProvider.attributeJoulesToPid
  enqueueAttribution := LinuxProvider.enqueueAttribution
  accepts _ _ := true
  ok_of_accepts _ _ _ _ := rfl
  error_of_not_accepts _ _ _ refused := absurd refused (by simp)
  pending_enqueueAttribution _ _ := rfl
  accepts_enqueueAttribution _ _ := rfl
  accepts_drained _ := rfl

instance : WindowProvider WindowsProvider PidEnergyAttribution where
  attributeJoulesToPid := WindowsProvider.attributeJoulesToPid
  enqueueAttribution := WindowsProvider.enqueueAttribution
  accepts _ _ := true
  ok_of_accepts _ _ _ _ := rfl
  error_of_not_accepts _ _ _ refused := absurd refused (by simp)
  pending_enqueueAttribution _ _ := rfl
  accepts_enqueueAttribution _ _ := rfl
  accepts_drained _ := rfl

instance : WindowProvider AppleSiliconProvider PidEnergyAttribution where
  attributeJoulesToPid := AppleSiliconProvider.attributeJoulesToPid
  enqueueAttribution := AppleSiliconProvider.enqueueAttribution
  accepts provider snapshot := snapshot.hardwareSignature = provider.hardwareSignature
  ok_of_accepts _ _ _ own := by
    rw [AppleSiliconProvider.attributeJoulesToPid, if_neg (by simpa using own)]
    rfl
  error_of_not_accepts _ _ _ foreign := by
    rw [AppleSiliconProvider.attributeJoulesToPid, if_pos (by simpa using foreign)]
    exact ⟨_, rfl⟩
  pending_enqueueAttribution _ _ := rfl
  accepts_enqueueAttribution _ _ := rfl
  accepts_drained _ := rfl

/-- A call of a daemon that bills by snapshot. -/
inductive BillingCall
  | attributeJoulesToPid (pid : UInt32) (window : Window)
  | syncRegistry

variable {σ ω : Type} [WindowProvider σ ω]

/-- What a call makes of provider and registry; a refused window is dropped. -/
def bill (state : DrainState σ) : BillingCall → DrainState σ
  | .attributeJoulesToPid pid window =>
      match WindowProvider.attributeJoulesToPid state.provider pid window.windowStartNs
        window.windowEndNs window.snapshot with
      | .ok attribution =>
          { state with
            provider := WindowProvider.enqueueAttribution state.provider attribution }
      | .error _ => state
  | .syncRegistry => state.apply DrainCall.syncRegistry

/-- The registry of the daemon once it has made its calls and a last sync. -/
def settledRegistry (state : DrainState σ) (calls : List BillingCall) : AmalgafyRegistry :=
  ((calls.foldl bill state).apply DrainCall.syncRegistry).registry

/-- The window that a call bills, and the process it is billed to. -/
def BillingCall.billed (provider : σ) : BillingCall → Option (UInt32 × Window)
  | .attributeJoulesToPid pid window =>
      if WindowProvider.accepts provider window.snapshot then some (pid, window) else none
  | .syncRegistry => none

/-- The windows that the calls bill to `pid`, in their order. -/
def windowsOf (provider : σ) (pid : UInt32) (calls : List BillingCall) : List Window :=
  ((calls.filterMap (BillingCall.billed provider)).filter (·.1 = pid)).map Prod.snd

/-! ## One call -/

/-- What the registry would be after a sync right now. -/
def synced (state : DrainState σ) : AmalgafyRegistry :=
  (DrainProvider.pending state.provider).foldl AmalgafyRegistry.post state.registry

theorem settledRegistry_eq (state : DrainState σ) (calls : List BillingCall) :
    settledRegistry state calls = synced (calls.foldl bill state) := by
  rw [settledRegistry, DrainState.apply_syncRegistry, synced]

theorem accepts_bill (state : DrainState σ) (call : BillingCall) :
    WindowProvider.accepts (bill state call).provider =
      WindowProvider.accepts state.provider := by
  cases call with
  | attributeJoulesToPid pid window =>
      rw [bill]
      split
      · exact WindowProvider.accepts_enqueueAttribution _ _
      · rfl
  | syncRegistry =>
      rw [bill, DrainState.apply_syncRegistry]
      exact WindowProvider.accepts_drained _

theorem billed_bill (state : DrainState σ) (call : BillingCall) :
    BillingCall.billed (bill state call).provider = BillingCall.billed state.provider := by
  funext next
  cases next <;> simp [BillingCall.billed, accepts_bill]

/-- A billed window waits for the next sync; nothing else changes what a sync leaves. -/
theorem synced_bill (state : DrainState σ) (call : BillingCall) :
    synced (bill state call) = (synced state).addAll
      ((call.billed state.provider).toList.map fun billed => (billed.1, billed.2.energyUj)) := by
  cases call with
  | attributeJoulesToPid pid window =>
      rw [bill, BillingCall.billed]
      by_cases own : WindowProvider.accepts state.provider window.snapshot = true
      · rw [WindowProvider.ok_of_accepts _ pid _ own, if_pos own]
        dsimp only
        rw [synced, WindowProvider.pending_enqueueAttribution, List.foldl_append]
        rfl
      · rw [Bool.not_eq_true] at own
        obtain ⟨message, refused⟩ := WindowProvider.error_of_not_accepts _ pid _ own
        rw [refused, own]
        rfl
  | syncRegistry =>
      rw [bill, DrainState.apply_syncRegistry, synced, DrainProvider.pending_drained]
      rfl

/-! ## A run of calls -/

/-- In the end every billed window is added once, and nothing else is. -/
theorem synced_foldl_bill (state : DrainState σ) (calls : List BillingCall) :
    synced (calls.foldl bill state) = (synced state).addAll
      ((calls.filterMap (BillingCall.billed state.provider)).map
        fun billed => (billed.1, billed.2.energyUj)) := by
  induction calls generalizing state with
  | nil => rfl
  | cons call rest ih =>
      rw [List.foldl_cons, ih, synced_bill, billed_bill, ← AmalgafyRegistry.addAll_append,
        ← List.map_append]
      congr 2
      cases billed : call.billed state.provider <;> simp [billed]

/-- A process is paid for its own windows. -/
theorem paidTo_billed (pid : UInt32) (billed : List (UInt32 × Window)) :
    paidTo pid (billed.map fun entry => (entry.1, entry.2.energyUj)) =
      (((billed.filter (·.1 = pid)).map Prod.snd).map fun window =>
        window.energyUj.toNat).sum := by
  induction billed with
  | nil => rfl
  | cons entry rest ih =>
      rw [List.map_cons, paidTo_cons, ih]
      by_cases own : entry.1 = pid
      · simp [own]
      · simp [own]

theorem toNat_slot_settledRegistry (state : DrainState σ) (calls : List BillingCall)
    (pid : UInt32) :
    ((settledRegistry state calls).slot pid).toNat =
      min (((settledRegistry state []).slot pid).toNat +
        ((windowsOf state.provider pid calls).map fun window => window.energyUj.toNat).sum)
        U64.maxNat := by
  rw [settledRegistry_eq, settledRegistry_eq, synced_foldl_bill,
    AmalgafyRegistry.toNat_slot_addAll, paidTo_billed]
  rfl

theorem accepts_of_mem_windowsOf {provider : σ} {pid : UInt32} {calls : List BillingCall}
    {window : Window} (listed : window ∈ windowsOf provider pid calls) :
    WindowProvider.accepts provider window.snapshot = true := by
  simp only [windowsOf, List.mem_map, List.mem_filter, List.mem_filterMap] at listed
  obtain ⟨⟨payer, billed⟩, ⟨⟨call, _, bills⟩, _⟩, rfl⟩ := listed
  cases call with
  | attributeJoulesToPid other window =>
      rw [BillingCall.billed, Option.ite_none_right_eq_some] at bills
      obtain ⟨own, same⟩ := bills
      cases same
      exact own
  | syncRegistry => simp [BillingCall.billed] at bills

/-- The bill for a whole interval, at a snapshot that its tiles were billed at. -/
theorem toNat_slot_settledRegistry_whole (state : DrainState σ) (pid : UInt32)
    {calls : List BillingCall} {whole : Window} {stamps : List UInt64}
    (last : stamps.getLastD whole.windowStartNs = whole.windowEndNs)
    (tiled : windowsOf state.provider pid calls =
      Window.tiles whole.snapshot whole.windowStartNs stamps) :
    ((settledRegistry state [.attributeJoulesToPid pid whole]).slot pid).toNat =
      min (((settledRegistry state []).slot pid).toNat + whole.energyUj.toNat) U64.maxNat := by
  rw [toNat_slot_settledRegistry, windowsOf, List.filterMap_cons, BillingCall.billed]
  cases own : WindowProvider.accepts state.provider whole.snapshot with
  | true => simp
  | false =>
      cases stamps with
      | nil =>
          have empty : whole.energyUj = 0 := by
            apply UInt64.toNat.inj
            have most := whole.toNat_energyUj_le
            rw [List.getLastD_nil] at last
            simpa [Window.work, last] using most
          simp [empty]
      | cons endNs rest =>
          have billed : ⟨whole.windowStartNs, endNs, whole.snapshot⟩ ∈
              windowsOf state.provider pid calls := by
            rw [tiled]
            exact List.mem_cons_self
          have accepted := accepts_of_mem_windowsOf billed
          rw [own] at accepted
          contradiction

/-- Whatever the order of calls and syncs, a process is billed at most the exact energy
of its own accepted windows.  Moderate windows fall short of it by less than a microjoule
for each but one, and so does a tiling of the one bill for the whole interval. -/
theorem slot_settledRegistry (state : DrainState σ) (calls : List BillingCall) (pid : UInt32) :
    ((settledRegistry state calls).slot pid).toNat ≤
        ((settledRegistry state []).slot pid).toNat +
          ((windowsOf state.provider pid calls).map Window.work).sum / 1000000000 ∧
      ((∀ window ∈ windowsOf state.provider pid calls, window.Moderate) →
        min (((settledRegistry state []).slot pid).toNat +
            ((windowsOf state.provider pid calls).map Window.work).sum / 1000000000)
            U64.maxNat ≤
          ((settledRegistry state calls).slot pid).toNat +
            ((windowsOf state.provider pid calls).length - 1)) ∧
      ∀ whole : Window, whole.Moderate → ∀ stamps : List UInt64,
        (whole.windowStartNs :: stamps).IsChain (· ≤ ·) →
        stamps.getLastD whole.windowStartNs = whole.windowEndNs →
        windowsOf state.provider pid calls =
          Window.tiles whole.snapshot whole.windowStartNs stamps →
        (settledRegistry state calls).slot pid ≤
            (settledRegistry state
              [.attributeJoulesToPid pid whole]).slot pid ∧
          ((settledRegistry state [.attributeJoulesToPid pid whole]).slot pid).toNat ≤
            ((settledRegistry state calls).slot pid).toNat + (stamps.length - 1) := by
  have first := toNat_slot_settledRegistry state calls pid
  have energies := Window.sum_toNat_energyUj_le (windowsOf state.provider pid calls)
  refine ⟨?_, ?_, ?_⟩
  · rw [first]
    exact (min_le_left _ _).trans (Nat.add_le_add_left energies _)
  · intro moderate
    rw [first]
    exact Window.min_work_le_min_sum_add moderate _
  · intro whole moderate stamps ascending last tiled
    have work_eq : ((windowsOf state.provider pid calls).map Window.work).sum = whole.work := by
      rw [tiled, Window.sum_work_tiles ascending, last]
    have tiles_moderate : ∀ window ∈ windowsOf state.provider pid calls, window.Moderate := by
      intro window listed
      rw [tiled] at listed
      rw [Window.Moderate, Window.burstPowerUw, Window.snapshot_of_mem_tiles listed]
      exact moderate
    have at_once := toNat_slot_settledRegistry_whole state pid last tiled
    rw [moderate.toNat_energyUj, Nat.add_comm, min_min_add, Nat.add_comm] at at_once
    have near := Window.min_work_le_min_sum_add tiles_moderate
      ((settledRegistry state []).slot pid).toNat
    rw [← first, work_eq, tiled, Window.length_tiles, ← at_once] at near
    rw [work_eq] at energies
    rw [UInt64.le_iff_toNat_le, at_once, first]
    constructor
    · exact min_le_min_right _ (Nat.add_le_add_left energies _)
    · rwa [at_once, first] at near

/-- Five and a half watts above idle, on the machine of that name. -/
def snapshotOf (hardwareSignature : String) : PowerSnapshot :=
  ⟨0, 3000000, 8500000, 0, 0, 8500000, hardwareSignature⟩

/-- Two tiles before a sync and one after it, among a window of another process and one
at the snapshot of another machine. -/
def tiledCalls : List BillingCall :=
  [.attributeJoulesToPid 7 ⟨0, 1500000001, snapshotOf "C02XK"⟩,
    .attributeJoulesToPid 8 ⟨0, 1500000001, snapshotOf "C02XK"⟩,
    .attributeJoulesToPid 7 ⟨1500000001, 1500000002, snapshotOf "C02XK"⟩,
    .syncRegistry,
    .attributeJoulesToPid 7 ⟨0, 3000000000, snapshotOf "D25YL"⟩,
    .attributeJoulesToPid 7 ⟨1500000002, 3000000000, snapshotOf "C02XK"⟩]

theorem slot_settledRegistry_tiledCalls :
    (settledRegistry ⟨AppleSiliconProvider.new "C02XK", AmalgafyRegistry.new, []⟩
        tiledCalls).slot 7 ≤
      (settledRegistry ⟨AppleSiliconProvider.new "C02XK", AmalgafyRegistry.new, []⟩
        [.attributeJoulesToPid 7 ⟨0, 3000000000, snapshotOf "C02XK"⟩]).slot 7 :=
  ((slot_settledRegistry ⟨AppleSiliconProvider.new "C02XK", AmalgafyRegistry.new, []⟩
    tiledCalls 7).2.2 ⟨0, 3000000000, snapshotOf "C02XK"⟩
    (by rw [Window.Moderate]; decide) [1500000001, 1500000002, 3000000000] (by simp) rfl rfl).1

end Mjae.Daemon
