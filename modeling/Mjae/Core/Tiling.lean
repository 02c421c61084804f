import Mathlib.Algebra.Order.BigOperators.Group.List
import Mjae.Arith.Floor
import Mjae.Core.Ledger

/-!
# Windows of one process

A process may be attributed an interval at once or window by window.  The windows
are never worth more than their exact energy, and fall short of it by less than a
microjoule for every window but one, as long as the sub-second product of each
stays within its word.
-/

namespace Mjae.Core

open Mjae.Arith

/-- A window of a process, at the powers of a snapshot. -/
structure Window where
  windowStartNs : UInt64
  windowEndNs : UInt64
  snapshot : PowerSnapshot

namespace Window

def burstPowerUw (window : Window) : UInt64 :=
  baselineBurstPowerUw window.snapshot.activePowerUw window.snapshot.idlePowerUw

/-- The record of the window, for process `pid`. -/
def record (pid : UInt32) (window : Window) : PidEnergyAttribution :=
  .baselineBurst pid window.windowStartNs window.windowEndNs window.snapshot

/-- What the window is billed, whoever it is billed to. -/
def energyUj (window : Window) : UInt64 :=
  windowEnergyUj window.burstPowerUw
    (U64.saturatingSub window.windowEndNs window.windowStartNs)

/-- Exact energy of the window, in microwatts times nanoseconds. -/
def work (window : Window) : Nat :=
  window.burstPowerUw.toNat * (window.windowEndNs.toNat - window.windowStartNs.toNat)

/-- No sub-second part of the window leaves its word. -/
def Moderate (window : Window) : Prop :=
  window.burstPowerUw.toNat * 999999999 ≤ U64.maxNat

@[simp]
theorem record_payment (pid : UInt32) (window : Window) :
    (window.record pid).payment = (pid, window.energyUj) :=
  rfl

theorem toNat_energyUj_le (window : Window) :
    window.energyUj.toNat ≤ window.work / 1000000000 := by
  have most := windowEnergyUj_le window.burstPowerUw
    (U64.saturatingSub window.windowEndNs window.windowStartNs)
  rwa [U64.toNat_saturatingSub] at most

theorem Moderate.toNat_energyUj {window : Window} (moderate : window.Moderate) :
    window.energyUj.toNat = min (window.work / 1000000000) U64.maxNat := by
  have fits : window.burstPowerUw.toNat *
      ((U64.saturatingSub window.windowEndNs window.windowStartNs).toNat % 1000000000) ≤
      U64.maxNat := by
    apply (Nat.mul_le_mul_left _ _).trans moderate
    exact Nat.le_of_lt_succ (Nat.mod_lt _ (by simp))
  have exact_eq := windowEnergyUj_eq_of_fits fits
  rwa [U64.toNat_saturatingSub] at exact_eq

/-- Windows never sum to more than their exact energy. -/
theorem sum_toNat_energyUj_le (windows : List Window) :
    (windows.map fun window => window.energyUj.toNat).sum ≤
      (windows.map work).sum / 1000000000 := by
  calc
    _ ≤ (windows.map fun window => window.work / 1000000000).sum :=
      List.sum_le_sum fun window _ => window.toNat_energyUj_le
    _ = ((windows.map work).map (· / 1000000000)).sum := by simp [Function.comp_def]
    _ ≤ _ := sum_map_div_le _ _

/-- The rounding of moderate windows loses less than a microjoule for each but one. -/
theorem min_work_le_min_sum_add {windows : List Window}
    (moderate : ∀ window ∈ windows, window.Moderate) (baseUj : Nat) :
    min (baseUj + (windows.map work).sum / 1000000000) U64.maxNat ≤
      min (baseUj + (windows.map fun window => window.energyUj.toNat).sum) U64.maxNat +
        (windows.length - 1) := by
  have capped : (windows.map fun window => window.energyUj.toNat) =
      ((windows.map work).map (· / 1000000000)).map (min · U64.maxNat) := by
    rw [List.map_map, List.map_map]
    apply List.map_congr_left
    intro window listed
    exact (moderate window listed).toNat_energyUj
  have lost : (windows.map work).sum / 1000000000 ≤
      ((windows.map work).map (· / 1000000000)).sum + (windows.length - 1) := by
    cases windows with
    | nil => simp
    | cons window rest =>
        have most := sum_div_le_add_length 1000000000 ((window :: rest).map work) (by simp)
        rwa [List.length_map] at most
  have uncapped : min (baseUj + (windows.map fun window => window.energyUj.toNat).sum)
      U64.maxNat =
      min (baseUj + ((windows.map work).map (· / 1000000000)).sum) U64.maxNat := by
    rw [capped, Nat.add_comm, ← min_min_add, min_sum_map_min, min_min_add, Nat.add_comm]
  rw [uncapped]
  omega

/-! ## Tiles of an interval -/

/-- The windows from `startNs` through the stamps, all at one snapshot. -/
def tiles (snapshot : PowerSnapshot) : UInt64 → List UInt64 → List Window
  | _, [] => []
  | startNs, endNs :: rest => ⟨startNs, endNs, snapshot⟩ :: tiles snapshot endNs rest

@[simp]
theorem length_tiles (snapshot : PowerSnapshot) (startNs : UInt64) (stamps : List UInt64) :
    (tiles snapshot startNs stamps).length = stamps.length := by
  induction stamps generalizing startNs with
  | nil => rfl
  | cons endNs rest ih => simp [tiles, ih]

theorem snapshot_of_mem_tiles {snapshot : PowerSnapshot} {startNs : UInt64}
    {stamps : List UInt64} {window : Window} (tile : window ∈ tiles snapshot startNs stamps) :
    window.snapshot = snapshot := by
  induction stamps generalizing startNs with
  | nil => simp [tiles] at tile
  | cons endNs rest ih =>
      rw [tiles, List.mem_cons] at tile
      rcases tile with rfl | later
      · rfl
      · exact ih later

/-- Tiles at ascending stamps do the work of the whole interval. -/
theorem sum_work_tiles {snapshot : PowerSnapshot} {startNs : UInt64} {stamps : List UInt64}
    (ascending : (startNs :: stamps).IsChain (· ≤ ·)) :
    ((tiles snapshot startNs stamps).map work).sum =
      work ⟨startNs, stamps.getLastD startNs, snapshot⟩ := by
  have telescope : startNs ≤ stamps.getLastD startNs ∧
      ((tiles snapshot startNs stamps).map work).sum =
        work ⟨startNs, stamps.getLastD startNs, snapshot⟩ := by
    induction stamps generalizing startNs with
    | nil => simp [tiles, work]
    | cons endNs rest ih =>
        rw [List.isChain_cons_cons] at ascending
        obtain ⟨following, rest_eq⟩ := ih ascending.2
        have first := UInt64.le_iff_toNat_le.mp ascending.1
        have second := UInt64.le_iff_toNat_le.mp following
        rw [List.getLastD_cons]
        constructor
        · exact UInt64.le_trans ascending.1 following
        · rw [tiles, List.map_cons, List.sum_cons, rest_eq]
          simp only [work, burstPowerUw]
          rw [← Nat.mul_add]
          congr 1
          omega
  exact telescope.2

end Window

end Mjae.Core
