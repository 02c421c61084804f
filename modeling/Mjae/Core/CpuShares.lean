import Mathlib.Algebra.BigOperators.Ring.List
import Mathlib.Algebra.Order.BigOperators.Group.List
import Mjae.Arith.Floor
import Mjae.Arith.Word

/-!
# Shares by CPU time

Without accelerator activity the energy of a window is divided by CPU time.  A share is
given in millionths of the window, and one that claims more counts as the whole.
-/

namespace Mjae.Core

open Mjae.Arith

def raplFallbackUj (raplUjDelta : UInt64) (cpuShareMicros : UInt32) : UInt64 :=
  let share := (min cpuShareMicros 1000000).toUInt64
  -- the product is taken in 128 bits, where it cannot overflow
  let scaled := raplUjDelta.toNat * share.toNat
  U64.clamp (scaled / 1000000)

/-- The millionths that a share counts for. -/
def countedMicros (cpuShareMicros : UInt32) : Nat :=
  min cpuShareMicros.toNat 1000000

/-- A part of a word is a word. -/
theorem toNat_raplFallbackUj (raplUjDelta : UInt64) (cpuShareMicros : UInt32) :
    (raplFallbackUj raplUjDelta cpuShareMicros).toNat =
      raplUjDelta.toNat * countedMicros cpuShareMicros / 1000000 := by
  have share_eq : (min cpuShareMicros 1000000).toUInt64.toNat = countedMicros cpuShareMicros := by
    rw [UInt32.toNat_toUInt64, UInt32.toNat_min]
    rfl
  rw [raplFallbackUj, share_eq, U64.toNat_clamp, min_eq_left]
  apply (U64.toNat_le_maxNat raplUjDelta).trans'
  apply Nat.div_le_of_le_mul
  rw [Nat.mul_comm 1000000]
  exact Nat.mul_le_mul_left _ (min_le_right _ _)

/-- The parts of one window. -/
def fallbackTotal (window : UInt64 × List UInt32) : Nat :=
  (window.2.map fun share => (raplFallbackUj window.1 share).toNat).sum

/-- The millionths of one window that are given away. -/
def countedTotal (window : UInt64 × List UInt32) : Nat :=
  (window.2.map countedMicros).sum

theorem fallbackTotal_le (window : UInt64 × List UInt32) :
    fallbackTotal window ≤ window.1.toNat * countedTotal window / 1000000 := by
  have floors := sum_map_div_le 1000000
    (window.2.map fun share => window.1.toNat * countedMicros share)
  rw [List.map_map, List.sum_map_mul_left] at floors
  simpa only [fallbackTotal, countedTotal, toNat_raplFallbackUj, Function.comp_def] using floors

theorem le_fallbackTotal_add {window : UInt64 × List UInt32} (shared : window.2 ≠ []) :
    window.1.toNat * countedTotal window / 1000000 ≤
      fallbackTotal window + (window.2.length - 1) := by
  have lost := sum_div_le_add_length 1000000
    (window.2.map fun share => window.1.toNat * countedMicros share) (by simpa using shared)
  rw [List.map_map, List.sum_map_mul_left, List.length_map] at lost
  simpa only [fallbackTotal, countedTotal, toNat_raplFallbackUj, Function.comp_def] using lost

/-- Over any windows, the processes are never given more than the counter has counted, as
long as their shares of a window are at most the whole; and where they make up the whole
of every window, less than a microjoule is lost for every process but one of each. -/
theorem fallback_le_counted (windows : List (UInt64 × List UInt32))
    (within : ∀ window ∈ windows, countedTotal window ≤ 1000000) :
    (windows.map fallbackTotal).sum ≤ (windows.map fun window => window.1.toNat).sum ∧
      ((∀ window ∈ windows, countedTotal window = 1000000) →
        (windows.map fun window => window.1.toNat).sum ≤
          (windows.map fallbackTotal).sum +
            (windows.map fun window => window.2.length - 1).sum) := by
  induction windows with
  | nil => simp
  | cons window rest ih =>
      simp only [List.map_cons, List.sum_cons]
      obtain ⟨most, least⟩ := ih fun other listed => within other (List.mem_cons_of_mem _ listed)
      have given := within window List.mem_cons_self
      constructor
      · apply Nat.add_le_add _ most
        apply (fallbackTotal_le window).trans
        apply Nat.div_le_of_le_mul
        rw [Nat.mul_comm 1000000]
        exact Nat.mul_le_mul_left _ given
      · intro whole
        have others := least fun other listed => whole other (List.mem_cons_of_mem _ listed)
        have all_given := whole window List.mem_cons_self
        have shared : window.2 ≠ [] := by
          intro nobody
          rw [countedTotal, nobody] at all_given
          contradiction
        have lost := le_fallbackTotal_add shared
        rw [all_given, Nat.mul_div_cancel _ (by simp)] at lost
        omega

/-- Three processes share two windows; one of them claims more than the second. -/
theorem fallback_le_counted_thirds :
    fallbackTotal (100, [333333, 333333, 333334]) + fallbackTotal (7, [4000000]) ≤ 107 ∧
      107 ≤ fallbackTotal (100, [333333, 333333, 333334]) + fallbackTotal (7, [4000000]) + 2 :=
  have bounds := fallback_le_counted [(100, [333333, 333333, 333334]), (7, [4000000])] (by decide)
  ⟨bounds.1, bounds.2 (by decide)⟩

end Mjae.Core
