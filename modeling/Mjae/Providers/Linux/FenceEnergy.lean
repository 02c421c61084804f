import Mathlib.Algebra.BigOperators.Ring.List
import Mathlib.Algebra.Order.BigOperators.Group.List
import Mathlib.Order.Interval.Finset.Nat
import Mjae.Arith.Floor
import Mjae.Order.Overlap
import Mjae.Providers.Linux

/-!
# Fence energy

Every fence is billed its own window at full power.  As long as no instant lies
in more than `depth` windows, a series of fences is billed at most `depth` times
the energy drawn over the interval that contains them.
-/

namespace Mjae.Providers.LinuxProvider

open Mjae.Arith Mjae.Core Mjae.Order

/-- The results of a series of signals, in order. -/
def correlateFences (provider : LinuxProvider) :
    List DmaFenceEvent → List PidEnergyAttribution
  | [] => []
  | event :: rest =>
      let (attribution, next) := provider.correlateFence event
      attribution :: next.correlateFences rest

/-- The instants that a fence is billed for. -/
def fenceWindow (event : DmaFenceEvent) : Nat × Nat :=
  (event.submittedAtNs.toNat, event.signaledAtNs.toNat)

/-- Micro-joules of all records, without saturation. -/
def attributedTotal (attributions : List PidEnergyAttribution) : Nat :=
  (attributions.map fun attribution => attribution.attributedEnergyUj.toNat).sum

/-- A fence of constant power is billed at most the floor of its exact energy. -/
theorem attributedEnergyUj_correlateFence_le (provider : LinuxProvider)
    (event : DmaFenceEvent) :
    (provider.correlateFence event).1.attributedEnergyUj.toNat ≤
      event.gpuPowerUw.toNat *
        (Finset.Ico (fenceWindow event).1 (fenceWindow event).2).card / 1000000000 := by
  rw [Nat.card_Ico, fenceWindow, ← U64.toNat_saturatingSub]
  exact windowEnergyUj_le _ _

/-- No fence changes what the others are billed. -/
theorem map_attributedEnergyUj_correlateFences (provider : LinuxProvider)
    (events : List DmaFenceEvent) :
    (provider.correlateFences events).map PidEnergyAttribution.attributedEnergyUj =
      events.map fun event => (provider.correlateFence event).1.attributedEnergyUj := by
  induction events generalizing provider with
  | nil => rfl
  | cons event rest ih =>
      rw [correlateFences, List.map_cons, List.map_cons, ih]
      rfl

theorem attributedTotal_correlateFences_le (provider : LinuxProvider) {power : UInt64}
    {events : List DmaFenceEvent}
    (constant : ∀ event ∈ events, event.gpuPowerUw = power) :
    attributedTotal (provider.correlateFences events) ≤
      power.toNat * totalLength (events.map fenceWindow) / 1000000000 := by
  have each : ∀ event ∈ events,
      (provider.correlateFence event).1.attributedEnergyUj.toNat ≤
        power.toNat *
          (Finset.Ico (fenceWindow event).1 (fenceWindow event).2).card / 1000000000 := by
    intro event member
    rw [← constant event member]
    exact provider.attributedEnergyUj_correlateFence_le event
  calc attributedTotal (provider.correlateFences events)
      = (events.map fun event =>
          (provider.correlateFence event).1.attributedEnergyUj.toNat).sum := by
        rw [attributedTotal, ← Function.comp_def UInt64.toNat, ← List.map_map,
          map_attributedEnergyUj_correlateFences, List.map_map]
        rfl
    _ ≤ (events.map fun event => power.toNat *
          (Finset.Ico (fenceWindow event).1 (fenceWindow event).2).card / 1000000000).sum :=
        List.sum_le_sum each
    _ = ((events.map fun event => power.toNat *
          (Finset.Ico (fenceWindow event).1 (fenceWindow event).2).card).map
            (· / 1000000000)).sum := by
        rw [List.map_map]
        rfl
    _ ≤ (events.map fun event => power.toNat *
          (Finset.Ico (fenceWindow event).1 (fenceWindow event).2).card).sum / 1000000000 :=
        sum_map_div_le _ _
    _ = power.toNat * totalLength (events.map fenceWindow) / 1000000000 := by
        rw [List.sum_map_mul_left, totalLength, List.map_map]
        rfl

/-- Fences of constant power inside one interval, no instant of which lies in
more than `depth` of their windows, are billed at most `depth` times the energy
drawn over the interval. -/
theorem correlateFences_le_depth_mul_drawn (provider : LinuxProvider)
    (power first last : UInt64) (depth : Nat) (events : List DmaFenceEvent)
    (constant : ∀ event ∈ events, event.gpuPowerUw = power)
    (inside : ∀ event ∈ events, first ≤ event.submittedAtNs ∧ event.signaledAtNs ≤ last)
    (bounded : ∀ instant, overlap (events.map fenceWindow) instant ≤ depth) :
    attributedTotal (provider.correlateFences events) ≤
      depth * (power.toNat * (last.toNat - first.toNat)) / 1000000000 := by
  have within : ∀ window ∈ events.map fenceWindow,
      first.toNat ≤ window.1 ∧ window.2 ≤ last.toNat := by
    rintro window member
    rcases List.mem_map.mp member with ⟨event, listed, rfl⟩
    exact inside event listed
  have filled := totalLength_le_of_overlap_le _ within bounded
  rw [Nat.card_Ico] at filled
  calc attributedTotal (provider.correlateFences events)
      ≤ power.toNat * totalLength (events.map fenceWindow) / 1000000000 :=
        provider.attributedTotal_correlateFences_le constant
    _ ≤ power.toNat * (depth * (last.toNat - first.toNat)) / 1000000000 :=
        Nat.div_le_div_right (Nat.mul_le_mul_left _ filled)
    _ = depth * (power.toNat * (last.toNat - first.toNat)) / 1000000000 := by
        rw [Nat.mul_left_comm]

/-- Two fences of different processes, one after the other. -/
theorem correlateFences_le_depth_mul_drawn_disjoint :
    attributedTotal ((new "synthetic").correlateFences
      [⟨7, 0, 1000000000, 5000000⟩, ⟨8, 1000000000, 3000000000, 5000000⟩]) ≤
      1 * ((5000000 : UInt64).toNat * ((3000000000 : UInt64).toNat - (0 : UInt64).toNat)) /
        1000000000 := by
  refine correlateFences_le_depth_mul_drawn (new "synthetic") 5000000 0 3000000000 1
    [⟨7, 0, 1000000000, 5000000⟩, ⟨8, 1000000000, 3000000000, 5000000⟩]
    (by simp) (by decide) fun instant => ?_
  have first_end : (1000000000 : UInt64).toNat = 1000000000 := rfl
  rw [List.map_cons, List.map_cons, List.map_nil, overlap, List.countP_cons, List.countP_cons,
    List.countP_nil]
  simp only [fenceWindow, decide_eq_true_eq, first_end]
  split <;> split <;> omega

/-- Two fences over the same second are billed twice the energy drawn in it. -/
theorem not_correlateFences_le_drawn :
    ¬ ∀ (provider : LinuxProvider) (power first last : UInt64) (events : List DmaFenceEvent),
      (∀ event ∈ events, event.gpuPowerUw = power) →
      (∀ event ∈ events, first ≤ event.submittedAtNs ∧ event.signaledAtNs ≤ last) →
      attributedTotal (provider.correlateFences events) ≤
        power.toNat * (last.toNat - first.toNat) / 1000000000 := by
  intro conserved
  have billed := conserved (new "synthetic") 1000000 0 1000000000
    [⟨7, 0, 1000000000, 1000000⟩, ⟨8, 0, 1000000000, 1000000⟩] (by simp) (by decide)
  revert billed
  decide

end Mjae.Providers.LinuxProvider
