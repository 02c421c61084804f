import Mjae.Providers.AppleSilicon

/-!
# The power figure of the Apple sampler

The sampler turns the energy of a gap into a power, rounding down.  A debug build
turns the power back into an energy and stops if more comes out than went in, plus
one microjoule of slack.
-/

namespace Mjae.Providers

open Mjae.Arith Mjae.Core

namespace AppleSiliconProvider

/-- The gap that the energy of a sample is spread over. -/
def gapNs (observedAtNs lastObservedAtNs : UInt64) : UInt64 :=
  if lastObservedAtNs = 0 then 0 else U64.saturatingSub observedAtNs lastObservedAtNs

/-- The assertion of a debug build. -/
def assertion (activePowerUw dtNs totalUj : UInt64) : Bool :=
  windowEnergyUj activePowerUw dtNs ≤ U64.saturatingAdd totalUj 1

/-- A debug build of `samplePowerState`: `none` if the assertion stops the daemon. -/
def debugSamplePowerState (host : AppleHost) (provider : AppleSiliconProvider) :
    Option (Except String PowerSnapshot × AppleSiliconProvider) :=
  match sampleEnergyModelDelta host.report provider with
  | (.error _, _) => some (samplePowerState host provider)
  | (.ok deltas, next) =>
      let dtNs := gapNs (observedAtNs host.sinceEpochNs) next.ioreportState.lastObservedAtNs
      if assertion (activePowerUw (totalUj deltas) dtNs) dtNs (totalUj deltas) then
        some (samplePowerState host provider)
      else none

/-- The energy that comes back is at most the energy that went in. -/
theorem windowEnergyUj_activePowerUw_le (totalUj dtNs : UInt64) :
    windowEnergyUj (activePowerUw totalUj dtNs) dtNs ≤ totalUj :=
  windowEnergyUj_gapPower_le totalUj dtNs

theorem assertion_activePowerUw (totalUj dtNs : UInt64) :
    assertion (activePowerUw totalUj dtNs) dtNs totalUj := by
  rw [assertion, decide_eq_true_eq]
  apply UInt64.le_trans (windowEnergyUj_activePowerUw_le totalUj dtNs)
  rw [UInt64.le_iff_toNat_le, U64.toNat_saturatingAdd]
  exact le_min (Nat.le_add_right _ _) (U64.toNat_le_maxNat _)

/-- The power figure of any deltas over any gap gives back at most their energy, and
no debug build is ever stopped by its assertion. -/
theorem windowEnergyUj_samplePowerState_le :
    (∀ (deltas : List AppleEnergyDelta) (dtNs : UInt64),
      windowEnergyUj (activePowerUw (totalUj deltas) dtNs) dtNs ≤ totalUj deltas) ∧
    ∀ (host : AppleHost) (provider : AppleSiliconProvider),
      debugSamplePowerState host provider = some (samplePowerState host provider) := by
  constructor
  · intro deltas dtNs
    exact windowEnergyUj_activePowerUw_le _ _
  · intro host provider
    rw [debugSamplePowerState]
    split
    · rfl
    · rw [if_pos (assertion_activePowerUw _ _)]

end AppleSiliconProvider

end Mjae.Providers
