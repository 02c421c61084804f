import Mjae.Collections.Vec
import Mjae.Core.Attribution

/-!
# Snapshots, attributions and the provider contract

A provider is a state machine.  Its mutable state is `σ`; everything the host
answers while one sample is taken (files, clocks, device queries) is one value
of `ε`, so that a run is fixed by the initial state and a list of answers.
-/

namespace Mjae.Core

open Mjae.Arith Mjae.Collections

structure PowerSnapshot where
  observedAtNs : UInt64
  idlePowerUw : UInt64
  activePowerUw : UInt64
  cpuPowerUw : UInt64
  gpuPowerUw : UInt64
  acceleratorPowerUw : UInt64
  hardwareSignature : String
  deriving DecidableEq

structure PidEnergyAttribution where
  pid : UInt32
  windowStartNs : UInt64
  windowEndNs : UInt64
  burstPowerUw : UInt64
  attributedEnergyUj : UInt64
  hardwareSignature : String
  deriving DecidableEq

/-- The burst energy of a window, at the powers of a snapshot. -/
def PidEnergyAttribution.baselineBurst (pid : UInt32) (windowStartNs windowEndNs : UInt64)
    (snapshot : PowerSnapshot) : PidEnergyAttribution where
  pid
  windowStartNs
  windowEndNs
  burstPowerUw := baselineBurstPowerUw snapshot.activePowerUw snapshot.idlePowerUw
  attributedEnergyUj := burstEnergyUj snapshot.activePowerUw snapshot.idlePowerUw
    (U64.saturatingSub windowEndNs windowStartNs)
  hardwareSignature := snapshot.hardwareSignature

/-- The part of the provider contract that the sampling loop relies on. -/
class EnergyProvider (σ : Type) (ε : outParam Type) where
  /-- Take one reading; the state may change even when the reading fails. -/
  samplePowerState : ε → σ → Except String PowerSnapshot × σ
  activePids : σ → Vec UInt32

end Mjae.Core
