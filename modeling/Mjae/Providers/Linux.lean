import Mjae.Core.SamplingLoop
import Mjae.Text.Parse
import Mathlib.Data.List.Perm.Subperm

/-!
# The Linux provider

Fence correlation, the in-flight counts and the package-energy reader.  The
host answers every sample through `Host`: the contents of its files and its wall
clock at the time of the call.
-/

namespace Mjae.Providers

open Mjae.Arith Mjae.Collections Mjae.Core Mjae.Text

/-- A signalled fence, stamped with the power drawn during its window. -/
structure DmaFenceEvent where
  submitterPid : UInt32
  submittedAtNs : UInt64
  signaledAtNs : UInt64
  gpuPowerUw : UInt64
  deriving DecidableEq

structure RaplState where
  energyUj : UInt64
  observedAtNs : UInt64
  maxEnergyUj : UInt64
  deriving DecidableEq

structure LinuxProvider where
  hardwareSignature : String
  pending : List PidEnergyAttribution
  activePids : Std.ExtTreeMap UInt32 UInt32
  raplState : Option RaplState

/-- What the host answers during one sample. -/
structure Host where
  readToString : String → Except String String
  /-- Nanoseconds since the epoch, or `none` for a clock set before it. -/
  sinceEpochNs : Option Nat

namespace LinuxProvider

def defaultRaplEnergyPath : String :=
  "/sys/class/powercap/intel-rapl:0/energy_uj"

def defaultRaplMaxRangePath : String :=
  "/sys/class/powercap/intel-rapl:0/max_energy_range_uj"

def new (hardwareSignature : String) : LinuxProvider where
  hardwareSignature
  pending := []
  activePids := ∅
  raplState := none

def enqueueAttribution (provider : LinuxProvider) (attribution : PidEnergyAttribution) :
    LinuxProvider :=
  { provider with pending := provider.pending ++ [attribution] }

def markPidActive (provider : LinuxProvider) (pid : UInt32) : LinuxProvider :=
  let count := (provider.activePids[pid]?).getD 0
  { provider with
    activePids := provider.activePids.insert pid (U32.saturatingAdd count 1) }

def markPidIdle (provider : LinuxProvider) (pid : UInt32) : LinuxProvider :=
  { provider with activePids := provider.activePids.erase pid }

def activePidSet (provider : LinuxProvider) : List UInt32 :=
  provider.activePids.keys

/-- The record a signalled fence is turned into. -/
def fenceAttribution (provider : LinuxProvider) (event : DmaFenceEvent) :
    PidEnergyAttribution where
  pid := event.submitterPid
  windowStartNs := event.submittedAtNs
  windowEndNs := event.signaledAtNs
  burstPowerUw := event.gpuPowerUw
  attributedEnergyUj := windowEnergyUj event.gpuPowerUw
    (U64.saturatingSub event.signaledAtNs event.submittedAtNs)
  hardwareSignature := provider.hardwareSignature

/-- One fence of `pid` is over: its last one drops the process. -/
def releaseFence (activePids : Std.ExtTreeMap UInt32 UInt32) (pid : UInt32) :
    Std.ExtTreeMap UInt32 UInt32 :=
  match activePids[pid]? with
  | some count =>
      let count := U32.saturatingSub count 1
      if count = 0 then activePids.erase pid else activePids.insert pid count
  | none => activePids

def correlateFence (provider : LinuxProvider) (event : DmaFenceEvent) :
    PidEnergyAttribution × LinuxProvider :=
  let attribution := provider.fenceAttribution event
  (attribution,
    { provider with
      activePids := releaseFence provider.activePids event.submitterPid
      pending := provider.pending ++ [attribution] })

/-! ## Package energy -/

/-- Read a file that holds one decimal word. -/
def readWord (host : Host) (path : String) : Except String UInt64 := do
  let raw ← host.readToString path
  parseU64 (trim raw)

/-- The wall clock as a word: a clock before the epoch or past the word is 0. -/
def wallClockNs (host : Host) : UInt64 :=
  let nanos := host.sinceEpochNs.getD 0
  if nanos ≤ U64.maxNat then UInt64.ofNat nanos else 0

/-- The wrap point: cached by the first read, the largest word if unreadable. -/
def wrapPoint (host : Host) (provider : LinuxProvider) : UInt64 :=
  match provider.raplState with
  | some previous => previous.maxEnergyUj
  | none =>
      match readWord host defaultRaplMaxRangePath with
      | .ok value => value
      | .error _ => U64.max

/-- Counter difference modulo the wrap point plus one. -/
def counterDeltaUj (previousUj energyUj maxEnergyUj : UInt64) : UInt64 :=
  if previousUj ≤ energyUj then
    energyUj - previousUj
  else if maxEnergyUj = U64.max then
    -- no wrap point known: a backwards counter is reported as nothing
    0
  else
    let toWrap := U64.saturatingSub maxEnergyUj previousUj
    U64.saturatingAdd (U64.saturatingAdd toWrap energyUj) 1

/-- Energy over a gap as a power; an empty gap has none. -/
def gapPowerUw (deltaUj dtNs : UInt64) : UInt64 :=
  if dtNs = 0 then 0
  else U64.clamp (deltaUj.toNat * 1000000000 / dtNs.toNat)

def readRaplPowerUw (host : Host) (provider : LinuxProvider) :
    Except String (UInt64 × UInt64) × LinuxProvider :=
  match readWord host defaultRaplEnergyPath with
  | .error message => (.error message, provider)
  | .ok energyUj =>
      let observedAtNs := wallClockNs host
      let maxEnergyUj := wrapPoint host provider
      let powerUw :=
        match provider.raplState with
        | some previous =>
            gapPowerUw (counterDeltaUj previous.energyUj energyUj maxEnergyUj)
              (U64.saturatingSub observedAtNs previous.observedAtNs)
        | none => 0
      (.ok (powerUw, observedAtNs),
        { provider with raplState := some { energyUj, observedAtNs, maxEnergyUj } })

def samplePowerState (host : Host) (provider : LinuxProvider) :
    Except String PowerSnapshot × LinuxProvider :=
  match readRaplPowerUw host provider with
  | (.ok (powerUw, observedAtNs), next) =>
      (.ok {
        observedAtNs
        idlePowerUw := 0
        activePowerUw := powerUw
        cpuPowerUw := powerUw
        gpuPowerUw := 0
        acceleratorPowerUw := 0
        hardwareSignature := provider.hardwareSignature }, next)
  | (.error message, next) =>
      (.error ("linux RAPL power sampling failed for hardware " ++
        provider.hardwareSignature ++ ": " ++ message), next)

def attributeJoulesToPid (_provider : LinuxProvider) (pid : UInt32)
    (windowStartNs windowEndNs : UInt64) (snapshot : PowerSnapshot) :
    Except String PidEnergyAttribution :=
  .ok (.baselineBurst pid windowStartNs windowEndNs snapshot)

/-- Drain the pending records into the registry; the result is their sum. -/
def syncRegistry (provider : LinuxProvider) (registry : AmalgafyRegistry) :
    UInt64 × LinuxProvider × AmalgafyRegistry :=
  let drained := provider.pending.foldl
    (fun (state : UInt64 × AmalgafyRegistry) attribution =>
      (U64.saturatingAdd state.1 attribution.attributedEnergyUj,
        (state.2.addMicroJoules attribution.pid attribution.attributedEnergyUj).2))
    (0, registry)
  (drained.1, { provider with pending := [] }, drained.2)

theorem length_activePidSet_le (provider : LinuxProvider) :
    provider.activePidSet.length ≤ U64.maxNat := by
  have nodup : (provider.activePidSet.map UInt32.toNat).Nodup :=
    (provider.activePids.nodup_keys).map fun _ _ => UInt32.toNat.inj
  have bounded : provider.activePidSet.map UInt32.toNat ⊆ List.range 4294967296 := by
    intro value member
    rcases List.mem_map.mp member with ⟨pid, _, rfl⟩
    exact List.mem_range.mpr pid.toNat_lt
  have length_le := (List.subperm_of_subset nodup bounded).length_le
  rw [List.length_map, List.length_range] at length_le
  exact length_le.trans (by decide)

instance : EnergyProvider LinuxProvider Host where
  samplePowerState := samplePowerState
  activePids provider := ⟨provider.activePidSet, provider.length_activePidSet_le⟩

end LinuxProvider

end Mjae.Providers
