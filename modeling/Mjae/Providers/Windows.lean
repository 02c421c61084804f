import Mjae.Collections.Buffer
import Mjae.Core.Attribution
import Mjae.Core.Drain
import Mjae.Core.Hardware
import Mjae.Core.Provider
import Mjae.Core.Registry

/-!
# The Windows provider

The provider reads power and compute processes from NVML.  What NVML and the
host answer during one call is one value of `Nvml`.  The process query is
repeated until the scratch buffer is large enough, so a call consumes a list of
replies, each of which may depend on the count that is passed in; a call that
has used them all up has not returned yet and has no result.  It has none either
when a plain operator would leave its type.
-/

namespace Mjae.Providers

open Mjae.Arith Mjae.Collections Mjae.Core

structure NvmlProcessInfoV3 where
  pid : UInt32
  usedGpuMemory : UInt64
  gpuInstanceId : UInt32
  computeInstanceId : UInt32
  deriving DecidableEq

structure NvmlComputeProcess where
  pid : UInt32
  usedGpuMemoryBytes : UInt64
  gpuInstanceId : UInt32
  computeInstanceId : UInt32
  deriving DecidableEq

/-- What NVML answers to one query for the compute processes: the records that it
wrote, the count that it needs, or the text of another error. -/
inductive ComputeReply where
  | success (infos : List NvmlProcessInfoV3) (counted : infos.length ≤ U32.maxNat)
  | insufficientSize (count : UInt32)
  | failure (text : String)

/-- What NVML and the host answer during one call. -/
structure Nvml where
  powerUsage : Except String UInt32
  computeRunningProcesses : List (UInt32 → ComputeReply)
  /-- Nanoseconds since the epoch, or `none` for a clock set before it. -/
  sinceEpochNs : Option Nat

/-- What NVML answers while a provider is bound to a device. -/
structure NvmlProbe where
  init : Except String Unit
  handle : Except String Unit
  serial : Except String String
  uuid : Except String String

structure GpuBusyState where
  lastSampleNs : UInt64
  lastPids : List UInt32
  deriving DecidableEq

structure WindowsProvider where
  hardwareSignature : String
  signatureSource : HardwareIdentitySource
  deviceIndex : UInt32
  busyState : GpuBusyState
  computeScratch : Buffer NvmlProcessInfoV3
  pending : List PidEnergyAttribution

/-- An NVML result with the name of the call in front of its error. -/
def checkNvml {α : Type} (context : String) : Except String α → Except String α
  | .ok value => .ok value
  | .error text => .error (context ++ ": " ++ text)

namespace WindowsProvider

def new (deviceIndex : UInt32) (probe : NvmlProbe) : Except String WindowsProvider := do
  match probe.init with
  | .ok () => pure ()
  | .error text => throw ("nvmlInit_v2 failed: " ++ text)
  checkNvml "nvmlDeviceGetHandleByIndex_v2" probe.handle
  let (hardwareSignature, signatureSource) :=
    match probe.serial with
    | .ok serial => (serial, HardwareIdentitySource.windowsNvmlSerial)
    | .error _ =>
        match probe.uuid with
        | .ok uuid => (uuid, HardwareIdentitySource.windowsNvmlUuid)
        | .error _ =>
            ("nvml-device-" ++ toString deviceIndex.toNat, HardwareIdentitySource.synthetic)
  return {
    hardwareSignature
    signatureSource
    deviceIndex
    busyState := ⟨0, []⟩
    computeScratch := Buffer.withCapacity 32
    pending := [] }

def readPowerMw (nvml : Nvml) : Except String UInt32 :=
  checkNvml "nvmlDeviceGetPowerUsage" nvml.powerUsage

/-- Milliwatts as microwatts. -/
def microwatts (powerMw : UInt32) : UInt64 :=
  powerMw.toUInt64 * 1000

def readPowerUw (nvml : Nvml) : Except String UInt64 :=
  (readPowerMw nvml).map microwatts

/-! ## The compute processes -/

/-- How one pass of the query loop ends. -/
inductive Pass where
  | returned (processes : Except String (Vec NvmlProcessInfoV3))
      (scratch : Buffer NvmlProcessInfoV3)
  | again (scratch : Buffer NvmlProcessInfoV3)
  /-- The count that is needed is below the capacity there is. -/
  | underflow
  /-- More records are written than there is room for. -/
  | overrun

def queryPass (policy : GrowthPolicy) (reply : UInt32 → ComputeReply)
    (scratch : Buffer NvmlProcessInfoV3) : Pass :=
  -- the capacity is passed as a 32-bit count
  match reply (UInt32.ofNat scratch.capacity) with
  | .insufficientSize count =>
      if scratch.capacity ≤ count.toNat then
        .again (scratch.reserve policy (count.toNat - scratch.capacity))
      else .underflow
  | .failure text =>
      .returned (checkNvml "nvmlDeviceGetComputeRunningProcesses_v3" (.error text)) scratch
  | .success infos counted =>
      if fits : infos.length ≤ scratch.capacity then
        .returned (.ok ⟨infos, counted.trans (by decide)⟩) (scratch.fill infos fits)
      else .overrun

/-- The query loop, one pass for each reply. -/
def queryLoop (policy : GrowthPolicy) :
    List (UInt32 → ComputeReply) → Buffer NvmlProcessInfoV3 →
      Option (Except String (Vec NvmlProcessInfoV3) × Buffer NvmlProcessInfoV3)
  | [], _ => none
  | reply :: rest, scratch =>
      match queryPass policy reply scratch with
      | .returned processes scratch => some (processes, scratch)
      | .again scratch => queryLoop policy rest scratch
      | .underflow => none
      | .overrun => none

def sampleComputeProcesses (policy : GrowthPolicy) (nvml : Nvml) (provider : WindowsProvider) :
    Option (Except String (Vec NvmlProcessInfoV3) × WindowsProvider) :=
  (queryLoop policy nvml.computeRunningProcesses provider.computeScratch).map fun outcome =>
    (outcome.1, { provider with computeScratch := outcome.2 })

def listComputeProcesses (policy : GrowthPolicy) (nvml : Nvml) (provider : WindowsProvider) :
    Option (Except String (List NvmlComputeProcess) × WindowsProvider) :=
  (sampleComputeProcesses policy nvml provider).map fun outcome =>
    (outcome.1.map fun processes => processes.toList.map fun info => {
      pid := info.pid
      usedGpuMemoryBytes := info.usedGpuMemory
      gpuInstanceId := info.gpuInstanceId
      computeInstanceId := info.computeInstanceId }, outcome.2)

/-! ## Attribution -/

/-- Split a window over the processes, one entry each, and add every entry to the
registry. -/
def splitWindow (attribution : UInt32 → UInt64 → PidEnergyAttribution) (share : UInt64) :
    UInt64 → List NvmlProcessInfoV3 → AmalgafyRegistry →
      Option (List PidEnergyAttribution × AmalgafyRegistry)
  | _, [], registry => some ([], registry)
  | remainder, proc :: rest, registry => do
      let extra : UInt64 := if 0 < remainder then 1 else 0
      let attributed ← U64.checkedAdd share extra
      let later ← splitWindow attribution share (remainder - extra) rest
        (registry.addMicroJoules proc.pid attributed).2
      some (attribution proc.pid attributed :: later.1, later.2)

def sampleWindowEnergy (policy : GrowthPolicy) (nvml : Nvml)
    (windowStartNs windowEndNs dtMs : UInt64) (provider : WindowsProvider)
    (registry : AmalgafyRegistry) :
    Option (Except String (List PidEnergyAttribution) × WindowsProvider × AmalgafyRegistry) :=
  match readPowerMw nvml with
  | .error message => some (.error message, provider, registry)
  | .ok powerMw => do
      let (processes, provider) ← sampleComputeProcesses policy nvml provider
      match processes with
      | .error message => some (.error message, provider, registry)
      | .ok processes =>
          let totalWindowUj := nvmlWindowEnergyUj powerMw.toUInt64 dtMs
          if processes.isEmpty ∨ totalWindowUj = 0 then
            some (.ok [], provider, registry)
          else
            let numProcesses := processes.len
            let share ← U64.checkedDiv totalWindowUj numProcesses
            let paid ← U64.checkedMul share numProcesses
            let remainder ← U64.checkedSub totalWindowUj paid
            let attribution (pid : UInt32) (attributedEnergyUj : UInt64) :
                PidEnergyAttribution := {
              pid
              windowStartNs
              windowEndNs
              burstPowerUw := microwatts powerMw
              attributedEnergyUj
              hardwareSignature := provider.hardwareSignature }
            let (result, registry) ←
              splitWindow attribution share remainder processes.toList registry
            some (.ok result,
              { provider with
                busyState := {
                  lastSampleNs := windowEndNs
                  lastPids := result.map PidEnergyAttribution.pid } },
              registry)

def attributeWindow (policy : GrowthPolicy) (nvml : Nvml)
    (windowStartNs windowEndNs idlePowerUw : UInt64) (provider : WindowsProvider)
    (registry : AmalgafyRegistry) :
    Option (Except String (List PidEnergyAttribution) × WindowsProvider × AmalgafyRegistry) :=
  match readPowerUw nvml with
  | .error message => some (.error message, provider, registry)
  | .ok totalPowerUw => do
      let (processes, provider) ← sampleComputeProcesses policy nvml provider
      match processes with
      | .error message => some (.error message, provider, registry)
      | .ok processes =>
          if processes.isEmpty then
            -- an idle GPU
            some (.ok [], provider, registry)
          else
            let windowNs := U64.saturatingSub windowEndNs windowStartNs
            let numProcesses := processes.len
            let perProcessNs ← U64.checkedDiv windowNs numProcesses
            let attributed (_ : NvmlProcessInfoV3) : UInt64 :=
              deterministicAttributionUj totalPowerUw idlePowerUw perProcessNs windowNs
            let result := processes.toList.map fun proc => {
              pid := proc.pid
              windowStartNs
              windowEndNs
              burstPowerUw := U64.saturatingSub totalPowerUw idlePowerUw
              attributedEnergyUj := attributed proc
              hardwareSignature := provider.hardwareSignature }
            let registry := processes.toList.foldl
              (fun registry proc => (registry.addMicroJoules proc.pid (attributed proc)).2) registry
            some (.ok result,
              { provider with
                busyState := {
                  lastSampleNs := windowEndNs
                  lastPids := result.map PidEnergyAttribution.pid } },
              registry)

/-! ## The provider contract -/

def samplePowerState (policy : GrowthPolicy) (nvml : Nvml) (provider : WindowsProvider) :
    Option (Except String PowerSnapshot × WindowsProvider) :=
  match readPowerUw nvml with
  | .error message => some (.error message, provider)
  | .ok powerUw => do
      let observedAtNs := U64.clamp (nvml.sinceEpochNs.getD 0)
      let (processes, provider) ← sampleComputeProcesses policy nvml provider
      let provider :=
        match processes with
        | .ok procs =>
            { provider with
              busyState := {
                lastSampleNs := observedAtNs
                lastPids := procs.toList.map NvmlProcessInfoV3.pid } }
        -- a failed refresh is only logged
        | .error _ => provider
      some (.ok {
        observedAtNs
        idlePowerUw := 0
        activePowerUw := powerUw
        cpuPowerUw := 0
        gpuPowerUw := powerUw
        acceleratorPowerUw := powerUw
        hardwareSignature := provider.hardwareSignature }, provider)

def activePids (provider : WindowsProvider) : List UInt32 :=
  provider.busyState.lastPids

def attributeJoulesToPid (_provider : WindowsProvider) (pid : UInt32)
    (windowStartNs windowEndNs : UInt64) (snapshot : PowerSnapshot) :
    Except String PidEnergyAttribution :=
  .ok (.baselineBurst pid windowStartNs windowEndNs snapshot)

def enqueueAttribution (provider : WindowsProvider) (attribution : PidEnergyAttribution) :
    WindowsProvider :=
  { provider with pending := provider.pending ++ [attribution] }

def syncRegistry (provider : WindowsProvider) (registry : AmalgafyRegistry) :
    UInt64 × WindowsProvider × AmalgafyRegistry :=
  let drained := drainPending provider.pending registry
  (drained.1, { provider with pending := [] }, drained.2)

/-! ## A sample device -/

/-- A new provider on a device that tells its serial number. -/
def serialProvider : WindowsProvider where
  hardwareSignature := "1321021"
  signatureSource := .windowsNvmlSerial
  deviceIndex := 0
  busyState := ⟨0, []⟩
  computeScratch := Buffer.withCapacity 32
  pending := []

/-- A compute process without memory. -/
def computeProcess (pid : UInt32) : NvmlProcessInfoV3 :=
  ⟨pid, 0, 0, 0⟩

/-- NVML reads `powerMw` and answers the first process query with `infos`. -/
def drawing (powerMw : UInt32) (infos : List NvmlProcessInfoV3)
    (counted : infos.length ≤ U32.maxNat) : Nvml where
  powerUsage := .ok powerMw
  computeRunningProcesses := [fun _ => .success infos counted]
  sinceEpochNs := none

end WindowsProvider

end Mjae.Providers
