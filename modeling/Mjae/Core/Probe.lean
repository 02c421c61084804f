import Mjae.Core.Hardware
import Mjae.Providers.Windows
import Mjae.Text.Parse

/-!
# Probing the hardware identity

Every system has its own chain of sources.  What a source answers is part of the
target that the probe runs on; what the host says of itself is the environment of a
synthetic identity.
-/

namespace Mjae.Core

open Mjae.Providers Mjae.Text

/-- What a synthetic identity is made from. -/
structure Environment where
  /-- The variable `HOSTNAME`, `none` if it is unset or not Unicode. -/
  hostname : Option String
  computername : Option String
  /-- The contents of `/etc/hostname`, `none` if they cannot be read. -/
  etcHostname : Option String
  processId : UInt32

namespace Environment

/-- The first source that is there, blank or not. -/
def present (environment : Environment) : Option String :=
  environment.hostname <|> environment.computername <|> environment.etcHostname.map trim

def host (environment : Environment) : String :=
  let host := trim (environment.present.getD "unknown-host")
  if host = "" then "unknown-host" else host

end Environment

def HardwareIdentity.synthetic (environment : Environment) (reason : String) :
    HardwareIdentity where
  fingerprint :=
    "synthetic:" ++ reason ++ ":host=" ++ environment.host ++ ":pid=" ++
      toString environment.processId.toNat
  source := .synthetic

/-! ## Linux -/

/-- An entry of `/sys/class/drm`: an error, or what reading its `device/uuid` gives. -/
abbrev DrmEntry :=
  Except String (Except String String)

structure LinuxSources where
  /-- The contents of `/etc/machine-id`. -/
  machineId : Except String String
  /-- The entries of `/sys/class/drm` in the order in which `read_dir` yields them. -/
  drmEntries : Except String (List DrmEntry)

namespace LinuxSources

def readMachineId (sources : LinuxSources) : Except String String :=
  match sources.machineId with
  | .error _ => .error "failed to read /etc/machine-id"
  | .ok raw =>
      if trim raw = "" then .error "/etc/machine-id is empty" else .ok (trim raw)

/-- The first entry whose UUID is not blank. -/
def firstGpuUuid : List DrmEntry → Except String String
  | [] => .error "no GPU UUID found in any /sys/class/drm/*/device/uuid file"
  | entry :: rest =>
      match entry with
      | .ok (.ok raw) => if trim raw ≠ "" then .ok (trim raw) else firstGpuUuid rest
      | _ => firstGpuUuid rest

def readGpuUuid (sources : LinuxSources) : Except String String :=
  match sources.drmEntries with
  | .error _ => .error "failed to enumerate /sys/class/drm"
  | .ok entries => firstGpuUuid entries

def probe (sources : LinuxSources) : Except String HardwareIdentity :=
  match sources.readMachineId with
  | .ok id => .ok { fingerprint := id, source := .linuxMachineId }
  | .error machineError =>
      match sources.readGpuUuid with
      | .ok uuid => .ok { fingerprint := uuid, source := .linuxGpuUuid }
      | .error gpuError =>
          .error ("/etc/machine-id unreadable (" ++ machineError ++
            ") and no GPU UUID under /sys/class/drm/* (" ++ gpuError ++ ")")

/-- The UUID that the search would take from an entry. -/
def usableUuid : DrmEntry → Option String
  | .ok (.ok raw) => if trim raw ≠ "" then some (trim raw) else none
  | _ => none

/-- The search takes the first usable UUID. -/
theorem firstGpuUuid_eq (entries : List DrmEntry) :
    firstGpuUuid entries =
      match (entries.filterMap usableUuid).head? with
      | some uuid => .ok uuid
      | none => .error "no GPU UUID found in any /sys/class/drm/*/device/uuid file" := by
  induction entries with
  | nil => rfl
  | cons entry rest ih =>
      cases entry with
      | error text => exact ih
      | ok read =>
          cases read with
          | error text => exact ih
          | ok raw =>
              rw [firstGpuUuid, List.filterMap_cons, usableUuid]
              by_cases blank : trim raw = ""
              · simp only [blank, ne_eq, not_true_eq_false, if_false, ih]
              · simp only [blank, ne_eq, not_false_eq_true, if_true, List.head?_cons]

end LinuxSources

/-! ## The other systems -/

/-- The system that the crate is built for, with what its sources answer. -/
inductive Target
  | macos (platformSerial : Except String String)
  | linux (sources : LinuxSources)
  | windows (nvml : NvmlProbe)
  | other

def probeMacos (platformSerial : Except String String) : Except String HardwareIdentity := do
  let serial ← platformSerial
  return { fingerprint := serial, source := .macosIoKitSerial }

/-- The identity of an NVML device is the signature of its provider. -/
def probeDevice (deviceIndex : UInt32) (nvml : NvmlProbe) : Except String HardwareIdentity := do
  let provider ← WindowsProvider.new deviceIndex nvml
  return {
    fingerprint := provider.hardwareSignature
    source := provider.signatureSource }

namespace HardwareIdentity

def tryProbe : Target → Except String HardwareIdentity
  | .macos platformSerial => probeMacos platformSerial
  | .linux sources => sources.probe
  | .windows nvml => probeDevice 0 nvml
  | .other => .error "HardwareIdentity probe is not implemented on this OS"

def probe (environment : Environment) (target : Target) : HardwareIdentity :=
  match tryProbe target with
  | .ok identity => identity
  | .error _ => synthetic environment "probe_failed"

end HardwareIdentity

end Mjae.Core
