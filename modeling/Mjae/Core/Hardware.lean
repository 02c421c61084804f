import Mjae.Core.CanonicalJson

/-!
# Hardware identities

The fingerprint of the machine that a manifest is bound to, and the probe that
it comes from.
-/

namespace Mjae.Core

open Mjae.Json Mjae.Sort

/-- The probe that produced an identity. -/
inductive HardwareIdentitySource
  | macosIoKitSerial
  | linuxMachineId
  | linuxGpuUuid
  | windowsNvmlUuid
  | windowsNvmlSerial
  | manual
  | synthetic
  deriving DecidableEq

structure HardwareIdentity where
  fingerprint : String
  source : HardwareIdentitySource
  deriving DecidableEq

def HardwareIdentity.manual (fingerprint : String) : HardwareIdentity :=
  { fingerprint, source := .manual }

/-- The name of a source in a manifest. -/
def HardwareIdentitySource.name : HardwareIdentitySource → String
  | .macosIoKitSerial => "macos_io_kit_serial"
  | .linuxMachineId => "linux_machine_id"
  | .linuxGpuUuid => "linux_gpu_uuid"
  | .windowsNvmlUuid => "windows_nvml_uuid"
  | .windowsNvmlSerial => "windows_nvml_serial"
  | .manual => "manual"
  | .synthetic => "synthetic"

theorem HardwareIdentitySource.name_injective {a b : HardwareIdentitySource}
    (same : a.name = b.name) : a = b := by
  cases a <;> cases b <;> first | rfl | exact absurd same (by decide)

instance : Serialize HardwareIdentitySource where
  toValue source := .string source.name

instance : Binding HardwareIdentitySource where
  eq_of_canonicalizeValue same := by
    simp only [toValue, canonicalizeValue, Value.string.injEq] at same
    exact HardwareIdentitySource.name_injective same

instance : Serialize HardwareIdentity where
  toValue identity := .object
    [("fingerprint", toValue identity.fingerprint), ("source", toValue identity.source)]

theorem canonicalizeValue_hardwareIdentity (identity : HardwareIdentity) :
    canonicalizeValue (toValue identity) = .object
      [("fingerprint", canonicalizeValue (toValue identity.fingerprint)),
        ("source", canonicalizeValue (toValue identity.source))] := by
  simp +decide [toValue, canonicalizeValue, canonicalizeMembers, sortBy, insertMember, Before,
    compareKeys]

instance : Binding HardwareIdentity where
  eq_of_canonicalizeValue {a b} same := by
    rw [canonicalizeValue_hardwareIdentity, canonicalizeValue_hardwareIdentity] at same
    simp only [Value.object.injEq, List.cons.injEq, Prod.mk.injEq, true_and, and_true] at same
    rcases same with ⟨fingerprints, sources⟩
    rcases a with ⟨fingerprint, source⟩
    rcases b with ⟨otherFingerprint, otherSource⟩
    congr
    · exact eq_of_canonicalizeValue fingerprints
    · exact eq_of_canonicalizeValue sources

end Mjae.Core
