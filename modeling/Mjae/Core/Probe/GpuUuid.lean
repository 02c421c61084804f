import Mjae.Core.Probe

/-!
# The GPU fallback

Without a machine identifier a Linux host is known by the first UUID that the
enumeration of its graphics devices comes to.  The order of the enumeration is not
fixed, so the identity is that of the host only if all its devices show one UUID.
-/

namespace Mjae.Core

namespace LinuxSources

/-- A host whose machine identifier cannot be read. -/
def withoutMachineId (machineError : String) (entries : List DrmEntry) : LinuxSources where
  machineId := .error machineError
  drmEntries := .ok entries

/-- The probe of such a host is decided by the first usable UUID. -/
theorem probe_withoutMachineId_of_head? {entries : List DrmEntry} {uuid : String}
    (machineError : String) (first : (entries.filterMap usableUuid).head? = some uuid) :
    (withoutMachineId machineError entries).probe =
      .ok { fingerprint := uuid, source := .linuxGpuUuid } := by
  simp only [probe, readMachineId, readGpuUuid, withoutMachineId, firstGpuUuid_eq, first]

theorem probe_withoutMachineId_congr (machineError : String) {first second : List DrmEntry}
    (same : (first.filterMap usableUuid).head? = (second.filterMap usableUuid).head?) :
    (withoutMachineId machineError first).probe =
      (withoutMachineId machineError second).probe := by
  simp only [probe, readMachineId, readGpuUuid, withoutMachineId, firstGpuUuid_eq, same]

/-- Some enumeration begins with any device that is there. -/
theorem exists_perm_head? {entries : List DrmEntry} {uuid : String}
    (listed : uuid ∈ entries.filterMap usableUuid) :
    ∃ order : List DrmEntry, order.Perm entries ∧
      (order.filterMap usableUuid).head? = some uuid := by
  rcases List.mem_filterMap.mp listed with ⟨entry, member, usable⟩
  rcases List.append_of_mem member with ⟨before, after, rfl⟩
  refine ⟨entry :: (before ++ after), List.perm_middle.symm, ?_⟩
  rw [List.filterMap_cons_some usable, List.head?_cons]

/-- A reordering of equal elements begins with the same element. -/
theorem head?_eq_of_perm {first second : List String} (same : first.Perm second)
    (equal : ∀ a ∈ second, ∀ b ∈ second, a = b) : first.head? = second.head? := by
  cases first with
  | nil => rw [same.nil_eq]
  | cons a rest =>
      cases second with
      | nil => cases same.eq_nil
      | cons b others =>
          rw [List.head?_cons, List.head?_cons,
            equal a (same.subset List.mem_cons_self) b List.mem_cons_self]

/-- Every order of the enumeration gives one identity exactly when all UUIDs that are
readable and not blank are the same. -/
theorem probe_stable_iff (machineError : String) (entries : List DrmEntry) :
    (∀ first second : List DrmEntry, first.Perm entries → second.Perm entries →
      (withoutMachineId machineError first).probe =
        (withoutMachineId machineError second).probe) ↔
      ∀ a ∈ entries.filterMap usableUuid, ∀ b ∈ entries.filterMap usableUuid, a = b := by
  constructor
  · intro stable a aListed b bListed
    rcases exists_perm_head? aListed with ⟨first, firstPerm, firstHead⟩
    rcases exists_perm_head? bListed with ⟨second, secondPerm, secondHead⟩
    have same := stable first second firstPerm secondPerm
    rw [probe_withoutMachineId_of_head? machineError firstHead,
      probe_withoutMachineId_of_head? machineError secondHead] at same
    exact congrArg HardwareIdentity.fingerprint (Except.ok.inj same)
  · intro equal first second firstPerm secondPerm
    apply probe_withoutMachineId_congr
    rw [head?_eq_of_perm (firstPerm.filterMap usableUuid) equal,
      head?_eq_of_perm (secondPerm.filterMap usableUuid) equal]

/-- Two devices with different UUIDs: the identity is that of the device that the
enumeration happens to come to first. -/
theorem not_probe_stable :
    ¬ ∀ (machineError : String) (entries first second : List DrmEntry),
      first.Perm entries → second.Perm entries →
      (withoutMachineId machineError first).probe =
        (withoutMachineId machineError second).probe := by
  intro claim
  have same := claim "No such file or directory" [.ok (.ok "GPU-1\n"), .ok (.ok "GPU-2\n")]
    [.ok (.ok "GPU-1\n"), .ok (.ok "GPU-2\n")] [.ok (.ok "GPU-2\n"), .ok (.ok "GPU-1\n")]
    (List.Perm.refl _) (List.Perm.swap _ _ _)
  exact absurd same (by decide)

end LinuxSources

end Mjae.Core
