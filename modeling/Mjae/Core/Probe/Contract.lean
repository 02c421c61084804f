import Mjae.Core.Probe

/-!
# The contract of the probe

On every system the probe returns some fingerprint, a synthetic one exactly when no
source of that system has any, and the fallible form succeeds exactly when one has.
Only the Linux chain looks at what its sources hold; the others pass on an empty
string, and Windows takes a placeholder for an identity.
-/

namespace Mjae.Core

open Mjae.Providers Mjae.Text

/-- Which strings count as non-empty: the empty string does not, a string that is not
blank does, and a blank one may or may not. -/
structure Reading where
  Counts : String → Prop
  of_trim_ne : ∀ text, trim text ≠ "" → Counts text
  not_counts_empty : ¬ Counts ""

namespace Reading

/-- Every string but the empty one. -/
def literal : Reading where
  Counts text := text ≠ ""
  of_trim_ne text clear := by
    rintro rfl
    exact clear rfl
  not_counts_empty same := same rfl

/-- Every string but the blank ones. -/
def trimmed : Reading where
  Counts text := trim text ≠ ""
  of_trim_ne _ := id
  not_counts_empty clear := clear rfl

/-- A source yields a non-empty string. -/
def Yields (reading : Reading) (source : Except String String) : Prop :=
  ∃ text, source = .ok text ∧ reading.Counts text

@[simp]
theorem yields_ok (reading : Reading) (text : String) :
    reading.Yields (.ok text) ↔ reading.Counts text := by
  constructor
  · rintro ⟨_, ⟨⟩, counts⟩
    exact counts
  · exact fun counts => ⟨text, rfl, counts⟩

@[simp]
theorem not_yields_error (reading : Reading) (message : String) :
    ¬ reading.Yields (.error message) := by
  rintro ⟨text, same, -⟩
  cases same

theorem ne_empty_of_counts (reading : Reading) {text : String} (counts : reading.Counts text) :
    text ≠ "" := by
  rintro rfl
  exact reading.not_counts_empty counts

end Reading

/-- Some source of the system yields a non-empty string.  NVML has a serial and a UUID
only for a device of an initialised library. -/
def Target.Yields (reading : Reading) : Target → Prop
  | .macos platformSerial => reading.Yields platformSerial
  | .linux sources =>
      reading.Yields sources.machineId ∨
        ∃ entries, sources.drmEntries = .ok entries ∧
          ∃ read, .ok read ∈ entries ∧ reading.Yields read
  | .windows nvml =>
      nvml.init = .ok () ∧ nvml.handle = .ok () ∧
        (reading.Yields nvml.serial ∨ reading.Yields nvml.uuid)
  | .other => False

/-- What the documentation promises of a probe. -/
structure Contract (reading : Reading) (environment : Environment) (target : Target) : Prop where
  nonempty : (HardwareIdentity.probe environment target).fingerprint ≠ ""
  source_iff : (HardwareIdentity.probe environment target).source = .synthetic ↔
    ¬ target.Yields reading
  carries : (HardwareIdentity.probe environment target).source = .synthetic →
    ∃ reason, (HardwareIdentity.probe environment target).fingerprint =
      "synthetic:" ++ reason ++ ":host=" ++ environment.host ++ ":pid=" ++
        toString environment.processId.toNat
  tried_iff : (HardwareIdentity.tryProbe target).isOk ↔ target.Yields reading

/-- When the sources answer enough for the chain of their system: on macOS a serial that
is there counts as non-empty; on Linux a string that counts comes with one that is not
blank; on Windows a device has a serial that is not the empty string, and it or the UUID
counts, or it has no serial and a UUID that counts. -/
def Target.AnswersEnough (reading : Reading) : Target → Prop
  | .macos platformSerial => ∀ serial, platformSerial = .ok serial → reading.Counts serial
  | .linux sources =>
      (Target.linux sources).Yields reading → (Target.linux sources).Yields Reading.trimmed
  | .windows nvml =>
      nvml.init = .ok () → nvml.handle = .ok () →
        match nvml.serial with
        | .ok serial => serial ≠ "" ∧ (reading.Counts serial ∨ reading.Yields nvml.uuid)
        | .error _ => reading.Yields nvml.uuid
  | .other => True

open HardwareIdentity

variable {reading : Reading} {environment : Environment} {target : Target}

/-- An identity that was found meets the contract if it is real and not empty. -/
theorem contract_of_ok {identity : HardwareIdentity} (found : tryProbe target = .ok identity) :
    Contract reading environment target ↔
      identity.fingerprint ≠ "" ∧ identity.source ≠ .synthetic ∧ target.Yields reading := by
  have probe_eq : probe environment target = identity := by rw [probe, found]
  constructor
  · intro contract
    have yields : target.Yields reading := contract.tried_iff.mp (by rw [found]; rfl)
    have nonempty := contract.nonempty
    have source_iff := contract.source_iff
    rw [probe_eq] at nonempty source_iff
    exact ⟨nonempty, fun synthetic => source_iff.mp synthetic yields, yields⟩
  · rintro ⟨nonempty, real, yields⟩
    constructor
    · rwa [probe_eq]
    · rw [probe_eq]
      exact iff_of_false real (not_not_intro yields)
    · rw [probe_eq]
      exact fun synthetic => absurd synthetic real
    · rw [found]
      exact iff_of_true rfl yields

/-- A probe that failed meets the contract if there was nothing to find. -/
theorem contract_of_error {message : String} (failed : tryProbe target = .error message) :
    Contract reading environment target ↔ ¬ target.Yields reading := by
  have probe_eq : probe environment target = synthetic environment "probe_failed" := by
    rw [probe, failed]
  constructor
  · intro contract
    have source_iff := contract.source_iff
    rw [probe_eq] at source_iff
    exact source_iff.mp rfl
  · intro nothing
    constructor
    · rw [probe_eq]
      intro empty
      have texts := congrArg String.toList empty
      simp only [synthetic, String.toList_append, String.toList_empty,
        List.append_eq_nil_iff] at texts
      exact absurd texts.1.1.1.1.1 (by decide)
    · rw [probe_eq]
      exact iff_of_true rfl nothing
    · rw [probe_eq]
      exact fun _ => ⟨"probe_failed", rfl⟩
    · rw [failed]
      exact iff_of_false (by simp [Except.isOk, Except.toBool]) nothing

/-! ## The chains -/

theorem contract_macos_iff (platformSerial : Except String String) :
    Contract reading environment (.macos platformSerial) ↔
      (Target.macos platformSerial).AnswersEnough reading := by
  cases platformSerial with
  | error message =>
      rw [contract_of_error rfl]
      constructor
      · intro _ serial same
        cases same
      · exact fun _ => reading.not_yields_error message
  | ok serial =>
      rw [contract_of_ok rfl]
      constructor
      · rintro ⟨-, -, yields⟩ _ ⟨⟩
        exact (reading.yields_ok serial).mp yields
      · intro enough
        have counts := enough serial rfl
        exact ⟨reading.ne_empty_of_counts counts, by simp, (reading.yields_ok serial).mpr counts⟩

/-- A usable UUID is the trimmed contents of some file that is not blank. -/
theorem mem_filterMap_usableUuid {entries : List DrmEntry} {uuid : String} :
    uuid ∈ entries.filterMap LinuxSources.usableUuid ↔
      ∃ raw, .ok (.ok raw) ∈ entries ∧ trim raw = uuid ∧ uuid ≠ "" := by
  rw [List.mem_filterMap]
  constructor
  · rintro ⟨entry, listed, usable⟩
    rcases entry with message | message | raw
    · cases usable
    · cases usable
    · rcases Option.ite_none_right_eq_some.mp usable with ⟨clear, uuid_eq⟩
      cases uuid_eq
      exact ⟨raw, listed, rfl, clear⟩
  · rintro ⟨raw, listed, rfl, clear⟩
    exact ⟨.ok (.ok raw), listed, if_pos clear⟩

theorem readMachineId_cases (sources : LinuxSources) :
    (∃ id, sources.readMachineId = .ok id ∧ id ≠ "" ∧
      Reading.trimmed.Yields sources.machineId) ∨
    (∃ message, sources.readMachineId = .error message) ∧
      ¬ Reading.trimmed.Yields sources.machineId := by
  rw [LinuxSources.readMachineId]
  cases sources.machineId with
  | error message => exact Or.inr ⟨⟨_, rfl⟩, Reading.not_yields_error _ _⟩
  | ok raw =>
      rw [Reading.yields_ok]
      by_cases blank : trim raw = ""
      · exact Or.inr ⟨⟨_, if_pos blank⟩, fun clear => clear blank⟩
      · exact Or.inl ⟨trim raw, if_neg blank, blank, blank⟩

theorem readGpuUuid_cases (sources : LinuxSources) :
    (∃ uuid, sources.readGpuUuid = .ok uuid ∧ uuid ≠ "" ∧
      ∃ entries, sources.drmEntries = .ok entries ∧
        ∃ read, .ok read ∈ entries ∧ Reading.trimmed.Yields read) ∨
    (∃ message, sources.readGpuUuid = .error message) ∧
      ¬ ∃ entries, sources.drmEntries = .ok entries ∧
        ∃ read, .ok read ∈ entries ∧ Reading.trimmed.Yields read := by
  rw [LinuxSources.readGpuUuid]
  cases sources.drmEntries with
  | error message =>
      right
      refine ⟨⟨_, rfl⟩, ?_⟩
      rintro ⟨entries, same, -⟩
      cases same
  | ok entries =>
      dsimp only
      rw [LinuxSources.firstGpuUuid_eq]
      cases first : (entries.filterMap LinuxSources.usableUuid).head? with
      | some uuid =>
          left
          rcases mem_filterMap_usableUuid.mp (List.mem_of_head? first) with
            ⟨raw, listed, rfl, clear⟩
          exact ⟨_, rfl, clear, entries, rfl, .ok raw, listed, (Reading.yields_ok _ raw).mpr clear⟩
      | none =>
          right
          refine ⟨⟨_, rfl⟩, ?_⟩
          rintro ⟨_, ⟨⟩, read, listed, raw, rfl, clear⟩
          have usable := mem_filterMap_usableUuid.mpr ⟨raw, listed, rfl, clear⟩
          rw [List.head?_eq_none_iff.mp first] at usable
          exact List.not_mem_nil usable

/-- The Linux chain finds an identity exactly when some source is not blank. -/
theorem linux_probe_cases (sources : LinuxSources) :
    (∃ identity, sources.probe = .ok identity ∧ identity.fingerprint ≠ "" ∧
      identity.source ≠ .synthetic ∧ (Target.linux sources).Yields Reading.trimmed) ∨
    (∃ message, sources.probe = .error message) ∧
      ¬ (Target.linux sources).Yields Reading.trimmed := by
  rw [LinuxSources.probe, Target.Yields]
  rcases readMachineId_cases sources with ⟨id, read, clear, yields⟩ | ⟨⟨message, failed⟩, none⟩
  · left
    rw [read]
    exact ⟨_, rfl, clear, by simp, Or.inl yields⟩
  · rw [failed]
    dsimp only
    rcases readGpuUuid_cases sources with
      ⟨uuid, read, clear, yields⟩ | ⟨⟨gpuMessage, gpuFailed⟩, noUuid⟩
    · left
      rw [read]
      exact ⟨_, rfl, clear, by simp, Or.inr yields⟩
    · right
      rw [gpuFailed]
      exact ⟨⟨_, rfl⟩, not_or_intro none noUuid⟩

/-- A string that is not blank counts. -/
theorem Target.Yields.of_trimmed {target : Target} (yields : target.Yields Reading.trimmed) :
    target.Yields reading := by
  have counted {source : Except String String} (clear : Reading.trimmed.Yields source) :
      reading.Yields source := by
    rcases clear with ⟨text, same, notBlank⟩
    exact ⟨text, same, reading.of_trim_ne text notBlank⟩
  cases target with
  | macos platformSerial => exact counted yields
  | linux sources =>
      rcases yields with machine | ⟨entries, listing, read, listed, clear⟩
      · exact Or.inl (counted machine)
      · exact Or.inr ⟨entries, listing, read, listed, counted clear⟩
  | windows nvml =>
      rcases yields with ⟨init, handle, serial | uuid⟩
      · exact ⟨init, handle, Or.inl (counted serial)⟩
      · exact ⟨init, handle, Or.inr (counted uuid)⟩
  | other => exact yields

theorem contract_linux_iff (sources : LinuxSources) :
    Contract reading environment (.linux sources) ↔
      (Target.linux sources).AnswersEnough reading := by
  rw [Target.AnswersEnough]
  rcases linux_probe_cases sources with ⟨identity, found, clear, real, yields⟩ |
    ⟨⟨message, failed⟩, none⟩
  · have probed : tryProbe (.linux sources) = .ok identity := found
    rw [contract_of_ok probed]
    exact iff_of_true ⟨clear, real, yields.of_trimmed⟩ fun _ => yields
  · have probed : tryProbe (.linux sources) = .error message := failed
    rw [contract_of_error probed]
    constructor
    · exact fun nothing yields => absurd yields nothing
    · exact fun enough yields => none (enough yields)

/-- Where blank strings count as empty, the Linux chain always meets its contract. -/
theorem contract_linux_trimmed (environment : Environment) (sources : LinuxSources) :
    Contract Reading.trimmed environment (.linux sources) :=
  (contract_linux_iff sources).mpr id

/-- Where they do not, a machine identifier of blanks is one that is not used. -/
example : ¬ (Target.linux ⟨.ok " ", .error "no devices"⟩).AnswersEnough Reading.literal := by
  intro enough
  rcases enough (Or.inl ⟨" ", rfl, by simp [Reading.literal]⟩) with ⟨_, ⟨⟩, clear⟩ | ⟨_, ⟨⟩, -⟩
  exact clear (by decide)

/-- A device that answers is taken for an identity, whatever its serial and UUID hold. -/
theorem probeDevice_of_handle {nvml : NvmlProbe} (init : nvml.init = .ok ())
    (handle : nvml.handle = .ok ()) (deviceIndex : UInt32) :
    probeDevice deviceIndex nvml = .ok
      (match nvml.serial with
      | .ok serial => { fingerprint := serial, source := .windowsNvmlSerial }
      | .error _ =>
          match nvml.uuid with
          | .ok uuid => { fingerprint := uuid, source := .windowsNvmlUuid }
          | .error _ =>
              { fingerprint := "nvml-device-" ++ toString deviceIndex.toNat
                source := .synthetic }) := by
  rw [probeDevice, WindowsProvider.new, init, handle]
  cases nvml.serial with
  | ok serial => rfl
  | error message => cases nvml.uuid <;> rfl

theorem probeDevice_of_no_handle {nvml : NvmlProbe}
    (none : ¬ (nvml.init = .ok () ∧ nvml.handle = .ok ())) (deviceIndex : UInt32) :
    ∃ message, probeDevice deviceIndex nvml = .error message := by
  rw [probeDevice, WindowsProvider.new]
  cases init : nvml.init with
  | error message => exact ⟨_, rfl⟩
  | ok =>
      cases handle : nvml.handle with
      | error message => exact ⟨_, rfl⟩
      | ok => exact absurd ⟨init, handle⟩ none

theorem contract_windows_iff (nvml : NvmlProbe) :
    Contract reading environment (.windows nvml) ↔
      (Target.windows nvml).AnswersEnough reading := by
  rw [Target.AnswersEnough]
  by_cases device : nvml.init = .ok () ∧ nvml.handle = .ok ()
  · rcases device with ⟨init, handle⟩
    have probed : tryProbe (.windows nvml) = _ := probeDevice_of_handle init handle 0
    rw [contract_of_ok probed, Target.Yields]
    simp only [init, handle, true_and, forall_const]
    cases nvml.serial with
    | ok serial => simp
    | error message =>
        cases nvml.uuid with
        | ok uuid =>
            simp only [ne_eq, reduceCtorEq, not_false_eq_true, Reading.not_yields_error, false_or,
              Reading.yields_ok, true_and, and_iff_right_iff_imp]
            exact reading.ne_empty_of_counts
        | error other => simp
  · rcases probeDevice_of_no_handle device 0 with ⟨message, failed⟩
    have probed : tryProbe (.windows nvml) = .error message := failed
    rw [contract_of_error probed]
    constructor
    · exact fun _ init handle => absurd ⟨init, handle⟩ device
    · rintro - ⟨init, handle, -⟩
      exact device ⟨init, handle⟩

/-- Whether blank strings count as empty or not, the probe of a system meets its
contract exactly when the sources of the system answer enough. -/
theorem contract_iff (reading : Reading) (environment : Environment) (target : Target) :
    Contract reading environment target ↔ target.AnswersEnough reading := by
  cases target with
  | macos platformSerial => exact contract_macos_iff platformSerial
  | linux sources => exact contract_linux_iff sources
  | windows nvml => exact contract_windows_iff nvml
  | other =>
      rw [contract_of_error rfl]
      exact iff_of_true id trivial

/-- A Mac whose serial number is the empty string has an empty fingerprint. -/
theorem not_contract :
    ¬ ∃ reading : Reading, ∀ (environment : Environment) (target : Target),
      Contract reading environment target := by
  rintro ⟨reading, contract⟩
  exact (contract ⟨some "host", none, none, 7⟩ (.macos (.ok ""))).nonempty rfl

end Mjae.Core
