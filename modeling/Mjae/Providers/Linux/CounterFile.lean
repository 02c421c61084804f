import Mjae.Providers.Linux.WrapPoint
import Mjae.Text.Decimal

/-!
# What the powercap files say

A read of the counter succeeds exactly when its file shows a decimal word.  Over a run of
reads the provider keeps the last word that was shown, and the wrap point that was shown
beside the first one.
-/

namespace Mjae.Providers

open Mjae.Arith Mjae.Text

/-- The file can be read and shows this word. -/
def Host.FileShows (host : Host) (path : String) (value : UInt64) : Prop :=
  ∃ raw, host.readToString path = .ok raw ∧ Shows raw value.toNat

/-- The file cannot be read, or shows no word. -/
def Host.FileSilent (host : Host) (path : String) : Prop :=
  ∀ value, ¬ host.FileShows path value

namespace LinuxProvider

theorem readWord_eq_ok_iff {host : Host} {path : String} {value : UInt64} :
    readWord host path = .ok value ↔ host.FileShows path value := by
  rw [readWord, Host.FileShows]
  cases host.readToString path with
  | error message =>
      constructor
      · intro read
        cases read
      · rintro ⟨raw, read, -⟩
        cases read
  | ok raw =>
      change parseU64 (trim raw) = .ok value ↔ _
      rw [parseU64_eq_ok_iff, spells_trim_iff]
      simp

theorem fileSilent_of_error {host : Host} {path message : String}
    (failed : readWord host path = .error message) : host.FileSilent path := by
  intro value shown
  rw [readWord_eq_ok_iff.mpr shown] at failed
  cases failed

/-- A counter that is printed in decimal is read as what it counts. -/
theorem fileShows_of_printed {host : Host} {path : String} {value : UInt64}
    (printed : host.readToString path = .ok (toString value.toNat ++ "\n")) :
    host.FileShows path value :=
  ⟨_, printed, shows_toString value.toNat⟩

/-- A run of counter reads. -/
def readAll (provider : LinuxProvider) (hosts : List Host) : LinuxProvider :=
  hosts.foldl (fun provider host => (readRaplPowerUw host provider).2) provider

theorem readAll_snoc (provider : LinuxProvider) (hosts : List Host) (host : Host) :
    readAll provider (hosts ++ [host]) = (readRaplPowerUw host (readAll provider hosts)).2 :=
  List.foldl_append

/-- The wrap point of the first reading is what the file beside it shows, and the largest
word if it shows none. -/
theorem wrapPoint_of_none {provider : LinuxProvider} (fresh : provider.raplState = none)
    (host : Host) :
    host.FileShows defaultRaplMaxRangePath (wrapPoint host provider) ∨
      host.FileSilent defaultRaplMaxRangePath ∧ wrapPoint host provider = U64.max := by
  rw [wrapPoint, fresh]
  cases file : readWord host defaultRaplMaxRangePath with
  | ok value => exact Or.inl (readWord_eq_ok_iff.mp file)
  | error message => exact Or.inr ⟨fileSilent_of_error file, rfl⟩

/-! ## What a run keeps -/

/-- The reading is that of the last host whose counter file shows a word. -/
def LastShown (hosts : List Host) (state : RaplState) : Prop :=
  ∃ early last later, hosts = early ++ last :: later ∧
    last.FileShows defaultRaplEnergyPath state.energyUj ∧
    state.observedAtNs = wallClockNs last ∧
    ∀ host ∈ later, host.FileSilent defaultRaplEnergyPath

/-- The wrap point is that of the first host whose counter file shows a word. -/
def FirstShown (hosts : List Host) (state : RaplState) : Prop :=
  ∃ early first later, hosts = early ++ first :: later ∧
    (∀ host ∈ early, host.FileSilent defaultRaplEnergyPath) ∧
    (∃ value, first.FileShows defaultRaplEnergyPath value) ∧
    (first.FileShows defaultRaplMaxRangePath state.maxEnergyUj ∨
      first.FileSilent defaultRaplMaxRangePath ∧ state.maxEnergyUj = U64.max)

theorem LastShown.snoc_silent {hosts : List Host} {state : RaplState} {host : Host}
    (shown : LastShown hosts state) (silent : host.FileSilent defaultRaplEnergyPath) :
    LastShown (hosts ++ [host]) state := by
  obtain ⟨early, last, later, rfl, shows, observed, silent_later⟩ := shown
  refine ⟨early, last, later ++ [host], by simp, shows, observed, ?_⟩
  intro other listed
  rcases List.mem_append.mp listed with before | own
  · exact silent_later other before
  · rw [List.mem_singleton.mp own]
    exact silent

theorem FirstShown.snoc {hosts : List Host} {state : RaplState} {host : Host}
    (shown : FirstShown hosts state) {next : RaplState}
    (same : next.maxEnergyUj = state.maxEnergyUj) : FirstShown (hosts ++ [host]) next := by
  obtain ⟨early, first, later, rfl, silent, shows, wrap⟩ := shown
  rw [← same] at wrap
  exact ⟨early, first, later ++ [host], by simp, silent, shows, wrap⟩

theorem lastShown_snoc {host : Host} {energyUj : UInt64}
    (read : readWord host defaultRaplEnergyPath = .ok energyUj) (hosts : List Host)
    (provider : LinuxProvider) :
    LastShown (hosts ++ [host]) (readState host provider energyUj) :=
  ⟨hosts, host, [], rfl, readWord_eq_ok_iff.mp read, rfl, by simp⟩

/-- Over every run of reads by a new provider: it has a reading exactly if some counter file
has shown a word, and then it keeps the last word shown, the clock beside it, and the
wrap point beside the first one. -/
theorem raplState_readAll (hardwareSignature : String) (hosts : List Host) :
    ((readAll (new hardwareSignature) hosts).raplState = none ∧
        ∀ host ∈ hosts, host.FileSilent defaultRaplEnergyPath) ∨
      ∃ state, (readAll (new hardwareSignature) hosts).raplState = some state ∧
        LastShown hosts state ∧ FirstShown hosts state := by
  induction hosts using List.reverseRecOn with
  | nil => exact Or.inl ⟨rfl, by simp⟩
  | append_singleton hosts host ih =>
      rw [readAll_snoc]
      cases read : readWord host defaultRaplEnergyPath with
      | error message =>
          have silent := fileSilent_of_error read
          rw [readRaplPowerUw_of_error read]
          rcases ih with ⟨fresh, all_silent⟩ | ⟨state, seeded, last, first⟩
          · left
            constructor
            · exact fresh
            · intro other listed
              rcases List.mem_append.mp listed with before | own
              · exact all_silent other before
              · rw [List.mem_singleton.mp own]
                exact silent
          · exact Or.inr ⟨state, seeded, last.snoc_silent silent, first.snoc rfl⟩
      | ok energyUj =>
          right
          rw [readRaplPowerUw_of_ok read]
          rcases ih with ⟨fresh, all_silent⟩ | ⟨state, seeded, last, first⟩
          · have opens : FirstShown (hosts ++ [host])
                (readState host (readAll (new hardwareSignature) hosts) energyUj) :=
              ⟨hosts, host, [], rfl, all_silent, ⟨energyUj, readWord_eq_ok_iff.mp read⟩,
                wrapPoint_of_none fresh host⟩
            exact ⟨_, rfl, lastShown_snoc read hosts _, opens⟩
          · exact ⟨_, rfl, lastShown_snoc read hosts _, first.snoc (wrapPoint_of_some seeded host)⟩

/-- What the next read answers is told by the files of the run alone: an error if its own
counter file shows no word, no power if no file before it did, and otherwise the power of
the step from the last word shown, around the wrap point shown beside the first one. -/
theorem readRaplPowerUw_readAll (hardwareSignature : String) (hosts : List Host) (host : Host) :
    (host.FileSilent defaultRaplEnergyPath ∧ ∃ message,
        (readRaplPowerUw host (readAll (new hardwareSignature) hosts)).1 = .error message) ∨
      ∃ energyUj, host.FileShows defaultRaplEnergyPath energyUj ∧
        ((∀ earlier ∈ hosts, earlier.FileSilent defaultRaplEnergyPath) ∧
            (readRaplPowerUw host (readAll (new hardwareSignature) hosts)).1 =
              .ok (0, wallClockNs host) ∨
          ∃ state, LastShown hosts state ∧ FirstShown hosts state ∧
            (readRaplPowerUw host (readAll (new hardwareSignature) hosts)).1 =
              .ok (gapPowerUw (counterDeltaUj state.energyUj energyUj state.maxEnergyUj)
                (U64.saturatingSub (wallClockNs host) state.observedAtNs), wallClockNs host)) := by
  cases read : readWord host defaultRaplEnergyPath with
  | error message =>
      left
      constructor
      · exact fileSilent_of_error read
      · rw [readRaplPowerUw_of_error read]
        exact ⟨message, rfl⟩
  | ok energyUj =>
      right
      refine ⟨energyUj, readWord_eq_ok_iff.mp read, ?_⟩
      rcases raplState_readAll hardwareSignature hosts with
        ⟨fresh, all_silent⟩ | ⟨state, seeded, last, first⟩
      · left
        constructor
        · exact all_silent
        · simp only [readRaplPowerUw, read, fresh]
      · right
        have delta_eq : readDeltaUj host (readAll (new hardwareSignature) hosts) =
            some (counterDeltaUj state.energyUj energyUj state.maxEnergyUj) := by
          rw [readDeltaUj, read, seeded, ← wrapPoint_of_some seeded host]
        exact ⟨state, last, first, readRaplPowerUw_eq_gapPowerUw seeded delta_eq⟩

end LinuxProvider

end Mjae.Providers
