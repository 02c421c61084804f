import Mathlib.Data.Finset.Card
import Mjae.Core.Probe
import Mjae.Ownership.Scope
import Mjae.Providers.AppleSilicon.Discovery
import Mjae.Transition.Run

/-!
# The objects of the macOS probe

The serial number is read through four objects: the matching dictionary, which the
lookup consumes, the platform service, the key and the property.  All of them are gone
when the probe returns, on every path but two: the service is left behind when the key
cannot be allocated, and when IOKit refuses to release it.
-/

namespace Mjae.Core

open Mjae.Ownership Mjae.Providers Mjae.Transition

def kIoReturnSuccess : Int32 :=
  0

/-- What IOKit and CoreFoundation answer while the serial number is read. -/
structure PlatformAnswers where
  /-- Whether there is a matching dictionary. -/
  serviceMatching : Bool
  /-- Whether the lookup finds the platform service. -/
  matchingService : Bool
  /-- Whether the key of the serial number is allocated. -/
  serialKey : Bool
  /-- The serial number, `none` if the reference is null. -/
  serialNumber : Option CFStringContent
  /-- What the release of the service answers. -/
  releaseCode : Int32

namespace PlatformAnswers

def cfstringToString (value : CFStringContent) : Except String String :=
  if value.maximumSize < 0 then
    .error "CoreFoundation returned an invalid UTF-8 buffer size"
  else
    match value.exported with
    | none => .error "CFStringGetCString failed to export the serial as UTF-8"
    | some text => .ok text

/-- What the probe makes of the answers. -/
def readPlatformSerial (answers : PlatformAnswers) : Except String String :=
  if ¬ answers.serviceMatching then
    .error "IOServiceMatching returned NULL for IOPlatformExpertDevice"
  else if ¬ answers.matchingService then
    .error "IOServiceGetMatchingService could not locate IOPlatformExpertDevice"
  else if ¬ answers.serialKey then
    .error "CFStringCreateWithCString returned NULL"
  else
    match answers.serialNumber with
    | none => .error "IOPlatformSerialNumber property is missing from IOKit registry"
    | some value => cfstringToString value

/-- A refused release leaves the service behind; it is only logged. -/
def releaseService (answers : PlatformAnswers) (service : Nat) : Program Unit :=
  if answers.releaseCode ≠ kIoReturnSuccess then access service else release service

/-- The same, with the objects that it works with. -/
def ownedReadPlatformSerial (answers : PlatformAnswers) : Program (Except String String) := do
  if ¬ answers.serviceMatching then
    return .error "IOServiceMatching returned NULL for IOPlatformExpertDevice"
  else
    let matching ← create
    -- the lookup consumes the dictionary, whether it finds a service or not
    release matching
    if ¬ answers.matchingService then
      return .error "IOServiceGetMatchingService could not locate IOPlatformExpertDevice"
    else
      let service ← create
      if ¬ answers.serialKey then
        return .error "CFStringCreateWithCString returned NULL"
      else withOwned fun key => do
        access service
        access key
        match answers.serialNumber with
        | none =>
            answers.releaseService service
            return .error "IOPlatformSerialNumber property is missing from IOKit registry"
        | some value =>
            let property ← create
            answers.releaseService service
            access property
            release property
            return cfstringToString value

/-- The service is found, but then the key is not allocated or the service not released. -/
def Leaks (answers : PlatformAnswers) : Prop :=
  answers.serviceMatching ∧ answers.matchingService ∧
    (¬ answers.serialKey ∨ answers.releaseCode ≠ kIoReturnSuccess)
  deriving Decidable

theorem ends_releaseService (answers : PlatformAnswers) {service : Nat} {live : Finset Nat}
    (member : service ∈ live) :
    Ends (answers.releaseService service) live fun _ after =>
      after = if answers.releaseCode ≠ kIoReturnSuccess then live else live.erase service := by
  rw [releaseService]
  by_cases refused : answers.releaseCode ≠ kIoReturnSuccess
  · rw [if_pos refused, if_pos refused]
    exact Ends.access member rfl
  · rw [if_neg refused, if_neg refused]
    exact Ends.release member rfl

/-- What one probe leaves: nothing of its own, or the service. -/
def Leaves (answers : PlatformAnswers) (live after : Finset Nat) : Prop :=
  if answers.Leaks then ∃ service, service ∉ live ∧ after = insert service live
  else after = live

theorem leaves_of_released {answers : PlatformAnswers} {live : Finset Nat} {service : Nat}
    (fresh : service ∉ live) (matching : answers.serviceMatching = true)
    (found : answers.matchingService = true) (key : answers.serialKey = true) :
    answers.Leaves live
      (if answers.releaseCode ≠ kIoReturnSuccess then insert service live else live) := by
  rw [Leaves]
  by_cases refused : answers.releaseCode ≠ kIoReturnSuccess
  · rw [if_pos refused, if_pos ⟨matching, found, Or.inr refused⟩]
    exact ⟨service, fresh, rfl⟩
  · rw [if_neg refused, if_neg]
    rintro ⟨-, -, noKey | wasRefused⟩
    · exact noKey key
    · exact refused wasRefused

/-- The program misuses nothing, computes what the probe computes, and leaves what the
answers say. -/
theorem ends_ownedReadPlatformSerial (answers : PlatformAnswers) (live : Finset Nat) :
    Ends answers.ownedReadPlatformSerial live fun result after =>
      result = answers.readPlatformSerial ∧ answers.Leaves live after := by
  rw [ownedReadPlatformSerial, readPlatformSerial]
  by_cases matching : answers.serviceMatching = true
  · rw [if_neg (not_not_intro matching), if_neg (not_not_intro matching)]
    apply Ends.create_bind
    intro dictionary freshDictionary
    apply Ends.release_bind (Finset.mem_insert_self _ _)
    rw [Finset.erase_insert freshDictionary]
    by_cases found : answers.matchingService = true
    · rw [if_neg (not_not_intro found), if_neg (not_not_intro found)]
      apply Ends.create_bind
      intro service freshService
      by_cases key : answers.serialKey = true
      · rw [if_neg (not_not_intro key), if_neg (not_not_intro key)]
        apply Ends.withOwned
        intro cfKey freshKey
        apply Ends.access_bind (Finset.mem_insert_of_mem (Finset.mem_insert_self _ _))
        apply Ends.access_bind (Finset.mem_insert_self _ _)
        have leaves := leaves_of_released freshService matching found key
        cases answers.serialNumber with
        | none =>
            apply Ends.bind (ends_releaseService answers (by grind))
            rintro - after rfl
            apply Ends.pure
            refine ⟨by grind, rfl, ?_⟩
            convert leaves using 1
            split <;> grind
        | some value =>
            apply Ends.create_bind
            intro property freshProperty
            apply Ends.bind (ends_releaseService answers (by grind))
            rintro - after rfl
            apply Ends.access_bind (by grind)
            apply Ends.release_bind (by grind)
            apply Ends.pure
            refine ⟨by grind, rfl, ?_⟩
            convert leaves using 1
            split <;> grind
      · rw [if_pos key, if_pos key]
        apply Ends.pure
        rw [Leaves, if_pos ⟨matching, found, Or.inl key⟩]
        exact ⟨rfl, service, freshService, rfl⟩
    · rw [if_pos found, if_pos found]
      apply Ends.pure
      rw [Leaves, if_neg fun leaks => found leaks.2.1]
      exact ⟨rfl, rfl⟩
  · rw [if_pos matching, if_pos matching]
    apply Ends.pure
    rw [Leaves, if_neg fun leaks => matching leaks.1]
    exact ⟨rfl, rfl⟩

end PlatformAnswers

/-! ## Every run -/

/-- The objects of a process, and the identities that its probes returned. -/
structure ProbingHost where
  heap : Heap
  identities : List HardwareIdentity

namespace ProbingHost

def step (host : ProbingHost) (asked : Environment × PlatformAnswers) : Option ProbingHost := do
  let (serial, heap) ← asked.2.ownedReadPlatformSerial host.heap
  return {
    heap
    identities := host.identities ++ [HardwareIdentity.probe asked.1 (.macos serial)] }

theorem step_eq (host : ProbingHost) (asked : Environment × PlatformAnswers) :
    ∃ heap, host.step asked = some ⟨heap, host.identities ++
        [HardwareIdentity.probe asked.1 (.macos asked.2.readPlatformSerial)]⟩ ∧
      asked.2.Leaves host.heap.live heap.live := by
  rcases asked.2.ends_ownedReadPlatformSerial host.heap.live host.heap rfl with
    ⟨serial, heap, program_eq, rfl, leaves⟩
  refine ⟨heap, ?_, leaves⟩
  rw [step, program_eq]
  rfl

end ProbingHost

/-- Whatever IOKit and CoreFoundation answer, no run of probes works with an object that
is gone or releases one twice.  The probes return the identities of their answers, and
leave exactly one object for every probe that finds the service and then either has no
key or is refused the release. -/
theorem probes_leave (host : ProbingHost) (probes : List (Environment × PlatformAnswers)) :
    ∃ final leaked, run ProbingHost.step host probes = some final ∧
      final.identities = host.identities ++ probes.map (fun asked =>
        HardwareIdentity.probe asked.1 (.macos asked.2.readPlatformSerial)) ∧
      final.heap.live = host.heap.live ∪ leaked ∧ Disjoint host.heap.live leaked ∧
      leaked.card = probes.countP fun asked => asked.2.Leaks := by
  induction probes generalizing host with
  | nil => exact ⟨host, ∅, rfl, by simp, by simp, by simp, by simp⟩
  | cons asked rest ih =>
      rcases host.step_eq asked with ⟨between, stepped, leaves⟩
      rcases ih ⟨between, host.identities ++
          [HardwareIdentity.probe asked.1 (.macos asked.2.readPlatformSerial)]⟩ with
        ⟨final, leaked, onward, identities_eq, live_eq, apart, count_eq⟩
      have reached := run_cons_eq_some_iff.mpr ⟨_, stepped, onward⟩
      rw [List.append_assoc] at identities_eq
      rw [PlatformAnswers.Leaves] at leaves
      split at leaves
      · rename_i leaks
        rcases leaves with ⟨service, fresh, between_eq⟩
        rw [between_eq, Finset.disjoint_insert_left] at apart
        refine ⟨final, insert service leaked, reached, identities_eq, ?_, ?_, ?_⟩
        · rw [live_eq, between_eq, Finset.insert_union, Finset.union_insert]
        · rw [Finset.disjoint_insert_right]
          exact ⟨fresh, apart.2⟩
        · rw [Finset.card_insert_of_notMem apart.1, count_eq, List.countP_cons,
            if_pos (by simpa using leaks)]
      · rename_i clean
        refine ⟨final, leaked, reached, identities_eq, ?_, ?_, ?_⟩
        · rw [live_eq, leaves]
        · rwa [leaves] at apart
        · rw [count_eq, List.countP_cons, if_neg (by simpa using clean), Nat.add_zero]

end Mjae.Core
