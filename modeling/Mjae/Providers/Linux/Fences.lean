import Mathlib.Data.Finset.Card
import Mjae.Providers.Linux

/-!
# Outstanding fences

The provider keeps one count for every process.  The abstract model keeps the
fences themselves: a fence is outstanding from its initialisation to its signal.
In every run of initialisations and signals the counts are the numbers of
outstanding fences, with no entry for a process that has none.
-/

namespace Mjae.Providers

open Mjae.Arith Mjae.Core Mjae.Transition

universe u

/-- An event of the fence tracepoints, or the exit of a process. -/
inductive FenceEvent (F : Type u) where
  | init (fence : F)
  | signal (fence : F) (submittedAtNs signaledAtNs gpuPowerUw : UInt64)
  | exit (pid : UInt32)

namespace LinuxProvider

variable {F : Type u}

/-- The call that the daemon makes for an event. -/
def handle (submitter : F → UInt32) (provider : LinuxProvider) : FenceEvent F → LinuxProvider
  | .init fence => provider.markPidActive (submitter fence)
  | .signal fence submittedAtNs signaledAtNs gpuPowerUw =>
      (provider.correlateFence
        { submitterPid := submitter fence, submittedAtNs, signaledAtNs, gpuPowerUw }).2
  | .exit pid => provider.markPidIdle pid

/-- A new provider after the listed events. -/
def afterEvents (submitter : F → UInt32) (hardwareSignature : String)
    (events : List (FenceEvent F)) : LinuxProvider :=
  events.foldl (handle submitter) (new hardwareSignature)

end LinuxProvider

/-! ## The abstract tracker -/

/-- Which fences were initialised and which of them are over. -/
structure FenceTracker (F : Type u) where
  initialised : Finset F
  signalled : Finset F

namespace FenceTracker

variable {F : Type u} [DecidableEq F]

def empty : FenceTracker F :=
  ⟨∅, ∅⟩

def outstanding (tracker : FenceTracker F) : Finset F :=
  tracker.initialised \ tracker.signalled

/-- Outstanding fences of one process. -/
def inFlight (submitter : F → UInt32) (tracker : FenceTracker F) (pid : UInt32) : Finset F :=
  tracker.outstanding.filter fun fence => submitter fence = pid

/-- A fence is initialised once, while its process has room for one more, and
signalled once, after its initialisation.  No process exits. -/
def step (submitter : F → UInt32) (tracker : FenceTracker F) :
    FenceEvent F → Option (FenceTracker F)
  | .init fence =>
      if fence ∉ tracker.initialised ∧
          (tracker.inFlight submitter (submitter fence)).card < U32.maxNat then
        some { tracker with initialised := insert fence tracker.initialised }
      else none
  | .signal fence _ _ _ =>
      if fence ∈ tracker.outstanding then
        some { tracker with signalled := insert fence tracker.signalled }
      else none
  | .exit _ => none

theorem mem_inFlight {submitter : F → UInt32} {tracker : FenceTracker F} {pid : UInt32}
    {fence : F} :
    fence ∈ tracker.inFlight submitter pid ↔
      fence ∈ tracker.outstanding ∧ submitter fence = pid :=
  Finset.mem_filter

/-- Signals only ever concern initialised fences. -/
def Ordered (tracker : FenceTracker F) : Prop :=
  tracker.signalled ⊆ tracker.initialised

theorem Ordered.step {submitter : F → UInt32} {tracker next : FenceTracker F}
    {event : FenceEvent F} (ordered : tracker.Ordered)
    (stepped : tracker.step submitter event = some next) : next.Ordered := by
  cases event with
  | init fence =>
      rcases Option.ite_none_right_eq_some.mp stepped with ⟨-, next_eq⟩
      cases next_eq
      exact ordered.trans (Finset.subset_insert _ _)
  | signal fence =>
      rcases Option.ite_none_right_eq_some.mp stepped with ⟨live, next_eq⟩
      cases next_eq
      exact Finset.insert_subset (Finset.mem_sdiff.mp live).1 ordered
  | exit pid => cases stepped

/-- An initialisation adds its fence to its own process. -/
theorem card_inFlight_init {submitter : F → UInt32} {tracker : FenceTracker F} {fence : F}
    (ordered : tracker.Ordered) (fresh : fence ∉ tracker.initialised) (pid : UInt32) :
    (inFlight submitter
      { tracker with initialised := insert fence tracker.initialised } pid).card =
      (tracker.inFlight submitter pid).card + if submitter fence = pid then 1 else 0 := by
  have unsignalled : fence ∉ tracker.signalled := fun member => fresh (ordered member)
  have grown : outstanding { tracker with initialised := insert fence tracker.initialised } =
      insert fence tracker.outstanding :=
    Finset.insert_sdiff_of_notMem _ unsignalled
  have new_fence : fence ∉ tracker.inFlight submitter pid := fun member =>
    fresh (Finset.mem_sdiff.mp (mem_inFlight.mp member).1).1
  rw [inFlight, grown, Finset.filter_insert]
  split
  · exact Finset.card_insert_of_notMem new_fence
  · rfl

/-- A signal takes its fence off its own process. -/
theorem card_inFlight_signal {tracker : FenceTracker F} {fence : F}
    (submitter : F → UInt32) (live : fence ∈ tracker.outstanding) (pid : UInt32) :
    (inFlight submitter
      { tracker with signalled := insert fence tracker.signalled } pid).card +
      (if submitter fence = pid then 1 else 0) = (tracker.inFlight submitter pid).card := by
  have shrunk : outstanding { tracker with signalled := insert fence tracker.signalled } =
      tracker.outstanding.erase fence := by
    rw [outstanding, outstanding, Finset.sdiff_insert]
  rw [inFlight, shrunk, Finset.filter_erase]
  split
  · rename_i own
    exact Finset.card_erase_add_one (mem_inFlight.mpr ⟨live, own⟩)
  · rename_i other
    have untouched : fence ∉ tracker.inFlight submitter pid := fun member =>
      other (mem_inFlight.mp member).2
    exact congrArg Finset.card (Finset.erase_eq_of_notMem untouched)

end FenceTracker

namespace LinuxProvider

variable {F : Type u} [DecidableEq F]

open FenceTracker

/-! ## The counts refine the tracker -/

theorem getElem?_activePids_markPidActive (provider : LinuxProvider) (pid other : UInt32) :
    (provider.markPidActive pid).activePids[other]? =
      if pid = other then some (U32.saturatingAdd ((provider.activePids[pid]?).getD 0) 1)
      else provider.activePids[other]? := by
  rw [markPidActive, Std.ExtTreeMap.getElem?_insert]
  simp

theorem getElem?_releaseFence (activePids : Std.ExtTreeMap UInt32 UInt32)
    (pid other : UInt32) :
    (releaseFence activePids pid)[other]? =
      if pid = other then
        (activePids[pid]?).bind fun count =>
          if U32.saturatingSub count 1 = 0 then none else some (U32.saturatingSub count 1)
      else activePids[other]? := by
  rw [releaseFence]
  by_cases same : pid = other
  · subst same
    rw [if_pos rfl]
    cases found : activePids[pid]? with
    | none => exact found
    | some count =>
        rw [Option.bind_some]
        dsimp only
        split
        · exact Std.ExtTreeMap.getElem?_erase_self
        · exact Std.ExtTreeMap.getElem?_insert_self
  · rw [if_neg same]
    cases activePids[pid]? with
    | none => rfl
    | some count =>
        dsimp only
        split
        · rw [Std.ExtTreeMap.getElem?_erase]
          simp [same]
        · rw [Std.ExtTreeMap.getElem?_insert]
          simp [same]

/-- A number of fences as the counts keep it: no entry for zero. -/
def countEntry (fences : Nat) : Option Nat :=
  if fences = 0 then none else some fences

theorem countEntry_eq_none_iff (fences : Nat) : countEntry fences = none ↔ fences = 0 := by
  simp [countEntry]

theorem toNat_getD_of_countEntry {count : Option UInt32} {fences : Nat}
    (counted : count.map UInt32.toNat = countEntry fences) : (count.getD 0).toNat = fences := by
  rw [countEntry] at counted
  cases count with
  | none =>
      split at counted
      · rename_i zero
        rw [zero]
        rfl
      · contradiction
  | some value =>
      split at counted
      · contradiction
      · exact Option.some.inj counted

/-- One more fence of `pid`, up to the largest count. -/
theorem count_markPidActive {provider : LinuxProvider} {pid : UInt32} {fences : Nat}
    (counted : (provider.activePids[pid]?).map UInt32.toNat = countEntry fences) :
    ((provider.markPidActive pid).activePids[pid]?).map UInt32.toNat =
      countEntry (min (fences + 1) U32.maxNat) := by
  have one : (1 : UInt32).toNat = 1 := rfl
  have nonzero : min (fences + 1) U32.maxNat ≠ 0 := by
    rw [U32.maxNat]
    omega
  rw [getElem?_activePids_markPidActive, if_pos rfl, Option.map_some, U32.toNat_saturatingAdd,
    toNat_getD_of_countEntry counted, one, countEntry, if_neg nonzero]

/-- One fence of `pid` less, if there is any. -/
theorem count_releaseFence {activePids : Std.ExtTreeMap UInt32 UInt32} {pid : UInt32}
    {fences : Nat} (counted : (activePids[pid]?).map UInt32.toNat = countEntry fences) :
    ((releaseFence activePids pid)[pid]?).map UInt32.toNat = countEntry (fences - 1) := by
  have fences_eq := toNat_getD_of_countEntry counted
  rw [getElem?_releaseFence, if_pos rfl]
  cases found : activePids[pid]? with
  | none =>
      rw [found] at fences_eq
      rw [← fences_eq]
      rfl
  | some count =>
      rw [found, Option.getD_some] at fences_eq
      have less : (U32.saturatingSub count 1).toNat = fences - 1 := by
        rw [U32.toNat_saturatingSub, fences_eq]
        rfl
      have zero_iff : U32.saturatingSub count 1 = 0 ↔ fences - 1 = 0 := by
        rw [← less]
        exact ⟨fun zero => by rw [zero]; rfl, fun zero => UInt32.toNat.inj zero⟩
      rw [Option.bind_some, countEntry]
      by_cases zero : U32.saturatingSub count 1 = 0
      · rw [if_pos zero, if_pos (zero_iff.mp zero)]
        rfl
      · rw [if_neg zero, if_neg fun equal => zero (zero_iff.mpr equal), Option.map_some, less]

/-- The count of a process is the number of its outstanding fences, and a
process without any has no entry. -/
def Counts (submitter : F → UInt32) (provider : LinuxProvider) (tracker : FenceTracker F) :
    Prop :=
  ∀ pid, (provider.activePids[pid]?).map UInt32.toNat =
    if (tracker.inFlight submitter pid).card = 0 then none
    else some (tracker.inFlight submitter pid).card

/-- One event keeps the counts and the tracker in step. -/
theorem Counts.step {submitter : F → UInt32} {provider : LinuxProvider}
    {tracker next : FenceTracker F} {event : FenceEvent F}
    (counts : Counts submitter provider tracker) (ordered : tracker.Ordered)
    (stepped : tracker.step submitter event = some next) :
    Counts submitter (provider.handle submitter event) next := by
  intro pid
  cases event with
  | init fence =>
      rcases Option.ite_none_right_eq_some.mp stepped with ⟨⟨fresh, room⟩, next_eq⟩
      cases next_eq
      rw [handle, card_inFlight_init ordered fresh]
      by_cases own : submitter fence = pid
      · subst own
        rw [count_markPidActive (counts _), min_eq_left room, if_pos rfl]
        rfl
      · rw [getElem?_activePids_markPidActive, if_neg own, if_neg own, Nat.add_zero]
        exact counts pid
  | signal fence submittedAtNs signaledAtNs gpuPowerUw =>
      rcases Option.ite_none_right_eq_some.mp stepped with ⟨live, next_eq⟩
      cases next_eq
      have released := card_inFlight_signal submitter live pid
      rw [handle, correlateFence]
      dsimp only
      by_cases own : submitter fence = pid
      · subst own
        rw [if_pos rfl] at released
        rw [count_releaseFence (counts _), ← released]
        rfl
      · rw [if_neg own, Nat.add_zero] at released
        rw [getElem?_releaseFence, if_neg own, released]
        exact counts pid
  | exit pid => cases stepped

theorem counts_afterEvents {submitter : F → UInt32} (hardwareSignature : String)
    {events : List (FenceEvent F)} {tracker : FenceTracker F}
    (valid : run (FenceTracker.step submitter) FenceTracker.empty events = some tracker) :
    Counts submitter (afterEvents submitter hardwareSignature events) tracker ∧
      tracker.Ordered := by
  refine run_induction (fun past state =>
    Counts submitter (afterEvents submitter hardwareSignature past) state ∧ state.Ordered)
    ⟨fun pid => ?_, Finset.Subset.refl _⟩ ?_ valid
  · simp [afterEvents, new, inFlight, outstanding, FenceTracker.empty]
  · rintro past event state next - ⟨counts, ordered⟩ stepped
    constructor
    · rw [afterEvents, List.foldl_append]
      exact counts.step ordered stepped
    · exact ordered.step stepped

theorem Counts.isSome_iff {submitter : F → UInt32} {provider : LinuxProvider}
    {tracker : FenceTracker F} (counts : Counts submitter provider tracker) (pid : UInt32) :
    (provider.activePids[pid]?).isSome ↔ (tracker.inFlight submitter pid).Nonempty := by
  rw [← Option.isSome_map, counts pid, ← Finset.card_pos]
  split
  · simp [*]
  · simp [Nat.pos_iff_ne_zero, *]

/-- The listing is in ascending order, without repetitions. -/
theorem pairwise_activePidSet (provider : LinuxProvider) :
    provider.activePidSet.Pairwise (· < ·) :=
  provider.activePids.ordered_keys.imp fun before => Std.compare_eq_lt.mp before

/-- After every run of initialisations and signals a process is listed exactly
when a fence of it is initialised and not yet signalled, no entry of the counts
is zero and the listing is strictly ascending. -/
theorem activePidSet_refines_outstanding (submitter : F → UInt32) (hardwareSignature : String)
    (events : List (FenceEvent F)) (tracker : FenceTracker F)
    (valid : run (FenceTracker.step submitter) FenceTracker.empty events = some tracker) :
    (∀ pid, pid ∈ (afterEvents submitter hardwareSignature events).activePidSet ↔
      ∃ fence, fence ∈ tracker.initialised ∧ fence ∉ tracker.signalled ∧
        submitter fence = pid) ∧
    (∀ pid : UInt32,
      (afterEvents submitter hardwareSignature events).activePids[pid]? ≠ some 0) ∧
    (afterEvents submitter hardwareSignature events).activePidSet.Pairwise (· < ·) := by
  rcases counts_afterEvents hardwareSignature valid with ⟨counts, -⟩
  refine ⟨fun pid => ?_, fun pid zero => ?_, pairwise_activePidSet _⟩
  · rw [activePidSet, Std.ExtTreeMap.mem_keys, Std.ExtTreeMap.mem_iff_isSome_getElem?,
      counts.isSome_iff]
    constructor
    · rintro ⟨fence, member⟩
      rcases mem_inFlight.mp member with ⟨live, own⟩
      exact ⟨fence, (Finset.mem_sdiff.mp live).1, (Finset.mem_sdiff.mp live).2, own⟩
    · rintro ⟨fence, initialised, unsignalled, own⟩
      exact ⟨fence, mem_inFlight.mpr ⟨Finset.mem_sdiff.mpr ⟨initialised, unsignalled⟩, own⟩⟩
  · have counted := counts pid
    rw [zero] at counted
    split at counted
    · contradiction
    · rename_i some_fence
      exact some_fence (Option.some.inj counted).symm

/-- Two fences of one process in flight when the first of them signals. -/
theorem activePidSet_refines_outstanding_overlapping :
    (∀ pid, pid ∈ (afterEvents (fun _ : Nat => 7) "synthetic"
        [.init 0, .init 1, .signal 0 10 20 5]).activePidSet ↔
      ∃ fence, fence ∈ (insert 1 (insert 0 ∅) : Finset Nat) ∧
        fence ∉ (insert 0 ∅ : Finset Nat) ∧ (fun _ : Nat => 7) fence = pid) ∧
    (∀ pid : UInt32, (afterEvents (fun _ : Nat => 7) "synthetic"
      [.init 0, .init 1, .signal 0 10 20 5]).activePids[pid]? ≠ some 0) ∧
    (afterEvents (fun _ : Nat => 7) "synthetic"
      [.init 0, .init 1, .signal 0 10 20 5]).activePidSet.Pairwise (· < ·) :=
  activePidSet_refines_outstanding (fun _ => 7) "synthetic"
    [.init 0, .init 1, .signal 0 10 20 5] ⟨insert 1 (insert 0 ∅), insert 0 ∅⟩ rfl

end LinuxProvider

end Mjae.Providers
