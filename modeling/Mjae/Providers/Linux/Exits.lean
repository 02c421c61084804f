import Mathlib.Logic.Function.Basic
import Mjae.Providers.Linux.Fences

/-!
# Exits and late signals

When a process exits its fences are forgotten, but they may still signal, and a
new process may run under the same identifier by then.  The count keeps no fence
identity, so a late signal takes one off the count of the new occupant.  The
active set stays right exactly as long as every occupant has more live fences
than late signals have taken from it.
-/

namespace Mjae.Providers

open Mjae.Arith Mjae.Core Mjae.Transition

universe u

/-- Fences with the exits of their processes.  A fence is forgotten when its
process exits; `lost` says how far the count of an identifier is behind. -/
structure ExitTracker (F : Type u) where
  initialised : Finset F
  signalled : Finset F
  forgotten : Finset F
  lost : UInt32 → Nat

namespace ExitTracker

variable {F : Type u} [DecidableEq F]

def empty : ExitTracker F :=
  ⟨∅, ∅, ∅, fun _ => 0⟩

/-- The tracker of the present occupants: a forgotten fence counts as over. -/
def occupants (tracker : ExitTracker F) : FenceTracker F :=
  ⟨tracker.initialised, tracker.signalled ∪ tracker.forgotten⟩

/-- Unsignalled fences of the present occupant of `pid`. -/
def live (submitter : F → UInt32) (tracker : ExitTracker F) (pid : UInt32) : Finset F :=
  tracker.occupants.inFlight submitter pid

/-- A fence is initialised once and signalled at most once, after that.  An
occupant loses a count to every signal of a forgotten fence that finds it with
live fences, and to every initialisation past the largest count. -/
def step (submitter : F → UInt32) (tracker : ExitTracker F) :
    FenceEvent F → Option (ExitTracker F)
  | .init fence =>
      let pid := submitter fence
      if fence ∉ tracker.initialised then
        some { tracker with
          initialised := insert fence tracker.initialised
          lost := Function.update tracker.lost pid (tracker.lost pid +
            if (tracker.live submitter pid).card = tracker.lost pid + U32.maxNat then 1
            else 0) }
      else none
  | .signal fence _ _ _ =>
      let pid := submitter fence
      if fence ∈ tracker.initialised \ tracker.signalled then
        some { tracker with
          signalled := insert fence tracker.signalled
          lost := Function.update tracker.lost pid (tracker.lost pid +
            if fence ∈ tracker.forgotten ∧ 0 < (tracker.live submitter pid).card then 1
            else 0) }
      else none
  | .exit pid =>
      some { tracker with
        forgotten := tracker.forgotten ∪
          tracker.initialised.filter fun fence => submitter fence = pid
        lost := Function.update tracker.lost pid 0 }

/-- Every occupant with live fences has more of them than its count has lost. -/
def Covered (submitter : F → UInt32) (tracker : ExitTracker F) : Prop :=
  ∀ pid, 0 < (tracker.live submitter pid).card →
    tracker.lost pid < (tracker.live submitter pid).card

/-- Only initialised fences are signalled or forgotten. -/
def Ordered (tracker : ExitTracker F) : Prop :=
  tracker.occupants.Ordered

theorem mem_live {submitter : F → UInt32} {tracker : ExitTracker F} {pid : UInt32} {fence : F} :
    fence ∈ tracker.live submitter pid ↔
      fence ∈ tracker.initialised ∧ fence ∉ tracker.signalled ∧ fence ∉ tracker.forgotten ∧
        submitter fence = pid := by
  rw [live, FenceTracker.mem_inFlight, FenceTracker.outstanding, occupants, Finset.mem_sdiff,
    Finset.notMem_union, and_assoc, and_assoc]

/-! ## What one event does to the live fences -/

/-- An initialisation adds its fence to its own process. -/
theorem of_step_init {submitter : F → UInt32} {tracker next : ExitTracker F} {fence : F}
    (ordered : tracker.Ordered) (stepped : tracker.step submitter (.init fence) = some next)
    (pid : UInt32) :
    (next.live submitter pid).card =
        (tracker.live submitter pid).card + (if submitter fence = pid then 1 else 0) ∧
      next.lost pid = tracker.lost pid +
        if submitter fence = pid ∧
          (tracker.live submitter pid).card = tracker.lost pid + U32.maxNat then 1 else 0 := by
  rcases Option.ite_none_right_eq_some.mp stepped with ⟨fresh, next_eq⟩
  cases next_eq
  refine ⟨FenceTracker.card_inFlight_init ordered fresh pid, ?_⟩
  dsimp only
  by_cases own : submitter fence = pid
  · subst own
    rw [Function.update_self]
    simp
  · rw [Function.update_of_ne (Ne.symm own), if_neg fun both => own both.1, Nat.add_zero]

/-- The signal of a live fence takes it off its process; that of a forgotten
fence concerns nobody, but costs the present occupant a count. -/
theorem of_step_signal {submitter : F → UInt32} {tracker next : ExitTracker F} {fence : F}
    {submittedAtNs signaledAtNs gpuPowerUw : UInt64}
    (stepped : tracker.step submitter (.signal fence submittedAtNs signaledAtNs gpuPowerUw) =
      some next) (pid : UInt32) :
    (next.live submitter pid).card +
        (if submitter fence = pid ∧ fence ∉ tracker.forgotten then 1 else 0) =
        (tracker.live submitter pid).card ∧
      next.lost pid = tracker.lost pid +
        if submitter fence = pid ∧ fence ∈ tracker.forgotten ∧
          0 < (tracker.live submitter pid).card then 1 else 0 := by
  rcases Option.ite_none_right_eq_some.mp stepped with ⟨unsignalled, next_eq⟩
  cases next_eq
  constructor
  · by_cases forgotten : fence ∈ tracker.forgotten
    · have untaken : ¬ (submitter fence = pid ∧ fence ∉ tracker.forgotten) :=
        fun both => both.2 forgotten
      rw [if_neg untaken, Nat.add_zero, live, live, occupants, occupants,
        Finset.insert_union, Finset.insert_eq_of_mem (Finset.mem_union_right _ forgotten)]
      rfl
    · have outstanding : fence ∈ tracker.occupants.outstanding := by
        rcases Finset.mem_sdiff.mp unsignalled with ⟨initialised, fresh⟩
        exact Finset.mem_sdiff.mpr ⟨initialised, Finset.notMem_union.mpr ⟨fresh, forgotten⟩⟩
      have taken := FenceTracker.card_inFlight_signal submitter outstanding pid
      simp only [forgotten, not_false_eq_true, and_true]
      rw [live, occupants, Finset.insert_union]
      exact taken
  · dsimp only
    by_cases own : submitter fence = pid
    · subst own
      rw [Function.update_self]
      simp
    · rw [Function.update_of_ne (Ne.symm own), if_neg fun both => own both.1, Nat.add_zero]

/-- An exit leaves its process without live fences and the others as they were. -/
theorem of_step_exit {submitter : F → UInt32} {tracker next : ExitTracker F} {exited : UInt32}
    (stepped : tracker.step submitter (.exit exited) = some next) (pid : UInt32) :
    (next.live submitter pid).card =
        (if exited = pid then 0 else (tracker.live submitter pid).card) ∧
      next.lost pid = if exited = pid then 0 else tracker.lost pid := by
  cases stepped
  dsimp only
  by_cases same : exited = pid
  · subst same
    rw [if_pos rfl, if_pos rfl, Function.update_self, Finset.card_eq_zero,
      Finset.eq_empty_iff_forall_notMem]
    refine ⟨?_, rfl⟩
    intro fence member
    rcases mem_live.mp member with ⟨initialised, -, remembered, own⟩
    exact remembered (Finset.mem_union_right _ (Finset.mem_filter.mpr ⟨initialised, own⟩))
  · rw [if_neg same, if_neg same, Function.update_of_ne (Ne.symm same)]
    refine ⟨?_, rfl⟩
    congr 1
    ext fence
    rw [mem_live, mem_live]
    simp only [Finset.mem_union, Finset.mem_filter, not_or, not_and]
    constructor
    · rintro ⟨initialised, unsignalled, ⟨remembered, -⟩, own⟩
      exact ⟨initialised, unsignalled, remembered, own⟩
    · rintro ⟨initialised, unsignalled, remembered, own⟩
      exact ⟨initialised, unsignalled,
        ⟨remembered, fun _ exited_eq => same (exited_eq.symm.trans own)⟩, own⟩

theorem Ordered.step {submitter : F → UInt32} {tracker next : ExitTracker F}
    {event : FenceEvent F} (ordered : tracker.Ordered)
    (stepped : tracker.step submitter event = some next) : next.Ordered := by
  cases event with
  | init fence =>
      rcases Option.ite_none_right_eq_some.mp stepped with ⟨-, next_eq⟩
      cases next_eq
      exact ordered.trans (Finset.subset_insert _ _)
  | signal fence =>
      rcases Option.ite_none_right_eq_some.mp stepped with ⟨unsignalled, next_eq⟩
      cases next_eq
      rcases Finset.union_subset_iff.mp ordered with ⟨signalled, forgotten⟩
      exact Finset.union_subset
        (Finset.insert_subset (Finset.mem_sdiff.mp unsignalled).1 signalled) forgotten
  | exit pid =>
      cases stepped
      rcases Finset.union_subset_iff.mp ordered with ⟨signalled, forgotten⟩
      exact Finset.union_subset signalled
        (Finset.union_subset forgotten (Finset.filter_subset _ _))

end ExitTracker

namespace LinuxProvider

variable {F : Type u} [DecidableEq F]

open ExitTracker

/-! ## The counts follow the tracker -/

/-- The count of a process is the number of its live fences, less what it lost. -/
structure Follows (submitter : F → UInt32) (provider : LinuxProvider)
    (tracker : ExitTracker F) : Prop where
  ordered : tracker.Ordered
  lost_le : ∀ pid, tracker.lost pid ≤ (tracker.live submitter pid).card
  counts : ∀ pid, (provider.activePids[pid]?).map UInt32.toNat =
    countEntry ((tracker.live submitter pid).card - tracker.lost pid)

theorem follows_empty (submitter : F → UInt32) (hardwareSignature : String) :
    Follows submitter (afterEvents submitter hardwareSignature []) ExitTracker.empty where
  ordered := Finset.Subset.refl _
  lost_le _ := Nat.zero_le _
  counts pid := by
    simp [afterEvents, new, live, FenceTracker.inFlight, FenceTracker.outstanding, occupants,
      ExitTracker.empty, countEntry]

theorem Follows.init {submitter : F → UInt32} {provider : LinuxProvider}
    {tracker next : ExitTracker F} {fence : F} (follows : Follows submitter provider tracker)
    (stepped : tracker.step submitter (.init fence) = some next) :
    Follows submitter (provider.handle submitter (.init fence)) next := by
  constructor
  · exact follows.ordered.step stepped
  · intro pid
    rcases of_step_init follows.ordered stepped pid with ⟨live_eq, lost_eq⟩
    have lost_le := follows.lost_le pid
    rw [live_eq, lost_eq]
    by_cases own : submitter fence = pid
    · simp only [own, true_and, if_true]
      split <;> omega
    · simp only [own, false_and, if_false]
      exact lost_le
  · intro pid
    rcases of_step_init follows.ordered stepped pid with ⟨live_eq, lost_eq⟩
    have lost_le := follows.lost_le pid
    have counted := follows.counts pid
    rw [live_eq, lost_eq, handle]
    by_cases own : submitter fence = pid
    · subst own
      have count_le : (tracker.live submitter (submitter fence)).card -
          tracker.lost (submitter fence) ≤ U32.maxNat := by
        rw [← toNat_getD_of_countEntry counted]
        exact U32.toNat_le_maxNat _
      rw [count_markPidActive counted, if_pos rfl]
      congr 1
      split
      · -- the count is full and stays where it is
        rename_i full
        rw [full.2, Nat.add_sub_cancel_left, min_eq_right (Nat.le_succ _)]
        omega
      · rename_i room
        have below : (tracker.live submitter (submitter fence)).card ≠
            tracker.lost (submitter fence) + U32.maxNat := fun full => room ⟨rfl, full⟩
        rw [min_eq_left (by omega)]
        omega
    · rw [getElem?_activePids_markPidActive, if_neg own, if_neg own,
        if_neg fun both => own both.1, Nat.add_zero]
      exact counted

theorem Follows.signal {submitter : F → UInt32} {provider : LinuxProvider}
    {tracker next : ExitTracker F} {fence : F} {submittedAtNs signaledAtNs gpuPowerUw : UInt64}
    (follows : Follows submitter provider tracker) (covered : tracker.Covered submitter)
    (stepped : tracker.step submitter (.signal fence submittedAtNs signaledAtNs gpuPowerUw) =
      some next) :
    Follows submitter
      (provider.handle submitter (.signal fence submittedAtNs signaledAtNs gpuPowerUw)) next := by
  -- every signal of an occupied identifier costs one, whichever fence it is of
  have balance (pid : UInt32) : next.lost pid ≤ (next.live submitter pid).card ∧
      (next.live submitter pid).card - next.lost pid =
        (tracker.live submitter pid).card - tracker.lost pid -
          if submitter fence = pid then 1 else 0 := by
    rcases of_step_signal stepped pid with ⟨live_eq, lost_eq⟩
    have lost_le := follows.lost_le pid
    have covers := covered pid
    rw [lost_eq]
    by_cases own : submitter fence = pid
    · by_cases late : fence ∈ tracker.forgotten
      · simp only [own, late, true_and, not_true_eq_false, and_false, if_false, if_true,
          Nat.add_zero] at live_eq ⊢
        split
        · rename_i occupied
          have more := covers occupied
          constructor <;> omega
        · constructor <;> omega
      · simp only [own, late, true_and, not_false_eq_true, false_and, if_false, if_true,
          Nat.add_zero] at live_eq ⊢
        have more := covers (by omega)
        constructor <;> omega
    · simp only [own, false_and, if_false, Nat.add_zero] at live_eq ⊢
      constructor <;> omega
  constructor
  · exact follows.ordered.step stepped
  · intro pid
    exact (balance pid).1
  · intro pid
    rw [(balance pid).2, handle, correlateFence]
    dsimp only
    by_cases own : submitter fence = pid
    · subst own
      rw [count_releaseFence (follows.counts _), if_pos rfl]
    · rw [getElem?_releaseFence, if_neg own, if_neg own]
      exact follows.counts pid

theorem Follows.exit {submitter : F → UInt32} {provider : LinuxProvider}
    {tracker next : ExitTracker F} {exited : UInt32}
    (follows : Follows submitter provider tracker)
    (stepped : tracker.step submitter (.exit exited) = some next) :
    Follows submitter (provider.handle submitter (.exit exited)) next := by
  constructor
  · exact follows.ordered.step stepped
  · intro pid
    rcases of_step_exit stepped pid with ⟨live_eq, lost_eq⟩
    rw [live_eq, lost_eq]
    split
    · exact le_rfl
    · exact follows.lost_le pid
  · intro pid
    rcases of_step_exit stepped pid with ⟨live_eq, lost_eq⟩
    rw [live_eq, lost_eq, handle, markPidIdle, Std.ExtTreeMap.getElem?_erase]
    by_cases same : exited = pid
    · simp [same, countEntry]
    · rw [if_neg same, if_neg same, if_neg (by simpa using same)]
      exact follows.counts pid

theorem Follows.step {submitter : F → UInt32} {provider : LinuxProvider}
    {tracker next : ExitTracker F} {event : FenceEvent F}
    (follows : Follows submitter provider tracker) (covered : tracker.Covered submitter)
    (stepped : tracker.step submitter event = some next) :
    Follows submitter (provider.handle submitter event) next := by
  cases event with
  | init fence => exact follows.init stepped
  | signal fence submittedAtNs signaledAtNs gpuPowerUw => exact follows.signal covered stepped
  | exit pid => exact follows.exit stepped

/-! ## The active set over whole runs -/

/-- A process is listed exactly when it has more live fences than it lost. -/
theorem Follows.mem_activePidSet_iff {submitter : F → UInt32} {provider : LinuxProvider}
    {tracker : ExitTracker F} (follows : Follows submitter provider tracker) (pid : UInt32) :
    pid ∈ provider.activePidSet ↔ tracker.lost pid < (tracker.live submitter pid).card := by
  rw [activePidSet, Std.ExtTreeMap.mem_keys, Std.ExtTreeMap.mem_iff_isSome_getElem?,
    ← Option.isSome_map, follows.counts, countEntry, ← Nat.sub_pos_iff_lt]
  split
  · rename_i none_left
    rw [none_left]
    simp
  · rename_i some_left
    exact iff_of_true rfl (Nat.pos_of_ne_zero some_left)

/-- The counts follow the tracker for as long as everything is covered. -/
theorem follows_of_covered {submitter : F → UInt32} (hardwareSignature : String)
    {events : List (FenceEvent F)}
    (covers : ∀ past tracker, past <+: events →
      run (ExitTracker.step submitter) ExitTracker.empty past = some tracker →
      Follows submitter (afterEvents submitter hardwareSignature past) tracker →
      tracker.Covered submitter)
    {past : List (FenceEvent F)} {tracker : ExitTracker F} (before : past <+: events)
    (reached : run (ExitTracker.step submitter) ExitTracker.empty past = some tracker) :
    Follows submitter (afterEvents submitter hardwareSignature past) tracker := by
  refine run_induction (fun past state => past <+: events →
    Follows submitter (afterEvents submitter hardwareSignature past) state)
    (fun _ => follows_empty submitter hardwareSignature) ?_ reached before
  intro past event state next reached follows stepped before
  have earlier := (List.prefix_append past [event]).trans before
  rw [afterEvents, List.foldl_append]
  exact (follows earlier).step (covers past state earlier reached (follows earlier)) stepped

/-- At every point of a run the listed processes are those with a fence that is
initialised since their last exit and not signalled, exactly when at every point
every process with such fences has more of them than its count has lost. -/
theorem activePidSet_eq_live_iff (submitter : F → UInt32) (hardwareSignature : String)
    (events : List (FenceEvent F)) :
    (∀ past tracker, past <+: events →
      run (ExitTracker.step submitter) ExitTracker.empty past = some tracker →
      ∀ pid, pid ∈ (afterEvents submitter hardwareSignature past).activePidSet ↔
        ∃ fence, fence ∈ tracker.initialised ∧ fence ∉ tracker.signalled ∧
          fence ∉ tracker.forgotten ∧ submitter fence = pid) ↔
      ∀ past tracker, past <+: events →
        run (ExitTracker.step submitter) ExitTracker.empty past = some tracker →
        tracker.Covered submitter := by
  have occupied_iff (tracker : ExitTracker F) (pid : UInt32) :
      0 < (tracker.live submitter pid).card ↔
        ∃ fence, fence ∈ tracker.initialised ∧ fence ∉ tracker.signalled ∧
          fence ∉ tracker.forgotten ∧ submitter fence = pid := by
    rw [Finset.card_pos]
    exact exists_congr fun fence => mem_live
  constructor
  · intro listed past tracker before reached
    have covers : ∀ past tracker, past <+: events →
        run (ExitTracker.step submitter) ExitTracker.empty past = some tracker →
        Follows submitter (afterEvents submitter hardwareSignature past) tracker →
        tracker.Covered submitter := by
      intro past tracker before reached follows pid occupied
      rw [← follows.mem_activePidSet_iff, listed past tracker before reached]
      exact (occupied_iff tracker pid).mp occupied
    exact covers past tracker before reached
      (follows_of_covered hardwareSignature covers before reached)
  · intro covered past tracker before reached pid
    have follows := follows_of_covered hardwareSignature
      (fun past tracker before reached _ => covered past tracker before reached) before reached
    rw [follows.mem_activePidSet_iff, ← occupied_iff]
    constructor
    · intro more
      exact Nat.zero_lt_of_lt more
    · intro occupied
      exact covered past tracker before reached pid occupied

/-- A late signal hides the new occupant of the identifier. -/
theorem not_activePidSet_eq_live :
    ¬ ∀ (submitter : Nat → UInt32) (hardwareSignature : String)
      (events : List (FenceEvent Nat)) (final : ExitTracker Nat),
      run (ExitTracker.step submitter) ExitTracker.empty events = some final →
      ∀ past tracker, past <+: events →
        run (ExitTracker.step submitter) ExitTracker.empty past = some tracker →
        ∀ pid, pid ∈ (afterEvents submitter hardwareSignature past).activePidSet ↔
          ∃ fence, fence ∈ tracker.initialised ∧ fence ∉ tracker.signalled ∧
            fence ∉ tracker.forgotten ∧ submitter fence = pid := by
  intro claim
  have listed := claim (fun _ => 7) "synthetic" [.init 0, .exit 7, .init 1, .signal 0 10 20 5] _
    rfl _ _ (List.prefix_refl _) rfl 7
  have hidden : 7 ∉ (afterEvents (fun _ : Nat => 7) "synthetic"
      [.init 0, .exit 7, .init 1, .signal 0 10 20 5]).activePidSet := by
    decide
  exact hidden (listed.mpr ⟨1, by decide, by decide, by decide, rfl⟩)

end LinuxProvider

end Mjae.Providers
