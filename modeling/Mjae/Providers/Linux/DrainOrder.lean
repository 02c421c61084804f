import Mjae.Arith.BoundedWalk
import Mjae.Providers.Linux.Fences

/-!
# The order in which fence events are drained

The initialisations and the signals of the fences come from the buffers of several
processors, in any order.  The count of a process is a walk between zero and the
largest word.  A signal ahead of its initialisation finds nothing to take off, and
the initialisation that follows is never taken back.
-/

namespace Mjae.Providers

open Mjae.Arith Mjae.Core

/-- An event drained from a perf buffer. -/
inductive DrainedEvent where
  | init (fence : DmaFenceEvent)
  | signal (fence : DmaFenceEvent)
  deriving DecidableEq

namespace DrainedEvent

/-- The fence of a signal. -/
def signalled : DrainedEvent → Option DmaFenceEvent
  | .init _ => none
  | .signal fence => some fence

/-- What an event does to the count of `pid`. -/
def move (pid : UInt32) : DrainedEvent → Move
  | .init fence => if fence.submitterPid = pid then .up else .stay
  | .signal fence => if fence.submitterPid = pid then .down else .stay

end DrainedEvent

/-- One initialisation and one signal of every fence. -/
def fenceEvents (fences : List DmaFenceEvent) : List DrainedEvent :=
  fences.flatMap fun fence => [.init fence, .signal fence]

theorem filterMap_signalled_fenceEvents (fences : List DmaFenceEvent) :
    (fenceEvents fences).filterMap DrainedEvent.signalled = fences := by
  induction fences with
  | nil => rfl
  | cons fence rest ih => exact congrArg (fence :: ·) ih

/-- Every process has as many signals as initialisations. -/
theorem ups_fenceEvents (pid : UInt32) (fences : List DmaFenceEvent) :
    ups (DrainedEvent.move pid) (fenceEvents fences) =
      downs (DrainedEvent.move pid) (fenceEvents fences) := by
  induction fences with
  | nil => rfl
  | cons fence rest ih =>
      have split : fenceEvents (fence :: rest) =
          [.init fence, .signal fence] ++ fenceEvents rest := rfl
      rw [split, ups_append, downs_append, ih]
      apply congrArg (· + _)
      by_cases own : fence.submitterPid = pid
      · simp [ups, downs, DrainedEvent.move, own]
      · simp [ups, downs, DrainedEvent.move, own]

theorem ups_eq_downs_of_perm {fences : List DmaFenceEvent} {order : List DrainedEvent}
    (drains : order.Perm (fenceEvents fences)) (pid : UInt32) :
    ups (DrainedEvent.move pid) order = downs (DrainedEvent.move pid) order := by
  calc
    ups (DrainedEvent.move pid) order = ups (DrainedEvent.move pid) (fenceEvents fences) :=
      drains.countP_eq _
    _ = downs (DrainedEvent.move pid) (fenceEvents fences) := ups_fenceEvents pid fences
    _ = downs (DrainedEvent.move pid) order := (drains.countP_eq _).symm

namespace LinuxProvider

/-- The call that the daemon makes for a drained event. -/
def drain (provider : LinuxProvider) : DrainedEvent → LinuxProvider
  | .init fence => provider.markPidActive fence.submitterPid
  | .signal fence => (provider.correlateFence fence).2

/-- The provider after the events of a drain order. -/
def drainAll (provider : LinuxProvider) (order : List DrainedEvent) : LinuxProvider :=
  order.foldl drain provider

/-- One event moves the count of every process as it says. -/
theorem count_drain {provider : LinuxProvider} {pid : UInt32} {level : Nat}
    (counted : (provider.activePids[pid]?).map UInt32.toNat = countEntry level)
    (event : DrainedEvent) :
    ((provider.drain event).activePids[pid]?).map UInt32.toNat =
      countEntry ((event.move pid).apply U32.maxNat level) := by
  cases event with
  | init fence =>
      rw [drain, DrainedEvent.move]
      by_cases own : fence.submitterPid = pid
      · rw [if_pos own, own]
        exact count_markPidActive counted
      · rw [if_neg own, getElem?_activePids_markPidActive, if_neg own]
        exact counted
  | signal fence =>
      rw [drain, correlateFence, DrainedEvent.move]
      dsimp only
      by_cases own : fence.submitterPid = pid
      · rw [if_pos own, own]
        exact count_releaseFence counted
      · rw [if_neg own, getElem?_releaseFence, if_neg own]
        exact counted

theorem count_drainAll {provider : LinuxProvider} {pid : UInt32} {level : Nat}
    (counted : (provider.activePids[pid]?).map UInt32.toNat = countEntry level)
    (order : List DrainedEvent) :
    ((provider.drainAll order).activePids[pid]?).map UInt32.toNat =
      countEntry (levelAfter (DrainedEvent.move pid) U32.maxNat level order) := by
  induction order generalizing provider level with
  | nil => exact counted
  | cons event rest ih => exact ih (count_drain counted event)

/-- Signals are recorded in the order they are drained in, whatever the counts are. -/
theorem pending_drainAll (provider : LinuxProvider) (order : List DrainedEvent) :
    (provider.drainAll order).pending =
      provider.pending ++
        (order.filterMap DrainedEvent.signalled).map provider.fenceAttribution := by
  induction order generalizing provider with
  | nil => exact (List.append_nil _).symm
  | cons event rest ih =>
      cases event with
      | init fence => exact ih (provider.markPidActive fence.submitterPid)
      | signal fence =>
          rw [drainAll, List.foldl_cons]
          refine (ih (provider.drain (.signal fence))).trans ?_
          exact List.append_assoc _ _ _

theorem activePidSet_eq_nil_iff (provider : LinuxProvider) :
    provider.activePidSet = [] ↔ ∀ pid : UInt32, provider.activePids[pid]? = none := by
  simp only [activePidSet, List.eq_nil_iff_forall_not_mem, Std.ExtTreeMap.mem_keys,
    Std.ExtTreeMap.mem_iff_isSome_getElem?, Option.not_isSome_iff_eq_none]

/-- Draining all events of the fences in any order records every fence.  No process
stays active exactly when no first part of the order has more signals than
initialisations of a process, unless a longer first part has so many more
initialisations that the count of the process is full. -/
theorem drainAll_empty_iff (hardwareSignature : String) (fences : List DmaFenceEvent)
    (order : List DrainedEvent) (drains : order.Perm (fenceEvents fences)) :
    (((new hardwareSignature).drainAll order).activePidSet = [] ∧
      ((new hardwareSignature).drainAll order).pending.Perm
        (fences.map (new hardwareSignature).fenceAttribution)) ↔
      ∀ pid past, past <+: order →
        ups (DrainedEvent.move pid) past < downs (DrainedEvent.move pid) past →
        ∃ later, past <+: later ∧ later <+: order ∧
          U32.maxNat + downs (DrainedEvent.move pid) later ≤
            ups (DrainedEvent.move pid) later := by
  have recorded : ((new hardwareSignature).drainAll order).pending.Perm
      (fences.map (new hardwareSignature).fenceAttribution) := by
    have signals := drains.filterMap DrainedEvent.signalled
    rw [filterMap_signalled_fenceEvents] at signals
    rw [pending_drainAll]
    exact signals.map _
  rw [and_iff_left recorded, activePidSet_eq_nil_iff]
  apply forall_congr'
  intro pid
  have started : ((new hardwareSignature).activePids[pid]?).map UInt32.toNat = countEntry 0 := rfl
  have counted := count_drainAll started order
  rw [← levelAfter_zero_eq_zero_iff (ups_eq_downs_of_perm drains pid),
    ← countEntry_eq_none_iff, ← counted, Option.map_eq_none_iff]

/-- A fence of process 7. -/
def fenceOfSeven (submittedAtNs : UInt64) : DmaFenceEvent :=
  { submitterPid := 7, submittedAtNs, signaledAtNs := 20, gpuPowerUw := 5 }

/-- Two nested fences, every signal behind its initialisation. -/
theorem drainAll_empty_nested :
    ((new "synthetic").drainAll [.init (fenceOfSeven 1), .init (fenceOfSeven 2),
      .signal (fenceOfSeven 2), .signal (fenceOfSeven 1)]).activePidSet = [] ∧
    ((new "synthetic").drainAll [.init (fenceOfSeven 1), .init (fenceOfSeven 2),
      .signal (fenceOfSeven 2), .signal (fenceOfSeven 1)]).pending.Perm
        ([fenceOfSeven 1, fenceOfSeven 2].map (new "synthetic").fenceAttribution) := by
  apply (drainAll_empty_iff "synthetic" [fenceOfSeven 1, fenceOfSeven 2] _ (by decide)).mpr
  intro pid past first fewer
  exfalso
  by_cases own : 7 = pid
  · subst own
    rw [← List.mem_inits] at first
    revert past
    decide
  · -- no event concerns another process
    have untouched : downs (DrainedEvent.move pid) past = 0 := by
      apply List.countP_eq_zero.mpr
      intro event drained
      have listed := first.subset drained
      simp only [List.mem_cons, List.not_mem_nil, or_false] at listed
      rcases listed with rfl | rfl | rfl | rfl <;> simp [DrainedEvent.move, fenceOfSeven, own]
    rw [untouched] at fewer
    exact Nat.not_lt_zero _ fewer

/-- A signal that is drained ahead of its initialisation leaves the process active. -/
theorem not_drainAll_empty :
    ¬ ∀ (hardwareSignature : String) (fences : List DmaFenceEvent) (order : List DrainedEvent),
      order.Perm (fenceEvents fences) →
      ((new hardwareSignature).drainAll order).activePidSet = [] ∧
        ((new hardwareSignature).drainAll order).pending.Perm
          (fences.map (new hardwareSignature).fenceAttribution) := by
  intro claim
  have empty := (claim "synthetic" [fenceOfSeven 1]
    [.signal (fenceOfSeven 1), .init (fenceOfSeven 1)] (by decide)).1
  rw [activePidSet_eq_nil_iff] at empty
  exact absurd (empty 7) (by decide)

end LinuxProvider

end Mjae.Providers
