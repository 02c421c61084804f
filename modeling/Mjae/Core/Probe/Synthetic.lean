import Mjae.Core.Probe

/-!
# What a synthetic identity tells apart

A synthetic fingerprint determines the host name and the process identifier in it.
The host name is that of the first source that is there.  If that source is blank,
the sources behind it are not asked, and the host is one of many unknown ones.
-/

namespace Mjae.Core

open Mjae.Json Mjae.Text

/-- What stands before and behind the last mark of a text is determined by it. -/
theorem last_mark_unambiguous {α : Type} {mark : α} {first second later others : List α}
    (unmarked : mark ∉ later) (othersUnmarked : mark ∉ others)
    (same : first ++ mark :: later = second ++ mark :: others) :
    first = second ∧ later = others := by
  rcases List.append_eq_append_iff.mp same with ⟨middle, rfl, ends⟩ | ⟨middle, rfl, ends⟩
  · cases middle with
    | nil => exact ⟨(List.append_nil first).symm, List.tail_eq_of_cons_eq ends⟩
    | cons c rest =>
        rw [List.cons_append] at ends
        exact absurd (List.tail_eq_of_cons_eq ends ▸ List.mem_append_right rest
          List.mem_cons_self) unmarked
  · cases middle with
    | nil => exact ⟨List.append_nil second, (List.tail_eq_of_cons_eq ends).symm⟩
    | cons c rest =>
        rw [List.cons_append] at ends
        exact absurd (List.tail_eq_of_cons_eq ends ▸ List.mem_append_right rest
          List.mem_cons_self) othersUnmarked

namespace Environment

/-- The host name that a source gives, if it is there and not blank. -/
def nameFrom : Option String → Option String
  | some raw => if trim raw = "" then none else some (trim raw)
  | none => none

/-- The name of the first source that is not blank. -/
def firstName (environment : Environment) : Option String :=
  [environment.hostname, environment.computername, environment.etcHostname].findSome? nameFrom

/-- The first source that is there is blank. -/
def LeadsBlank (environment : Environment) : Prop :=
  environment.present.any fun raw => trim raw = ""

instance decidableLeadsBlank (environment : Environment) : Decidable environment.LeadsBlank :=
  inferInstanceAs (Decidable (_ = true))

theorem host_of_leadsBlank {environment : Environment} (blank : environment.LeadsBlank) :
    environment.host = "unknown-host" := by
  rcases (Option.any_eq_true _ _).mp blank with ⟨raw, lead, empty⟩
  simp only [decide_eq_true_eq] at empty
  rw [host, lead, Option.getD_some, if_pos empty]

theorem host_of_present {environment : Environment} {raw : String}
    (lead : environment.present = some raw) (clear : trim raw ≠ "") :
    environment.host = trim raw := by
  simp only [host, lead, Option.getD_some, if_neg clear]

/-- Where the first source that is there is not blank, it names the host. -/
theorem host_of_not_leadsBlank {environment : Environment} {name : String}
    (named : environment.firstName = some name) (clear : ¬ environment.LeadsBlank) :
    environment.host = name := by
  rcases environment with ⟨hostname, computername, etcHostname, processId⟩
  cases hostname with
  | some raw =>
      have lead : trim raw ≠ "" := by simpa [LeadsBlank, present] using clear
      rw [host_of_present rfl lead]
      simpa [firstName, nameFrom, lead] using named
  | none =>
      cases computername with
      | some raw =>
          have lead : trim raw ≠ "" := by simpa [LeadsBlank, present] using clear
          rw [host_of_present rfl lead]
          simpa [firstName, List.findSome?_cons, nameFrom, lead] using named
      | none =>
          cases etcHostname with
          | none => simp [firstName, List.findSome?_cons, nameFrom] at named
          | some raw =>
              have lead : trim raw ≠ "" := by
                simpa [LeadsBlank, present, trim_trim] using clear
              rw [host_of_present rfl ((trim_trim raw).trans_ne lead), trim_trim]
              simpa [firstName, List.findSome?_cons, nameFrom, lead] using named

end Environment

namespace HardwareIdentity

/-- For one reason the fingerprint determines the host and the process. -/
theorem fingerprint_synthetic_eq_iff (reason : String) (first second : Environment) :
    (synthetic first reason).fingerprint = (synthetic second reason).fingerprint ↔
      first.host = second.host ∧ first.processId = second.processId := by
  constructor
  · intro same
    have unmarked (n : Nat) : '=' ∉ Nat.toDigits 10 n := by
      intro member
      exact absurd (isDigit_of_mem_toDigits member) (by decide)
    have closed : Closed [] := by simp [Closed]
    have texts := congrArg String.toList same
    have marked (before digits : List Char) :
        before ++ ":pid=".toList ++ digits = (before ++ ":pid".toList) ++ '=' :: digits := by
      rw [List.append_assoc, List.append_assoc]
      rfl
    simp only [synthetic, String.toList_append, Nat.toString_eq_repr, Nat.toList_repr] at texts
    rw [marked, marked] at texts
    rcases last_mark_unambiguous (unmarked _) (unmarked _) texts with ⟨heads, digits⟩
    constructor
    · have hosts := List.append_cancel_left (List.append_cancel_right heads)
      exact String.toList_inj.mp hosts
    · have numbers := toDigits_unambiguous closed closed (congrArg (· ++ []) digits)
      exact UInt32.toNat.inj numbers.1
  · rintro ⟨hosts, processes⟩
    simp only [synthetic, hosts, processes]

/-- Two environments that name their hosts, and differ in the name or in the process,
have different fingerprints exactly when the processes differ, or no name is lost
behind a blank source: not both, and not one while the other host bears the name of
an unknown one. -/
theorem synthetic_apart_iff (reason : String) (first second : Environment)
    (firstNamed : first.firstName.isSome) (secondNamed : second.firstName.isSome)
    (apart : first.firstName ≠ second.firstName ∨ first.processId ≠ second.processId) :
    (synthetic first reason).fingerprint ≠ (synthetic second reason).fingerprint ↔
      first.processId ≠ second.processId ∨
        (first.LeadsBlank → ¬ second.LeadsBlank ∧ second.firstName ≠ some "unknown-host") ∧
          (second.LeadsBlank → ¬ first.LeadsBlank ∧ first.firstName ≠ some "unknown-host") := by
  rcases Option.isSome_iff_exists.mp firstNamed with ⟨name, named⟩
  rcases Option.isSome_iff_exists.mp secondNamed with ⟨other, otherNamed⟩
  rw [ne_eq, fingerprint_synthetic_eq_iff, not_and_or, or_comm, ← ne_eq, ← ne_eq]
  by_cases processes : first.processId = second.processId
  · have names : name ≠ other := by
      rintro rfl
      rcases apart with different | different
      · exact different (named.trans otherNamed.symm)
      · exact different processes
    simp only [processes, ne_eq, not_true_eq_false, false_or, named, otherNamed,
      Option.some.injEq]
    by_cases firstBlank : first.LeadsBlank
    · rw [Environment.host_of_leadsBlank firstBlank]
      by_cases secondBlank : second.LeadsBlank
      · simp [Environment.host_of_leadsBlank secondBlank, firstBlank, secondBlank]
      · simp [Environment.host_of_not_leadsBlank otherNamed secondBlank, firstBlank, secondBlank,
          eq_comm]
    · rw [Environment.host_of_not_leadsBlank named firstBlank]
      by_cases secondBlank : second.LeadsBlank
      · simp [Environment.host_of_leadsBlank secondBlank, firstBlank, secondBlank]
      · simp [Environment.host_of_not_leadsBlank otherNamed secondBlank, firstBlank, secondBlank,
          names]
  · exact iff_of_true (Or.inl processes) (Or.inl processes)

/-- A host named by its variable, and one named by a file that is spelled like the
fields behind it. -/
theorem synthetic_apart_named :
    (synthetic ⟨some "alpha", none, none, 7⟩ "probe_failed").fingerprint ≠
      (synthetic ⟨none, none, some "alpha:pid=7\n", 7⟩ "probe_failed").fingerprint :=
  (synthetic_apart_iff "probe_failed" ⟨some "alpha", none, none, 7⟩
    ⟨none, none, some "alpha:pid=7\n", 7⟩ (by decide) (by decide) (by decide)).mpr (by decide)

/-- Two hosts whose `HOSTNAME` is set and blank: neither is asked for its other names. -/
theorem not_synthetic_apart :
    ¬ ∀ (reason : String) (first second : Environment),
      first.firstName.isSome → second.firstName.isSome →
      first.firstName ≠ second.firstName ∨ first.processId ≠ second.processId →
      (synthetic first reason).fingerprint ≠ (synthetic second reason).fingerprint := by
  intro claim
  apply claim "probe_failed" ⟨some "", some "alpha", none, 7⟩ ⟨some " ", none, some "beta\n", 7⟩
    (by decide) (by decide) (by decide)
  decide

end HardwareIdentity

end Mjae.Core
