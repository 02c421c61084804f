import Mjae.Transition.Run

/-!
# Interleavings

Threads that share one object take turns; a turn names the thread and the
choices left open by its action.  Two rules carry a property through every
interleaving: a property of each thread alone, kept by the acting thread and
undisturbed by it in the others, and a sum over the threads, of which one turn
moves one summand.
-/

namespace Mjae.Transition

universe u v w

/-- A shared object and the threads that work on it. -/
structure System (σ : Type u) (τ : Type v) where
  shared : σ
  threads : List τ

variable {σ : Type u} {τ : Type v} {ι : Type w}

namespace System

/-- Thread `turn.1` acts with the choices `turn.2`. -/
def step (act : σ → τ → ι → Option (σ × τ)) (system : System σ τ) (turn : Nat × ι) :
    Option (System σ τ) :=
  (system.threads[turn.1]?).bind fun thread =>
    (act system.shared thread turn.2).map fun acted =>
      ⟨acted.1, system.threads.set turn.1 acted.2⟩

/-- Everything that a turn can do. -/
theorem step_eq_some_iff {act : σ → τ → ι → Option (σ × τ)} {system next : System σ τ}
    {turn : Nat × ι} :
    system.step act turn = some next ↔
      ∃ thread shared acted, system.threads[turn.1]? = some thread ∧
        act system.shared thread turn.2 = some (shared, acted) ∧
        next = ⟨shared, system.threads.set turn.1 acted⟩ := by
  rw [step, Option.bind_eq_some_iff]
  constructor
  · rintro ⟨thread, present, acted⟩
    rcases Option.map_eq_some_iff.mp acted with ⟨⟨shared, after⟩, acts, rfl⟩
    exact ⟨thread, shared, after, present, acts, rfl⟩
  · rintro ⟨thread, shared, after, present, acts, rfl⟩
    exact ⟨thread, present, by rw [acts, Option.map_some]⟩

/-- A property of single threads holds after a turn when the acting thread
establishes it and the turn does not disturb it in the others. -/
theorem forall_threads_set {held after : τ → Prop} {threads : List τ} {index : Nat} {acted : τ}
    (holds : ∀ thread ∈ threads, held thread) (own : after acted)
    (others : ∀ thread ∈ threads, held thread → after thread) :
    ∀ thread ∈ threads.set index acted, after thread := by
  intro thread member
  rcases List.mem_or_eq_of_mem_set member with present | rfl
  · exact others thread present (holds thread present)
  · exact own

end System

/-- Writing what is there changes nothing. -/
theorem set_eq_self {threads : List τ} {index : Nat} {thread : τ}
    (present : threads[index]? = some thread) : threads.set index thread = threads := by
  obtain ⟨inside, rfl⟩ := List.getElem?_eq_some_iff.mp present
  exact List.set_getElem_self inside

/-- Replacing one thread replaces its summand. -/
theorem sum_map_set (weight : τ → Nat) {threads : List τ} {index : Nat} {thread : τ}
    (present : threads[index]? = some thread) (acted : τ) :
    ((threads.set index acted).map weight).sum + weight thread =
      (threads.map weight).sum + weight acted := by
  induction threads generalizing index with
  | nil => contradiction
  | cons other rest ih =>
      cases index with
      | zero =>
          cases present
          rw [List.set_cons_zero, List.map_cons, List.map_cons, List.sum_cons, List.sum_cons]
          omega
      | succ index =>
          have moved := ih (List.getElem?_cons_succ ▸ present)
          rw [List.set_cons_succ, List.map_cons, List.map_cons, List.sum_cons, List.sum_cons]
          omega

end Mjae.Transition
