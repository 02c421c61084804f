import Mathlib.Data.List.Infix
import Mathlib.Order.Lattice
import Mathlib.Algebra.Order.Group.Nat

/-!
# Walks between zero and a ceiling

A level that every event moves up, moves down or leaves, and that never goes below
zero or above `top`.  A move that is cut off at either end is lost.  Whether a walk
ends at zero is read off the numbers of moves in its parts: the level is zero unless
some last part of the walk goes up more than it goes down, and a last part that goes
down by the whole range makes up for whatever came before it.
-/

namespace Mjae.Arith

universe u

/-- What an event does to a level. -/
inductive Move where
  | up
  | down
  | stay
  deriving DecidableEq

/-- One move between zero and `top`. -/
def Move.apply (top level : Nat) : Move → Nat
  | .up => min (level + 1) top
  | .down => level - 1
  | .stay => level

theorem Move.apply_le {top level : Nat} (bounded : level ≤ top) (move : Move) :
    move.apply top level ≤ top := by
  cases move with
  | up => exact min_le_right _ _
  | down => exact (Nat.sub_le _ _).trans bounded
  | stay => exact bounded

section Walk

variable {E : Type u} (moves : E → Move) (top : Nat)

def ups (events : List E) : Nat :=
  events.countP fun event => moves event = .up

def downs (events : List E) : Nat :=
  events.countP fun event => moves event = .down

/-- The level after the listed events. -/
def levelAfter (start : Nat) (events : List E) : Nat :=
  events.foldl (fun level event => (moves event).apply top level) start

/-- Some last part of the walk goes down by the whole range. -/
def Empties (events : List E) : Prop :=
  ∃ tail, tail <:+ events ∧ top + ups moves tail ≤ downs moves tail

/-- The walk goes down far enough from `start`, or from anywhere. -/
def Drains (start : Nat) (events : List E) : Prop :=
  start + ups moves events ≤ downs moves events ∨ Empties moves top events

variable {moves top}

theorem Empties.cons {events : List E} (empties : Empties moves top events) (event : E) :
    Empties moves top (event :: events) := by
  rcases empties with ⟨tail, part, full⟩
  exact ⟨tail, part.trans (List.suffix_cons event events), full⟩

theorem empties_cons_iff {event : E} {events : List E} :
    Empties moves top (event :: events) ↔
      top + ups moves (event :: events) ≤ downs moves (event :: events) ∨
        Empties moves top events := by
  constructor
  · rintro ⟨tail, part, full⟩
    rcases List.suffix_cons_iff.mp part with rfl | inner
    · exact Or.inl full
    · exact Or.inr ⟨tail, inner, full⟩
  · rintro (full | empties)
    · exact ⟨event :: events, List.suffix_refl _, full⟩
    · exact empties.cons event

theorem Drains.of_le {start start' : Nat} {events : List E}
    (drains : Drains moves top start events) (lower : start' ≤ start) :
    Drains moves top start' events := by
  rcases drains with enough | empties
  · exact Or.inl ((Nat.add_le_add_right lower _).trans enough)
  · exact Or.inr empties

/-- An event that leaves the level leaves the way down as well. -/
theorem drains_cons_stay {event : E} (move : moves event = .stay) {start : Nat}
    {events : List E} :
    Drains moves top start (event :: events) ↔ Drains moves top start events := by
  rw [Drains, Drains, empties_cons_iff]
  simp only [ups, downs, List.countP_cons, move]
  constructor
  · rintro (enough | full | empties)
    · exact Or.inl enough
    · exact Or.inr ⟨events, List.suffix_refl _, full⟩
    · exact Or.inr empties
  · rintro (enough | empties)
    · exact Or.inl enough
    · exact Or.inr (Or.inr empties)

/-- From below the ceiling an upward move makes the way down longer by one. -/
theorem drains_cons_up {event : E} (move : moves event = .up) {start : Nat}
    {events : List E} :
    Drains moves top start (event :: events) ↔
      Drains moves top (min (start + 1) top) events := by
  rw [Drains, Drains, empties_cons_iff]
  simp only [ups, downs, List.countP_cons, move]
  have full_of (enough : top + events.countP (moves · = .up) ≤
      events.countP (moves · = .down)) : Empties moves top events :=
    ⟨events, List.suffix_refl _, enough⟩
  constructor
  · rintro (enough | full | empties)
    · left
      simp at enough
      omega
    · right
      apply full_of
      simp at full
      omega
    · exact Or.inr empties
  · rintro (enough | empties)
    · rcases Nat.le_total (start + 1) top with below | above
      · rw [min_eq_left below] at enough
        left
        simp
        omega
      · rw [min_eq_right above] at enough
        exact Or.inr (Or.inr (full_of enough))
    · exact Or.inr (Or.inr empties)

/-- A downward move is lost exactly at zero. -/
theorem drains_cons_down {event : E} (move : moves event = .down) {start : Nat}
    {events : List E} (bounded : start ≤ top) (rest : Drains moves top 0 events) :
    Drains moves top start (event :: events) ↔ Drains moves top (start - 1) events := by
  cases start with
  | zero =>
      apply iff_of_true _ rest
      rcases rest with enough | empties
      · left
        simp only [ups, downs, List.countP_cons, move] at enough ⊢
        simp
        omega
      · exact Or.inr (empties.cons event)
  | succ start =>
      rw [Drains, Drains, empties_cons_iff, Nat.add_sub_cancel]
      simp only [ups, downs, List.countP_cons, move]
      simp
      constructor
      · rintro (enough | full | empties)
        · exact Or.inl (by omega)
        · exact Or.inl (by omega)
        · exact Or.inr empties
      · rintro (enough | empties)
        · exact Or.inl (by omega)
        · exact Or.inr (Or.inr empties)

/-- A walk ends at zero exactly when it goes down far enough from its start, and
every last part of it goes down far enough from zero. -/
theorem levelAfter_eq_zero_iff {start : Nat} (bounded : start ≤ top) (events : List E) :
    levelAfter moves top start events = 0 ↔
      Drains moves top start events ∧
        ∀ tail, tail <:+ events → Drains moves top 0 tail := by
  induction events generalizing start with
  | nil =>
      simp [levelAfter, Drains, Empties, ups, downs]
      omega
  | cons event rest ih =>
      have stepped : levelAfter moves top start (event :: rest) =
          levelAfter moves top ((moves event).apply top start) rest := rfl
      rw [stepped, ih ((moves event).apply_le bounded)]
      have split : (∀ tail, tail <:+ event :: rest → Drains moves top 0 tail) ↔
          Drains moves top 0 (event :: rest) ∧
            ∀ tail, tail <:+ rest → Drains moves top 0 tail := by
        simp only [List.suffix_cons_iff, or_imp, forall_and, forall_eq]
      rw [split]
      have first_iff (tails : ∀ tail, tail <:+ rest → Drains moves top 0 tail) :
          Drains moves top start (event :: rest) ↔
            Drains moves top ((moves event).apply top start) rest := by
        cases move : moves event with
        | up => exact drains_cons_up move
        | down => exact drains_cons_down move bounded (tails rest (List.suffix_refl _))
        | stay => exact drains_cons_stay move
      constructor
      · rintro ⟨first, tails⟩
        have whole := (first_iff tails).mpr first
        exact ⟨whole, whole.of_le (Nat.zero_le _), tails⟩
      · rintro ⟨whole, -, tails⟩
        exact ⟨(first_iff tails).mp whole, tails⟩

theorem ups_append (first second : List E) :
    ups moves (first ++ second) = ups moves first + ups moves second :=
  List.countP_append ..

theorem downs_append (first second : List E) :
    downs moves (first ++ second) = downs moves first + downs moves second :=
  List.countP_append ..

/-- A walk from zero with as many moves down as up comes back to zero exactly when
every first part that goes down more than up is part of one that goes up by the
whole range. -/
theorem levelAfter_zero_eq_zero_iff {events : List E}
    (balanced : ups moves events = downs moves events) :
    levelAfter moves top 0 events = 0 ↔
      ∀ past, past <+: events → ups moves past < downs moves past →
        ∃ later, past <+: later ∧ later <+: events ∧
          top + downs moves later ≤ ups moves later := by
  rw [levelAfter_eq_zero_iff (Nat.zero_le _)]
  constructor
  · rintro ⟨-, tails⟩ past ⟨rest, rfl⟩ fewer
    rw [ups_append, downs_append] at balanced
    rcases tails rest (List.suffix_append _ _) with enough | ⟨tail, ⟨middle, rfl⟩, full⟩
    · omega
    · refine ⟨past ++ middle, List.prefix_append _ _, ⟨tail, List.append_assoc _ _ _⟩, ?_⟩
      rw [ups_append, downs_append] at balanced ⊢
      omega
  · intro prefixes
    have tails : ∀ tail, tail <:+ events → Drains moves top 0 tail := by
      rintro rest ⟨past, rfl⟩
      rw [ups_append, downs_append] at balanced
      by_cases fewer : ups moves past < downs moves past
      · rcases prefixes past (List.prefix_append _ _) fewer with
          ⟨later, ⟨middle, rfl⟩, ⟨tail, whole⟩, full⟩
        rw [List.append_assoc] at whole
        have rest_eq := List.append_cancel_left whole
        right
        refine ⟨tail, ⟨middle, rest_eq⟩, ?_⟩
        rw [← rest_eq, ups_append, downs_append] at balanced
        rw [ups_append, downs_append] at full
        omega
      · left
        omega
    exact ⟨tails events (List.suffix_refl _), tails⟩

end Walk

end Mjae.Arith
