import Mathlib.Algebra.BigOperators.Group.List.Basic
import Mathlib.Algebra.Ring.Nat
import Mathlib.Data.List.Induction

/-!
# Runs of a partial step

A partial step consumes one input at a time; a run consumes a list of inputs
and fails as soon as one step fails.  The induction principle carries an
invariant that may speak about the inputs consumed so far.
-/

namespace Mjae.Transition

universe u v

variable {σ : Type u} {α : Type v}

/-- Feed `inputs` to a partial step, one by one. -/
def run (step : σ → α → Option σ) : σ → List α → Option σ
  | state, [] => some state
  | state, input :: rest => (step state input).bind fun next => run step next rest

@[simp]
theorem run_nil (step : σ → α → Option σ) (state : σ) : run step state [] = some state :=
  rfl

theorem run_cons (step : σ → α → Option σ) (state : σ) (input : α) (rest : List α) :
    run step state (input :: rest) =
      (step state input).bind fun next => run step next rest :=
  rfl

theorem run_cons_eq_some_iff {step : σ → α → Option σ} {state final : σ} {input : α}
    {rest : List α} :
    run step state (input :: rest) = some final ↔
      ∃ next, step state input = some next ∧ run step next rest = some final := by
  rw [run_cons, Option.bind_eq_some_iff]

theorem run_append (step : σ → α → Option σ) (state : σ) (first second : List α) :
    run step state (first ++ second) =
      (run step state first).bind fun middle => run step middle second := by
  induction first generalizing state with
  | nil => rfl
  | cons input rest ih =>
      rw [List.cons_append, run_cons, run_cons, Option.bind_assoc]
      congr 1
      funext next
      exact ih next

theorem run_snoc_eq_some_iff {step : σ → α → Option σ} {state final : σ} {input : α}
    {past : List α} :
    run step state (past ++ [input]) = some final ↔
      ∃ middle, run step state past = some middle ∧ step middle input = some final := by
  rw [run_append, Option.bind_eq_some_iff]
  simp [run_cons]

theorem rel_bind {ρ β γ δ : Type*} {related : ρ → β → Prop} {related' : γ → δ → Prop}
    {first : Option ρ} {second : Option β} {onward : ρ → Option γ} {onward' : β → Option δ}
    (both : Option.Rel related first second)
    (kept : ∀ value other, related value other →
      Option.Rel related' (onward value) (onward' other)) :
    Option.Rel related' (first.bind onward) (second.bind onward') := by
  cases both with
  | none => exact Option.Rel.none
  | some holds => exact kept _ _ holds

theorem rel_imp {ρ β : Type*} {related related' : ρ → β → Prop} {first : Option ρ}
    {second : Option β} (both : Option.Rel related first second)
    (weaken : ∀ value other, first = some value → second = some other → related value other →
      related' value other) :
    Option.Rel related' first second := by
  cases both with
  | none => exact Option.Rel.none
  | some holds => exact Option.Rel.some (weaken _ _ rfl rfl holds)

/-- Two systems that every input keeps related stay related over runs, and neither fails
before the other. -/
theorem run_rel {ι τ β : Type*} {step : σ → α → Option σ} {image : τ → β → Option τ}
    {related : σ → τ → Prop} {first : ι → α} {second : ι → β} {inputs : List ι}
    (kept : ∀ input ∈ inputs, ∀ state other, related state other →
      Option.Rel related (step state (first input)) (image other (second input)))
    {state : σ} {other : τ} (initial : related state other) :
    Option.Rel related (run step state (inputs.map first))
      (run image other (inputs.map second)) := by
  induction inputs generalizing state other with
  | nil => exact Option.Rel.some initial
  | cons input rest ih =>
      apply rel_bind (kept input List.mem_cons_self state other initial)
      intro next nextOther relatedNext
      apply ih _ relatedNext
      exact fun later listed => kept later (List.mem_cons_of_mem input listed)

/-- A property of the past inputs and the state that holds at the start and is
kept by every step holds after every run. -/
theorem run_induction {step : σ → α → Option σ} {start : σ}
    (property : List α → σ → Prop) (initial : property [] start)
    (preserved : ∀ past input state next, run step start past = some state →
      property past state → step state input = some next →
      property (past ++ [input]) next)
    {inputs : List α} {final : σ} (reached : run step start inputs = some final) :
    property inputs final := by
  induction inputs using List.reverseRecOn generalizing final with
  | nil =>
      cases reached
      exact initial
  | append_singleton past input ih =>
      rcases run_snoc_eq_some_iff.mp reached with ⟨middle, before, last⟩
      exact preserved past input middle final before (ih before) last

/-- A property that holds of the empty run and is kept by every further input
holds at every point of a run. -/
theorem prefix_induction {inputs : List α} (property : List α → Prop) (initial : property [])
    (preserved : ∀ past input, past ++ [input] <+: inputs → property past →
      property (past ++ [input]))
    {past : List α} (before : past <+: inputs) : property past := by
  induction past using List.reverseRecOn with
  | nil => exact initial
  | append_singleton earlier input ih =>
      exact preserved earlier input before (ih ((List.prefix_append earlier [input]).trans before))

/-- A run is no longer than what its steps take off a measure. -/
theorem length_add_le {step : σ → α → Option σ} (measure : σ → Nat)
    (decreases : ∀ state input next, step state input = some next →
      measure next < measure state)
    {start final : σ} {inputs : List α} (reached : run step start inputs = some final) :
    inputs.length + measure final ≤ measure start := by
  induction inputs generalizing start with
  | nil =>
      cases reached
      simp
  | cons input rest ih =>
      rcases run_cons_eq_some_iff.mp reached with ⟨next, stepped, onward⟩
      have later := ih onward
      have first := decreases start input next stepped
      rw [List.length_cons]
      omega

/-! ## Steps along a run -/

/-- Every step of the run is good in the state that it is taken from. -/
def along (step : σ → α → Option σ) (good : σ → α → Prop) : σ → List α → Prop
  | _, [] => True
  | state, input :: rest =>
      good state input ∧ ∀ next, step state input = some next → along step good next rest

/-- Sum of the weights of the steps of the run. -/
def total (step : σ → α → Option σ) (weight : σ → α → Nat) : σ → List α → Nat
  | _, [] => 0
  | state, input :: rest =>
      weight state input + ((step state input).map fun next => total step weight next rest).getD 0

theorem forall_along_iff {ι : Sort*} {step : σ → α → Option σ} {good : ι → σ → α → Prop}
    {state : σ} {inputs : List α} :
    (∀ i, along step (good i) state inputs) ↔
      along step (fun state input => ∀ i, good i state input) state inputs := by
  induction inputs generalizing state with
  | nil => exact iff_of_true (fun _ => trivial) trivial
  | cons input rest ih =>
      simp only [along, forall_and, ← ih]
      exact and_congr_right fun _ => ⟨fun all next stepped i => all i next stepped,
        fun all i next stepped => all next stepped i⟩

instance decidableAlong {step : σ → α → Option σ} {good : σ → α → Prop}
    [∀ state input, Decidable (good state input)] :
    ∀ state inputs, Decidable (along step good state inputs)
  | _, [] => inferInstanceAs (Decidable True)
  | state, input :: rest =>
      have _later (next : σ) : Decidable (along step good next rest) := decidableAlong next rest
      inferInstanceAs (Decidable (good state input ∧
        ∀ next ∈ step state input, along step good next rest))

/-- The last step adds its weight. -/
theorem total_snoc {step : σ → α → Option σ} {weight : σ → α → Nat} {state middle : σ}
    {past : List α} (reached : run step state past = some middle) (input : α) :
    total step weight state (past ++ [input]) =
      total step weight state past + weight middle input := by
  induction past generalizing state with
  | nil =>
      cases reached
      cases stepped : step middle input <;> simp [total, stepped]
  | cons first rest ih =>
      rcases run_cons_eq_some_iff.mp reached with ⟨next, stepped, onward⟩
      simp only [List.cons_append, total, stepped, Option.map_some, Option.getD_some, ih onward]
      exact (Nat.add_assoc ..).symm

/-- Weights that come to no more at any step come to no more over a run. -/
theorem sum_total_le {ι : Type*} {step : σ → α → Option σ} {weights : ι → σ → α → Nat}
    {weight : σ → α → Nat} {keys : List ι}
    (each : ∀ state input, (keys.map fun key => weights key state input).sum ≤ weight state input)
    (state : σ) (inputs : List α) :
    (keys.map fun key => total step (weights key) state inputs).sum ≤
      total step weight state inputs := by
  induction inputs generalizing state with
  | nil => simp [total]
  | cons input rest ih =>
      simp only [total, List.sum_map_add]
      apply Nat.add_le_add (each state input)
      cases step state input with
      | none => simp
      | some next => exact ih next

/-- The weights sum to zero exactly when every step weighs nothing. -/
theorem total_eq_zero_iff {step : σ → α → Option σ} {weight : σ → α → Nat} {state : σ}
    {inputs : List α} :
    total step weight state inputs = 0 ↔
      along step (fun state input => weight state input = 0) state inputs := by
  induction inputs generalizing state with
  | nil => exact iff_of_true rfl trivial
  | cons input rest ih =>
      rw [total, Nat.add_eq_zero_iff, along]
      apply and_congr_right
      intro _
      cases step state input with
      | none => simp
      | some next => simp [ih]

/-- When every step moves `debit` by what it moves `credit` plus its weight, a
run moves `debit` by what it moves `credit` plus the sum of the weights. -/
theorem run_balance {step : σ → α → Option σ} {good : σ → α → Prop} (invariant : σ → Prop)
    (debit credit : σ → Nat) (weight : σ → α → Nat)
    (kept : ∀ state input next, invariant state → step state input = some next →
      invariant next)
    (moved : ∀ state input next, invariant state → good state input →
      step state input = some next →
      debit next + credit state = debit state + credit next + weight state input)
    {start final : σ} {inputs : List α} (initial : invariant start)
    (all : along step good start inputs) (reached : run step start inputs = some final) :
    debit final + credit start =
      debit start + credit final + total step weight start inputs := by
  induction inputs generalizing start with
  | nil =>
      cases reached
      rfl
  | cons input rest ih =>
      rcases run_cons_eq_some_iff.mp reached with ⟨next, stepped, onward⟩
      have first := moved start input next initial all.1 stepped
      have later := ih (kept start input next initial stepped) (all.2 next stepped) onward
      rw [total, stepped, Option.map_some, Option.getD_some]
      omega

end Mjae.Transition
