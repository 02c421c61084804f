import Mjae.Transition.Interleave

/-!
# One-time initialisation

Threads that share an object pass a gate.  The first of them to arrive sets the object
up while the others wait, and nobody sets it up again.  The gate is transparent: what
the threads do behind it is a run of the plain threads on the object as it was set up.
-/

namespace Mjae.Transition

universe u v w x

inductive Gate
  | incomplete
  | running
  | complete
  deriving DecidableEq

/-- A shared object behind a gate. -/
structure Gated (σ : Type u) where
  gate : Gate
  object : σ

/-- A thread, and how far it has come if it is the one that sets the object up. -/
structure Visitor (τ : Type v) (κ : Type w) where
  own : τ
  setup : Option κ

/-- A thread that does not set anything up. -/
def outside {τ : Type v} {κ : Type w} (own : τ) : Visitor τ κ :=
  ⟨own, none⟩

/-- Code that runs once, and the code of the threads that wait for it. -/
structure Once (σ : Type u) (τ : Type v) (κ : Type w) (ι : Type x) where
  /-- Whether the thread is about to pass the gate. -/
  waits : τ → Bool
  /-- The thread behind the gate. -/
  pass : τ → τ
  opening : κ
  /-- A step of the set-up; it has returned when there is no next stage. -/
  setup : σ → κ → ι → Option (σ × Option κ)
  /-- A step of a thread that does not wait. -/
  body : σ → τ → ι → Option (σ × τ)

variable {σ : Type u} {τ : Type v} {κ : Type w} {ι : Type x}

namespace Once

variable (once : Once σ τ κ ι)

/-- The gate opens when the set-up returns. -/
def settle (own : τ) : σ × Option κ → Gated σ × Visitor τ κ
  | (object, some stage) => (⟨.running, object⟩, ⟨own, some stage⟩)
  | (object, none) => (⟨.complete, object⟩, outside (once.pass own))

/-- A thread at the gate: it sets up, waits, or passes. -/
def enter (gated : Gated σ) (own : τ) : Option (Gated σ × Visitor τ κ) :=
  match gated.gate with
  | .incomplete => some (⟨.running, gated.object⟩, ⟨own, some once.opening⟩)
  | .running => none
  | .complete => some (gated, outside (once.pass own))

def act (gated : Gated σ) (visitor : Visitor τ κ) (input : ι) :
    Option (Gated σ × Visitor τ κ) :=
  match visitor.setup with
  | some stage => (once.setup gated.object stage input).map (once.settle visitor.own)
  | none =>
      if once.waits visitor.own then once.enter gated visitor.own
      else (once.body gated.object visitor.own input).map fun acted =>
        (⟨gated.gate, acted.1⟩, outside acted.2)

/-- The same threads around an object that is set up already. -/
def plain (object : σ) (own : τ) (input : ι) : Option (σ × τ) :=
  if once.waits own then some (object, once.pass own) else once.body object own input

/-- The set-up by itself. -/
def settingUp (state : σ × Option κ) (input : ι) : Option (σ × Option κ) :=
  state.2.bind fun stage => once.setup state.1 stage input

/-- All threads before the gate. -/
def gathered (start : σ) (threads : List τ) : System (Gated σ) (Visitor τ κ) :=
  ⟨⟨.incomplete, start⟩, threads.map outside⟩

/-! ## One turn -/

/-- Everything that one step of a thread can do. -/
inductive Advances : Gated σ → Visitor τ κ → ι → Gated σ → Visitor τ κ → Prop
  | entered {object own input} (waits : once.waits own = true) :
      Advances ⟨.incomplete, object⟩ ⟨own, none⟩ input ⟨.running, object⟩
        ⟨own, some once.opening⟩
  | passed {object own input} (waits : once.waits own = true) :
      Advances ⟨.complete, object⟩ ⟨own, none⟩ input ⟨.complete, object⟩
        ⟨once.pass own, none⟩
  | continued {gate object own stage input after next}
      (ran : once.setup object stage input = some (after, some next)) :
      Advances ⟨gate, object⟩ ⟨own, some stage⟩ input ⟨.running, after⟩ ⟨own, some next⟩
  | opened {gate object own stage input after}
      (ran : once.setup object stage input = some (after, none)) :
      Advances ⟨gate, object⟩ ⟨own, some stage⟩ input ⟨.complete, after⟩
        ⟨once.pass own, none⟩
  | worked {gate object own input after next} (inside : once.waits own = false)
      (ran : once.body object own input = some (after, next)) :
      Advances ⟨gate, object⟩ ⟨own, none⟩ input ⟨gate, after⟩ ⟨next, none⟩

theorem advances_of_act {gated after : Gated σ} {visitor moved : Visitor τ κ} {input : ι}
    (acted : once.act gated visitor input = some (after, moved)) :
    once.Advances gated visitor input after moved := by
  obtain ⟨gate, object⟩ := gated
  obtain ⟨own, setup⟩ := visitor
  cases setup with
  | some stage =>
      obtain ⟨⟨next, following⟩, ran, same⟩ := Option.map_eq_some_iff.mp acted
      cases following with
      | some later =>
          cases same
          exact .continued ran
      | none =>
          cases same
          exact .opened ran
  | none =>
      rw [act] at acted
      dsimp only at acted
      split at acted
      · rename_i waits
        cases gate with
        | incomplete =>
            cases acted
            exact .entered waits
        | running => cases acted
        | complete =>
            cases acted
            exact .passed waits
      · rename_i inside
        obtain ⟨⟨next, later⟩, ran, same⟩ := Option.map_eq_some_iff.mp acted
        cases same
        exact .worked (by simpa using inside) ran

/-! ## Where a run stands -/

/-- Nobody has come yet; or one thread sets the object up and the others wait; or it is
set up, and the threads have gone on from there as if there were no gate. -/
inductive Stands (start : σ) (threads : List τ) : System (Gated σ) (Visitor τ κ) → Prop
  | incomplete : Stands start threads (gathered start threads)
  | running {index thread inputs object stage} (present : threads[index]? = some thread)
      (reached : run once.settingUp (start, some once.opening) inputs =
        some (object, some stage)) :
      Stands start threads
        ⟨⟨.running, object⟩, (threads.map outside).set index ⟨thread, some stage⟩⟩
  | complete {inputs turns ready object owns}
      (reached : run once.settingUp (start, some once.opening) inputs = some (ready, none))
      (ran : run (System.step once.plain) ⟨ready, threads⟩ turns = some ⟨object, owns⟩) :
      Stands start threads ⟨⟨.complete, object⟩, owns.map outside⟩

variable {once}

theorem exists_outside {owns : List τ} {index : Nat} {visitor : Visitor τ κ}
    (present : (owns.map outside)[index]? = some visitor) :
    ∃ own, owns[index]? = some own ∧ visitor = ⟨own, none⟩ := by
  rw [List.getElem?_map, Option.map_eq_some_iff] at present
  obtain ⟨own, listed, rfl⟩ := present
  exact ⟨own, listed, rfl⟩

theorem settingUp_snoc {start object after : σ} {stage : κ} {later : Option κ} {inputs : List ι}
    {input : ι}
    (reached : run once.settingUp (start, some once.opening) inputs = some (object, some stage))
    (ran : once.setup object stage input = some (after, later)) :
    run once.settingUp (start, some once.opening) (inputs ++ [input]) = some (after, later) :=
  run_snoc_eq_some_iff.mpr ⟨_, reached, ran⟩

theorem plain_step {object after : σ} {owns : List τ} {own moved : τ} {turn : Nat × ι}
    (listed : owns[turn.1]? = some own)
    (acts : once.plain object own turn.2 = some (after, moved)) :
    System.step once.plain ⟨object, owns⟩ turn = some ⟨after, owns.set turn.1 moved⟩ :=
  System.step_eq_some_iff.mpr ⟨own, after, moved, listed, acts, rfl⟩

theorem plain_of_waits {own : τ} (waits : once.waits own = true) (object : σ) (input : ι) :
    once.plain object own input = some (object, once.pass own) :=
  if_pos waits

theorem plain_of_not_waits {own : τ} (inside : once.waits own = false) (object : σ) (input : ι) :
    once.plain object own input = once.body object own input := by
  rw [plain, inside]
  rfl

/-- A turn behind the open gate is a turn of the plain threads. -/
theorem Stands.snoc {start ready object after : σ} {threads owns : List τ} {own moved : τ}
    {inputs : List ι} {turns : List (Nat × ι)} {turn : Nat × ι}
    (reached : run once.settingUp (start, some once.opening) inputs = some (ready, none))
    (ran : run (System.step once.plain) ⟨ready, threads⟩ turns = some ⟨object, owns⟩)
    (listed : owns[turn.1]? = some own)
    (acts : once.plain object own turn.2 = some (after, moved)) :
    once.Stands start threads
      ⟨⟨.complete, after⟩, (owns.map outside).set turn.1 (outside moved)⟩ := by
  rw [← List.map_set]
  exact .complete reached (run_snoc_eq_some_iff.mpr ⟨_, ran, plain_step listed acts⟩)

theorem Stands.step {start : σ} {threads : List τ} {system next : System (Gated σ) (Visitor τ κ)}
    {turn : Nat × ι} (all_wait : ∀ thread ∈ threads, once.waits thread = true)
    (stands : once.Stands start threads system)
    (stepped : system.step once.act turn = some next) : once.Stands start threads next := by
  obtain ⟨visitor, after, moved, present, acted, rfl⟩ := System.step_eq_some_iff.mp stepped
  have advances := once.advances_of_act acted
  cases stands with
  | incomplete =>
      obtain ⟨own, listed, rfl⟩ := exists_outside present
      cases advances with
      | entered waits => exact .running listed (run_nil _ _)
      | worked inside ran =>
          rw [all_wait own (List.mem_of_getElem? listed)] at inside
          contradiction
  | running at_index reached =>
      rename_i index thread inputs object stage
      by_cases own_turn : index = turn.1
      · subst own_turn
        have inside := (List.getElem?_eq_some_iff.mp at_index).1
        rw [List.getElem?_set_self (by simpa using inside)] at present
        cases present
        dsimp only
        rw [List.set_set]
        cases advances with
        | continued ran => exact .running at_index (settingUp_snoc reached ran)
        | opened ran =>
            have waits := all_wait thread (List.mem_of_getElem? at_index)
            exact .snoc (settingUp_snoc reached ran) (run_nil _ _) at_index
              (plain_of_waits waits _ _)
      · rw [List.getElem?_set_ne own_turn] at present
        obtain ⟨own, listed, rfl⟩ := exists_outside present
        cases advances with
        | worked inside ran =>
            rw [all_wait own (List.mem_of_getElem? listed)] at inside
            contradiction
  | complete reached ran =>
      obtain ⟨own, listed, rfl⟩ := exists_outside present
      cases advances with
      | passed waits => exact .snoc reached ran listed (plain_of_waits waits _ _)
      | worked inside worked =>
          exact .snoc reached ran listed ((plain_of_not_waits inside _ _).trans worked)

/-- The gate is transparent. -/
theorem stands_of_run {start : σ} {threads : List τ}
    (all_wait : ∀ thread ∈ threads, once.waits thread = true) {turns : List (Nat × ι)}
    {final : System (Gated σ) (Visitor τ κ)}
    (executed : run (System.step once.act) (gathered start threads) turns = some final) :
    once.Stands start threads final := by
  refine run_induction (fun _ system => once.Stands start threads system) .incomplete ?_ executed
  intro past turn system next _ stands stepped
  exact stands.step all_wait stepped

/-! ## Progress -/

theorem act_eq_none {system : System (Gated σ) (Visitor τ κ)}
    (stuck : ∀ turn, system.step once.act turn = none) {index : Nat} {visitor : Visitor τ κ}
    (present : system.threads[index]? = some visitor) (input : ι) :
    once.act system.shared visitor input = none := by
  simpa [System.step, present] using stuck (index, input)

/-- When no turn is left, every thread is behind the gate, and none of them waits for it
or could go on by itself. -/
theorem Stands.stuck [Nonempty ι] {start : σ} {threads : List τ}
    {system : System (Gated σ) (Visitor τ κ)}
    (all_wait : ∀ thread ∈ threads, once.waits thread = true)
    (returns : ∀ object stage, ∃ input, (once.setup object stage input).isSome)
    (stands : once.Stands start threads system)
    (stuck : ∀ turn, system.step once.act turn = none) {visitor : Visitor τ κ}
    (listed : visitor ∈ system.threads) :
    visitor.setup = none ∧ once.waits visitor.own = false ∧
      ∀ input, once.body system.shared.object visitor.own input = none := by
  obtain ⟨some_input⟩ := ‹Nonempty ι›
  obtain ⟨index, present⟩ := List.getElem?_of_mem listed
  cases stands with
  | incomplete =>
      have blocked := act_eq_none stuck present some_input
      obtain ⟨own, own_listed, rfl⟩ := exists_outside present
      have waits := all_wait own (List.mem_of_getElem? own_listed)
      simp [act, waits, enter, gathered] at blocked
  | running at_index reached =>
      rename_i setter thread inputs object stage
      have inside := (List.getElem?_eq_some_iff.mp at_index).1
      obtain ⟨input, goes_on⟩ := returns object stage
      have blocked := act_eq_none stuck
        (List.getElem?_set_self (show setter < (threads.map outside).length by
          simpa using inside)) input
      simp only [act, Option.map_eq_none_iff] at blocked
      simp [blocked] at goes_on
  | complete reached ran =>
      obtain ⟨own, -, rfl⟩ := exists_outside present
      have blocked := act_eq_none stuck present
      cases waits : once.waits own with
      | true =>
          have blocked_here := blocked some_input
          simp [act, waits, enter] at blocked_here
      | false =>
          refine ⟨rfl, rfl, ?_⟩
          intro input
          have blocked_here := blocked input
          simpa [act, waits] using blocked_here

/-- What a thread has left to do, and with it the rest of the set-up. -/
def weight (once : Once σ τ κ ι) (rank : τ → Nat) (stages : κ → Nat)
    (visitor : Visitor τ κ) : Nat :=
  match visitor.setup with
  | none => rank visitor.own
  | some stage => rank (once.pass visitor.own) + stages stage + 1

/-- The set-up, as long as nobody has begun it. -/
def gateWeight (once : Once σ τ κ ι) (stages : κ → Nat) : Gate → Nat
  | .incomplete => stages once.opening + 1
  | _ => 0

/-- Ranks that every step takes something off. -/
structure Ranked (once : Once σ τ κ ι) (rank : τ → Nat) (stages : κ → Nat) : Prop where
  pass_lt : ∀ own, once.waits own = true → rank (once.pass own) < rank own
  setup_lt : ∀ object stage input after next,
    once.setup object stage input = some (after, some next) → stages next < stages stage
  body_lt : ∀ object own input after next,
    once.body object own input = some (after, next) → rank next < rank own

theorem Ranked.advance {rank : τ → Nat} {stages : κ → Nat} (ranked : once.Ranked rank stages)
    {gated after : Gated σ} {visitor moved : Visitor τ κ} {input : ι}
    (advances : once.Advances gated visitor input after moved) :
    once.gateWeight stages after.gate + once.weight rank stages moved <
      once.gateWeight stages gated.gate + once.weight rank stages visitor := by
  cases advances with
  | entered waits =>
      have lower := ranked.pass_lt _ waits
      simp only [gateWeight, weight]
      omega
  | passed waits => simpa [gateWeight, weight] using ranked.pass_lt _ waits
  | continued ran =>
      have lower := ranked.setup_lt _ _ _ _ _ ran
      simp only [gateWeight, weight]
      omega
  | opened ran =>
      simp only [gateWeight, weight]
      omega
  | worked inside ran => simpa [weight] using ranked.body_lt _ _ _ _ _ ran

/-- No run takes more turns than the threads and the set-up have to take. -/
theorem Ranked.length_le {rank : τ → Nat} {stages : κ → Nat} (ranked : once.Ranked rank stages)
    {start : σ} {threads : List τ} {turns : List (Nat × ι)}
    {final : System (Gated σ) (Visitor τ κ)}
    (executed : run (System.step once.act) (gathered start threads) turns = some final) :
    turns.length ≤ (threads.map rank).sum + stages once.opening + 1 := by
  have bounded := length_add_le
    (fun system => once.gateWeight stages system.shared.gate +
      (system.threads.map (once.weight rank stages)).sum) ?_ executed
  · have outside_weight : once.weight rank stages ∘ outside = rank := rfl
    simp only [gathered, gateWeight, List.map_map, outside_weight] at bounded
    omega
  · intro system turn next stepped
    obtain ⟨visitor, after, moved, present, acted, rfl⟩ := System.step_eq_some_iff.mp stepped
    have lower := ranked.advance (once.advances_of_act acted)
    have replaced := sum_map_set (once.weight rank stages) present moved
    dsimp only
    omega

end Once

end Mjae.Transition
