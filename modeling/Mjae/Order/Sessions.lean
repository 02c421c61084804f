import Mjae.Order.GrowingWalk

/-!
# Sessions over growing contents

A session looks at the same growing contents again and again.  Every look takes time
and covers a part of the keys; no look sees less of them than an earlier one did.
-/

namespace Mjae.Order

universe u v

variable {κ : Type u} {ν : Type v}

/-- What one look has read, and the keys it would have found. -/
structure Sight (κ : Type u) (ν : Type v) where
  covers : κ → Prop
  reads : List (κ × ν)

/-- Everything read is still there, and has not become less. -/
def Below [LE ν] (reads : List (κ × ν)) (present : κ → Option ν) : Prop :=
  ∀ read ∈ reads, ∃ later, present read.1 = some later ∧ read.2 ≤ later

/-- A later look finds what an earlier one has read, as far as it covers it. -/
def Sight.le [LE ν] (earlier later : Sight κ ν) : Prop :=
  ∀ read ∈ earlier.reads, later.covers read.1 →
    ∃ value, (read.1, value) ∈ later.reads ∧ read.2 ≤ value

variable [Preorder ν]

theorem Below.grows {reads : List (κ × ν)} {present after : κ → Option ν}
    (below : Below reads present) (grows : Grows present after) : Below reads after := by
  intro read listed
  rcases below read listed with ⟨later, found, bound⟩
  rcases grows read.1 later found with ⟨last, kept, grown⟩
  exact ⟨last, kept, bound.trans grown⟩

/-- What was there at the start of a walk is found by it. -/
theorem Reads.exists_read {begun present : κ → Option ν} {passed : κ → Prop}
    {reads : List (κ × ν)} (known : Reads begun present passed reads) {key : κ} {value : ν}
    (found : begun key = some value) (reached : passed key) :
    ∃ later, (key, later) ∈ reads ∧ value ≤ later := by
  rcases List.mem_map.mp (known.covered key value found reached) with ⟨read, listed, rfl⟩
  exact ⟨read.2, listed, known.above read listed value found⟩

/-- The looks of a session so far: `base` are the contents when it began. -/
structure Session (base present : κ → Option ν) (sights : List (Sight κ ν)) : Prop where
  since : Grows base present
  ordered : sights.Pairwise Sight.le
  below : ∀ sight ∈ sights, Below sight.reads present
  above : ∀ sight ∈ sights, ∀ key value, base key = some value → sight.covers key →
    ∃ later, (key, later) ∈ sight.reads ∧ value ≤ later

/-- A look that began when the contents were `begun` and is still going on. -/
structure Look (base begun present : κ → Option ν) (sights : List (Sight κ ν))
    (passed : κ → Prop) (reads : List (κ × ν)) : Prop where
  since : Grows base begun
  grown : Grows begun present
  sights : ∀ sight ∈ sights, Below sight.reads begun
  known : Reads begun present passed reads

variable {base begun present after : κ → Option ν} {sights : List (Sight κ ν)}
  {passed : κ → Prop} {reads : List (κ × ν)}

theorem session_nil (contents : κ → Option ν) : Session contents contents [] where
  since := Grows.refl contents
  ordered := List.Pairwise.nil
  below _ := nofun
  above _ := nofun

namespace Session

theorem grows (session : Session base present sights) (grows : Grows present after) :
    Session base after sights where
  since := session.since.trans grows
  ordered := session.ordered
  below sight listed := (session.below sight listed).grows grows
  above := session.above

/-- A look begins: nothing is read yet. -/
theorem look (session : Session base present sights) :
    Look base present present sights (fun _ => False) [] where
  since := session.since
  grown := Grows.refl present
  sights := session.below
  known := reads_nil present present

/-- A look that is over is the last of the session. -/
theorem close (session : Session base present sights) {sight : Sight κ ν}
    (look : Look base begun present sights sight.covers sight.reads) :
    Session base present (sights ++ [sight]) where
  since := session.since
  ordered := by
    apply List.pairwise_append.mpr
    refine ⟨session.ordered, List.pairwise_singleton _ _, ?_⟩
    intro earlier listed later last read member covered
    rw [List.mem_singleton.mp last] at covered ⊢
    rcases look.sights earlier listed read member with ⟨value, found, bound⟩
    rcases look.known.exists_read found covered with ⟨later, seen, grown⟩
    exact ⟨later, seen, bound.trans grown⟩
  below := by
    intro other listed
    rcases List.mem_append.mp listed with earlier | last
    · exact session.below other earlier
    · rw [List.mem_singleton.mp last]
      exact look.known.below
  above := by
    intro other listed key value found covered
    rcases List.mem_append.mp listed with earlier | last
    · exact session.above other earlier key value found covered
    · rw [List.mem_singleton.mp last] at covered ⊢
      rcases look.since key value found with ⟨middle, held, bound⟩
      rcases look.known.exists_read held covered with ⟨later, seen, grown⟩
      exact ⟨later, seen, bound.trans grown⟩

end Session

namespace Look

theorem grows (look : Look base begun present sights passed reads)
    (grows : Grows present after) : Look base begun after sights passed reads where
  since := look.since
  grown := look.grown.trans grows
  sights := look.sights
  known := look.known.grows grows

theorem advance {further : κ → Prop} (look : Look base begun present sights passed reads)
    (more : ∀ key, passed key → further key)
    (skipped : ∀ key value, begun key = some value → further key → passed key) :
    Look base begun present sights further reads where
  since := look.since
  grown := look.grown
  sights := look.sights
  known := look.known.advance more skipped

theorem read {key : κ} {value : ν} {further : κ → Prop}
    (look : Look base begun present sights passed reads) (fresh : ¬ passed key)
    (further_iff : ∀ other, further other ↔ passed other ∨ other = key)
    (found : present key = some value) :
    Look base begun present sights further (reads ++ [(key, value)]) where
  since := look.since
  grown := look.grown
  sights := look.sights
  known := look.known.read fresh further_iff found look.grown

end Look

/-- Over contents at rest a look reads what is there. -/
theorem Below.mem_iff {κ : Type u} {ν : Type v} [PartialOrder ν] {present : κ → Option ν}
    {reads : List (κ × ν)} (below : Below reads present) {key : κ}
    (above : ∀ value, present key = some value → ∃ later, (key, later) ∈ reads ∧ value ≤ later)
    (single : ∀ value other, (key, value) ∈ reads → (key, other) ∈ reads → value = other)
    (value : ν) : (key, value) ∈ reads ↔ present key = some value := by
  have agree : ∀ read held, (key, read) ∈ reads → present key = some held → read = held := by
    intro read held listed found
    rcases below _ listed with ⟨later, present_eq, least⟩
    rcases above held found with ⟨other, otherListed, most⟩
    cases found.symm.trans present_eq
    cases single read other listed otherListed
    exact le_antisymm least most
  constructor
  · intro listed
    rcases below _ listed with ⟨later, found, -⟩
    rw [agree value later listed found]
    exact found
  · intro found
    rcases above value found with ⟨later, listed, -⟩
    rwa [← agree later value listed found]

end Mjae.Order
