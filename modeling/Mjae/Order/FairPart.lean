import Mathlib.Algebra.BigOperators.Group.Finset.Piecewise
import Mathlib.Algebra.Group.Action.Defs
import Mathlib.Algebra.Order.BigOperators.Group.Finset
import Mathlib.Algebra.Order.Group.Nat
import Mathlib.Algebra.Ring.Nat
import Mathlib.Data.Finset.Max

/-!
# Fair parts

A total is divided among finitely many parties of a linear order: everyone gets
the rounded-down part, and the lowest ones get one unit more until nothing is
left over.  This is the only division of the total that never favours the higher
of two parties and never favours the lower one by more than a unit.
-/

namespace Mjae.Order

universe u

variable {α : Type u} [LinearOrder α]

/-- Number of parties below `party`. -/
def rank (parties : Finset α) (party : α) : Nat :=
  (parties.filter (· < party)).card

/-- The part of `party` when `total` is divided among `parties`. -/
def fairPart (total : Nat) (parties : Finset α) (party : α) : Nat :=
  total / parties.card + if rank parties party < total % parties.card then 1 else 0

/-- Of two parties the lower gets as much as the higher, or one unit more. -/
def EvenlyDivided (parties : Finset α) (amount : α → Nat) : Prop :=
  ∀ low ∈ parties, ∀ high ∈ parties, low < high →
    amount high ≤ amount low ∧ amount low ≤ amount high + 1

/-- Nobody gets more than the total. -/
theorem fairPart_le (total : Nat) (parties : Finset α) (party : α) :
    fairPart total parties party ≤ total := by
  have division := Nat.div_add_mod total parties.card
  rw [fairPart]
  rcases Nat.eq_zero_or_pos parties.card with none_left | some_left
  · rw [none_left] at division ⊢
    rw [Nat.div_zero, Nat.mod_zero, Nat.zero_add]
    split <;> omega
  · have base_le := Nat.le_mul_of_pos_left (total / parties.card) some_left
    split <;> omega

theorem rank_mono (parties : Finset α) {low high : α} (le : low ≤ high) :
    rank parties low ≤ rank parties high := by
  apply Finset.card_le_card
  intro party member
  rcases Finset.mem_filter.mp member with ⟨listed, below⟩
  exact Finset.mem_filter.mpr ⟨listed, below.trans_le le⟩

theorem evenlyDivided_fairPart (total : Nat) (parties : Finset α) :
    EvenlyDivided parties (fairPart total parties) := by
  intro low _ high _ below
  have order := rank_mono parties below.le
  rw [fairPart, fairPart]
  split <;> split <;> omega

/-- Members of an initial segment are those whose rank is below its size. -/
theorem mem_iff_rank_lt {parties favoured : Finset α} (within : favoured ⊆ parties)
    (initial : ∀ low ∈ parties, ∀ high ∈ favoured, low < high → low ∈ favoured)
    {party : α} (listed : party ∈ parties) :
    party ∈ favoured ↔ rank parties party < favoured.card := by
  constructor
  · intro member
    apply Finset.card_lt_card
    constructor
    · intro low below
      rcases Finset.mem_filter.mp below with ⟨low_listed, low_lt⟩
      exact initial low low_listed party member low_lt
    · intro all
      exact lt_irrefl party (Finset.mem_filter.mp (all member)).2
  · intro few
    by_contra outside
    apply few.not_ge
    apply Finset.card_le_card
    intro high member
    rw [Finset.mem_filter]
    refine ⟨within member, ?_⟩
    by_contra above
    have differ : party ≠ high := by
      rintro rfl
      exact outside member
    exact outside (initial party listed high member (lt_of_le_of_ne (not_lt.mp above) differ))

/-! ## Even divisions -/

/-- The parties that get a unit more than the highest one. -/
def favoured (parties : Finset α) (some_party : parties.Nonempty) (amount : α → Nat) : Finset α :=
  parties.filter fun party => amount party = amount (parties.max' some_party) + 1

theorem mem_favoured {parties : Finset α} {some_party : parties.Nonempty} {amount : α → Nat}
    {party : α} :
    party ∈ favoured parties some_party amount ↔
      party ∈ parties ∧ amount party = amount (parties.max' some_party) + 1 :=
  Finset.mem_filter

theorem favoured_subset (parties : Finset α) (some_party : parties.Nonempty)
    (amount : α → Nat) : favoured parties some_party amount ⊆ parties :=
  Finset.filter_subset _ _

/-- The highest party is not favoured. -/
theorem card_favoured_lt {parties : Finset α} (some_party : parties.Nonempty)
    (amount : α → Nat) : (favoured parties some_party amount).card < parties.card := by
  apply Finset.card_lt_card
  constructor
  · exact favoured_subset parties some_party amount
  · intro all
    have more := (mem_favoured.mp (all (parties.max'_mem some_party))).2
    exact Nat.ne_of_lt (Nat.lt_succ_self _) more

namespace EvenlyDivided

variable {parties : Finset α} {amount : α → Nat}

/-- Everyone gets what the highest party gets, the favoured ones a unit more. -/
theorem amount_eq (even : EvenlyDivided parties amount) (some_party : parties.Nonempty)
    {party : α} (listed : party ∈ parties) :
    amount party = amount (parties.max' some_party) +
      if party ∈ favoured parties some_party amount then 1 else 0 := by
  rcases eq_or_lt_of_le (parties.le_max' party listed) with last | below
  · have plain : party ∉ favoured parties some_party amount := by
      intro member
      have more := (mem_favoured.mp member).2
      rw [← last] at more
      exact Nat.ne_of_lt (Nat.lt_succ_self _) more
    rw [if_neg plain, ← last]
    rfl
  · have close := even party listed _ (parties.max'_mem some_party) below
    split
    · rename_i member
      exact (mem_favoured.mp member).2
    · rename_i plain
      have other : amount party ≠ amount (parties.max' some_party) + 1 :=
        fun equal => plain (mem_favoured.mpr ⟨listed, equal⟩)
      exact le_antisymm (Nat.le_of_lt_succ (lt_of_le_of_ne close.2 other)) close.1

/-- The favoured parties are the lowest ones. -/
theorem mem_favoured_of_lt (even : EvenlyDivided parties amount) {some_party : parties.Nonempty}
    {low high : α} (listed : low ∈ parties) (member : high ∈ favoured parties some_party amount)
    (below : low < high) : low ∈ favoured parties some_party amount := by
  rcases mem_favoured.mp member with ⟨high_listed, high_eq⟩
  have more := (even low listed high high_listed below).1
  have low_eq := even.amount_eq some_party listed
  by_contra plain
  rw [if_neg plain] at low_eq
  rw [high_eq, low_eq] at more
  exact Nat.not_succ_le_self _ more

/-- The total is the highest party's amount for everyone and a unit for each
favoured one. -/
theorem sum_eq (even : EvenlyDivided parties amount) (some_party : parties.Nonempty) :
    ∑ party ∈ parties, amount party =
      parties.card * amount (parties.max' some_party) +
        (favoured parties some_party amount).card := by
  have counted : ∑ party ∈ parties,
      (if party ∈ favoured parties some_party amount then 1 else 0) =
        (favoured parties some_party amount).card := by
    rw [← Finset.card_filter, Finset.filter_mem_eq_inter,
      Finset.inter_eq_right.mpr (favoured_subset parties some_party amount)]
  rw [Finset.sum_congr rfl fun party listed => even.amount_eq some_party listed,
    Finset.sum_add_distrib, Finset.sum_const, smul_eq_mul, counted]

end EvenlyDivided

/-- An even division of a total is the fair one. -/
theorem eq_fairPart_iff_evenlyDivided {parties : Finset α} (some_party : parties.Nonempty)
    {amount : α → Nat} {total : Nat} (exact_total : ∑ party ∈ parties, amount party = total) :
    (∀ party ∈ parties, amount party = fairPart total parties party) ↔
      EvenlyDivided parties amount := by
  constructor
  · intro fair low low_listed high high_listed below
    rw [fair low low_listed, fair high high_listed]
    exact evenlyDivided_fairPart total parties low low_listed high high_listed below
  · intro even party listed
    have positive : 0 < parties.card := Finset.card_pos.mpr some_party
    have fewer := card_favoured_lt some_party amount
    have lowest := mem_iff_rank_lt (favoured_subset parties some_party amount)
      (fun low low_listed high member below =>
        even.mem_favoured_of_lt low_listed member below) listed
    rw [even.amount_eq some_party listed, fairPart, ← exact_total, even.sum_eq some_party,
      Nat.mul_add_div positive, Nat.div_eq_of_lt fewer, Nat.mul_add_mod, Nat.mod_eq_of_lt fewer,
      Nat.add_zero]
    congr 1
    exact if_congr lowest rfl rfl

end Mjae.Order
