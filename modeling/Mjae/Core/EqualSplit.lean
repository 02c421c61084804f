import Mathlib.Algebra.BigOperators.Group.Finset.Basic
import Mathlib.Algebra.BigOperators.Ring.Finset
import Mathlib.Order.Defs.LinearOrder
import Mjae.Core.SamplingLoop
import Mjae.Order.FairPart

/-!
# The equal split by process

The split goes through the list of active processes position by position.  Seen
by process it is the fair division of the difference exactly when, of any two
listed processes, the entries of the lower are worth as much as those of the
higher, or one unit more.
-/

namespace Mjae.Core

open Mjae.Arith Mjae.Collections Mjae.Order

local instance linearOrderUInt32 : LinearOrder UInt32 where
  le_refl := UInt32.le_refl
  le_trans _ _ _ := UInt32.le_trans
  le_antisymm _ _ := UInt32.le_antisymm
  le_total := UInt32.le_total
  lt_iff_le_not_ge low high := by
    rw [UInt32.lt_iff_toNat_lt, UInt32.le_iff_toNat_le, UInt32.le_iff_toNat_le]
    exact lt_iff_le_not_ge
  toDecidableLE := inferInstance

/-- What the entries of `pid` are worth when `deltaUj` is split over a list: a
share each, and a unit each for those among the first. -/
def listedUj (deltaUj : Nat) (pids : List UInt32) (pid : UInt32) : Nat :=
  deltaUj / pids.length * pids.count pid + (pids.take (deltaUj % pids.length)).count pid

/-- Of two listed processes the entries of the lower are worth as much as those of
the higher, or one unit more. -/
def EvenlyListed (deltaUj : Nat) (pids : List UInt32) : Prop :=
  EvenlyDivided pids.toFinset (listedUj deltaUj pids)

instance (deltaUj : Nat) (pids : List UInt32) : Decidable (EvenlyListed deltaUj pids) :=
  -- through the list, not through all words
  have _decidable (low : UInt32) : Decidable (∀ high ∈ pids.toFinset, low < high →
      listedUj deltaUj pids high ≤ listedUj deltaUj pids low ∧
        listedUj deltaUj pids low ≤ listedUj deltaUj pids high + 1) :=
    Finset.decidableDforallFinset
  Finset.decidableDforallFinset

/-- Every listed process was paid its fair part of `deltaUj`, and nobody else
anything. -/
def PaysFairly (registry paid : AmalgafyRegistry) (deltaUj : Nat) (pids : Finset UInt32) : Prop :=
  ∀ pid, paid.get pid =
    if pid ∈ pids then some (U64.clamp ((registry.slot pid).toNat + fairPart deltaUj pids pid))
    else registry.get pid

/-! ## Entries and parts -/

/-- The entries of the whole list are worth the whole difference. -/
theorem sum_listedUj {pids : List UInt32} (active : pids ≠ []) (deltaUj : Nat) :
    ∑ pid ∈ pids.toFinset, listedUj deltaUj pids pid = deltaUj := by
  have shares : ∑ pid ∈ pids.toFinset, pids.count pid = pids.length :=
    List.sum_toFinset_count_eq_length pids
  have units : ∑ pid ∈ pids.toFinset, (pids.take (deltaUj % pids.length)).count pid =
      deltaUj % pids.length := by
    have counted := Multiset.sum_count_eq_card (s := pids.toFinset)
      (m := (pids.take (deltaUj % pids.length) : Multiset UInt32))
      (fun pid member => List.mem_toFinset.mpr (List.mem_of_mem_take member))
    simp only [Multiset.coe_count, Multiset.coe_card] at counted
    rw [counted, List.length_take]
    exact min_eq_left (Nat.mod_lt _ (List.length_pos_iff.mpr active)).le
  simp only [listedUj]
  rw [Finset.sum_add_distrib, ← Finset.mul_sum, shares, units, Nat.mul_comm, Nat.div_add_mod]

theorem listedUj_le {pids : List UInt32} {pid : UInt32} (listed : pid ∈ pids) (deltaUj : Nat) :
    listedUj deltaUj pids pid ≤ deltaUj := by
  calc
    listedUj deltaUj pids pid ≤ ∑ other ∈ pids.toFinset, listedUj deltaUj pids other :=
      Finset.single_le_sum (fun _ _ => Nat.zero_le _) (List.mem_toFinset.mpr listed)
    _ = deltaUj := sum_listedUj (List.ne_nil_of_mem listed) deltaUj

/-- A split pays every process what its entries are worth. -/
theorem get_of_splitDelta (registry : AmalgafyRegistry) {pids : Vec UInt32} (deltaUj : UInt64)
    (active : pids.toList ≠ []) :
    ∃ paid, splitDelta registry pids deltaUj = some paid ∧
      ∀ pid, paid.get pid =
        if pid ∈ pids.toList.toFinset then
          some (U64.clamp
            ((registry.slot pid).toNat + listedUj deltaUj.toNat pids.toList pid))
        else registry.get pid := by
  have some_active : ¬ pids.isEmpty := by
    rw [Vec.isEmpty, List.isEmpty_iff]
    exact active
  refine ⟨_, splitDelta_eq_addAll registry pids deltaUj, ?_⟩
  intro pid
  rw [if_neg some_active, AmalgafyRegistry.get_addAll, map_fst_sharePayments,
    paidTo_sharePayments (sharesFit_div_mod deltaUj pids.len), UInt64.toNat_div, UInt64.toNat_mod,
    Vec.toNat_len, ← listedUj]
  simp only [List.mem_toFinset]

/-- A split is fair, whatever the registry holds, exactly when the list is even. -/
theorem splitDelta_paysFairly_iff {pids : Vec UInt32} (deltaUj : UInt64)
    (active : pids.toList ≠ []) :
    (∀ registry, ∃ paid, splitDelta registry pids deltaUj = some paid ∧
      PaysFairly registry paid deltaUj.toNat pids.toList.toFinset) ↔
      EvenlyListed deltaUj.toNat pids.toList := by
  have some_party : pids.toList.toFinset.Nonempty := (List.toFinset_nonempty_iff _).mpr active
  rw [EvenlyListed, ← eq_fairPart_iff_evenlyDivided some_party (sum_listedUj active _)]
  constructor
  · intro fair pid listed
    -- an empty registry shows the amounts themselves
    rcases fair AmalgafyRegistry.new with ⟨paid, paid_eq, pays⟩
    rcases get_of_splitDelta AmalgafyRegistry.new deltaUj active with ⟨other, other_eq, gets⟩
    cases paid_eq.symm.trans other_eq
    have amounts := (gets pid).symm.trans (pays pid)
    have delta_le := U64.toNat_le_maxNat deltaUj
    have listed_le := listedUj_le (List.mem_toFinset.mp listed) deltaUj.toNat
    have part_le := fairPart_le deltaUj.toNat pids.toList.toFinset pid
    rw [if_pos listed, if_pos listed, Option.some.injEq] at amounts
    have equal := congrArg UInt64.toNat amounts
    rw [U64.toNat_clamp, U64.toNat_clamp, AmalgafyRegistry.slot, AmalgafyRegistry.get_new,
      Option.getD_none, UInt64.toNat_zero, Nat.zero_add, Nat.zero_add,
      min_eq_left (listed_le.trans delta_le), min_eq_left (part_le.trans delta_le)] at equal
    exact equal
  · intro even registry
    rcases get_of_splitDelta registry deltaUj active with ⟨paid, paid_eq, gets⟩
    refine ⟨paid, paid_eq, ?_⟩
    intro pid
    rw [gets]
    split
    · rename_i listed
      rw [even pid listed]
    · rfl

/-- Without repetitions a list is even when the processes that get a unit of the
remainder are lower than all that do not. -/
theorem evenlyListed_iff_of_nodup {pids : List UInt32} (nodup : pids.Nodup) (deltaUj : Nat) :
    EvenlyListed deltaUj pids ↔
      ∀ early ∈ pids.take (deltaUj % pids.length), ∀ late ∈ pids.drop (deltaUj % pids.length),
        early < late := by
  have parts (pid : UInt32) (listed : pid ∈ pids) : listedUj deltaUj pids pid =
      deltaUj / pids.length + if pid ∈ pids.take (deltaUj % pids.length) then 1 else 0 := by
    have once := (nodup.sublist (List.take_sublist (deltaUj % pids.length) pids)).count (a := pid)
    rw [listedUj, List.count_eq_one_of_mem nodup listed, Nat.mul_one, once]
  have separate := List.disjoint_take_drop nodup (le_refl (deltaUj % pids.length))
  constructor
  · intro even early early_mem late late_mem
    have early_listed := List.mem_of_mem_take early_mem
    have late_listed := List.mem_of_mem_drop late_mem
    have late_plain : late ∉ pids.take (deltaUj % pids.length) := fun member =>
      separate member late_mem
    by_contra above
    have differ : late ≠ early := by
      rintro rfl
      exact late_plain early_mem
    have order := (even late (List.mem_toFinset.mpr late_listed) early
      (List.mem_toFinset.mpr early_listed) (lt_of_le_of_ne (not_lt.mp above) differ)).1
    rw [parts early early_listed, parts late late_listed, if_pos early_mem,
      if_neg late_plain] at order
    omega
  · intro ordered low low_mem high high_mem below
    rw [List.mem_toFinset] at low_mem high_mem
    rw [parts low low_mem, parts high high_mem]
    by_cases low_early : low ∈ pids.take (deltaUj % pids.length)
    · rw [if_pos low_early]
      constructor
      · split <;> omega
      · omega
    · have low_late : low ∈ pids.drop (deltaUj % pids.length) := by
        rw [← List.take_append_drop (deltaUj % pids.length) pids, List.mem_append] at low_mem
        exact low_mem.resolve_left low_early
      have high_late : high ∉ pids.take (deltaUj % pids.length) := fun high_early =>
        absurd below (not_lt.mpr (ordered high high_early low low_late).le)
      rw [if_neg low_early, if_neg high_late]
      omega

/-! ## One tick -/

/-- Two even lists of the same processes lead to the same registry. -/
theorem splitDelta_eq_of_evenlyListed {pids others : Vec UInt32} {deltaUj : UInt64}
    (active : pids.toList ≠ []) (same : others.toList.toFinset = pids.toList.toFinset)
    (even : EvenlyListed deltaUj.toNat pids.toList)
    (othersEven : EvenlyListed deltaUj.toNat others.toList) (registry : AmalgafyRegistry) :
    splitDelta registry others deltaUj = splitDelta registry pids deltaUj := by
  have othersActive : others.toList ≠ [] := by
    rw [← List.toFinset_nonempty_iff, same, List.toFinset_nonempty_iff]
    exact active
  rcases (splitDelta_paysFairly_iff deltaUj active).mpr even registry with ⟨paid, paid_eq, pays⟩
  rcases (splitDelta_paysFairly_iff deltaUj othersActive).mpr othersEven registry with
    ⟨other, other_eq, otherPays⟩
  rw [paid_eq, other_eq]
  congr 1
  apply AmalgafyRegistry.ext_get
  intro pid
  rw [pays, otherPays, same]

section Loop

variable {σ ε : Type} [EnergyProvider σ ε]

/-- A tick between two snapshots splits the energy between them. -/
theorem tick_of_seeded (state : SamplingLoop σ) (answers : ε) {provider : σ}
    {previous snapshot : PowerSnapshot} (seeded : state.previousSnapshot = some previous)
    (sampled : EnergyProvider.samplePowerState answers state.provider = (.ok snapshot, provider)) :
    (tick state answers).map SamplingLoop.registry =
      splitDelta state.registry (EnergyProvider.activePids provider)
        (snapshotDeltaUj previous snapshot) := by
  rw [tick, sampled]
  simp only [seeded, Option.bind_eq_bind]
  cases splitDelta state.registry (EnergyProvider.activePids provider)
    (snapshotDeltaUj previous snapshot) <;> rfl

/-- One tick gives every active process its fair part, whatever the registry holds,
exactly when the list of active processes is even; and two even lists of the same
processes lead to the same registry. -/
theorem tick_paysFairly_iff (state : SamplingLoop σ) (answers : ε) (provider : σ)
    (previous snapshot : PowerSnapshot) (seeded : state.previousSnapshot = some previous)
    (sampled : EnergyProvider.samplePowerState answers state.provider = (.ok snapshot, provider))
    (active : (EnergyProvider.activePids provider).toList ≠ []) :
    ((∀ registry, ∃ paid,
        (tick { state with registry } answers).map SamplingLoop.registry = some paid ∧
        PaysFairly registry paid (snapshotDeltaUj previous snapshot).toNat
          (EnergyProvider.activePids provider).toList.toFinset) ↔
      EvenlyListed (snapshotDeltaUj previous snapshot).toNat
        (EnergyProvider.activePids provider).toList) ∧
    ∀ others : Vec UInt32,
      others.toList.toFinset = (EnergyProvider.activePids provider).toList.toFinset →
      EvenlyListed (snapshotDeltaUj previous snapshot).toNat
        (EnergyProvider.activePids provider).toList →
      EvenlyListed (snapshotDeltaUj previous snapshot).toNat others.toList →
      ∀ registry, splitDelta registry others (snapshotDeltaUj previous snapshot) =
        (tick { state with registry } answers).map SamplingLoop.registry := by
  have split_eq (registry : AmalgafyRegistry) :=
    tick_of_seeded { state with registry } answers seeded sampled
  constructor
  · rw [← splitDelta_paysFairly_iff _ active]
    simp only [split_eq]
  · intro others same even othersEven registry
    rw [split_eq]
    exact splitDelta_eq_of_evenlyListed active same even othersEven registry

end Loop

/-- A provider that reports a fixed list of active processes. -/
structure FakeProvider where
  activePids : Vec UInt32

instance : EnergyProvider FakeProvider PowerSnapshot where
  samplePowerState snapshot provider := (.ok snapshot, provider)
  activePids := FakeProvider.activePids

/-- A snapshot at a power of one microwatt. -/
def oneMicrowatt (observedAtNs : UInt64) : PowerSnapshot where
  observedAtNs
  idlePowerUw := 0
  activePowerUw := 1
  cpuPowerUw := 0
  gpuPowerUw := 0
  acceleratorPowerUw := 0
  hardwareSignature := "FAKE-HW"

/-- A loop over a fixed list, after its first tick. -/
def fakeLoop (pids : List UInt32) (fits : pids.length ≤ U64.maxNat) :
    SamplingLoop FakeProvider where
  provider := ⟨⟨pids, fits⟩⟩
  registry := AmalgafyRegistry.new
  previousSnapshot := some (oneMicrowatt 0)
  cumulativeDeltaUj := 0

/-- Three microjoules for two processes in ascending order. -/
theorem tick_paysFairly_ascending :
    ((∀ registry, ∃ paid,
        (tick { fakeLoop [1, 2] (by decide) with registry } (oneMicrowatt 3000000000)).map
          SamplingLoop.registry = some paid ∧
        PaysFairly registry paid 3 [1, 2].toFinset) ↔ EvenlyListed 3 [1, 2]) ∧
    ∀ others : Vec UInt32, others.toList.toFinset = [1, 2].toFinset → EvenlyListed 3 [1, 2] →
      EvenlyListed 3 others.toList →
      ∀ registry, splitDelta registry others 3 =
        (tick { fakeLoop [1, 2] (by decide) with registry } (oneMicrowatt 3000000000)).map
          SamplingLoop.registry :=
  tick_paysFairly_iff (fakeLoop [1, 2] (by decide)) (oneMicrowatt 3000000000) _ (oneMicrowatt 0)
    (oneMicrowatt 3000000000) rfl rfl (by decide)

/-- The remainder goes to the first process of the list, not to the lowest. -/
theorem not_tick_paysFairly :
    ¬ ∀ (state : SamplingLoop FakeProvider) (answers : PowerSnapshot) (provider : FakeProvider)
      (previous snapshot : PowerSnapshot), state.previousSnapshot = some previous →
      EnergyProvider.samplePowerState answers state.provider = (.ok snapshot, provider) →
      (EnergyProvider.activePids provider).toList ≠ [] →
      ∀ registry, ∃ paid,
        (tick { state with registry } answers).map SamplingLoop.registry = some paid ∧
        PaysFairly registry paid (snapshotDeltaUj previous snapshot).toNat
          (EnergyProvider.activePids provider).toList.toFinset := by
  intro claim
  have fair := claim (fakeLoop [2, 1] (by decide)) (oneMicrowatt 3000000000) _ (oneMicrowatt 0)
    (oneMicrowatt 3000000000) rfl rfl (by decide)
  have split_eq (registry : AmalgafyRegistry) := tick_of_seeded
    { fakeLoop [2, 1] (by decide) with registry } (oneMicrowatt 3000000000) rfl rfl
  simp only [split_eq] at fair
  exact absurd ((splitDelta_paysFairly_iff _ (by decide)).mp fair) (by decide)

end Mjae.Core
