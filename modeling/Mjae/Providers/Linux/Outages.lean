import Mathlib.Algebra.Order.BigOperators.Group.List
import Mjae.Providers.Linux.WrapPoint

/-!
# Outages

A tick whose counter read fails bills nothing, and neither does the next one that
succeeds: it seeds the loop again instead of bridging the gap.  So a run bills the gaps
between two ticks in a row that both sample, and an outage costs exactly what is consumed
while it lasts, however often the counter wraps in it.
-/

namespace Mjae.Providers

open Mjae.Arith Mjae.Core

namespace LinuxProvider

/-- Two ticks in a row that both sample. -/
def watchedGaps (ticks : List MeteredTick) : List (MeteredTick × MeteredTick) :=
  (ticks.zip ticks.tail).filter fun gap => gap.1.sampled && gap.2.sampled

/-- Energy consumed in a gap. -/
def gapConsumedUj (gap : MeteredTick × MeteredTick) : Nat :=
  gap.2.trueEnergyUj - gap.1.trueEnergyUj

/-- What a gap is billed: its energy as a power, and back. -/
def gapBilledUj (gap : MeteredTick × MeteredTick) : UInt64 :=
  windowEnergyUj (gapPowerUw (UInt64.ofNat (gapConsumedUj gap)) (gapNs gap.1 gap.2))
    (gapNs gap.1 gap.2)

/-- In every gap that is watched the energy grows, by at most a known wrap point. -/
structure WatchedRun (maxEnergyUj : UInt64) (ticks : List MeteredTick) : Prop where
  known : maxEnergyUj < U64.max
  shown : ∀ tick ∈ ticks, tick.Shows maxEnergyUj
  grew : ∀ gap ∈ watchedGaps ticks, gap.1.trueEnergyUj ≤ gap.2.trueEnergyUj ∧
    gap.2.trueEnergyUj ≤ gap.1.trueEnergyUj + maxEnergyUj.toNat

/-! ## Gaps -/

theorem watchedGaps_cons_cons (first second : MeteredTick) (rest : List MeteredTick) :
    watchedGaps (first :: second :: rest) =
      if first.sampled && second.sampled then (first, second) :: watchedGaps (second :: rest)
      else watchedGaps (second :: rest) := by
  rw [watchedGaps, List.tail_cons, List.zip_cons_cons, List.filter_cons]
  rfl

theorem watchedGaps_cons_of_failed {tick : MeteredTick} (failed : ¬ tick.sampled)
    (rest : List MeteredTick) : watchedGaps (tick :: rest) = watchedGaps rest := by
  cases rest with
  | nil => rfl
  | cons second later => simp [watchedGaps_cons_cons, failed]

/-- A failed tick ends the gap before it and begins none. -/
theorem watchedGaps_of_failed {tick : MeteredTick} (failed : ¬ tick.sampled)
    (before : Option MeteredTick) (rest : List MeteredTick) :
    watchedGaps (before.toList ++ tick :: rest) = watchedGaps rest := by
  rw [← watchedGaps_cons_of_failed failed rest]
  cases before with
  | none => rfl
  | some first =>
      rw [Option.toList_some, List.singleton_append, watchedGaps_cons_cons, if_neg]
      simp [failed]

theorem mem_watchedGaps_append {rest : List MeteredTick} {gap : MeteredTick × MeteredTick}
    (watched : gap ∈ watchedGaps rest) (before : Option MeteredTick) :
    gap ∈ watchedGaps (before.toList ++ rest) := by
  cases before with
  | none => exact watched
  | some first =>
      cases rest with
      | nil => cases watched
      | cons second later =>
          rw [Option.toList_some, List.singleton_append, watchedGaps_cons_cons]
          split
          · exact List.mem_cons_of_mem _ watched
          · exact watched

theorem WatchedRun.of_append {maxEnergyUj : UInt64} {before : Option MeteredTick}
    {rest : List MeteredTick} (run : WatchedRun maxEnergyUj (before.toList ++ rest)) :
    WatchedRun maxEnergyUj rest where
  known := run.known
  shown tick listed := run.shown tick (List.mem_append_right before.toList listed)
  grew gap watched := run.grew gap (mem_watchedGaps_append watched before)

/-! ## Runs -/

/-- The loop holds the snapshot of the last tick if that has sampled, and the reader its
reading; the wrap point is known, or will be at the tick that seeds the reader. -/
structure Tracks (maxEnergyUj : UInt64) (provider : LinuxProvider)
    (last : Option (MeteredTick × PowerSnapshot)) (ticks : List MeteredTick) : Prop where
  cached : ∀ state ∈ provider.raplState, state.maxEnergyUj = maxEnergyUj
  seeds : provider.raplState = none → ∀ first ∈ seedingTick ticks,
    readWord first.host defaultRaplMaxRangePath = .ok maxEnergyUj
  sampled : ∀ pair ∈ last, pair.1.sampled
  stamped : ∀ pair ∈ last, pair.2.observedAtNs = wallClockNs pair.1.host
  stored : ∀ pair ∈ last, ∃ state, provider.raplState = some state ∧
    state.energyUj.toNat = pair.1.trueEnergyUj % (maxEnergyUj.toNat + 1) ∧
    state.observedAtNs = wallClockNs pair.1.host

/-- A tick that fails leaves the reader as it is and the loop without a snapshot. -/
theorem Tracks.of_failed {maxEnergyUj : UInt64} {provider : LinuxProvider}
    {last : Option (MeteredTick × PowerSnapshot)} {tick : MeteredTick} {rest : List MeteredTick}
    (tracks : Tracks maxEnergyUj provider last (tick :: rest)) (failed : ¬ tick.sampled) :
    Tracks maxEnergyUj provider none rest where
  cached := tracks.cached
  seeds fresh := by
    have seeds := tracks.seeds fresh
    rwa [seedingTick, List.find?_cons_of_neg failed, ← seedingTick] at seeds
  sampled := by simp
  stamped := by simp
  stored := by simp

/-- The wrap point that a sampling tick works with. -/
theorem Tracks.wrapPoint_eq {maxEnergyUj : UInt64} {provider : LinuxProvider}
    {last : Option (MeteredTick × PowerSnapshot)} {tick : MeteredTick} {rest : List MeteredTick}
    (tracks : Tracks maxEnergyUj provider last (tick :: rest)) (sampled : tick.sampled) :
    wrapPoint tick.host provider = maxEnergyUj := by
  cases seeded : provider.raplState with
  | some state =>
      rw [wrapPoint_of_some seeded]
      exact tracks.cached state seeded
  | none =>
      have first := tracks.seeds seeded tick (List.find?_cons_of_pos sampled)
      rw [wrapPoint, seeded]
      simp only [first]

/-- A tick that samples leaves its own reading with the reader and its snapshot with the
loop. -/
theorem Tracks.of_sampled {maxEnergyUj energyUj : UInt64} {provider : LinuxProvider}
    {last : Option (MeteredTick × PowerSnapshot)} {tick : MeteredTick} {rest : List MeteredTick}
    {snapshot : PowerSnapshot} (tracks : Tracks maxEnergyUj provider last (tick :: rest))
    (sampled : tick.sampled)
    (shown : energyUj.toNat = tick.trueEnergyUj % (maxEnergyUj.toNat + 1))
    (observed : snapshot.observedAtNs = wallClockNs tick.host) :
    Tracks maxEnergyUj
      { provider with raplState := some (readState tick.host provider energyUj) }
      (some (tick, snapshot)) rest where
  cached := by
    rintro state ⟨⟩
    exact tracks.wrapPoint_eq sampled
  seeds fresh := by cases fresh
  sampled := by
    rintro pair ⟨⟩
    exact sampled
  stamped := by
    rintro pair ⟨⟩
    exact observed
  stored := by
    rintro pair ⟨⟩
    exact ⟨_, rfl, shown, rfl⟩

/-- The gap between two ticks in a row that sample is billed what it consumes, as a power
and back. -/
theorem Tracks.snapshotDeltaUj_eq {maxEnergyUj energyUj : UInt64} {provider : LinuxProvider}
    {before tick : MeteredTick} {previous snapshot : PowerSnapshot} {rest : List MeteredTick}
    (tracks : Tracks maxEnergyUj provider (some (before, previous)) (tick :: rest))
    (known : maxEnergyUj < U64.max) (sampled : tick.sampled)
    (shown : energyUj.toNat = tick.trueEnergyUj % (maxEnergyUj.toNat + 1))
    (grew : before.trueEnergyUj ≤ tick.trueEnergyUj)
    (small : tick.trueEnergyUj ≤ before.trueEnergyUj + maxEnergyUj.toNat)
    (observed : snapshot.observedAtNs = wallClockNs tick.host) (idle : snapshot.idlePowerUw = 0)
    (active : ∀ state, provider.raplState = some state → snapshot.activePowerUw =
      gapPowerUw (counterDeltaUj state.energyUj energyUj (wrapPoint tick.host provider))
        (U64.saturatingSub (wallClockNs tick.host) state.observedAtNs)) :
    snapshotDeltaUj previous snapshot = gapBilledUj (before, tick) := by
  rcases tracks.stored (before, previous) rfl with ⟨state, stored, state_shown, state_observed⟩
  have previous_observed := tracks.stamped (before, previous) rfl
  dsimp only at state_shown state_observed previous_observed
  have limited : maxEnergyUj ≠ U64.max := by
    rintro rfl
    exact absurd known (UInt64.lt_irrefl _)
  have delta_eq : counterDeltaUj state.energyUj energyUj maxEnergyUj =
      UInt64.ofNat (gapConsumedUj (before, tick)) := by
    have exact_eq : (counterDeltaUj state.energyUj energyUj maxEnergyUj).toNat =
        tick.trueEnergyUj - before.trueEnergyUj :=
      counterDeltaUj_eq state_shown shown grew small (Or.inl ⟨rfl, limited⟩)
    rw [gapConsumedUj, ← exact_eq, UInt64.ofNat_toNat]
  have active_eq := active state stored
  rw [tracks.wrapPoint_eq sampled, delta_eq, state_observed] at active_eq
  have gap_eq : U64.saturatingSub snapshot.observedAtNs previous.observedAtNs =
      gapNs before tick := by
    rw [gapNs, observed, previous_observed]
  exact LinuxProvider.snapshotDeltaUj_eq idle active_eq gap_eq

/-- A run bills the gaps that are watched. -/
theorem billedUj_eq {maxEnergyUj : UInt64} (ticks : List MeteredTick) (provider : LinuxProvider)
    (last : Option (MeteredTick × PowerSnapshot))
    (tracks : Tracks maxEnergyUj provider last ticks)
    (run : WatchedRun maxEnergyUj ((last.map Prod.fst).toList ++ ticks)) :
    billedUj (last.map Prod.snd :: sampleOutcomes provider (ticks.map MeteredTick.host)) =
      ((watchedGaps ((last.map Prod.fst).toList ++ ticks)).map fun gap =>
        (gapBilledUj gap).toNat).sum := by
  induction ticks generalizing provider last with
  | nil => cases last <;> rfl
  | cons tick rest ih =>
      cases read : readWord tick.host defaultRaplEnergyPath with
      | error message =>
          have failed : ¬ tick.sampled := by
            rw [MeteredTick.sampled, read]
            exact Bool.false_ne_true
          rcases samplePowerState_of_error read provider with ⟨outcome_eq, provider_eq⟩
          have onward : WatchedRun maxEnergyUj ((some tick).toList ++ rest) := run.of_append
          have later := ih provider none (tracks.of_failed failed) onward.of_append
          rw [sampleOutcomes_cons, outcome_eq, provider_eq, billedUj_cons_cons,
            watchedGaps_of_failed failed]
          cases last <;> simpa [billedDelta] using later
      | ok energyUj =>
          have sampled : tick.sampled := by
            rw [MeteredTick.sampled, read]
            rfl
          rcases samplePowerState_of_ok read provider with
            ⟨snapshot, outcome_eq, provider_eq, observed_eq, idle_eq, active_eq⟩
          have shown := run.shown tick (by simp) energyUj read
          have later := ih _ (some (tick, snapshot))
            (tracks.of_sampled sampled shown observed_eq) run.of_append
          rw [sampleOutcomes_cons, outcome_eq, provider_eq, billedUj_cons_cons]
          cases last with
          | none => simpa [billedDelta] using later
          | some pair =>
              obtain ⟨before, previous⟩ := pair
              have before_sampled := tracks.sampled (before, previous) rfl
              have both : (before.sampled && tick.sampled) = true :=
                Bool.and_eq_true_iff.mpr ⟨before_sampled, sampled⟩
              have gaps_eq : watchedGaps (before :: tick :: rest) =
                  (before, tick) :: watchedGaps (tick :: rest) := by
                rw [watchedGaps_cons_cons, if_pos both]
              have watched : (before, tick) ∈ watchedGaps (before :: tick :: rest) := by
                rw [gaps_eq]
                exact List.mem_cons_self
              rcases run.grew (before, tick) watched with ⟨grew, small⟩
              have billed_eq := tracks.snapshotDeltaUj_eq run.known sampled shown grew small
                observed_eq idle_eq active_eq
              simp only [Option.map_some, Option.toList_some, List.singleton_append, gaps_eq,
                List.map_cons, List.sum_cons, billedDelta, Option.elim_some, billed_eq]
              congr 1

/-- What a watched gap is billed is at most what it consumes, and if it is kept, less than
a microjoule for every started second is missing. -/
theorem toNat_gapBilledUj {maxEnergyUj : UInt64} {ticks : List MeteredTick}
    (run : WatchedRun maxEnergyUj ticks) {gap : MeteredTick × MeteredTick}
    (watched : gap ∈ watchedGaps ticks) :
    (gapBilledUj gap).toNat ≤ gapConsumedUj gap ∧
      (GapKept maxEnergyUj gap.1 gap.2 →
        gapConsumedUj gap ≤ (gapBilledUj gap).toNat + startedSeconds (gapNs gap.1 gap.2)) := by
  have small := (run.grew gap watched).2
  have max_le := U64.toNat_le_maxNat maxEnergyUj
  have fits : gapConsumedUj gap ≤ U64.maxNat := by
    rw [gapConsumedUj]
    omega
  have delta_eq : (UInt64.ofNat (gapConsumedUj gap)).toNat = gapConsumedUj gap :=
    UInt64.toNat_ofNat_of_lt' (Nat.lt_succ_of_le fits)
  constructor
  · have billed_le := gapEnergy_le (UInt64.ofNat (gapConsumedUj gap)) (gapNs gap.1 gap.2)
    rwa [delta_eq] at billed_le
  · rintro (idle | ⟨advanced, product_fits, -⟩)
    · rw [gapConsumedUj, idle, Nat.sub_self]
      exact Nat.zero_le _
    · rw [← gapConsumedUj, ← delta_eq] at product_fits
      have lost := le_gapEnergy_add advanced product_fits
      rwa [delta_eq] at lost

/-- Over every run of the loop with a new reader and a wrap point below the largest word
that the tick which seeds it can read, whatever reads fail: if every watched gap consumes at
most the wrap point, the loop bills what was consumed in the watched gaps, never more, and
less by at most a microjoule for every started second of them, as long as their energy is
kept. -/
theorem startSamplingLoop_watched (provider : LinuxProvider) (maxEnergyUj : UInt64)
    (ticks : List MeteredTick) (fresh : provider.raplState = none)
    (seeds : ∀ first ∈ seedingTick ticks,
      readWord first.host defaultRaplMaxRangePath = .ok maxEnergyUj)
    (run : WatchedRun maxEnergyUj ticks) :
    ∃ final,
      startSamplingLoop provider AmalgafyRegistry.new (ticks.map MeteredTick.host) =
        some final ∧
      final.registry.totalMicroJoules.toNat ≤ ((watchedGaps ticks).map gapConsumedUj).sum ∧
      ((∀ gap ∈ watchedGaps ticks, GapKept maxEnergyUj gap.1 gap.2) →
        min ((watchedGaps ticks).map gapConsumedUj).sum U64.maxNat ≤
          final.registry.totalMicroJoules.toNat +
            ((watchedGaps ticks).map fun gap => startedSeconds (gapNs gap.1 gap.2)).sum) := by
  have tracks : Tracks maxEnergyUj provider none ticks := {
    cached := by simp [fresh]
    seeds := fun _ => seeds
    sampled := by simp
    stamped := by simp
    stored := by simp }
  have billed_eq := billedUj_eq ticks provider none tracks run
  rcases startSamplingLoop_total provider (ticks.map MeteredTick.host) with
    ⟨final, final_eq, total_eq⟩
  rw [Option.map_none] at billed_eq
  rw [billed_eq] at total_eq
  refine ⟨final, final_eq, ?_, ?_⟩
  · rw [total_eq]
    apply (min_le_left _ _).trans
    exact List.sum_le_sum fun gap watched => (toNat_gapBilledUj run watched).1
  · intro kept
    have lost : ((watchedGaps ticks).map gapConsumedUj).sum ≤
        ((watchedGaps ticks).map fun gap =>
          (gapBilledUj gap).toNat + startedSeconds (gapNs gap.1 gap.2)).sum :=
      List.sum_le_sum fun gap watched => (toNat_gapBilledUj run watched).2 (kept gap watched)
    rw [List.sum_map_add] at lost
    rw [total_eq]
    simp only [Option.map_none, Option.toList_none, List.nil_append]
    omega

/-- A failed read between two gaps, during which the counter wraps three times at 99. -/
def outageTicks : List MeteredTick :=
  [⟨powercapHost "40\n" "99\n" 1000000000, 40⟩, ⟨powercapHost "90\n" "99\n" 1100000000, 90⟩,
    ⟨powercapHost "" "99\n" 1200000000, 250⟩, ⟨powercapHost "10\n" "99\n" 1300000000, 410⟩,
    ⟨powercapHost "50\n" "99\n" 1400000000, 450⟩]

theorem startSamplingLoop_watched_outage :
    ∃ final,
      startSamplingLoop (new "NV-H100") AmalgafyRegistry.new
        (outageTicks.map MeteredTick.host) = some final ∧
      final.registry.totalMicroJoules.toNat ≤ 90 ∧
      90 ≤ final.registry.totalMicroJoules.toNat + 2 := by
  have run : WatchedRun 99 outageTicks := ⟨by decide, by decide, by decide⟩
  have seeds : ∀ first ∈ seedingTick outageTicks,
      readWord first.host defaultRaplMaxRangePath = .ok 99 := by
    rintro first ⟨⟩
    rfl
  rcases startSamplingLoop_watched (new "NV-H100") 99 outageTicks rfl seeds run with
    ⟨final, reached, most, least⟩
  exact ⟨final, reached, most, least (by decide)⟩

end LinuxProvider

end Mjae.Providers
