import Mjae.Providers.Linux.Rapl

/-!
# The wrap point over whole runs

The first successful read of the counter fixes the wrap point for good.  If the
sibling file could be read then, every later difference is the energy consumed
since the read before it.  If it could not, the largest word is cached in its
place, and a difference is right exactly when the counter did not wrap.
-/

namespace Mjae.Providers

open Mjae.Arith Mjae.Core

namespace LinuxProvider

/-- The reader after one read at every tick. -/
def afterReads (provider : LinuxProvider) (ticks : List MeteredTick) : LinuxProvider :=
  ticks.foldl (fun reader tick => (readRaplPowerUw tick.host reader).2) provider

/-- The first tick whose counter can be read: it seeds a new reader. -/
def seedingTick (ticks : List MeteredTick) : Option MeteredTick :=
  ticks.find? MeteredTick.sampled

/-- The counter difference that a read computes, if it gets that far. -/
def readDeltaUj (host : Host) (provider : LinuxProvider) : Option UInt64 :=
  match readWord host defaultRaplEnergyPath, provider.raplState with
  | .ok energyUj, some previous =>
      some (counterDeltaUj previous.energyUj energyUj (wrapPoint host provider))
  | _, _ => none

/-! ## One read -/

/-- A failed counter read returns before anything is stored. -/
theorem readRaplPowerUw_of_error {host : Host} {message : String}
    (failed : readWord host defaultRaplEnergyPath = .error message) (provider : LinuxProvider) :
    readRaplPowerUw host provider = (.error message, provider) := by
  rw [readRaplPowerUw, failed]

theorem readRaplPowerUw_of_ok {host : Host} {energyUj : UInt64}
    (read : readWord host defaultRaplEnergyPath = .ok energyUj) (provider : LinuxProvider) :
    (readRaplPowerUw host provider).2 =
      { provider with raplState := some (readState host provider energyUj) } := by
  rw [readRaplPowerUw, read]
  rfl

/-- The power that a read reports is its difference over the clock gap. -/
theorem readRaplPowerUw_eq_gapPowerUw {host : Host} {provider : LinuxProvider}
    {previous : RaplState} {deltaUj : UInt64} (seeded : provider.raplState = some previous)
    (delta : readDeltaUj host provider = some deltaUj) :
    (readRaplPowerUw host provider).1 =
      .ok (gapPowerUw deltaUj (U64.saturatingSub (wallClockNs host) previous.observedAtNs),
        wallClockNs host) := by
  rw [readDeltaUj, seeded] at delta
  cases read : readWord host defaultRaplEnergyPath with
  | error message =>
      rw [read] at delta
      contradiction
  | ok energyUj =>
      rw [read] at delta
      rw [readRaplPowerUw, read, ← Option.some.inj delta]
      simp only [seeded]

namespace MeteredTick

theorem exists_error_of_not_sampled {tick : MeteredTick} (failed : ¬ tick.sampled) :
    ∃ message, readWord tick.host defaultRaplEnergyPath = .error message := by
  rw [MeteredTick.sampled] at failed
  cases read : readWord tick.host defaultRaplEnergyPath with
  | ok shown =>
      rw [read] at failed
      exact absurd rfl failed
  | error message => exact ⟨message, rfl⟩

end MeteredTick

/-! ## Reads one after another -/

/-- Later ticks do not change which one seeds. -/
theorem seedingTick_append {ticks : List MeteredTick} {first : MeteredTick}
    (found : first ∈ seedingTick ticks) (later : List MeteredTick) :
    first ∈ seedingTick (ticks ++ later) := by
  rw [seedingTick, List.find?_append, ← seedingTick, found]
  rfl

theorem afterReads_cons (provider : LinuxProvider) (tick : MeteredTick)
    (rest : List MeteredTick) :
    afterReads provider (tick :: rest) =
      afterReads (readRaplPowerUw tick.host provider).2 rest :=
  rfl

theorem afterReads_append (provider : LinuxProvider) (first second : List MeteredTick) :
    afterReads provider (first ++ second) = afterReads (afterReads provider first) second :=
  List.foldl_append

/-- Failed reads leave the reader as it was. -/
theorem afterReads_of_not_sampled (provider : LinuxProvider) (ticks : List MeteredTick)
    (failed : ∀ tick ∈ ticks, ¬ tick.sampled) : afterReads provider ticks = provider := by
  induction ticks with
  | nil => rfl
  | cons tick rest ih =>
      rcases MeteredTick.exists_error_of_not_sampled (failed tick List.mem_cons_self) with
        ⟨message, read⟩
      rw [afterReads_cons, readRaplPowerUw_of_error read]
      exact ih fun later member => failed later (List.mem_cons_of_mem tick member)

/-- The last successful read decides what is stored. -/
theorem raplState_afterReads {previous : MeteredTick} {energyUj : UInt64}
    {failures : List MeteredTick}
    (read : readWord previous.host defaultRaplEnergyPath = .ok energyUj)
    (failed : ∀ tick ∈ failures, ¬ tick.sampled) (provider : LinuxProvider)
    (earlier : List MeteredTick) :
    (afterReads provider (earlier ++ previous :: failures)).raplState =
      some (readState previous.host (afterReads provider earlier) energyUj) := by
  rw [afterReads_append, afterReads_cons, afterReads_of_not_sampled _ _ failed,
    readRaplPowerUw_of_ok read]

/-- Whatever wrap point the seeding read takes stays cached: no later read looks
at the file again. -/
theorem maxEnergyUj_afterReads {cachedUj : UInt64} (ticks : List MeteredTick)
    (provider : LinuxProvider)
    (kept : ∀ state ∈ provider.raplState, state.maxEnergyUj = cachedUj)
    (seeded : provider.raplState = none →
      ∀ first ∈ seedingTick ticks, wrapPoint first.host provider = cachedUj) :
    ∀ state ∈ (afterReads provider ticks).raplState, state.maxEnergyUj = cachedUj := by
  induction ticks generalizing provider with
  | nil => exact kept
  | cons tick rest ih =>
      rw [afterReads_cons]
      cases read : readWord tick.host defaultRaplEnergyPath with
      | error message =>
          have skipped : ¬ tick.sampled := by
            rw [MeteredTick.sampled, read]
            exact Bool.false_ne_true
          rw [readRaplPowerUw_of_error read]
          apply ih provider kept
          rwa [seedingTick, List.find?_cons_of_neg skipped] at seeded
      | ok energyUj =>
          have sampled : tick.sampled := by
            rw [MeteredTick.sampled, read]
            rfl
          rw [readRaplPowerUw_of_ok read]
          apply ih
          · rintro _ ⟨⟩
            cases before : provider.raplState with
            | some state =>
                exact (wrapPoint_of_some before tick.host).trans (kept state before)
            | none =>
                apply seeded before tick
                exact List.find?_cons_of_pos sampled
          · intro unseeded
            contradiction

/-- The difference at a successful read is that of the counter since the last
successful read before it, at the wrap point of the seeding read. -/
theorem readDeltaUj_afterReads {provider : LinuxProvider} {cachedUj previousUj energyUj : UInt64}
    {earlier failures : List MeteredTick} {previous tick : MeteredTick}
    (fresh : provider.raplState = none)
    (seeded : ∀ first ∈ seedingTick (earlier ++ previous :: failures),
      wrapPoint first.host provider = cachedUj)
    (previousRead : readWord previous.host defaultRaplEnergyPath = .ok previousUj)
    (failed : ∀ other ∈ failures, ¬ other.sampled)
    (read : readWord tick.host defaultRaplEnergyPath = .ok energyUj) :
    readDeltaUj tick.host (afterReads provider (earlier ++ previous :: failures)) =
      some (counterDeltaUj previousUj energyUj cachedUj) := by
  have stored := raplState_afterReads previousRead failed provider earlier
  have cached := maxEnergyUj_afterReads (earlier ++ previous :: failures) provider
    (fun state some_state => by rw [fresh] at some_state; contradiction)
    (fun _ => seeded) _ stored
  rw [readDeltaUj, read, stored, wrapPoint_of_some stored, cached]
  rfl

/-! ## A known wrap point -/

/-- Reads of a counter that wraps at `maxEnergyUj` while energy grows. -/
structure CounterRun (maxEnergyUj : UInt64) (provider : LinuxProvider)
    (ticks : List MeteredTick) : Prop where
  fresh : provider.raplState = none
  known : maxEnergyUj < U64.max
  shown : ∀ tick ∈ ticks, tick.Shows maxEnergyUj
  grew : ticks.Pairwise fun before after => before.trueEnergyUj ≤ after.trueEnergyUj

/-- If the counter stepped back, none of the three saturating operations of the
wrapped difference clips. -/
def Unclipped (previousUj energyUj maxEnergyUj : UInt64) : Prop :=
  energyUj < previousUj → previousUj.toNat ≤ maxEnergyUj.toNat ∧
    maxEnergyUj.toNat - previousUj.toNat + energyUj.toNat + 1 ≤ U64.maxNat

theorem CounterRun.max_ne {maxEnergyUj : UInt64} {provider : LinuxProvider}
    {ticks : List MeteredTick} (run : CounterRun maxEnergyUj provider ticks) :
    maxEnergyUj ≠ U64.max := by
  rintro rfl
  exact absurd run.known (UInt64.lt_irrefl _)

/-- A counter reading never exceeds the wrap point, so the way to it and from
zero on fits a word. -/
theorem unclipped_of_shown {previousUj maxEnergyUj : UInt64} {before : Nat}
    (shown : previousUj.toNat = before % (maxEnergyUj.toNat + 1)) (energyUj : UInt64) :
    Unclipped previousUj energyUj maxEnergyUj := by
  intro stepped
  have below : before % (maxEnergyUj.toNat + 1) < maxEnergyUj.toNat + 1 :=
    Nat.mod_lt before (Nat.succ_pos _)
  have max_le := U64.toNat_le_maxNat maxEnergyUj
  rw [UInt64.lt_iff_toNat_lt] at stepped
  constructor <;> omega

/-- Exact differences across wraps: in a run whose seeding read finds the wrap
point, a successful read computes the energy consumed since the last one before
it, as long as that is at most the wrap point, and a failed read stores nothing. -/
theorem readDeltaUj_exact (provider : LinuxProvider) (maxEnergyUj : UInt64)
    (ticks : List MeteredTick) (run : CounterRun maxEnergyUj provider ticks)
    (seeded : ∀ first ∈ seedingTick ticks,
      readWord first.host defaultRaplMaxRangePath = .ok maxEnergyUj) :
    (∀ earlier previous failures tick later,
      ticks = earlier ++ previous :: (failures ++ tick :: later) →
      previous.sampled → (∀ other ∈ failures, ¬ other.sampled) → tick.sampled →
      tick.trueEnergyUj ≤ previous.trueEnergyUj + maxEnergyUj.toNat →
      ∃ state energyUj deltaUj,
        (afterReads provider (earlier ++ previous :: failures)).raplState = some state ∧
        readWord tick.host defaultRaplEnergyPath = .ok energyUj ∧
        readDeltaUj tick.host (afterReads provider (earlier ++ previous :: failures)) =
          some deltaUj ∧
        (readRaplPowerUw tick.host (afterReads provider (earlier ++ previous :: failures))).1 =
          .ok (gapPowerUw deltaUj
            (U64.saturatingSub (wallClockNs tick.host) state.observedAtNs),
            wallClockNs tick.host) ∧
        deltaUj.toNat = tick.trueEnergyUj - previous.trueEnergyUj ∧
        Unclipped state.energyUj energyUj state.maxEnergyUj) ∧
    ∀ earlier tick later, ticks = earlier ++ tick :: later → ¬ tick.sampled →
      (readRaplPowerUw tick.host (afterReads provider earlier)).2.raplState =
        (afterReads provider earlier).raplState := by
  constructor
  · rintro earlier previous failures tick later rfl previousSampled failed sampled small
    rcases MeteredTick.exists_read_of_sampled previousSampled with ⟨previousUj, previousRead⟩
    rcases MeteredTick.exists_read_of_sampled sampled with ⟨energyUj, read⟩
    have previousShown := run.shown previous (by simp) previousUj previousRead
    have shown := run.shown tick (by simp) energyUj read
    have grew : previous.trueEnergyUj ≤ tick.trueEnergyUj := by
      have ordered := (List.pairwise_append.mp run.grew).2.1
      exact List.rel_of_pairwise_cons ordered (by simp)
    have cached : ∀ first ∈ seedingTick (earlier ++ previous :: failures),
        wrapPoint first.host provider = maxEnergyUj := by
      intro first found
      have longer := seedingTick_append found (tick :: later)
      rw [List.append_assoc, List.cons_append] at longer
      rw [wrapPoint, run.fresh]
      simp only [seeded first longer]
    have delta := readDeltaUj_afterReads run.fresh cached previousRead failed read
    have stored := raplState_afterReads previousRead failed provider earlier
    have kept := maxEnergyUj_afterReads _ provider
      (fun state some_state => by rw [run.fresh] at some_state; contradiction)
      (fun _ => cached) _ stored
    refine ⟨_, energyUj, _, stored, read, delta, ?_, ?_, ?_⟩
    · exact readRaplPowerUw_eq_gapPowerUw stored delta
    · exact counterDeltaUj_eq previousShown shown grew small (Or.inl ⟨rfl, run.max_ne⟩)
    · rw [kept]
      exact unclipped_of_shown previousShown energyUj
  · rintro earlier tick later - failed
    rcases MeteredTick.exists_error_of_not_sampled failed with ⟨message, read⟩
    rw [readRaplPowerUw_of_error read]

/-- A failed read between two good ones, and a counter wrap at 99. -/
theorem readDeltaUj_exact_wrapping :
    (∃ state energyUj deltaUj,
        (afterReads (new "NV-H100") [⟨powercapHost "90\n" "99\n" 1000000000, 90⟩,
          ⟨powercapHost "" "99\n" 1100000000, 100⟩]).raplState = some state ∧
        readWord (powercapHost "10\n" "99\n" 1200000000) defaultRaplEnergyPath =
          .ok energyUj ∧
        readDeltaUj (powercapHost "10\n" "99\n" 1200000000)
          (afterReads (new "NV-H100") [⟨powercapHost "90\n" "99\n" 1000000000, 90⟩,
            ⟨powercapHost "" "99\n" 1100000000, 100⟩]) = some deltaUj ∧
        (readRaplPowerUw (powercapHost "10\n" "99\n" 1200000000)
          (afterReads (new "NV-H100") [⟨powercapHost "90\n" "99\n" 1000000000, 90⟩,
            ⟨powercapHost "" "99\n" 1100000000, 100⟩])).1 =
          .ok (gapPowerUw deltaUj
            (U64.saturatingSub (wallClockNs (powercapHost "10\n" "99\n" 1200000000))
              state.observedAtNs),
            wallClockNs (powercapHost "10\n" "99\n" 1200000000)) ∧
        deltaUj.toNat = 20 ∧ Unclipped state.energyUj energyUj state.maxEnergyUj) :=
  (readDeltaUj_exact (new "NV-H100") 99
    [⟨powercapHost "90\n" "99\n" 1000000000, 90⟩, ⟨powercapHost "" "99\n" 1100000000, 100⟩,
      ⟨powercapHost "10\n" "99\n" 1200000000, 110⟩]
    ⟨rfl, by decide, by decide, by decide⟩ (by rintro _ ⟨⟩; rfl)).1
    [] ⟨powercapHost "90\n" "99\n" 1000000000, 90⟩
    [⟨powercapHost "" "99\n" 1100000000, 100⟩]
    ⟨powercapHost "10\n" "99\n" 1200000000, 110⟩ [] rfl (by decide) (by decide) (by decide)
    (by decide)

/-! ## The fallback -/

/-- Once the fallback is cached, the wrap-point file coming back does not help:
in such a run a successful read computes the energy consumed since the last one
before it exactly when the counter did not step back in between. -/
theorem readDeltaUj_after_fallback_iff (provider : LinuxProvider) (maxEnergyUj : UInt64)
    (before after : List MeteredTick) (recovery : MeteredTick)
    (run : CounterRun maxEnergyUj provider (before ++ recovery :: after))
    (fallback : ∃ first ∈ seedingTick before, ∃ message,
      readWord first.host defaultRaplMaxRangePath = .error message)
    (_recovered : readWord recovery.host defaultRaplMaxRangePath = .ok maxEnergyUj)
    (earlier failures later : List MeteredTick) (previous tick : MeteredTick)
    (successive : after = earlier ++ previous :: (failures ++ tick :: later))
    (previousSampled : previous.sampled) (failed : ∀ other ∈ failures, ¬ other.sampled)
    (sampled : tick.sampled)
    (small : tick.trueEnergyUj ≤ previous.trueEnergyUj + maxEnergyUj.toNat) :
    (readDeltaUj tick.host (afterReads provider
      (before ++ recovery :: (earlier ++ previous :: failures)))).map UInt64.toNat =
        some (tick.trueEnergyUj - previous.trueEnergyUj) ↔
      previous.trueEnergyUj % (maxEnergyUj.toNat + 1) ≤
        tick.trueEnergyUj % (maxEnergyUj.toNat + 1) := by
  subst successive
  rcases MeteredTick.exists_read_of_sampled previousSampled with ⟨previousUj, previousRead⟩
  rcases MeteredTick.exists_read_of_sampled sampled with ⟨energyUj, read⟩
  have previousShown := run.shown previous (by simp) previousUj previousRead
  have shown := run.shown tick (by simp) energyUj read
  have grew : previous.trueEnergyUj ≤ tick.trueEnergyUj := by
    have ordered := ((List.pairwise_append.mp run.grew).2.1).of_cons
    exact List.rel_of_pairwise_cons (List.pairwise_append.mp ordered).2.1 (by simp)
  have cached : ∀ first ∈ seedingTick ((before ++ recovery :: earlier) ++ previous :: failures),
      wrapPoint first.host provider = U64.max := by
    rcases fallback with ⟨first, found, message, unreadable⟩
    have seeding := seedingTick_append found (recovery :: earlier ++ previous :: failures)
    rw [← List.append_assoc] at seeding
    intro other other_found
    cases Option.mem_unique seeding other_found
    rw [wrapPoint, run.fresh]
    simp only [unreadable]
  have delta := readDeltaUj_afterReads run.fresh cached previousRead failed read
  rw [List.append_assoc, List.cons_append] at delta
  rw [delta, Option.map_some, Option.some.injEq]
  constructor
  · intro exact_eq
    by_contra stepped
    have stepped_word : ¬ previousUj ≤ energyUj := by
      rw [UInt64.le_iff_toNat_le, previousShown, shown]
      exact stepped
    -- the fallback reports nothing, but the counter moved
    rw [counterDeltaUj, if_neg stepped_word, if_pos rfl] at exact_eq
    have same : tick.trueEnergyUj = previous.trueEnergyUj :=
      le_antisymm (Nat.le_of_sub_eq_zero exact_eq.symm) grew
    rw [same] at stepped
    exact stepped le_rfl
  · intro forward
    exact counterDeltaUj_eq previousShown shown grew small (Or.inr forward)

/-- A run whose wrap point is unreadable once, and no wrap after that. -/
theorem readDeltaUj_after_fallback_forward :
    (readDeltaUj (powercapHost "95\n" "99\n" 1300000000) (afterReads (new "NV-H100")
      [⟨powercapHost "10\n" "" 1000000000, 10⟩, ⟨powercapHost "20\n" "99\n" 1100000000, 20⟩,
        ⟨powercapHost "90\n" "99\n" 1200000000, 90⟩])).map UInt64.toNat = some 5 ↔
      90 % (UInt64.toNat 99 + 1) ≤ 95 % (UInt64.toNat 99 + 1) :=
  readDeltaUj_after_fallback_iff (new "NV-H100") 99 [⟨powercapHost "10\n" "" 1000000000, 10⟩]
    [⟨powercapHost "90\n" "99\n" 1200000000, 90⟩, ⟨powercapHost "95\n" "99\n" 1300000000, 95⟩]
    ⟨powercapHost "20\n" "99\n" 1100000000, 20⟩
    ⟨rfl, by decide, by decide, by decide⟩ ⟨_, rfl, _, rfl⟩ rfl [] [] []
    ⟨powercapHost "90\n" "99\n" 1200000000, 90⟩ ⟨powercapHost "95\n" "99\n" 1300000000, 95⟩
    rfl (by decide) (by decide) (by decide) (by decide)

/-- The wrap after the file came back is reported as nothing. -/
theorem not_readDeltaUj_after_fallback :
    ¬ ∀ (provider : LinuxProvider) (maxEnergyUj : UInt64) (before after : List MeteredTick)
      (recovery : MeteredTick),
      CounterRun maxEnergyUj provider (before ++ recovery :: after) →
      (∃ first ∈ seedingTick before, ∃ message,
        readWord first.host defaultRaplMaxRangePath = .error message) →
      readWord recovery.host defaultRaplMaxRangePath = .ok maxEnergyUj →
      ∀ (earlier failures later : List MeteredTick) (previous tick : MeteredTick),
        after = earlier ++ previous :: (failures ++ tick :: later) →
        previous.sampled → (∀ other ∈ failures, ¬ other.sampled) → tick.sampled →
        tick.trueEnergyUj ≤ previous.trueEnergyUj + maxEnergyUj.toNat →
        (readDeltaUj tick.host (afterReads provider
          (before ++ recovery :: (earlier ++ previous :: failures)))).map UInt64.toNat =
            some (tick.trueEnergyUj - previous.trueEnergyUj) := by
  intro claim
  have wrapped := claim (new "NV-H100") 99 [⟨powercapHost "10\n" "" 1000000000, 10⟩]
    [⟨powercapHost "90\n" "99\n" 1200000000, 90⟩, ⟨powercapHost "5\n" "99\n" 1300000000, 105⟩]
    ⟨powercapHost "20\n" "99\n" 1100000000, 20⟩
    ⟨rfl, by decide, by decide, by decide⟩ ⟨_, rfl, _, rfl⟩ rfl [] [] []
    ⟨powercapHost "90\n" "99\n" 1200000000, 90⟩ ⟨powercapHost "5\n" "99\n" 1300000000, 105⟩
    rfl (by decide) (by decide) (by decide) (by decide)
  have nothing : (readDeltaUj (powercapHost "5\n" "99\n" 1300000000) (afterReads (new "NV-H100")
      [⟨powercapHost "10\n" "" 1000000000, 10⟩, ⟨powercapHost "20\n" "99\n" 1100000000, 20⟩,
        ⟨powercapHost "90\n" "99\n" 1200000000, 90⟩])).map UInt64.toNat = some 0 := rfl
  exact absurd (wrapped.symm.trans nothing) (by decide)

end LinuxProvider

end Mjae.Providers
