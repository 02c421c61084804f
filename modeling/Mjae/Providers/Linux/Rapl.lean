import Mjae.Arith.Counter
import Mjae.Providers.Linux

/-!
# Package energy through the sampling loop

The counter difference is turned into a power and, in the loop, back into an
energy.  Both conversions round down, over the same gap, so the loop bills at
most what the counter moved.  What is lost is bounded by the started seconds of
the gap, unless the clock did not advance or the sub-second product saturates.
-/

namespace Mjae.Providers

open Mjae.Arith Mjae.Collections Mjae.Core Mjae.Transition

namespace LinuxProvider

/-! ## One gap -/

/-- Floors there and back never gain energy. -/
theorem gapEnergy_le (deltaUj dtNs : UInt64) :
    (windowEnergyUj (gapPowerUw deltaUj dtNs) dtNs).toNat ≤ deltaUj.toNat := by
  rw [← UInt64.le_iff_toNat_le]
  exact windowEnergyUj_gapPower_le deltaUj dtNs

/-- Seconds begun by a gap. -/
def startedSeconds (dtNs : UInt64) : Nat :=
  (dtNs.toNat + 999999999) / 1000000000

/-- Over a gap whose sub-second product fits, the two floors together lose at
most one unit for every started second. -/
theorem le_gapEnergy_add {deltaUj dtNs : UInt64} (advanced : dtNs ≠ 0)
    (fits : deltaUj.toNat * 1000000000 / dtNs.toNat * (dtNs.toNat % 1000000000) ≤ U64.maxNat) :
    deltaUj.toNat ≤
      (windowEnergyUj (gapPowerUw deltaUj dtNs) dtNs).toNat + startedSeconds dtNs := by
  have positive : 0 < dtNs.toNat :=
    Nat.pos_of_ne_zero fun zero => advanced (UInt64.toNat.inj zero)
  have delta_le := U64.toNat_le_maxNat deltaUj
  have power_fits : deltaUj.toNat * 1000000000 / dtNs.toNat ≤ U64.maxNat := by
    by_cases wholeSeconds : dtNs.toNat % 1000000000 = 0
    · -- a gap of whole seconds divides by at least one second
      have second_le : 1000000000 ≤ dtNs.toNat :=
        Nat.le_of_dvd positive (Nat.dvd_of_mod_eq_zero wholeSeconds)
      calc
        deltaUj.toNat * 1000000000 / dtNs.toNat
          ≤ deltaUj.toNat * 1000000000 / 1000000000 := Nat.div_le_div_left second_le (by decide)
        _ = deltaUj.toNat := Nat.mul_div_cancel _ (by decide)
        _ ≤ U64.maxNat := delta_le
    · exact (Nat.le_mul_of_pos_right _ (Nat.pos_of_ne_zero wholeSeconds)).trans fits
  have power_eq : (gapPowerUw deltaUj dtNs).toNat = deltaUj.toNat * 1000000000 / dtNs.toNat := by
    rw [gapPowerUw, if_neg advanced, U64.toNat_clamp, min_eq_left power_fits]
  have paid_le := gapEnergy_le deltaUj dtNs
  rw [windowEnergyUj_eq_of_fits (by rw [power_eq]; exact fits), power_eq] at paid_le ⊢
  have lost : deltaUj.toNat * 1000000000 <
      deltaUj.toNat * 1000000000 / dtNs.toNat * dtNs.toNat + dtNs.toNat := by
    have division := Nat.div_add_mod (deltaUj.toNat * 1000000000) dtNs.toNat
    have rest := Nat.mod_lt (deltaUj.toNat * 1000000000) positive
    rw [Nat.mul_comm dtNs.toNat] at division
    omega
  rw [startedSeconds]
  omega

/-! ## One reading after another -/

/-- Where the counter did not step back, or the cached wrap point is the actual
one, the difference is the growth. -/
theorem counterDeltaUj_eq {previousUj energyUj maxEnergyUj cachedUj : UInt64}
    {before after : Nat}
    (previousShown : previousUj.toNat = before % (maxEnergyUj.toNat + 1))
    (shown : energyUj.toNat = after % (maxEnergyUj.toNat + 1))
    (grew : before ≤ after) (small : after ≤ before + maxEnergyUj.toNat)
    (known : cachedUj = maxEnergyUj ∧ maxEnergyUj ≠ U64.max ∨
      before % (maxEnergyUj.toNat + 1) ≤ after % (maxEnergyUj.toNat + 1)) :
    (counterDeltaUj previousUj energyUj cachedUj).toNat = after - before := by
  have within : after - before < maxEnergyUj.toNat + 1 := by omega
  rw [counterDeltaUj]
  split
  · rename_i forward
    have forward_nat := UInt64.le_iff_toNat_le.mp forward
    rw [U64.toNat_sub_of_le forward_nat, previousShown, shown]
    rw [previousShown, shown] at forward_nat
    exact growth_of_mod_le grew within forward_nat
  · rename_i stepped
    have stepped_nat := Nat.lt_of_not_le fun le => stepped (UInt64.le_iff_toNat_le.mpr le)
    rw [previousShown, shown] at stepped_nat
    rcases known.resolve_right (Nat.not_le.mpr stepped_nat) with ⟨rfl, known⟩
    rw [if_neg known]
    have growth := growth_of_mod_lt grew within stepped_nat
    have below : before % (cachedUj.toNat + 1) < cachedUj.toNat + 1 :=
      Nat.mod_lt before (Nat.succ_pos _)
    have max_le := U64.toNat_le_maxNat cachedUj
    have one : (1 : UInt64).toNat = 1 := rfl
    -- none of the three saturating operations clips
    rw [U64.toNat_saturatingAdd, U64.toNat_saturatingAdd, U64.toNat_saturatingSub, one,
      previousShown, shown, min_min_add, min_eq_left (by omega)]
    omega

/-- A counter whose wrap point is known or given up never reports more than was
consumed. -/
theorem counterDeltaUj_le {previousUj energyUj maxEnergyUj cachedUj : UInt64} {before after : Nat}
    (previousShown : previousUj.toNat = before % (maxEnergyUj.toNat + 1))
    (shown : energyUj.toNat = after % (maxEnergyUj.toNat + 1))
    (cached : cachedUj = maxEnergyUj ∨ cachedUj = U64.max)
    (grew : before ≤ after) (small : after ≤ before + maxEnergyUj.toNat) :
    (counterDeltaUj previousUj energyUj cachedUj).toNat ≤ after - before := by
  by_cases given_up : cachedUj = U64.max ∧ ¬ previousUj ≤ energyUj
  · rw [counterDeltaUj, if_neg given_up.2, if_pos given_up.1]
    exact Nat.zero_le _
  · refine (counterDeltaUj_eq previousShown shown grew small ?_).le
    by_cases forward : previousUj ≤ energyUj
    · right
      rw [← previousShown, ← shown]
      exact UInt64.le_iff_toNat_le.mp forward
    · left
      have known : cachedUj ≠ U64.max := fun unknown => given_up ⟨unknown, forward⟩
      have cached_eq := cached.resolve_right known
      exact ⟨cached_eq, cached_eq ▸ known⟩

/-- A failed counter read leaves the provider as it was. -/
theorem samplePowerState_of_error {host : Host} {message : String}
    (failed : readWord host defaultRaplEnergyPath = .error message) (provider : LinuxProvider) :
    (samplePowerState host provider).1.toOption = none ∧
      (samplePowerState host provider).2 = provider := by
  rw [samplePowerState, readRaplPowerUw, failed]
  exact ⟨rfl, rfl⟩

/-- The state a successful counter read leaves behind. -/
def readState (host : Host) (provider : LinuxProvider) (energyUj : UInt64) : RaplState where
  energyUj
  observedAtNs := wallClockNs host
  maxEnergyUj := wrapPoint host provider

/-- A successful counter read stamps the snapshot and the stored state with the
same clock reading, and reports the energy since the stored reading as power. -/
theorem samplePowerState_of_ok {host : Host} {energyUj : UInt64}
    (read : readWord host defaultRaplEnergyPath = .ok energyUj) (provider : LinuxProvider) :
    ∃ snapshot, (samplePowerState host provider).1.toOption = some snapshot ∧
      (samplePowerState host provider).2 =
        { provider with raplState := some (readState host provider energyUj) } ∧
      snapshot.observedAtNs = wallClockNs host ∧ snapshot.idlePowerUw = 0 ∧
      ∀ previous, provider.raplState = some previous →
        snapshot.activePowerUw =
          gapPowerUw (counterDeltaUj previous.energyUj energyUj (wrapPoint host provider))
            (U64.saturatingSub (wallClockNs host) previous.observedAtNs) := by
  rw [samplePowerState, readRaplPowerUw, read]
  refine ⟨_, rfl, rfl, rfl, rfl, ?_⟩
  intro previous previous_eq
  simp only [previous_eq]

/-- A read keeps the cached wrap point once there is one. -/
theorem wrapPoint_of_some {provider : LinuxProvider} {state : RaplState}
    (seeded : provider.raplState = some state) (host : Host) :
    wrapPoint host provider = state.maxEnergyUj := by
  rw [wrapPoint, seeded]

/-! ## Metered runs -/

/-- A host with the two powercap files and a set clock. -/
def powercapHost (energy maxRange : String) (sinceEpochNs : Nat) : Host where
  readToString path :=
    if path = defaultRaplEnergyPath then .ok energy
    else if path = defaultRaplMaxRangePath then .ok maxRange
    else .error "No such file or directory (os error 2)"
  sinceEpochNs := some sinceEpochNs

/-- A tick together with the true cumulative package energy at its counter read. -/
structure MeteredTick where
  host : Host
  trueEnergyUj : Nat

namespace MeteredTick

/-- The counter, where it can be read, shows the true energy modulo its range. -/
def Shows (maxEnergyUj : UInt64) (tick : MeteredTick) : Prop :=
  ∀ shown, readWord tick.host defaultRaplEnergyPath = .ok shown →
    shown.toNat = tick.trueEnergyUj % (maxEnergyUj.toNat + 1)

/-- The wrap-point file, where it can be read, holds the wrap point. -/
def ReportsWrapPoint (maxEnergyUj : UInt64) (tick : MeteredTick) : Prop :=
  ∀ value, readWord tick.host defaultRaplMaxRangePath = .ok value → value = maxEnergyUj

/-- The counter can be read. -/
def sampled (tick : MeteredTick) : Bool :=
  (readWord tick.host defaultRaplEnergyPath).isOk

theorem exists_read_of_sampled {tick : MeteredTick} (sampled : tick.sampled) :
    ∃ shown, readWord tick.host defaultRaplEnergyPath = .ok shown := by
  rw [MeteredTick.sampled] at sampled
  cases read : readWord tick.host defaultRaplEnergyPath with
  | ok shown => exact ⟨shown, rfl⟩
  | error message =>
      rw [read] at sampled
      contradiction

instance (maxEnergyUj : UInt64) (tick : MeteredTick) : Decidable (tick.Shows maxEnergyUj) :=
  match read : readWord tick.host defaultRaplEnergyPath with
  | .ok shown =>
      decidable_of_iff (shown.toNat = tick.trueEnergyUj % (maxEnergyUj.toNat + 1))
        ⟨fun equal other other_eq => by cases read.symm.trans other_eq; exact equal,
          fun shows => shows shown read⟩
  | .error _ => isTrue fun other other_eq => by cases read.symm.trans other_eq

instance (maxEnergyUj : UInt64) (tick : MeteredTick) :
    Decidable (tick.ReportsWrapPoint maxEnergyUj) :=
  match read : readWord tick.host defaultRaplMaxRangePath with
  | .ok value =>
      decidable_of_iff (value = maxEnergyUj)
        ⟨fun equal other other_eq => by cases read.symm.trans other_eq; exact equal,
          fun reports => reports value read⟩
  | .error _ => isTrue fun other other_eq => by cases read.symm.trans other_eq

end MeteredTick

/-- True energies at the successful samples. -/
def sampledEnergies (ticks : List MeteredTick) : List Nat :=
  (ticks.filter MeteredTick.sampled).map MeteredTick.trueEnergyUj

/-- Energy grows, by at most the wrap point between successive samples. -/
def Metered (maxEnergyUj : UInt64) (energies : List Nat) : Prop :=
  energies.IsChain fun before after => before ≤ after ∧ after ≤ before + maxEnergyUj.toNat

instance (maxEnergyUj : UInt64) (energies : List Nat) :
    Decidable (Metered maxEnergyUj energies) :=
  inferInstanceAs (Decidable (List.IsChain _ _))

/-- True energy consumed between the first and the last sample. -/
def consumedUj (energies : List Nat) : Nat :=
  energies.getLastD 0 - energies.headD 0

/-- What the loop bills between two samples of the reader is the round trip of
the counter difference. -/
theorem snapshotDeltaUj_eq {previous snapshot : PowerSnapshot} {deltaUj dtNs : UInt64}
    (idle : snapshot.idlePowerUw = 0) (active : snapshot.activePowerUw = gapPowerUw deltaUj dtNs)
    (gap : U64.saturatingSub snapshot.observedAtNs previous.observedAtNs = dtNs) :
    snapshotDeltaUj previous snapshot = windowEnergyUj (gapPowerUw deltaUj dtNs) dtNs := by
  have burst : baselineBurstPowerUw snapshot.activePowerUw snapshot.idlePowerUw =
      gapPowerUw deltaUj dtNs := by
    apply UInt64.toNat.inj
    rw [toNat_baselineBurstPowerUw, idle, active]
    rfl
  rw [snapshotDeltaUj, burst, gap]

/-- Exact sum of what the consecutive pairs of a run are billed. -/
def billedUj (outcomes : List (Option PowerSnapshot)) : Nat :=
  ((consecutiveDeltas outcomes).map UInt64.toNat).sum

@[simp]
theorem billedUj_cons_cons (first second : Option PowerSnapshot)
    (rest : List (Option PowerSnapshot)) :
    billedUj (first :: second :: rest) =
      (billedDelta first second).elim 0 UInt64.toNat + billedUj (second :: rest) := by
  rw [billedUj, billedUj, consecutiveDeltas_cons_cons, List.map_append, List.sum_append]
  cases billedDelta first second <;> rfl

theorem sampledEnergies_cons_of_error {tick : MeteredTick} {message : String}
    (failed : readWord tick.host defaultRaplEnergyPath = .error message)
    (rest : List MeteredTick) : sampledEnergies (tick :: rest) = sampledEnergies rest := by
  have skipped : ¬ tick.sampled := by
    rw [MeteredTick.sampled, failed]
    exact Bool.false_ne_true
  rw [sampledEnergies, List.filter_cons_of_neg skipped, sampledEnergies]

theorem sampledEnergies_cons_of_ok {tick : MeteredTick} {energyUj : UInt64}
    (read : readWord tick.host defaultRaplEnergyPath = .ok energyUj)
    (rest : List MeteredTick) :
    sampledEnergies (tick :: rest) = tick.trueEnergyUj :: sampledEnergies rest := by
  have kept : tick.sampled := by
    rw [MeteredTick.sampled, read]
    rfl
  rw [sampledEnergies, List.filter_cons_of_pos kept, List.map_cons, sampledEnergies]

theorem sampleOutcomes_cons (provider : LinuxProvider) (tick : MeteredTick)
    (rest : List MeteredTick) :
    sampleOutcomes provider ((tick :: rest).map MeteredTick.host) =
      (samplePowerState tick.host provider).1.toOption ::
        sampleOutcomes (samplePowerState tick.host provider).2 (rest.map MeteredTick.host) :=
  rfl

/-- From a seeded reader on, the loop bills at most the true energy since the
reading that seeded it.  The invariant ties the loop's snapshot to the reader's
state: whenever there is a previous snapshot, both carry one clock reading. -/
theorem billedUj_le_of_seeded {maxEnergyUj : UInt64} (ticks : List MeteredTick)
    (provider : LinuxProvider) (state : RaplState) (energy : Nat)
    (previous : Option PowerSnapshot)
    (seeded : provider.raplState = some state)
    (stateShown : state.energyUj.toNat = energy % (maxEnergyUj.toNat + 1))
    (cached : state.maxEnergyUj = maxEnergyUj ∨ state.maxEnergyUj = U64.max)
    (stamped : ∀ snapshot ∈ previous, snapshot.observedAtNs = state.observedAtNs)
    (shown : ∀ tick ∈ ticks, tick.Shows maxEnergyUj)
    (metered : Metered maxEnergyUj (energy :: sampledEnergies ticks)) :
    billedUj (previous :: sampleOutcomes provider (ticks.map MeteredTick.host)) + energy ≤
      (sampledEnergies ticks).getLastD energy := by
  induction ticks generalizing provider state energy previous with
  | nil => exact (Nat.zero_add energy).le
  | cons tick rest ih =>
      have restShown : ∀ later ∈ rest, later.Shows maxEnergyUj := fun later member =>
        shown later (List.mem_cons_of_mem tick member)
      cases read : readWord tick.host defaultRaplEnergyPath with
      | error message =>
          rcases samplePowerState_of_error read provider with ⟨outcome_eq, provider_eq⟩
          rw [sampledEnergies_cons_of_error read] at metered ⊢
          have tail := ih provider state energy none seeded stateShown cached (by simp)
            restShown metered
          rw [sampleOutcomes_cons, outcome_eq, provider_eq, billedUj_cons_cons]
          cases previous <;> simpa [billedDelta] using tail
      | ok energyUj =>
          rcases samplePowerState_of_ok read provider with
            ⟨snapshot, outcome_eq, provider_eq, observed_eq, idle_eq, active_eq⟩
          rw [sampledEnergies_cons_of_ok read] at metered ⊢
          rcases List.isChain_cons_cons.mp metered with ⟨⟨grew, small⟩, restMetered⟩
          have tickShown := shown tick List.mem_cons_self energyUj read
          have tail := ih
            { provider with raplState := some (readState tick.host provider energyUj) }
            (readState tick.host provider energyUj) tick.trueEnergyUj (some snapshot) rfl tickShown
            (by rw [readState, wrapPoint_of_some seeded]; exact cached)
            (by rintro _ ⟨⟩; exact observed_eq) restShown restMetered
          rw [sampleOutcomes_cons, outcome_eq, provider_eq, billedUj_cons_cons]
          have billed_le : (billedDelta previous (some snapshot)).elim 0 UInt64.toNat ≤
              tick.trueEnergyUj - energy := by
            cases previous with
            | none => exact Nat.zero_le _
            | some earlier =>
                have gap : U64.saturatingSub snapshot.observedAtNs earlier.observedAtNs =
                    U64.saturatingSub (wallClockNs tick.host) state.observedAtNs := by
                  rw [observed_eq, stamped earlier rfl]
                have delta_le := counterDeltaUj_le stateShown tickShown cached grew small
                rw [← wrapPoint_of_some seeded tick.host] at delta_le
                rw [billedDelta, snapshotDeltaUj_eq idle_eq (active_eq state seeded) gap]
                exact (gapEnergy_le _ _).trans delta_le
          rw [List.getLastD_cons]
          omega

/-- The wrap point a reader uses is the actual one or none. -/
theorem wrapPoint_cases {maxEnergyUj : UInt64} {provider : LinuxProvider} {tick : MeteredTick}
    (cached : ∀ state ∈ provider.raplState,
      state.maxEnergyUj = maxEnergyUj ∨ state.maxEnergyUj = U64.max)
    (reported : tick.ReportsWrapPoint maxEnergyUj) :
    wrapPoint tick.host provider = maxEnergyUj ∨ wrapPoint tick.host provider = U64.max := by
  rw [wrapPoint]
  cases seeded : provider.raplState with
  | some state => exact cached state seeded
  | none =>
      cases file : readWord tick.host defaultRaplMaxRangePath with
      | ok value => exact Or.inl (reported value file)
      | error message => exact Or.inr rfl

/-- The first successful sample of the loop bills nothing and seeds the reader. -/
theorem billedUj_le {maxEnergyUj : UInt64} (ticks : List MeteredTick) (provider : LinuxProvider)
    (cached : ∀ state ∈ provider.raplState,
      state.maxEnergyUj = maxEnergyUj ∨ state.maxEnergyUj = U64.max)
    (reported : ∀ tick ∈ ticks, tick.ReportsWrapPoint maxEnergyUj)
    (shown : ∀ tick ∈ ticks, tick.Shows maxEnergyUj)
    (metered : Metered maxEnergyUj (sampledEnergies ticks)) :
    billedUj (none :: sampleOutcomes provider (ticks.map MeteredTick.host)) ≤
      consumedUj (sampledEnergies ticks) := by
  induction ticks with
  | nil => exact Nat.zero_le _
  | cons tick rest ih =>
      have restShown : ∀ later ∈ rest, later.Shows maxEnergyUj := fun later member =>
        shown later (List.mem_cons_of_mem tick member)
      cases read : readWord tick.host defaultRaplEnergyPath with
      | error message =>
          rcases samplePowerState_of_error read provider with ⟨outcome_eq, provider_eq⟩
          rw [sampledEnergies_cons_of_error read] at metered ⊢
          rw [sampleOutcomes_cons, outcome_eq, provider_eq, billedUj_cons_cons]
          simpa [billedDelta] using ih (fun later member =>
            reported later (List.mem_cons_of_mem tick member)) restShown metered
      | ok energyUj =>
          rcases samplePowerState_of_ok read provider with
            ⟨snapshot, outcome_eq, provider_eq, observed_eq, -, -⟩
          rw [sampledEnergies_cons_of_ok read] at metered ⊢
          have tail := billedUj_le_of_seeded rest
            { provider with raplState := some (readState tick.host provider energyUj) }
            (readState tick.host provider energyUj) tick.trueEnergyUj (some snapshot) rfl
            (shown tick List.mem_cons_self energyUj read)
            (wrapPoint_cases cached (reported tick List.mem_cons_self))
            (by rintro _ ⟨⟩; exact observed_eq) restShown metered
          rw [sampleOutcomes_cons, outcome_eq, provider_eq, billedUj_cons_cons]
          rw [consumedUj, List.getLastD_cons]
          simp only [billedDelta, Option.elim_none, List.headD_cons]
          omega

/-- The total of a run is the exact sum of what was billed, cut off at the word. -/
theorem startSamplingLoop_total (provider : LinuxProvider) (hosts : List Host) :
    ∃ final, startSamplingLoop provider AmalgafyRegistry.new hosts = some final ∧
      final.registry.totalMicroJoules.toNat =
        min (billedUj (none :: sampleOutcomes provider hosts)) U64.maxNat := by
  rcases startSamplingLoop_spec provider hosts with ⟨final, final_eq, total_eq, -⟩
  refine ⟨final, final_eq, ?_⟩
  rw [total_eq, U64.toNat_saturatingSum, billedUj, consecutiveDeltas_none_cons]

/-- The Linux path never bills more than was consumed between the first and the
last successful sample, whatever reads fail and whatever the clock does. -/
theorem startSamplingLoop_le_consumed (provider : LinuxProvider) (ticks : List MeteredTick)
    (maxEnergyUj : UInt64)
    (cached : ∀ state ∈ provider.raplState,
      state.maxEnergyUj = maxEnergyUj ∨ state.maxEnergyUj = U64.max)
    (reported : ∀ tick ∈ ticks, tick.ReportsWrapPoint maxEnergyUj)
    (shown : ∀ tick ∈ ticks, tick.Shows maxEnergyUj)
    (metered : Metered maxEnergyUj (sampledEnergies ticks)) :
    ∃ final,
      startSamplingLoop provider AmalgafyRegistry.new (ticks.map MeteredTick.host) = some final ∧
      final.registry.totalMicroJoules.toNat ≤ consumedUj (sampledEnergies ticks) := by
  rcases startSamplingLoop_total provider (ticks.map MeteredTick.host) with
    ⟨final, final_eq, total_eq⟩
  refine ⟨final, final_eq, ?_⟩
  rw [total_eq]
  exact (min_le_left _ _).trans (billedUj_le ticks provider cached reported shown metered)

/-- A run with a failed read and a counter wrap at 99. -/
theorem startSamplingLoop_le_consumed_wrapping :
    ∃ final,
      startSamplingLoop (new "NV-H100") AmalgafyRegistry.new
        [powercapHost "90\n" "99\n" 1000000000, powercapHost "" "99\n" 1100000000,
          powercapHost "10\n" "99\n" 1200000000, powercapHost "50\n" "99\n" 1300000000] =
        some final ∧
      final.registry.totalMicroJoules.toNat ≤ 60 :=
  startSamplingLoop_le_consumed (new "NV-H100")
    [⟨powercapHost "90\n" "99\n" 1000000000, 90⟩, ⟨powercapHost "" "99\n" 1100000000, 100⟩,
      ⟨powercapHost "10\n" "99\n" 1200000000, 110⟩,
      ⟨powercapHost "50\n" "99\n" 1300000000, 150⟩]
    99 nofun (by decide) (by decide) (by decide)

/-! ## What the loop loses -/

/-- Clock advance between two ticks, zero when the clock stood or stepped back. -/
def gapNs (previous tick : MeteredTick) : UInt64 :=
  U64.saturatingSub (wallClockNs tick.host) (wallClockNs previous.host)

/-- Seconds begun by all gaps of a run. -/
def startedGapSeconds (ticks : List MeteredTick) : Nat :=
  ((ticks.zip ticks.tail).map fun pair => startedSeconds (gapNs pair.1 pair.2)).sum

@[simp]
theorem startedGapSeconds_cons_cons (first second : MeteredTick) (rest : List MeteredTick) :
    startedGapSeconds (first :: second :: rest) =
      startedSeconds (gapNs first second) + startedGapSeconds (second :: rest) := by
  rw [startedGapSeconds, List.tail_cons, List.zip_cons_cons, List.map_cons, List.sum_cons]
  rfl

/-- Every counter read succeeds, the reader knows the wrap point, and the energy
stays within what the counter and the registry can tell apart. -/
structure FullyMetered (maxEnergyUj : UInt64) (provider : LinuxProvider)
    (ticks : List MeteredTick) : Prop where
  sampled : ∀ tick ∈ ticks, tick.sampled
  shown : ∀ tick ∈ ticks, tick.Shows maxEnergyUj
  known : ∀ tick ∈ ticks.head?, wrapPoint tick.host provider = maxEnergyUj
  metered : Metered maxEnergyUj (ticks.map MeteredTick.trueEnergyUj)
  fits : consumedUj (ticks.map MeteredTick.trueEnergyUj) ≤ U64.maxNat

/-- A gap keeps its energy when there is none, or when the clock advanced, the
sub-second part of power times time fits a word, and the counter did not wrap at
the one wrap point that the source takes for an unknown one. -/
def GapKept (maxEnergyUj : UInt64) (previous tick : MeteredTick) : Prop :=
  tick.trueEnergyUj = previous.trueEnergyUj ∨
    gapNs previous tick ≠ 0 ∧
    (tick.trueEnergyUj - previous.trueEnergyUj) * 1000000000 / (gapNs previous tick).toNat *
      ((gapNs previous tick).toNat % 1000000000) ≤ U64.maxNat ∧
    (maxEnergyUj ≠ U64.max ∨ previous.trueEnergyUj % (maxEnergyUj.toNat + 1) ≤
      tick.trueEnergyUj % (maxEnergyUj.toNat + 1))

instance (maxEnergyUj : UInt64) (previous tick : MeteredTick) :
    Decidable (GapKept maxEnergyUj previous tick) :=
  inferInstanceAs (Decidable (_ ∨ _))

/-- From a seeded reader on, kept gaps lose at most their started seconds.  The
invariant is that of `billedUj_le_of_seeded`, with the reader's clock reading
known to be that of the tick before. -/
theorem le_billedUj_of_seeded {maxEnergyUj : UInt64} (ticks : List MeteredTick)
    (provider : LinuxProvider) (state : RaplState) (before : MeteredTick)
    (previous : PowerSnapshot) (seeded : provider.raplState = some state)
    (stateShown : state.energyUj.toNat = before.trueEnergyUj % (maxEnergyUj.toNat + 1))
    (cached : state.maxEnergyUj = maxEnergyUj)
    (stateStamped : state.observedAtNs = wallClockNs before.host)
    (stamped : previous.observedAtNs = wallClockNs before.host)
    (sampled : ∀ tick ∈ ticks, tick.sampled)
    (shown : ∀ tick ∈ ticks, tick.Shows maxEnergyUj)
    (metered : Metered maxEnergyUj ((before :: ticks).map MeteredTick.trueEnergyUj))
    (kept : (before :: ticks).IsChain (GapKept maxEnergyUj)) :
    (ticks.map MeteredTick.trueEnergyUj).getLastD before.trueEnergyUj ≤
      billedUj (some previous :: sampleOutcomes provider (ticks.map MeteredTick.host)) +
        startedGapSeconds (before :: ticks) + before.trueEnergyUj := by
  induction ticks generalizing provider state before previous with
  | nil => exact Nat.le_add_left _ _
  | cons tick rest ih =>
      rcases MeteredTick.exists_read_of_sampled (sampled tick List.mem_cons_self) with
        ⟨energyUj, read⟩
      rcases samplePowerState_of_ok read provider with
        ⟨snapshot, outcome_eq, provider_eq, observed_eq, idle_eq, active_eq⟩
      have tickShown := shown tick List.mem_cons_self energyUj read
      rcases List.isChain_cons_cons.mp metered with ⟨⟨grew, small⟩, restMetered⟩
      rcases List.isChain_cons_cons.mp kept with ⟨gapKept, restKept⟩
      have tail := ih { provider with raplState := some (readState tick.host provider energyUj) }
        (readState tick.host provider energyUj) tick snapshot rfl tickShown
        ((wrapPoint_of_some seeded tick.host).trans cached) rfl observed_eq
        (fun later member => sampled later (List.mem_cons_of_mem tick member))
        (fun later member => shown later (List.mem_cons_of_mem tick member)) restMetered restKept
      have gap : U64.saturatingSub snapshot.observedAtNs previous.observedAtNs =
          gapNs before tick := by
        rw [gapNs, observed_eq, stamped]
      have active := active_eq state seeded
      rw [stateStamped, wrapPoint_of_some seeded, cached] at active
      have lost_le : tick.trueEnergyUj - before.trueEnergyUj ≤
          (snapshotDeltaUj previous snapshot).toNat + startedSeconds (gapNs before tick) := by
        rcases gapKept with idle | ⟨advanced, fits, known⟩
        · rw [idle, Nat.sub_self]
          exact Nat.zero_le _
        · have delta_eq := counterDeltaUj_eq stateShown tickShown grew small
            (known.imp (fun differs => ⟨rfl, differs⟩) id)
          rw [snapshotDeltaUj_eq idle_eq active gap, ← delta_eq]
          apply le_gapEnergy_add advanced
          rw [delta_eq]
          exact fits
      rw [sampleOutcomes_cons, outcome_eq, provider_eq, billedUj_cons_cons,
        startedGapSeconds_cons_cons, List.map_cons, List.getLastD_cons]
      simp only [billedDelta, Option.elim_some]
      omega

/-- The Linux path loses at most one microjoule for every started second, in any
run all of whose gaps are kept. -/
theorem consumed_le_startSamplingLoop (provider : LinuxProvider) (ticks : List MeteredTick)
    (maxEnergyUj : UInt64) (run : FullyMetered maxEnergyUj provider ticks)
    (kept : ticks.IsChain (GapKept maxEnergyUj)) :
    ∃ final,
      startSamplingLoop provider AmalgafyRegistry.new (ticks.map MeteredTick.host) = some final ∧
      consumedUj (ticks.map MeteredTick.trueEnergyUj) ≤
        final.registry.totalMicroJoules.toNat + startedGapSeconds ticks := by
  rcases startSamplingLoop_total provider (ticks.map MeteredTick.host) with
    ⟨final, final_eq, total_eq⟩
  refine ⟨final, final_eq, ?_⟩
  have fits := run.fits
  suffices billed : consumedUj (ticks.map MeteredTick.trueEnergyUj) ≤
      billedUj (none :: sampleOutcomes provider (ticks.map MeteredTick.host)) +
        startedGapSeconds ticks by
    rw [total_eq]
    rcases le_total (billedUj (none :: sampleOutcomes provider (ticks.map MeteredTick.host)))
      U64.maxNat with below | above
    · rwa [min_eq_left below]
    · rw [min_eq_right above]
      exact fits.trans (Nat.le_add_right _ _)
  cases ticks with
  | nil => exact Nat.zero_le _
  | cons tick rest =>
      rcases MeteredTick.exists_read_of_sampled (run.sampled tick List.mem_cons_self) with
        ⟨energyUj, read⟩
      rcases samplePowerState_of_ok read provider with
        ⟨snapshot, outcome_eq, provider_eq, observed_eq, -, -⟩
      have tail := le_billedUj_of_seeded rest
        { provider with raplState := some (readState tick.host provider energyUj) }
        (readState tick.host provider energyUj) tick snapshot rfl
        (run.shown tick List.mem_cons_self energyUj read) (run.known tick rfl) rfl observed_eq
        (fun later member => run.sampled later (List.mem_cons_of_mem tick member))
        (fun later member => run.shown later (List.mem_cons_of_mem tick member))
        run.metered kept
      rw [sampleOutcomes_cons, outcome_eq, provider_eq, billedUj_cons_cons, List.map_cons,
        consumedUj, List.getLastD_cons, List.headD_cons]
      simp only [billedDelta, Option.elim_none]
      omega

/-- A run whose second gap crosses a counter wrap. -/
theorem consumed_le_startSamplingLoop_wrapping :
    ∃ final,
      startSamplingLoop (new "NV-H100") AmalgafyRegistry.new
        [powercapHost "40\n" "99\n" 1000000000, powercapHost "90\n" "99\n" 1100000000,
          powercapHost "10\n" "99\n" 1200000000] = some final ∧
      70 ≤ final.registry.totalMicroJoules.toNat + 2 :=
  consumed_le_startSamplingLoop (new "NV-H100")
    [⟨powercapHost "40\n" "99\n" 1000000000, 40⟩, ⟨powercapHost "90\n" "99\n" 1100000000, 90⟩,
      ⟨powercapHost "10\n" "99\n" 1200000000, 110⟩]
    99 ⟨by decide, by decide, by decide, by decide, by decide⟩ (by decide)

/-- Without a condition on the gaps the bound fails: a clock that stands still
between two reads loses all the energy of the gap. -/
theorem not_consumed_le_startSamplingLoop :
    ¬ ∀ (provider : LinuxProvider) (ticks : List MeteredTick) (maxEnergyUj : UInt64),
      FullyMetered maxEnergyUj provider ticks →
      ∃ final,
        startSamplingLoop provider AmalgafyRegistry.new (ticks.map MeteredTick.host) =
          some final ∧
        consumedUj (ticks.map MeteredTick.trueEnergyUj) ≤
          final.registry.totalMicroJoules.toNat + startedGapSeconds ticks := by
  intro claim
  obtain ⟨final, final_eq, bound⟩ := claim (new "NV-H100")
    [⟨powercapHost "0\n" "262143328850\n" 1000000000, 0⟩,
      ⟨powercapHost "5000000\n" "262143328850\n" 1000000000, 5000000⟩]
    262143328850 ⟨by decide, by decide, by decide, by decide, by decide⟩
  have total_eq : final.registry.totalMicroJoules = 0 := by
    cases final_eq
    rfl
  rw [total_eq] at bound
  exact absurd bound (by decide)

end LinuxProvider

end Mjae.Providers
