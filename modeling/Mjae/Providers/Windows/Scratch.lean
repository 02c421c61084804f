import Mjae.Providers.Windows
import Mjae.Transition.Run

/-!
# The scratch buffer

On a device whose compute processes do not change during a call, the query loop
either returns at its first pass, or after its one reservation, or never.  The
reservation asks for what the capacity falls short of, but room is reserved
relative to the length, so a buffer that is not full need not grow at all.
-/

namespace Mjae.Providers

open Mjae.Arith Mjae.Collections Mjae.Core Mjae.Transition

/-- The compute processes that run on a device. -/
structure Running where
  infos : List NvmlProcessInfoV3
  counted : infos.length ≤ U32.maxNat

namespace Running

def count (running : Running) : Nat :=
  running.infos.length

/-- NVML answers with the number of processes if the count passed in is smaller,
and with the processes otherwise. -/
def reply (running : Running) (count : UInt32) : ComputeReply :=
  if count.toNat < running.count then .insufficientSize (UInt32.ofNat running.count)
  else .success running.infos running.counted

/-- A device with these processes, for as many passes of the query loop. -/
def nvml (running : Running) (passes : Nat) : Nvml where
  powerUsage := .ok 0
  computeRunningProcesses := List.replicate passes running.reply
  sinceEpochNs := none

def processes (running : Running) : Vec NvmlProcessInfoV3 :=
  ⟨running.infos, running.counted.trans (by decide)⟩

end Running

namespace WindowsProvider

/-- After finitely many passes the call returns the running processes, and they
fill a buffer with room for them. -/
def Finishes (policy : GrowthPolicy) (provider : WindowsProvider) (running : Running) : Prop :=
  ∃ passes next,
    sampleComputeProcesses policy (running.nvml passes) provider =
      some (.ok running.processes, next) ∧
    next.computeScratch.entries = running.infos ∧
    running.count ≤ next.computeScratch.capacity

/-- The capacity, as the 32-bit count that it is passed as, is enough for the
processes, or it is too small and that after the reservation is enough. -/
def Suffices (policy : GrowthPolicy) (scratch : Buffer NvmlProcessInfoV3) (count : Nat) : Prop :=
  count ≤ scratch.capacity % 4294967296 ∨
    scratch.capacity < count ∧
      count ≤ (scratch.reserve policy (count - scratch.capacity)).capacity % 4294967296

instance (policy : GrowthPolicy) (scratch : Buffer NvmlProcessInfoV3) (count : Nat) :
    Decidable (Suffices policy scratch count) :=
  inferInstanceAs (Decidable (_ ∨ _))

/-! ## One pass -/

theorem queryPass_of_le (policy : GrowthPolicy) {scratch : Buffer NvmlProcessInfoV3}
    {running : Running} (enough : running.count ≤ scratch.capacity % 4294967296) :
    ∃ fits, queryPass policy running.reply scratch =
      .returned (.ok running.processes) (scratch.fill running.infos fits) := by
  have fits : running.infos.length ≤ scratch.capacity := enough.trans (Nat.mod_le _ _)
  have answer : running.reply (UInt32.ofNat scratch.capacity) =
      .success running.infos running.counted := by
    rw [Running.reply, UInt32.toNat_ofNat', if_neg (Nat.not_lt.mpr enough)]
  refine ⟨fits, ?_⟩
  simp only [queryPass, answer, dif_pos fits]
  rfl

theorem reply_of_lt {scratch : Buffer NvmlProcessInfoV3} {running : Running}
    (short : scratch.capacity % 4294967296 < running.count) :
    running.reply (UInt32.ofNat scratch.capacity) =
      .insufficientSize (UInt32.ofNat running.count) ∧
    (UInt32.ofNat running.count).toNat = running.count := by
  constructor
  · rw [Running.reply, UInt32.toNat_ofNat', if_pos short]
  · rw [UInt32.toNat_ofNat']
    exact Nat.mod_eq_of_lt (Nat.lt_succ_of_le running.counted)

/-- A count that does not fit and is not below the capacity exceeds it. -/
theorem queryPass_of_lt (policy : GrowthPolicy) {scratch : Buffer NvmlProcessInfoV3}
    {running : Running} (short : scratch.capacity < running.count) :
    queryPass policy running.reply scratch =
      .again (scratch.reserve policy (running.count - scratch.capacity)) := by
  have small : scratch.capacity % 4294967296 < running.count :=
    (Nat.mod_le _ _).trans_lt short
  rcases reply_of_lt small with ⟨answer, count_eq⟩
  simp only [queryPass, answer, count_eq, if_pos short.le]

/-- A capacity that is large but truncated to a small count makes the plain
subtraction underflow. -/
theorem queryPass_of_truncated {policy : GrowthPolicy} {scratch : Buffer NvmlProcessInfoV3}
    {running : Running} (short : scratch.capacity % 4294967296 < running.count)
    (large : running.count ≤ scratch.capacity) :
    queryPass policy running.reply scratch = .underflow := by
  rcases reply_of_lt short with ⟨answer, count_eq⟩
  have above : ¬ scratch.capacity ≤ running.count := by
    intro le
    have equal : scratch.capacity = running.count := le_antisymm le large
    have counted : running.count < 4294967296 := Nat.lt_succ_of_le running.counted
    rw [equal, Nat.mod_eq_of_lt counted] at short
    exact Nat.lt_irrefl _ short
  simp only [queryPass, answer, count_eq, if_neg above]

/-! ## The loop -/

/-- A pass that leaves the buffer as it was is repeated forever. -/
theorem queryLoop_of_stuck {policy : GrowthPolicy} {reply : UInt32 → ComputeReply}
    {scratch : Buffer NvmlProcessInfoV3} (stuck : queryPass policy reply scratch = .again scratch)
    (passes : Nat) : queryLoop policy (List.replicate passes reply) scratch = none := by
  induction passes with
  | zero => rfl
  | succ passes ih =>
      rw [List.replicate_succ, queryLoop, stuck]
      exact ih

/-- A buffer that is short of the processes, and still is after one reservation,
never gets there. -/
theorem queryLoop_of_not_suffices {policy : GrowthPolicy} {scratch : Buffer NvmlProcessInfoV3}
    {running : Running} (short : ¬ Suffices policy scratch running.count) (passes : Nat) :
    queryLoop policy (List.replicate passes running.reply) scratch = none := by
  rw [Suffices, not_or, not_and, Nat.not_le, Nat.not_le] at short
  rcases short with ⟨small, still⟩
  cases passes with
  | zero => rfl
  | succ passes =>
      rw [List.replicate_succ, queryLoop]
      by_cases below : scratch.capacity < running.count
      · rw [queryPass_of_lt policy below]
        have smaller := still below
        by_cases again : (scratch.reserve policy (running.count - scratch.capacity)).capacity <
            running.count
        · have stuck := queryPass_of_lt policy again
          rw [Buffer.reserve_shortfall_again again.le] at stuck
          exact queryLoop_of_stuck stuck passes
        · cases passes with
          | zero => rfl
          | succ passes =>
              rw [List.replicate_succ]
              simp only [queryLoop, queryPass_of_truncated smaller (Nat.not_lt.mp again)]
      · rw [queryPass_of_truncated small (Nat.not_lt.mp below)]

/-- The call returns the running processes exactly when the buffer suffices. -/
theorem finishes_iff_suffices (policy : GrowthPolicy) (provider : WindowsProvider)
    (running : Running) :
    Finishes policy provider running ↔
      Suffices policy provider.computeScratch running.count := by
  constructor
  · rintro ⟨passes, next, returned, -⟩
    by_contra short
    rw [sampleComputeProcesses, Running.nvml, queryLoop_of_not_suffices short] at returned
    contradiction
  · rintro (enough | ⟨short, enough⟩)
    · rcases queryPass_of_le policy enough with ⟨fits, pass_eq⟩
      refine ⟨1, { provider with computeScratch := provider.computeScratch.fill _ fits }, ?_, rfl,
        fits⟩
      simp only [sampleComputeProcesses, Running.nvml, List.replicate_one, queryLoop, pass_eq,
        Option.map_some]
    · rcases queryPass_of_le policy enough with ⟨fits, pass_eq⟩
      refine ⟨2, { provider with computeScratch := Buffer.fill _ _ fits }, ?_, rfl, fits⟩
      simp only [sampleComputeProcesses, Running.nvml, List.replicate_succ, List.replicate_zero,
        queryLoop, queryPass_of_lt policy short, pass_eq, Option.map_some]

/-- With an allocator that grows no further than it must, a buffer that is too
small has to be full. -/
theorem suffices_tight_iff {scratch : Buffer NvmlProcessInfoV3} {count : Nat}
    (counted : count ≤ U32.maxNat) (narrow : scratch.capacity ≤ U32.maxNat) :
    Suffices GrowthPolicy.tight scratch count ↔
      count ≤ scratch.capacity ∨ scratch.entries.length = scratch.capacity := by
  have length_le := scratch.length_le
  have small : scratch.capacity % 4294967296 = scratch.capacity :=
    Nat.mod_eq_of_lt (Nat.lt_succ_of_le narrow)
  rw [Suffices, small]
  by_cases enough : count ≤ scratch.capacity
  · exact iff_of_true (Or.inl enough) (Or.inl enough)
  · have grown : (scratch.reserve GrowthPolicy.tight (count - scratch.capacity)).capacity =
        max scratch.capacity (scratch.entries.length + (count - scratch.capacity)) := rfl
    have below : max scratch.capacity (scratch.entries.length + (count - scratch.capacity)) <
        4294967296 := by
      rw [U32.maxNat] at counted
      omega
    rw [grown, Nat.mod_eq_of_lt below]
    constructor
    · rintro (fits | ⟨short, fits⟩)
      · exact Or.inl fits
      · right
        omega
    · rintro (fits | full)
      · exact Or.inl fits
      · right
        omega

/-! ## Runs of calls -/

/-- One call, with the passes it took and the processes that were running. -/
def sampleStep (policy : GrowthPolicy) (provider : WindowsProvider) (call : Nat × Running) :
    Option WindowsProvider :=
  (sampleComputeProcesses policy (call.2.nvml call.1) provider).map Prod.snd

/-- A new provider starts with an empty buffer for 32 entries. -/
theorem computeScratch_new {deviceIndex : UInt32} {probe : NvmlProbe} {provider : WindowsProvider}
    (bound : new deviceIndex probe = .ok provider) :
    provider.computeScratch = Buffer.withCapacity 32 := by
  rw [new] at bound
  cases initialised : probe.init with
  | error text =>
      rw [initialised] at bound
      contradiction
  | ok =>
      cases handle : probe.handle with
      | error text =>
          rw [initialised, handle] at bound
          contradiction
      | ok =>
          rw [initialised, handle] at bound
          cases bound
          rfl

/-- From a new provider on, and whatever was running at the earlier calls, a call
returns the running processes exactly when the buffer that the earlier calls left
suffices; so all calls of a run do exactly when it suffices for each of them. -/
theorem sampleComputeProcesses_finishes_iff (policy : GrowthPolicy) (deviceIndex : UInt32)
    (probe : NvmlProbe) (provider : WindowsProvider)
    (bound : new deviceIndex probe = .ok provider) (calls : List (Nat × Running)) :
    provider.computeScratch = Buffer.withCapacity 32 ∧
    (∀ reached, run (sampleStep policy) provider calls = some reached →
      ∀ running, Finishes policy reached running ↔
        Suffices policy reached.computeScratch running.count) ∧
    (along (sampleStep policy) (fun reached call => Finishes policy reached call.2)
        provider calls ↔
      along (sampleStep policy)
        (fun reached call => Suffices policy reached.computeScratch call.2.count)
        provider calls) := by
  refine ⟨computeScratch_new bound, ?_, ?_⟩
  · intro reached _ running
    exact finishes_iff_suffices policy reached running
  · simp only [finishes_iff_suffices]

/-- As many processes as the new buffer holds, then one. -/
theorem sampleComputeProcesses_finishes_fitting :
    serialProvider.computeScratch = Buffer.withCapacity 32 ∧
    (∀ reached, run (sampleStep GrowthPolicy.doubling) serialProvider
        [(1, ⟨List.replicate 32 (computeProcess 7), by decide⟩),
          (1, ⟨[computeProcess 7], by decide⟩)] = some reached →
      ∀ running, Finishes GrowthPolicy.doubling reached running ↔
        Suffices GrowthPolicy.doubling reached.computeScratch running.count) ∧
    (along (sampleStep GrowthPolicy.doubling)
        (fun reached call => Finishes GrowthPolicy.doubling reached call.2) serialProvider
        [(1, ⟨List.replicate 32 (computeProcess 7), by decide⟩),
          (1, ⟨[computeProcess 7], by decide⟩)] ↔
      along (sampleStep GrowthPolicy.doubling)
        (fun reached call => Suffices GrowthPolicy.doubling reached.computeScratch call.2.count)
        serialProvider
        [(1, ⟨List.replicate 32 (computeProcess 7), by decide⟩),
          (1, ⟨[computeProcess 7], by decide⟩)]) :=
  sampleComputeProcesses_finishes_iff GrowthPolicy.doubling 0
    ⟨.ok (), .ok (), .ok "1321021", .ok "GPU-0"⟩ serialProvider rfl
    [(1, ⟨List.replicate 32 (computeProcess 7), by decide⟩), (1, ⟨[computeProcess 7], by decide⟩)]

/-- Thirty-three processes at the first call: the reservation asks an empty buffer
for one entry, finds room for it, and the loop goes on forever. -/
theorem not_sampleComputeProcesses_finishes :
    ¬ ∀ (policy : GrowthPolicy) (deviceIndex : UInt32) (probe : NvmlProbe)
      (provider : WindowsProvider), new deviceIndex probe = .ok provider →
      ∀ (calls : List (Nat × Running)) (reached : WindowsProvider),
        run (sampleStep policy) provider calls = some reached →
        ∀ running, Finishes policy reached running := by
  intro claim
  have finishes := claim GrowthPolicy.doubling 0 ⟨.ok (), .ok (), .ok "1321021", .ok "GPU-0"⟩
    serialProvider rfl [] serialProvider rfl ⟨List.replicate 33 (computeProcess 7), by decide⟩
  exact absurd ((finishes_iff_suffices _ _ _).mp finishes) (by decide)

end WindowsProvider

end Mjae.Providers
