import Mjae.Providers.Windows
import Mjae.Transition.Once

/-!
# Initialising NVML

Binding a provider and counting the devices both begin with the initialisation of NVML,
which a process does once.  Threads that come while it goes on wait for it; its code is
kept, and every later call answers with the same one.
-/

namespace Mjae.Providers

open Mjae.Transition

def nvmlSuccess : Int32 :=
  0

/-- What one call of NVML answers: a code, and what it writes on success. -/
structure NvmlReply where
  code : Int32
  text : String
  count : UInt32

/-- The calls of NVML that are made here, the initialisation with its code. -/
inductive NvmlCall
  | init (code : Int32)
  | deviceGetHandleByIndex (deviceIndex : UInt32)
  | deviceGetSerial (deviceIndex : UInt32)
  | deviceGetUuid (deviceIndex : UInt32)
  | deviceGetCount
  deriving DecidableEq

/-- The stored result of the initialisation, and the calls of NVML so far. -/
structure NvmlState where
  initResult : Int32
  journal : List NvmlCall

namespace NvmlState

def new : NvmlState where
  initResult := nvmlSuccess
  journal := []

def log (state : NvmlState) (call : NvmlCall) : NvmlState :=
  { state with journal := state.journal ++ [call] }

end NvmlState

/-- The text of a code, from the table of NVML as far as it goes. -/
def nvmlErrorString (texts : Int32 → Option String) (code : Int32) : String :=
  (texts code).getD ("nvml error " ++ toString code.toInt)

namespace NvmlReply

/-- What the code means, with the value that is written on success. -/
def result {α : Type} (texts : Int32 → Option String) (value : α) (code : Int32) :
    Except String α :=
  if code = nvmlSuccess then .ok value else .error (nvmlErrorString texts code)

/-- The answer to a call that was not made. -/
def unasked : NvmlReply where
  code := nvmlSuccess
  text := ""
  count := 0

end NvmlReply

open NvmlReply

namespace WindowsProvider

def deviceCount (init : Except String Unit) (count : Except String UInt32) :
    Except String UInt32 := do
  match init with
  | .ok () => pure ()
  | .error text => throw ("nvmlInit_v2 failed: " ++ text)
  checkNvml "nvmlDeviceGetCount_v2" count

/-- A new provider on a device whose signature is known. -/
def bound (deviceIndex : UInt32) (hardwareSignature : String)
    (signatureSource : Core.HardwareIdentitySource) : WindowsProvider where
  hardwareSignature
  signatureSource
  deviceIndex
  busyState := ⟨0, []⟩
  computeScratch := Collections.Buffer.withCapacity 32
  pending := []

end WindowsProvider

/-! ## The calls of the threads -/

inductive NvmlRequest
  | new (deviceIndex : UInt32)
  | deviceCount

inductive NvmlOutcome
  | provider (result : Except String WindowsProvider)
  | count (result : Except String UInt32)

/-- What a call returns, given the code of the initialisation and the replies to it. -/
def NvmlRequest.outcome (texts : Int32 → Option String) (code : Int32)
    (replies : List NvmlReply) : NvmlRequest → NvmlOutcome
  | .new deviceIndex =>
      .provider (WindowsProvider.new deviceIndex {
        init := result texts () code
        handle := result texts () (replies.getD 0 unasked).code
        serial := result texts (replies.getD 1 unasked).text (replies.getD 1 unasked).code
        uuid := result texts (replies.getD 2 unasked).text (replies.getD 2 unasked).code })
  | .deviceCount =>
      .count (WindowsProvider.deviceCount (result texts () code)
        (result texts (replies.getD 0 unasked).count (replies.getD 0 unasked).code))

/-- What a call returns if NVML could not be initialised. -/
def NvmlRequest.failed (message : String) : NvmlRequest → NvmlOutcome
  | .new _ => .provider (.error message)
  | .deviceCount => .count (.error message)

/-- Where a call stands. -/
inductive NvmlStage
  | callOnce
  | load
  | getHandle (deviceIndex : UInt32)
  | getSerial (deviceIndex : UInt32)
  | getUuid (deviceIndex : UInt32)
  | getCount
  | done (outcome : NvmlOutcome)

/-- A call under way, and what NVML has answered to it. -/
structure NvmlCaller where
  request : NvmlRequest
  replies : List NvmlReply
  stage : NvmlStage

def NvmlRequest.begin (request : NvmlRequest) : NvmlCaller where
  request
  replies := []
  stage := .callOnce

/-- The first stage of a call after the initialisation has succeeded. -/
def NvmlRequest.query : NvmlRequest → NvmlStage
  | .new deviceIndex => .getHandle deviceIndex
  | .deviceCount => .getCount

namespace NvmlCaller

def waits (caller : NvmlCaller) : Bool :=
  match caller.stage with
  | .callOnce => true
  | _ => false

def proceed (caller : NvmlCaller) (stage : NvmlStage) : NvmlCaller :=
  { caller with stage }

def hear (caller : NvmlCaller) (reply : NvmlReply) (stage : NvmlStage) : NvmlCaller :=
  { caller with replies := caller.replies ++ [reply], stage }

/-- One step behind the gate; `reply` is what NVML answers if the step calls it. -/
def step (texts : Int32 → Option String) (state : NvmlState) (caller : NvmlCaller)
    (reply : NvmlReply) : Option (NvmlState × NvmlCaller) :=
  match caller.stage with
  | .callOnce => none
  | .load =>
      if state.initResult ≠ nvmlSuccess then
        some (state, caller.proceed (.done (caller.request.failed
          ("nvmlInit_v2 failed: " ++ nvmlErrorString texts state.initResult))))
      else some (state, caller.proceed caller.request.query)
  | .getHandle deviceIndex =>
      some (state.log (.deviceGetHandleByIndex deviceIndex),
        caller.hear reply
          (if reply.code ≠ nvmlSuccess then
            .done (.provider (.error
              ("nvmlDeviceGetHandleByIndex_v2: " ++ nvmlErrorString texts reply.code)))
          else .getSerial deviceIndex))
  | .getSerial deviceIndex =>
      some (state.log (.deviceGetSerial deviceIndex),
        caller.hear reply
          (if reply.code ≠ nvmlSuccess then .getUuid deviceIndex
          else .done (.provider (.ok
            (.bound deviceIndex reply.text .windowsNvmlSerial)))))
  | .getUuid deviceIndex =>
      some (state.log (.deviceGetUuid deviceIndex),
        caller.hear reply (.done (.provider (.ok
          (if reply.code ≠ nvmlSuccess then
            .bound deviceIndex ("nvml-device-" ++ toString deviceIndex.toNat) .synthetic
          else .bound deviceIndex reply.text .windowsNvmlUuid)))))
  | .getCount =>
      some (state.log .deviceGetCount,
        caller.hear reply (.done (.count
          (checkNvml "nvmlDeviceGetCount_v2" (result texts reply.count reply.code)))))
  | .done _ => none

end NvmlCaller

/-- Where the closure of the `Once` stands. -/
inductive InitStage
  | starting
  | storing (code : Int32)
  | returning

def InitStage.step (state : NvmlState) (stage : InitStage) (reply : NvmlReply) :
    Option (NvmlState × Option InitStage) :=
  match stage with
  | .starting => some (state.log (.init reply.code), some (.storing reply.code))
  | .storing code => some ({ state with initResult := code }, some .returning)
  | .returning => some (state, none)

/-- The calls of all threads, behind `NVML_INIT`. -/
def ensureNvmlInitialized (texts : Int32 → Option String) :
    Once NvmlState NvmlCaller InitStage NvmlReply where
  waits := NvmlCaller.waits
  pass caller := caller.proceed .load
  opening := .starting
  setup := InitStage.step
  body := NvmlCaller.step texts

/-- The process after `turns`, from before the first call of NVML. -/
def executeNvml (texts : Int32 → Option String) (requests : List NvmlRequest)
    (turns : List (Nat × NvmlReply)) :
    Option (System (Gated NvmlState) (Visitor NvmlCaller InitStage)) :=
  run (System.step (ensureNvmlInitialized texts).act)
    (Once.gathered NvmlState.new (requests.map NvmlRequest.begin)) turns

/-! ## What the replies come to -/

section Outcome

variable (texts : Int32 → Option String) {code : Int32}

theorem outcome_of_failed (failed : code ≠ nvmlSuccess) (request : NvmlRequest)
    (replies : List NvmlReply) :
    request.outcome texts code replies =
      request.failed ("nvmlInit_v2 failed: " ++ nvmlErrorString texts code) := by
  cases request with
  | new deviceIndex =>
      simp only [NvmlRequest.failed, NvmlRequest.outcome, WindowsProvider.new, result, failed,
        if_false]
      rfl
  | deviceCount =>
      simp only [NvmlRequest.failed, NvmlRequest.outcome, WindowsProvider.deviceCount, result,
        failed, if_false]
      rfl

theorem outcome_deviceCount (succeeded : code = nvmlSuccess) (count : NvmlReply) :
    NvmlRequest.deviceCount.outcome texts code [count] =
      .count (checkNvml "nvmlDeviceGetCount_v2" (result texts count.count count.code)) := by
  simp [NvmlRequest.outcome, WindowsProvider.deviceCount, result, succeeded]

variable (deviceIndex : UInt32) {handle serial uuid : NvmlReply}

theorem outcome_new_of_no_handle (succeeded : code = nvmlSuccess)
    (missing : handle.code ≠ nvmlSuccess) :
    (NvmlRequest.new deviceIndex).outcome texts code [handle] =
      .provider (.error
        ("nvmlDeviceGetHandleByIndex_v2: " ++ nvmlErrorString texts handle.code)) := by
  simp [NvmlRequest.outcome, WindowsProvider.new, result, succeeded, missing, checkNvml]

theorem outcome_new_of_serial (succeeded : code = nvmlSuccess)
    (found : handle.code = nvmlSuccess) (named : serial.code = nvmlSuccess) :
    (NvmlRequest.new deviceIndex).outcome texts code [handle, serial] =
      .provider (.ok (.bound deviceIndex serial.text .windowsNvmlSerial)) := by
  simp [NvmlRequest.outcome, WindowsProvider.new, result, succeeded, found, named, checkNvml]
  rfl

theorem outcome_new_of_no_serial (succeeded : code = nvmlSuccess)
    (found : handle.code = nvmlSuccess) (nameless : serial.code ≠ nvmlSuccess) :
    (NvmlRequest.new deviceIndex).outcome texts code [handle, serial, uuid] =
      .provider (.ok
        (if uuid.code ≠ nvmlSuccess then
          .bound deviceIndex ("nvml-device-" ++ toString deviceIndex.toNat) .synthetic
        else .bound deviceIndex uuid.text .windowsNvmlUuid)) := by
  by_cases named : uuid.code = nvmlSuccess <;>
    simp [NvmlRequest.outcome, WindowsProvider.new, result, succeeded, found, nameless, named,
      checkNvml] <;> rfl

end Outcome

/-! ## One turn -/

/-- Whether the call asks for something that only an initialised NVML knows. -/
def NvmlCall.IsQuery : NvmlCall → Prop
  | .init _ => False
  | _ => True

/-- NVML was initialised with this code, once and before anything else, and has been asked
for something only if the code is success. -/
structure NvmlState.Initialised (code : Int32) (state : NvmlState) : Prop where
  initResult : state.initResult = code
  journal : ∃ queries, state.journal = .init code :: queries ∧
    (∀ query ∈ queries, query.IsQuery) ∧ (code ≠ nvmlSuccess → queries = [])

/-- What NVML has answered to a call so far, and what the call makes of it. -/
inductive NvmlCaller.Follows (texts : Int32 → Option String) (code : Int32) : NvmlCaller → Prop
  | waiting (request) : Follows texts code ⟨request, [], .callOnce⟩
  | loading (request) : Follows texts code ⟨request, [], .load⟩
  | handle (deviceIndex) (initialised : code = nvmlSuccess) :
      Follows texts code ⟨.new deviceIndex, [], .getHandle deviceIndex⟩
  | serial {deviceIndex handle} (initialised : code = nvmlSuccess)
      (found : handle.code = nvmlSuccess) :
      Follows texts code ⟨.new deviceIndex, [handle], .getSerial deviceIndex⟩
  | uuid {deviceIndex handle serial} (initialised : code = nvmlSuccess)
      (found : handle.code = nvmlSuccess) (nameless : serial.code ≠ nvmlSuccess) :
      Follows texts code ⟨.new deviceIndex, [handle, serial], .getUuid deviceIndex⟩
  | count (initialised : code = nvmlSuccess) :
      Follows texts code ⟨.deviceCount, [], .getCount⟩
  | done (request replies) :
      Follows texts code ⟨request, replies, .done (request.outcome texts code replies)⟩

theorem NvmlState.Initialised.log {code : Int32} {state : NvmlState}
    (initialised : state.Initialised code) (succeeded : code = nvmlSuccess) {query : NvmlCall}
    (asks : query.IsQuery) : (state.log query).Initialised code := by
  obtain ⟨result_eq, queries, journal_eq, all_ask, -⟩ := initialised
  refine ⟨result_eq, queries ++ [query], ?_, ?_, ?_⟩
  · rw [NvmlState.log, journal_eq]
    rfl
  · intro other listed
    rcases List.mem_append.mp listed with earlier | last
    · exact all_ask other earlier
    · rw [List.mem_singleton.mp last]
      exact asks
  · intro failed
    exact absurd succeeded failed

/-- Each answer settles the call or leads to its next stage. -/
theorem NvmlCaller.Follows.load {texts : Int32 → Option String} {code : Int32}
    (request : NvmlRequest) (succeeded : code = nvmlSuccess) :
    NvmlCaller.Follows texts code ⟨request, [], request.query⟩ := by
  cases request with
  | new deviceIndex => exact .handle deviceIndex succeeded
  | deviceCount => exact .count succeeded

/-- A step keeps the account of its own call and of the process. -/
theorem NvmlCaller.Follows.plain {texts : Int32 → Option String} {code : Int32}
    {state after : NvmlState} {caller next : NvmlCaller} {reply : NvmlReply}
    (initialised : state.Initialised code) (follows : caller.Follows texts code)
    (stepped : (ensureNvmlInitialized texts).plain state caller reply = some (after, next)) :
    after.Initialised code ∧ next.Follows texts code := by
  cases follows with
  | waiting request =>
      cases stepped
      exact ⟨initialised, .loading request⟩
  | loading request =>
      rw [Once.plain_of_not_waits rfl] at stepped
      simp only [ensureNvmlInitialized, NvmlCaller.step, initialised.initResult] at stepped
      split at stepped
      · rename_i failed
        cases stepped
        rw [← outcome_of_failed texts failed request []]
        exact ⟨initialised, .done request []⟩
      · rename_i succeeded
        cases stepped
        exact ⟨initialised, .load request (not_not.mp succeeded)⟩
  | handle deviceIndex succeeded =>
      cases stepped
      constructor
      · exact initialised.log succeeded trivial
      · rw [NvmlCaller.hear, List.nil_append]
        by_cases found : reply.code = nvmlSuccess
        · rw [if_neg (not_not_intro found)]
          exact .serial succeeded found
        · rw [if_pos found, ← outcome_new_of_no_handle texts deviceIndex succeeded found]
          exact .done _ _
  | serial succeeded found =>
      cases stepped
      constructor
      · exact initialised.log succeeded trivial
      · rw [NvmlCaller.hear, List.singleton_append]
        by_cases named : reply.code = nvmlSuccess
        · rw [if_neg (not_not_intro named),
            ← outcome_new_of_serial texts _ succeeded found named]
          exact .done _ _
        · rw [if_pos named]
          exact .uuid succeeded found named
  | uuid succeeded found nameless =>
      cases stepped
      constructor
      · exact initialised.log succeeded trivial
      · rw [NvmlCaller.hear, ← outcome_new_of_no_serial texts _ succeeded found nameless]
        exact .done _ _
  | count succeeded =>
      cases stepped
      constructor
      · exact initialised.log succeeded trivial
      · rw [NvmlCaller.hear, List.nil_append, ← outcome_deviceCount texts succeeded]
        exact .done _ _
  | done request replies => cases stepped

/-! ## Every run -/

/-- Within the closure NVML is initialised first, and then the code is stored. -/
def InitStage.Reached (state : NvmlState) : Option InitStage → Prop
  | some .starting => state = .new
  | some (.storing code) => state = ⟨nvmlSuccess, [.init code]⟩
  | some .returning => ∃ code, state = ⟨code, [.init code]⟩
  | none => ∃ code, state = ⟨code, [.init code]⟩

theorem reached_of_run {texts : Int32 → Option String} {inputs : List NvmlReply}
    {state : NvmlState} {stage : Option InitStage}
    (reached : run (ensureNvmlInitialized texts).settingUp (.new, some .starting) inputs =
      some (state, stage)) : InitStage.Reached state stage := by
  refine run_induction (fun _ state => InitStage.Reached state.1 state.2) ?_ ?_ reached
  · rfl
  rintro past reply ⟨state, stage⟩ next _ holds stepped
  cases stage with
  | none => cases stepped
  | some stage =>
      cases stage with
      | starting =>
          cases holds
          cases stepped
          rfl
      | storing code =>
          cases holds
          cases stepped
          exact ⟨code, rfl⟩
      | returning =>
          cases stepped
          exact holds

theorem initialised_of_plain {texts : Int32 → Option String} {code : Int32}
    {requests : List NvmlRequest} {turns : List (Nat × NvmlReply)}
    {final : System NvmlState NvmlCaller}
    (ran : run (System.step (ensureNvmlInitialized texts).plain)
      ⟨⟨code, [.init code]⟩, requests.map NvmlRequest.begin⟩ turns = some final) :
    final.shared.Initialised code ∧ ∀ caller ∈ final.threads, caller.Follows texts code := by
  refine run_induction (fun _ system => system.shared.Initialised code ∧
    ∀ caller ∈ system.threads, caller.Follows texts code) ?_ ?_ ran
  · refine ⟨⟨rfl, [], rfl, by simp, fun _ => rfl⟩, ?_⟩
    intro caller listed
    obtain ⟨request, -, rfl⟩ := List.mem_map.mp listed
    exact .waiting request
  · rintro past turn system next - ⟨initialised, follow⟩ stepped
    obtain ⟨caller, after, moved, present, acted, rfl⟩ := System.step_eq_some_iff.mp stepped
    have kept := (follow caller (List.mem_of_getElem? present)).plain initialised acted
    exact ⟨kept.1, System.forall_threads_set follow kept.2 fun _ _ same => same⟩

/-- The steps that a call may still take. -/
def NvmlStage.rank : NvmlStage → Nat
  | .callOnce => 5
  | .load => 4
  | .getHandle _ => 3
  | .getSerial _ => 2
  | .getUuid _ => 1
  | .getCount => 1
  | .done _ => 0

def InitStage.rank : InitStage → Nat
  | .starting => 2
  | .storing _ => 1
  | .returning => 0

theorem ranked_ensureNvmlInitialized (texts : Int32 → Option String) :
    (ensureNvmlInitialized texts).Ranked (fun caller => caller.stage.rank) InitStage.rank where
  pass_lt caller waits := by
    obtain ⟨request, replies, stage⟩ := caller
    cases stage <;> simp_all [ensureNvmlInitialized, NvmlCaller.waits, NvmlCaller.proceed,
      NvmlStage.rank]
  setup_lt state stage reply after next stepped := by
    cases stage <;> cases stepped <;> simp [InitStage.rank]
  body_lt state caller reply after next stepped := by
    obtain ⟨request, replies, stage⟩ := caller
    cases stage with
    | callOnce => cases stepped
    | load =>
        simp only [ensureNvmlInitialized, NvmlCaller.step] at stepped
        split at stepped
        · cases stepped
          simp [NvmlCaller.proceed, NvmlStage.rank]
        · cases stepped
          cases request <;> simp [NvmlCaller.proceed, NvmlRequest.query, NvmlStage.rank]
    | getHandle deviceIndex =>
        cases stepped
        simp only [NvmlCaller.hear]
        split <;> simp [NvmlStage.rank]
    | getSerial deviceIndex =>
        cases stepped
        simp only [NvmlCaller.hear]
        split <;> simp [NvmlStage.rank]
    | getUuid deviceIndex =>
        cases stepped
        simp [NvmlCaller.hear, NvmlStage.rank]
    | getCount =>
        cases stepped
        simp [NvmlCaller.hear, NvmlStage.rank]
    | done outcome => cases stepped

theorem exists_outcome_of_stuck {texts : Int32 → Option String} {state : NvmlState}
    {caller : NvmlCaller} (inside : caller.waits = false)
    (stuck : ∀ reply, caller.step texts state reply = none) :
    ∃ outcome, caller.stage = .done outcome := by
  obtain ⟨request, replies, stage⟩ := caller
  have blocked := stuck unasked
  cases stage with
  | callOnce => simp [NvmlCaller.waits] at inside
  | load =>
      simp only [NvmlCaller.step] at blocked
      split at blocked <;> cases blocked
  | done outcome => exact ⟨outcome, rfl⟩
  | getHandle deviceIndex => cases blocked
  | getSerial deviceIndex => cases blocked
  | getUuid deviceIndex => cases blocked
  | getCount => cases blocked

theorem waits_begin (requests : List NvmlRequest) :
    ∀ caller ∈ requests.map NvmlRequest.begin, caller.waits = true := by
  intro caller listed
  obtain ⟨request, -, rfl⟩ := List.mem_map.mp listed
  rfl

/-- A call that waits has not returned. -/
theorem stage_of_mem_gathered {requests : List NvmlRequest}
    {visitor : Visitor NvmlCaller InitStage}
    (listed : visitor ∈ (requests.map NvmlRequest.begin).map outside) :
    visitor.own.stage = .callOnce := by
  rw [List.map_map, List.mem_map] at listed
  obtain ⟨request, -, rfl⟩ := listed
  rfl

/-- In every interleaving NVML is initialised at most once, and before anything else is
asked of it; nothing is asked if that fails.  Every call that has returned answers as
the sequential one does on the replies that it got, all of them with the one code of the
initialisation.  No thread waits for ever, and the calls together take at most five
turns each and three for the closure. -/
theorem executeNvml_initialised (texts : Int32 → Option String) (requests : List NvmlRequest)
    (turns : List (Nat × NvmlReply))
    (final : System (Gated NvmlState) (Visitor NvmlCaller InitStage))
    (executed : executeNvml texts requests turns = some final) :
    ((final.shared.object.journal = [] ∧
        ∀ visitor ∈ final.threads, visitor.own.stage = .callOnce) ∨
      ∃ code queries, final.shared.object.journal = .init code :: queries ∧
        (∀ query ∈ queries, query.IsQuery) ∧ (code ≠ nvmlSuccess → queries = []) ∧
        ∀ visitor ∈ final.threads, ∀ outcome, visitor.own.stage = .done outcome →
          outcome = visitor.own.request.outcome texts code visitor.own.replies) ∧
      ((∀ turn, final.step (ensureNvmlInitialized texts).act turn = none) →
        ∀ visitor ∈ final.threads, ∃ outcome, visitor.own.stage = .done outcome) ∧
      turns.length ≤ 5 * requests.length + 3 := by
  have stands := Once.stands_of_run (waits_begin requests) executed
  refine ⟨?_, ?_, ?_⟩
  · cases stands with
    | incomplete => exact Or.inl ⟨rfl, fun visitor listed => stage_of_mem_gathered listed⟩
    | running present reached =>
        rename_i index caller inputs state stage
        have none_returned : ∀ visitor ∈ ((requests.map NvmlRequest.begin).map outside).set
            index ⟨caller, some stage⟩, visitor.own.stage = .callOnce := by
          intro visitor listed
          rcases List.mem_or_eq_of_mem_set listed with other | rfl
          · exact stage_of_mem_gathered other
          · have arriving : (outside caller : Visitor NvmlCaller InitStage) ∈
                (requests.map NvmlRequest.begin).map outside :=
              List.mem_map_of_mem (List.mem_of_getElem? present)
            have at_gate := stage_of_mem_gathered arriving
            exact at_gate
        have arrived : state.journal = [] ∨ ∃ code, state.journal = [.init code] := by
          cases stage with
          | starting =>
              left
              rw [reached_of_run reached]
              rfl
          | storing code =>
              right
              rw [reached_of_run reached]
              exact ⟨code, rfl⟩
          | returning =>
              right
              obtain ⟨code, rfl⟩ := reached_of_run reached
              exact ⟨code, rfl⟩
        rcases arrived with silent | ⟨code, called⟩
        · exact Or.inl ⟨silent, none_returned⟩
        · refine Or.inr ⟨code, [], called, by simp, fun _ => rfl, ?_⟩
          intro visitor listed outcome returned
          rw [none_returned visitor listed] at returned
          cases returned
    | complete reached ran =>
        right
        obtain ⟨code, rfl⟩ := reached_of_run reached
        obtain ⟨⟨-, queries, journal_eq, all_ask, guarded⟩, follow⟩ := initialised_of_plain ran
        refine ⟨code, queries, journal_eq, all_ask, guarded, ?_⟩
        intro visitor listed outcome returned
        obtain ⟨caller, present, rfl⟩ := List.mem_map.mp listed
        have follows := follow caller present
        cases follows <;> cases returned
        rfl
  · intro stuck visitor listed
    have : Nonempty NvmlReply := ⟨unasked⟩
    have left_over := stands.stuck (waits_begin requests)
      (fun state stage => ⟨unasked, by cases stage <;> rfl⟩) stuck listed
    exact exists_outcome_of_stuck left_over.2.1 left_over.2.2
  · have bounded := (ranked_ensureNvmlInitialized texts).length_le executed
    have ranks : (requests.map NvmlRequest.begin).map (fun caller => caller.stage.rank) =
        requests.map fun _ => 5 := by
      rw [List.map_map]
      rfl
    rw [ranks, List.map_const', List.sum_replicate_nat, Nat.mul_comm] at bounded
    exact bounded

/-- One thread counts the devices while another one, which came first, binds device 0. -/
def countWhileBinding : List (Nat × NvmlReply) :=
  [(0, unasked), (0, unasked), (0, unasked), (0, unasked), (1, unasked), (1, unasked),
    (0, unasked), (0, unasked), (1, ⟨nvmlSuccess, "", 2⟩), (0, ⟨nvmlSuccess, "1321021", 0⟩)]

theorem executeNvml_initialised_countWhileBinding :
    ∃ final, executeNvml (fun _ => none) [.new 0, .deviceCount] countWhileBinding = some final ∧
      ∀ visitor ∈ final.threads, ∀ outcome, visitor.own.stage = .done outcome →
        ∃ code, .init code ∈ final.shared.object.journal ∧
          outcome = visitor.own.request.outcome (fun _ => none) code visitor.own.replies := by
  have runs : (executeNvml (fun _ => none) [.new 0, .deviceCount] countWhileBinding).isSome :=
    rfl
  obtain ⟨final, executed⟩ := Option.isSome_iff_exists.mp runs
  refine ⟨final, executed, ?_⟩
  intro visitor listed outcome returned
  rcases (executeNvml_initialised _ _ _ _ executed).1 with
    ⟨-, early⟩ | ⟨code, queries, journal_eq, -, -, answered⟩
  · rw [early visitor listed] at returned
    cases returned
  · refine ⟨code, ?_, answered visitor listed outcome returned⟩
    rw [journal_eq]
    exact List.mem_cons_self

end Mjae.Providers
