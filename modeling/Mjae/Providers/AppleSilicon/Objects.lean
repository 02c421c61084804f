import Mjae.Ownership.Scope
import Mjae.Providers.AppleSilicon
import Mjae.Providers.AppleSilicon.Discovery

/-!
# The CoreFoundation objects of the Apple provider

Everything that CoreFoundation and IOReport create for the provider has one owner, which
releases it: a local variable at the end of its scope, on whatever path the scope is
left, or the provider, which keeps a subscription and one samples object.  Here the calls
are programs over the live objects; what they compute is what the sampler computes.
-/

namespace Mjae.Providers

open Mjae.Ownership Mjae.Transition

/-- The subscription and the previous samples, as objects. -/
structure OwnedHandles where
  subscription : Nat
  samples : Nat
  previousSamples : SamplesHandle

/-- What CoreFoundation and IOReport answer while a delta is sampled. -/
structure DeltaAnswers where
  /-- Allocation of the group name. -/
  groupName : Except String Unit
  copyChannels : Bool
  createSubscription : Bool
  createSamples : Option SamplesHandle
  /-- Whether the delta between two samples objects is delivered. -/
  createSamplesDelta : SamplesHandle → SamplesHandle → Bool
  /-- Allocation of the key of the channel array. -/
  channelsKey : Except String Unit
  channels : SamplesHandle → SamplesHandle → Option (List (Option ChannelSample))

namespace DeltaAnswers

/-- The answers as the sampler sees them. -/
def report (answers : DeltaAnswers) : IOReport where
  groupName := answers.groupName
  copyChannels := answers.copyChannels
  createSubscription := answers.createSubscription
  createSamples := answers.createSamples
  createSamplesDelta previous current :=
    if answers.createSamplesDelta previous current then
      some (cfDictionaryArray answers.channelsKey (answers.channels previous current))
    else none

end DeltaAnswers

namespace OwnedHandles

def handles (owned : OwnedHandles) : IoReportHandles where
  previousSamples := owned.previousSamples

end OwnedHandles

/-! ## The calls as programs -/

/-- Look an array up under a key that lives as long as the call. -/
def ownedDictionaryArray {α : Type} (dictionary : Nat) (key : Except String Unit)
    (value : Option α) : Program (Except String α) :=
  match key with
  | .error message => return .error message
  | .ok () => withOwned fun cfKey => do
      access dictionary
      access cfKey
      return cfDictionaryArray (.ok ()) value

def ownedSeed (answers : DeltaAnswers) : Program (Except String OwnedHandles) :=
  match answers.groupName with
  | .error message => return .error message
  | .ok () => withOwned fun group => do
      access group
      if ¬ answers.copyChannels then
        return .error "IOReportCopyChannelsInGroup returned NULL for the Energy Model group"
      else withOwned fun channels => do
        access channels
        if ¬ answers.createSubscription then
          return .error "IOReportCreateSubscription failed for the Energy Model group"
        else
          let subscription ← create
          access subscription
          match answers.createSamples with
          | none =>
              release subscription
              return .error "IOReportCreateSamples (seed) returned NULL"
          | some previousSamples =>
              let samples ← create
              return .ok { subscription, samples, previousSamples }

/-- Walk the delta while it lives; storing the new samples releases the old ones. -/
def ownedDelta (answers : DeltaAnswers) (owned : OwnedHandles) (current : SamplesHandle) :
    Program (Except String (List AppleEnergyDelta)) :=
  withOwned fun delta => do
    match ← ownedDictionaryArray delta answers.channelsKey
        (answers.channels owned.previousSamples current) with
    | .error message => return .error message
    | .ok channels =>
        access delta
        release owned.samples
        return .ok (channels.filterMap AppleSiliconProvider.channelDelta)

def ownedSlide (answers : DeltaAnswers) (owned : OwnedHandles) :
    Program (Except String (List AppleEnergyDelta × OwnedHandles)) := do
  access owned.subscription
  match answers.createSamples with
  | none => return .error "IOReportCreateSamples (current) returned NULL"
  | some current =>
      let samples ← create
      access owned.samples
      access samples
      if ¬ answers.createSamplesDelta owned.previousSamples current then
        release samples
        return .error "IOReportCreateSamplesDelta returned NULL"
      else
        match ← ownedDelta answers owned current with
        | .error message =>
            release samples
            return .error message
        | .ok deltas => return .ok (deltas, { owned with samples, previousSamples := current })

def ownedSampleEnergyModelDelta (answers : DeltaAnswers) :
    Option OwnedHandles → Program (Except String (List AppleEnergyDelta) × Option OwnedHandles)
  | none => do
      match ← ownedSeed answers with
      | .error message => return (.error message, none)
      | .ok owned => return (.ok [], some owned)
  | some owned => do
      match ← ownedSlide answers owned with
      | .error message => return (.error message, some owned)
      | .ok (deltas, next) => return (.ok deltas, some next)

def ownedDiscoverGpuAneChannels (catalogue : ChannelCatalogue) :
    Program (Except String (List AppleEnergyChannel)) :=
  match catalogue.groupName with
  | .error message => return .error message
  | .ok () => withOwned fun group => do
      access group
      if ¬ catalogue.copyChannels then
        return .error "IOReport returned a null channel catalogue for the Energy Model group"
      else withOwned fun root => do
        match ← ownedDictionaryArray root catalogue.channelsKey catalogue.channels with
        | .error message => return .error message
        | .ok slots =>
            access root
            return discoverChannels [] slots

/-- What a provider releases when it goes away. -/
def dropHandles : Option OwnedHandles → Program Unit
  | none => return ()
  | some owned => do
      release owned.subscription
      release owned.samples

/-! ## What the calls own -/

/-- The live objects are those of others and the two of the handles. -/
def Owns (others : Finset Nat) : Option OwnedHandles → Finset Nat → Prop
  | none, live => live = others
  | some owned, live =>
      owned.subscription ∉ others ∧ owned.samples ∉ insert owned.subscription others ∧
        live = insert owned.samples (insert owned.subscription others)

theorem ends_ownedDictionaryArray {α : Type} {dictionary : Nat} {live : Finset Nat}
    (member : dictionary ∈ live) (key : Except String Unit) (value : Option α) :
    Ends (ownedDictionaryArray dictionary key value) live fun result after =>
      result = cfDictionaryArray key value ∧ after = live := by
  cases key with
  | error message => exact Ends.pure ⟨rfl, rfl⟩
  | ok =>
      apply Ends.withOwned
      intro cfKey fresh
      apply Ends.access_bind (Finset.mem_insert_of_mem member)
      apply Ends.access_bind (Finset.mem_insert_self _ _)
      exact Ends.pure ⟨Finset.mem_insert_self _ _, rfl, Finset.erase_insert fresh⟩

/-- Seeding owns nothing if it fails, and the two objects of the handles if it succeeds. -/
theorem ends_ownedSeed (answers : DeltaAnswers) (others : Finset Nat) :
    Ends (ownedSeed answers) others fun result after =>
      AppleSiliconProvider.seedHandles answers.report = result.map OwnedHandles.handles ∧
        Owns others result.toOption after := by
  rw [ownedSeed, AppleSiliconProvider.seedHandles, DeltaAnswers.report]
  cases answers.groupName with
  | error message => exact Ends.pure ⟨rfl, rfl⟩
  | ok =>
      apply Ends.withOwned
      intro group freshGroup
      apply Ends.access_bind (Finset.mem_insert_self _ _)
      dsimp only
      split
      · exact Ends.pure ⟨by grind, rfl, Finset.erase_insert freshGroup⟩
      · apply Ends.withOwned
        intro channels freshChannels
        apply Ends.access_bind (Finset.mem_insert_self _ _)
        split
        · apply Ends.pure
          rw [Finset.erase_insert freshChannels, Finset.erase_insert freshGroup]
          exact ⟨Finset.mem_insert_self _ _, Finset.mem_insert_self _ _, rfl, rfl⟩
        · apply Ends.create_bind
          intro subscription freshSubscription
          apply Ends.access_bind (Finset.mem_insert_self _ _)
          cases answers.createSamples with
          | none =>
              apply Ends.release_bind (Finset.mem_insert_self _ _)
              apply Ends.pure
              rw [Finset.erase_insert freshSubscription, Finset.erase_insert freshChannels,
                Finset.erase_insert freshGroup]
              exact ⟨Finset.mem_insert_self _ _, Finset.mem_insert_self _ _, rfl, rfl⟩
          | some previousSamples =>
              apply Ends.create_bind
              intro samples freshSamples
              apply Ends.pure
              refine ⟨by grind, by grind, rfl, ?_⟩
              simp only [Except.toOption, Owns]
              grind

/-- The walk releases the old samples only if it succeeds. -/
theorem ends_ownedDelta (answers : DeltaAnswers) (owned : OwnedHandles) (current : SamplesHandle)
    {live : Finset Nat} (member : owned.samples ∈ live) :
    Ends (ownedDelta answers owned current) live fun result after =>
      result = (cfDictionaryArray answers.channelsKey
          (answers.channels owned.previousSamples current)).map
            (List.filterMap AppleSiliconProvider.channelDelta) ∧
        after = if result.isOk then live.erase owned.samples else live := by
  rw [ownedDelta]
  apply Ends.withOwned
  intro delta freshDelta
  apply Ends.bind (ends_ownedDictionaryArray (Finset.mem_insert_self _ _) _ _)
  rintro result after ⟨rfl, rfl⟩
  cases cfDictionaryArray answers.channelsKey (answers.channels owned.previousSamples current) with
  | error message => exact Ends.pure ⟨by grind, rfl, Finset.erase_insert freshDelta⟩
  | ok channels =>
      apply Ends.access_bind (Finset.mem_insert_self _ _)
      apply Ends.release_bind (Finset.mem_insert_of_mem member)
      apply Ends.pure
      refine ⟨by grind, rfl, ?_⟩
      simp only [Except.isOk, Except.toBool, if_true]
      grind

/-- Sliding keeps the handles if it fails, and replaces the samples if it succeeds. -/
theorem ends_ownedSlide (answers : DeltaAnswers) {owned : OwnedHandles} {others live : Finset Nat}
    (owns : Owns others (some owned) live) :
    Ends (ownedSlide answers owned) live fun result after =>
      AppleSiliconProvider.slideHandles answers.report owned.handles =
          result.map (fun slid => (slid.1, slid.2.handles)) ∧
        Owns others (some (result.toOption.elim owned Prod.snd)) after := by
  rcases owns with ⟨freshSubscription, freshSamples, rfl⟩
  rw [ownedSlide, AppleSiliconProvider.slideHandles, DeltaAnswers.report, OwnedHandles.handles]
  apply Ends.access_bind (by grind)
  cases answers.createSamples with
  | none => exact Ends.pure ⟨rfl, freshSubscription, freshSamples, rfl⟩
  | some current =>
      apply Ends.create_bind
      intro samples fresh
      apply Ends.access_bind (by grind)
      apply Ends.access_bind (by grind)
      by_cases delivered : answers.createSamplesDelta owned.previousSamples current
      · simp only [delivered, not_true_eq_false, if_false, if_true]
        apply Ends.bind (ends_ownedDelta answers owned current (by grind))
        rintro result after ⟨rfl, rfl⟩
        cases cfDictionaryArray answers.channelsKey
            (answers.channels owned.previousSamples current) with
        | error message =>
            apply Ends.release_bind (Finset.mem_insert_self _ _)
            apply Ends.pure
            refine ⟨rfl, freshSubscription, freshSamples, ?_⟩
            exact Finset.erase_insert fresh
        | ok channels =>
            apply Ends.pure
            refine ⟨rfl, freshSubscription, ?_, ?_⟩
            · simp only [Except.toOption, Option.elim]
              grind
            · simp only [Except.map, Except.isOk, Except.toBool, if_true, Except.toOption,
                Option.elim]
              grind
      · simp only [delivered, Bool.false_eq_true, not_false_eq_true, if_true, if_false]
        apply Ends.release_bind (Finset.mem_insert_self _ _)
        apply Ends.pure
        rw [Finset.erase_insert fresh]
        exact ⟨rfl, freshSubscription, freshSamples, rfl⟩

/-- The provider with these handles. -/
def AppleSiliconProvider.withHandles (provider : AppleSiliconProvider)
    (handles : Option OwnedHandles) : AppleSiliconProvider :=
  { provider with ioreportHandles := handles.map OwnedHandles.handles }

/-- One sample is what the sampler computes, and hands on what is owned. -/
theorem ends_ownedSampleEnergyModelDelta (answers : DeltaAnswers)
    {handles : Option OwnedHandles} {others live : Finset Nat} (owns : Owns others handles live) :
    Ends (ownedSampleEnergyModelDelta answers handles) live fun result after =>
      (∀ provider : AppleSiliconProvider,
        (provider.withHandles handles).sampleEnergyModelDelta answers.report =
          (result.1, provider.withHandles result.2)) ∧
        Owns others result.2 after := by
  cases handles with
  | none =>
      cases owns
      apply Ends.bind (ends_ownedSeed answers _)
      rintro result after ⟨seeded, owned⟩
      cases result with
      | error message =>
          apply Ends.pure
          refine ⟨?_, owned⟩
          intro provider
          simp only [AppleSiliconProvider.sampleEnergyModelDelta,
            AppleSiliconProvider.withHandles, Option.map_none, seeded, Except.map]
      | ok handles =>
          apply Ends.pure
          refine ⟨?_, owned⟩
          intro provider
          simp only [AppleSiliconProvider.sampleEnergyModelDelta,
            AppleSiliconProvider.withHandles, Option.map_none, Option.map_some, seeded, Except.map]
  | some old =>
      apply Ends.bind (ends_ownedSlide answers owns)
      rintro result after ⟨slid, owned⟩
      cases result with
      | error message =>
          apply Ends.pure
          refine ⟨?_, owned⟩
          intro provider
          simp only [AppleSiliconProvider.sampleEnergyModelDelta,
            AppleSiliconProvider.withHandles, Option.map_some, slid, Except.map]
      | ok next =>
          apply Ends.pure
          refine ⟨?_, owned⟩
          intro provider
          simp only [AppleSiliconProvider.sampleEnergyModelDelta,
            AppleSiliconProvider.withHandles, Option.map_some, slid, Except.map]

/-- Discovery is what the walk computes, and leaves nothing behind. -/
theorem ends_ownedDiscoverGpuAneChannels (catalogue : ChannelCatalogue) (live : Finset Nat) :
    Ends (ownedDiscoverGpuAneChannels catalogue) live fun result after =>
      result = discoverGpuAneChannels catalogue ∧ after = live := by
  rw [ownedDiscoverGpuAneChannels, discoverGpuAneChannels]
  cases catalogue.groupName with
  | error message => exact Ends.pure ⟨rfl, rfl⟩
  | ok =>
      apply Ends.withOwned
      intro group freshGroup
      apply Ends.access_bind (Finset.mem_insert_self _ _)
      by_cases copied : catalogue.copyChannels
      · simp only [copied, not_true_eq_false, if_false]
        apply Ends.withOwned
        intro root freshRoot
        apply Ends.bind (ends_ownedDictionaryArray (Finset.mem_insert_self _ _) _ _)
        rintro result after ⟨rfl, rfl⟩
        cases cfDictionaryArray catalogue.channelsKey catalogue.channels with
        | error message =>
            apply Ends.pure
            rw [Finset.erase_insert freshRoot, Finset.erase_insert freshGroup]
            exact ⟨Finset.mem_insert_self _ _, Finset.mem_insert_self _ _, rfl, rfl⟩
        | ok slots =>
            apply Ends.access_bind (Finset.mem_insert_self _ _)
            apply Ends.pure
            rw [Finset.erase_insert freshRoot, Finset.erase_insert freshGroup]
            exact ⟨Finset.mem_insert_self _ _, Finset.mem_insert_self _ _, rfl, rfl⟩
      · simp only [copied, Bool.false_eq_true, not_false_eq_true, if_true]
        apply Ends.pure
        rw [Finset.erase_insert freshGroup]
        exact ⟨Finset.mem_insert_self _ _, rfl, rfl⟩

theorem ends_dropHandles {handles : Option OwnedHandles} {others live : Finset Nat}
    (owns : Owns others handles live) :
    Ends (dropHandles handles) live fun _ after => after = others := by
  cases handles with
  | none => exact Ends.pure owns
  | some owned =>
      rcases owns with ⟨freshSubscription, freshSamples, rfl⟩
      apply Ends.release_bind (by grind)
      apply Ends.release (by grind)
      grind

/-! ## Every run -/

/-- The calls that talk to CoreFoundation. -/
inductive CoreFoundationCall
  | sampleDelta (answers : DeltaAnswers)
  | discover (catalogue : ChannelCatalogue)

/-- What a call returns. -/
inductive CoreFoundationResult
  | deltas (deltas : Except String (List AppleEnergyDelta))
  | channels (channels : Except String (List AppleEnergyChannel))

/-- A provider's handles, the objects of the process, and what its calls returned. -/
structure OwningProvider where
  handles : Option OwnedHandles
  heap : Heap
  returned : List CoreFoundationResult

namespace OwningProvider

def step (state : OwningProvider) : CoreFoundationCall → Option OwningProvider
  | .sampleDelta answers => do
      let (result, heap) ← ownedSampleEnergyModelDelta answers state.handles state.heap
      return {
        handles := result.2
        heap
        returned := state.returned ++ [.deltas result.1] }
  | .discover catalogue => do
      let (result, heap) ← ownedDiscoverGpuAneChannels catalogue state.heap
      return { state with heap, returned := state.returned ++ [.channels result] }

end OwningProvider

/-- The same calls on the plain provider, with what they returned. -/
def CoreFoundationCall.perform (plain : AppleSiliconProvider × List CoreFoundationResult) :
    CoreFoundationCall → AppleSiliconProvider × List CoreFoundationResult
  | .sampleDelta answers =>
      let sampled := plain.1.sampleEnergyModelDelta answers.report
      (sampled.2, plain.2 ++ [.deltas sampled.1])
  | .discover catalogue =>
      (plain.1, plain.2 ++ [.channels (discoverGpuAneChannels catalogue)])

/-- The objects are those of others and of the handles, and the plain provider stands
where the owning one does. -/
structure OwningProvider.Mirrors (provider : AppleSiliconProvider) (others : Finset Nat)
    (owning : OwningProvider) (plain : AppleSiliconProvider × List CoreFoundationResult) :
    Prop where
  owns : Owns others owning.handles owning.heap.live
  provider : plain.1 = provider.withHandles owning.handles
  returned : plain.2 = owning.returned

theorem OwningProvider.Mirrors.step {provider : AppleSiliconProvider} {others : Finset Nat}
    {owning : OwningProvider} {plain : AppleSiliconProvider × List CoreFoundationResult}
    (mirrors : owning.Mirrors provider others plain) (call : CoreFoundationCall) :
    ∃ next, owning.step call = some next ∧ next.Mirrors provider others (call.perform plain) := by
  rcases mirrors with ⟨owns, provider_eq, returned_eq⟩
  cases call with
  | sampleDelta answers =>
      rcases ends_ownedSampleEnergyModelDelta answers owns owning.heap rfl with
        ⟨result, heap, program_eq, sampled, owned⟩
      refine ⟨⟨result.2, heap, owning.returned ++ [.deltas result.1]⟩, ?_, ?_⟩
      · rw [OwningProvider.step, program_eq]
        rfl
      · rw [CoreFoundationCall.perform, provider_eq, returned_eq, sampled]
        exact ⟨owned, rfl, rfl⟩
  | discover catalogue =>
      rcases ends_ownedDiscoverGpuAneChannels catalogue owning.heap.live owning.heap rfl with
        ⟨result, heap, program_eq, discovered, live_eq⟩
      refine ⟨⟨owning.handles, heap, owning.returned ++ [.channels result]⟩, ?_, ?_⟩
      · rw [OwningProvider.step, program_eq]
        rfl
      · rw [CoreFoundationCall.perform, provider_eq, returned_eq, ← discovered]
        exact ⟨live_eq ▸ owns, rfl, rfl⟩

theorem OwningProvider.Mirrors.run {provider : AppleSiliconProvider} {others : Finset Nat}
    {owning : OwningProvider} {plain : AppleSiliconProvider × List CoreFoundationResult}
    (mirrors : owning.Mirrors provider others plain) (calls : List CoreFoundationCall) :
    ∃ final, Transition.run OwningProvider.step owning calls = some final ∧
      final.Mirrors provider others (calls.foldl CoreFoundationCall.perform plain) := by
  induction calls generalizing owning plain with
  | nil => exact ⟨owning, rfl, mirrors⟩
  | cons call rest ih =>
      rcases mirrors.step call with ⟨next, stepped, mirrored⟩
      rcases ih mirrored with ⟨final, onward, mirrorsFinal⟩
      exact ⟨final, run_cons_eq_some_iff.mpr ⟨next, stepped, onward⟩, mirrorsFinal⟩

/-- Whatever CoreFoundation and IOReport answer and whatever other objects live, no run of
the calls works with an object that was released or releases one twice.  The calls
return what the plain provider returns; between two of them a provider keeps no object,
or exactly its subscription and its previous samples; and after the provider is dropped
the same objects live as before it was made. -/
theorem owning_provider_leaks_nothing (hardwareSignature : String) (idlePowerUw : UInt64)
    (heap : Heap) (calls : List CoreFoundationCall) :
    ∃ final, run OwningProvider.step ⟨none, heap, []⟩ calls = some final ∧
      Owns heap.live final.handles final.heap.live ∧
      calls.foldl CoreFoundationCall.perform
          (AppleSiliconProvider.withIdlePowerUw hardwareSignature idlePowerUw, []) =
        ((AppleSiliconProvider.withIdlePowerUw hardwareSignature idlePowerUw).withHandles
          final.handles, final.returned) ∧
      ∃ after, dropHandles final.handles final.heap = some ((), after) ∧
        after.live = heap.live := by
  have fresh : OwningProvider.Mirrors
      (AppleSiliconProvider.withIdlePowerUw hardwareSignature idlePowerUw) heap.live
      ⟨none, heap, []⟩
      (AppleSiliconProvider.withIdlePowerUw hardwareSignature idlePowerUw, []) := ⟨rfl, rfl, rfl⟩
  rcases fresh.run calls with ⟨final, reached, owns, provider_eq, returned_eq⟩
  rcases ends_dropHandles owns final.heap rfl with ⟨_, after, dropped, live_eq⟩
  exact ⟨final, reached, owns, Prod.ext provider_eq returned_eq, after, dropped, live_eq⟩

end Mjae.Providers
