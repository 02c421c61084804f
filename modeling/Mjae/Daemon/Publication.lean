import Mjae.Core.Seal
import Mjae.Providers.Drain
import Mjae.Providers.Windows.Ledger

/-!
# Publishing seals

A daemon collects what its provider hands out while it posts it to the registry, and
now and then seals what it has collected, together with the total of the registry.
The seals that it has published account for everything in the registry.
-/

namespace Mjae.Daemon

open Mjae.Arith Mjae.Collections Mjae.Core Mjae.Providers Mjae.Sort Mjae.Transition

/-- A provider whose calls hand out the records that they post to the registry. -/
class BillingProvider (σ : Type) (ω : outParam Type) where
  perform : ω → σ → AmalgafyRegistry →
    Option (List PidEnergyAttribution × σ × AmalgafyRegistry)
  /-- A call posts what it hands out. -/
  posted : ∀ {call : ω} {provider next : σ} {registry after : AmalgafyRegistry}
    {entries : List PidEnergyAttribution},
    perform call provider registry = some (entries, next, after) →
      after = entries.foldl AmalgafyRegistry.post registry

/-- A provider with a buffer hands its records out when it is drained. -/
instance {σ ω : Type} [DrainProvider σ ω] : BillingProvider σ (DrainCall ω) where
  perform
    | .perform call, provider, registry =>
        some ([], DrainProvider.perform call provider, registry)
    | .syncRegistry, provider, registry =>
        let synced := DrainProvider.syncRegistry provider registry
        some (DrainProvider.pending provider, synced.2.1, synced.2.2)
  posted {call provider next registry after entries} performed := by
    cases call with
    | perform call =>
        cases performed
        rfl
    | syncRegistry =>
        cases performed
        rw [DrainProvider.syncRegistry_eq]

/-- A Windows provider whose windows are attributed one by one; `policy` is how its
vectors grow. -/
def WindowsMeter (_policy : GrowthPolicy) : Type :=
  WindowsProvider

instance (policy : GrowthPolicy) : BillingProvider (WindowsMeter policy) WindowsCall where
  perform call provider registry :=
    (call.perform policy provider registry).map fun performed =>
      (sealable performed.1, performed.2.1, performed.2.2)
  posted {call provider next registry after entries} performed := by
    rcases Option.map_eq_some_iff.mp performed with ⟨⟨result, _, _⟩, returned, same⟩
    cases same
    rcases WindowsCall.perform_cases returned with
      ⟨message, rfl, rfl, -⟩ | ⟨powerMw, entries, -, rfl, rfl⟩
    · rfl
    · rfl

/-! ## The daemon -/

structure Publisher (σ : Type) where
  provider : σ
  registry : AmalgafyRegistry
  /-- What was handed out since the last seal. -/
  unsealed : List PidEnergyAttribution
  published : List AmalgafySeal

inductive PublisherCall (ω : Type)
  | perform (call : ω)
  | publish (sinceEpochNs : Option Nat)

namespace Publisher

variable {σ ω : Type} [BillingProvider σ ω] {ed : Ed25519}

/-- A daemon that has handed nothing out yet. -/
def start (provider : σ) : Publisher σ where
  provider
  registry := AmalgafyRegistry.new
  unsealed := []
  published := []

def step (signer : AmalgafySigner ed) (hardwareSerial : String)
    (hardwareIdentity : HardwareIdentity) (publisher : Publisher σ) :
    PublisherCall ω → Option (Publisher σ)
  | .perform call =>
      (BillingProvider.perform call publisher.provider publisher.registry).map fun performed =>
        { publisher with
          provider := performed.2.1
          registry := performed.2.2
          unsealed := publisher.unsealed ++ performed.1 }
  | .publish sinceEpochNs =>
      match signer.seal sinceEpochNs publisher.unsealed hardwareSerial
          publisher.registry.totalMicroJoules hardwareIdentity with
      | .ok amalgafySeal =>
          some { publisher with
            unsealed := []
            published := publisher.published ++ [amalgafySeal] }
      | .error _ => none

end Publisher

/-! ## Accounts -/

/-- Everything that the seals attribute. -/
def sealedIn (seals : List AmalgafySeal) : List PidEnergyAttribution :=
  seals.flatMap fun amalgafySeal => amalgafySeal.payload.attributions

theorem sealedIn_append (first second : List AmalgafySeal) :
    sealedIn (first ++ second) = sealedIn first ++ sealedIn second :=
  List.flatMap_append

/-- The order of the postings does not matter to the accounts. -/
theorem accountOf_perm {first second : List PidEnergyAttribution} (same : first.Perm second)
    (pid : UInt32) : accountOf pid first = accountOf pid second := by
  have appears : (∀ attribution ∈ first, attribution.pid ≠ pid) ↔
      ∀ attribution ∈ second, attribution.pid ≠ pid :=
    forall_congr' fun attribution => imp_congr_left same.mem_iff
  rw [accountOf, accountOf, if_congr appears rfl
    (congrArg some (U64.saturatingSum_perm ((same.filter _).map _)))]

/-- What a sorted batch leaves unsealed is nothing. -/
theorem sealedIn_publish_perm (published : List AmalgafySeal) (unsealed : List PidEnergyAttribution)
    {amalgafySeal : AmalgafySeal}
    (batch : amalgafySeal.payload.attributions = sortBy compareAttributions unsealed) :
    (sealedIn (published ++ [amalgafySeal])).Perm (sealedIn published ++ unsealed) := by
  rw [sealedIn_append]
  apply List.Perm.append_left
  rw [sealedIn, List.flatMap_singleton, batch]
  exact List.perm_insertionSort _ unsealed

/-! ## Every run -/

section Runs

variable {σ ω : Type} [BillingProvider σ ω] {ed : Ed25519} {signer : AmalgafySigner ed}
  {hardwareSerial : String} {hardwareIdentity : HardwareIdentity}

/-- A published seal is the daemon's own, over the records sorted, and its total is what
the seals up to it attribute. -/
structure Publisher.Sealed (signer : AmalgafySigner ed) (before : List AmalgafySeal)
    (amalgafySeal : AmalgafySeal) : Prop where
  signed : amalgafySeal = signer.signed amalgafySeal.payload
  sorted : amalgafySeal.payload.attributions.Pairwise (Before compareAttributions)
  total : amalgafySeal.payload.totalMicroJoules = U64.saturatingSum
    ((sealedIn (before ++ [amalgafySeal])).map PidEnergyAttribution.attributedEnergyUj)

/-- The registry holds what is sealed and what is still to be sealed. -/
structure Publisher.Accountable (signer : AmalgafySigner ed) (publisher : Publisher σ) :
    Prop where
  accounts : publisher.registry.Holds (sealedIn publisher.published ++ publisher.unsealed)
  total : publisher.registry.totalMicroJoules = U64.saturatingSum
    ((sealedIn publisher.published ++ publisher.unsealed).map
      PidEnergyAttribution.attributedEnergyUj)
  seals : ∀ before amalgafySeal later,
    publisher.published = before ++ amalgafySeal :: later → Sealed signer before amalgafySeal

theorem Publisher.accountable_start (provider : σ) :
    (start provider).Accountable signer where
  accounts := AmalgafyRegistry.holds_new
  total := AmalgafyRegistry.totalMicroJoules_new
  seals before amalgafySeal later split := by
    have short := congrArg List.length split
    simp [start] at short

theorem Publisher.Accountable.step {publisher next : Publisher σ} {call : PublisherCall ω}
    (accountable : publisher.Accountable signer)
    (stepped : publisher.step signer hardwareSerial hardwareIdentity call = some next) :
    next.Accountable signer := by
  cases call with
  | perform call =>
      rcases Option.map_eq_some_iff.mp stepped with ⟨⟨entries, provider, after⟩, performed, rfl⟩
      have posted := BillingProvider.posted performed
      subst posted
      refine ⟨?_, ?_, accountable.seals⟩
      · dsimp only
        rw [← List.append_assoc]
        exact accountable.accounts.postAll entries
      · apply UInt64.toNat.inj
        rw [AmalgafyRegistry.totalMicroJoules_postAll, accountable.total,
          U64.toNat_saturatingSum, U64.toNat_saturatingSum, min_min_add]
        simp [Function.comp_def, Nat.add_assoc]
  | publish sinceEpochNs =>
      rw [Publisher.step, AmalgafySigner.seal_eq] at stepped
      cases stepped
      generalize sealed : signer.signed _ = amalgafySeal
      have order : (sealedIn (publisher.published ++ [amalgafySeal])).Perm
          (sealedIn publisher.published ++ publisher.unsealed) := by
        apply sealedIn_publish_perm
        rw [← sealed]
        rfl
      have total : publisher.registry.totalMicroJoules = U64.saturatingSum
          ((sealedIn (publisher.published ++ [amalgafySeal])).map
            PidEnergyAttribution.attributedEnergyUj) :=
        accountable.total.trans (U64.saturatingSum_perm (order.map _)).symm
      constructor
      · intro pid
        rw [List.append_nil, accountOf_perm order]
        exact accountable.accounts pid
      · rw [List.append_nil]
        exact total
      · intro before other later split
        rcases later.eq_nil_or_concat with rfl | ⟨earlier, last, rfl⟩
        · -- the new seal
          rcases List.append_inj' split rfl with ⟨rfl, same⟩
          cases same
          subst sealed
          exact ⟨rfl, pairwise_sortBy _, total⟩
        · rw [List.concat_eq_append, ← List.cons_append, ← List.append_assoc] at split
          exact accountable.seals before other earlier (List.append_inj' split rfl).1

/-- Over every run, every published seal verifies and no other payload verifies in its
place; its attributions are sorted; its total is the saturating sum of all attributions
of the seals published so far; and the registry holds, process by process, what the
seals attribute and what is still to be sealed. -/
theorem published_accountable (ed : Ed25519)
    (fromBytes_toBytes : ∀ key, ed.fromBytes (ed.toBytes (ed.verifyingKey key)) =
      .ok (ed.verifyingKey key))
    (verify_sign : ∀ key message,
      ed.verify (ed.verifyingKey key) message (ed.sign key message) = .ok ())
    (signer : AmalgafySigner ed) (hardwareSerial : String)
    (hardwareIdentity : HardwareIdentity) (provider : σ) (calls : List (PublisherCall ω))
    (final : Publisher σ)
    (reached : run (Publisher.step signer hardwareSerial hardwareIdentity) (.start provider)
      calls = some final) :
    (∀ before amalgafySeal later, final.published = before ++ amalgafySeal :: later →
      (∀ payload, AmalgafySeal.verify ed { amalgafySeal with payload } = .ok () ↔
        payload = amalgafySeal.payload) ∧
      amalgafySeal.payload.attributions.Pairwise (Before compareAttributions) ∧
      amalgafySeal.payload.totalMicroJoules = U64.saturatingSum
        ((sealedIn (before ++ [amalgafySeal])).map PidEnergyAttribution.attributedEnergyUj)) ∧
    ∀ pid, final.registry.get pid =
      accountOf pid (sealedIn final.published ++ final.unsealed) := by
  have accountable : final.Accountable signer :=
    run_induction (fun _ publisher => publisher.Accountable signer)
      (Publisher.accountable_start provider) (fun _ _ _ _ _ before stepped => before.step stepped)
      reached
  refine ⟨?_, accountable.accounts⟩
  intro before amalgafySeal later split
  have published := accountable.seals before amalgafySeal later split
  refine ⟨?_, published.sorted, published.total⟩
  intro payload
  rw [published.signed, verify_replaced fromBytes_toBytes verify_sign, canonicalBytes_eq_iff]
  rfl

end Runs

/-- A fence and a handed-in record, drained and sealed, and then another fence. -/
theorem published_accountable_linux :
    ∃ final : Publisher LinuxProvider,
      run (Publisher.step (AmalgafySigner.new (Vector.replicate 32 9) : AmalgafySigner digestScheme)
          "NV-H100" (.manual "NV-H100")) (.start (LinuxProvider.new "NV-H100"))
        [.perform (.perform (.correlateFence ⟨9, 0, 4000000000, 1⟩)),
          .perform (.perform (.enqueueAttribution ⟨7, 0, 1000000, 4000, 3, "NV-H100"⟩)),
          .perform .syncRegistry, .publish (some 60000000000),
          .perform (.perform (.correlateFence ⟨9, 0, 2000000000, 1⟩)),
          .perform .syncRegistry] = some final ∧
      final.registry.get 9 = accountOf 9 (sealedIn final.published ++ final.unsealed) := by
  refine ⟨_, rfl, ?_⟩
  exact (published_accountable digestScheme (fun _ => rfl) (fun _ _ => if_pos rfl)
    (.new (Vector.replicate 32 9)) "NV-H100" (.manual "NV-H100") (LinuxProvider.new "NV-H100")
    [.perform (.perform (.correlateFence ⟨9, 0, 4000000000, 1⟩)),
      .perform (.perform (.enqueueAttribution ⟨7, 0, 1000000, 4000, 3, "NV-H100"⟩)),
      .perform .syncRegistry, .publish (some 60000000000),
      .perform (.perform (.correlateFence ⟨9, 0, 2000000000, 1⟩)),
      .perform .syncRegistry] _ rfl).2 9

end Mjae.Daemon
