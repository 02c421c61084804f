import Mjae.Core.Seal

/-!
# The manifest of a single process

The format that came before the seal: one process, signed over the plain encoding of
the payload, with its members in the order of the fields.  Its bytes are never those
of a seal, so that a signature made for one format cannot pass in the other without a
forgery.
-/

namespace Mjae.Core

open Mjae.Json

structure EnergyManifestPayload where
  manifestVersion : UInt32
  provider : String
  hardwareSignature : String
  workloadPid : UInt32
  windowStartNs : UInt64
  windowEndNs : UInt64
  sampledAtNs : UInt64
  idlePowerUw : UInt64
  activePowerUw : UInt64
  attributedEnergyUj : UInt64
  deriving DecidableEq

structure EnergyManifest where
  payload : EnergyManifestPayload
  signingPublicKey : Vector UInt8 32
  signature : Array UInt8

instance : Serialize EnergyManifestPayload where
  toValue payload := .object
    [("manifest_version", toValue payload.manifestVersion),
      ("provider", toValue payload.provider),
      ("hardware_signature", toValue payload.hardwareSignature),
      ("workload_pid", toValue payload.workloadPid),
      ("window_start_ns", toValue payload.windowStartNs),
      ("window_end_ns", toValue payload.windowEndNs),
      ("sampled_at_ns", toValue payload.sampledAtNs),
      ("idle_power_uw", toValue payload.idlePowerUw),
      ("active_power_uw", toValue payload.activePowerUw),
      ("attributed_energy_uj", toValue payload.attributedEnergyUj)]

/-- The bytes that a manifest signs. -/
def EnergyManifestPayload.bytes (payload : EnergyManifestPayload) : Array UInt8 :=
  toVec (toValue payload)

namespace EnergyManifest

def sign (ed : Ed25519) (payload : EnergyManifestPayload) (signingKey : ed.SigningKey) :
    Except String EnergyManifest :=
  .ok
    { payload
      signingPublicKey := ed.toBytes (ed.verifyingKey signingKey)
      signature := (ed.sign signingKey payload.bytes).toArray }

def verify (ed : Ed25519) (manifest : EnergyManifest) : Except String Unit := do
  let verifyingKey ← ed.fromBytes manifest.signingPublicKey
  let signature ← signatureBytes manifest.signature
  ed.verify verifyingKey manifest.payload.bytes signature

/-- What a verified manifest has gone through. -/
theorem verify_eq_ok_iff {ed : Ed25519} {manifest : EnergyManifest} :
    manifest.verify ed = .ok () ↔
      ∃ verifyingKey signature,
        ed.fromBytes manifest.signingPublicKey = .ok verifyingKey ∧
        signatureBytes manifest.signature = .ok signature ∧
        ed.verify verifyingKey manifest.payload.bytes signature = .ok () := by
  rw [verify]
  cases ed.fromBytes manifest.signingPublicKey with
  | error message => simp [bind, Except.bind]
  | ok verifyingKey =>
      cases signatureBytes manifest.signature with
      | error message => simp [bind, Except.bind]
      | ok signature => simp [bind, Except.bind]

end EnergyManifest

/-! ## The bytes of the two formats -/

/-- The bytes of a manifest determine its payload. -/
theorem EnergyManifestPayload.bytes_injective {a b : EnergyManifestPayload}
    (same : a.bytes = b.bytes) : a = b := by
  have values := toVec_injective same
  simp only [toValue, Value.object.injEq, List.cons.injEq, Prod.mk.injEq, true_and, and_true,
    Value.number.injEq, Value.string.injEq, Int.ofNat_inj] at values
  rcases a with ⟨_, _, _, _, _, _, _, _, _, _⟩
  rcases b with ⟨_, _, _, _, _, _, _, _, _, _⟩
  simp only [UInt32.toNat_inj, UInt64.toNat_inj] at values
  simp only [EnergyManifestPayload.mk.injEq]
  exact values

/-- No manifest has the bytes of a seal. -/
theorem EnergyManifestPayload.bytes_ne_canonicalBytes (manifest : EnergyManifestPayload)
    (payload : AmalgafySealPayload) : manifest.bytes ≠ canonicalBytes payload := by
  intro same
  have values := toVec_injective same
  rw [canonicalizeValue_amalgafySealPayload] at values
  simp [toValue] at values

/-! ## Forgeries -/

section Forgeries

variable {ed : Ed25519}

/-- The signature of a message passes for another one. -/
def Forged (ed : Ed25519) (signingKey : ed.SigningKey) (message : Array UInt8) : Prop :=
  ∃ other, other ≠ message ∧
    ed.verify (ed.verifyingKey signingKey) other (ed.sign signingKey message) = .ok ()

/-- A manifest that verifies with the key and the signature of a message has its bytes,
or is a forgery. -/
theorem EnergyManifest.forged_of_verify
    (fromBytes_toBytes : ∀ key, ed.fromBytes (ed.toBytes (ed.verifyingKey key)) =
      .ok (ed.verifyingKey key))
    {signingKey : ed.SigningKey} {message : Array UInt8} {manifest : EnergyManifest}
    (ownKey : manifest.signingPublicKey = ed.toBytes (ed.verifyingKey signingKey))
    (ownSignature : manifest.signature = (ed.sign signingKey message).toArray)
    (differ : manifest.payload.bytes ≠ message) (verified : manifest.verify ed = .ok ()) :
    Forged ed signingKey message := by
  rcases EnergyManifest.verify_eq_ok_iff.mp verified with
    ⟨verifyingKey, signature, key_eq, signature_eq, passes⟩
  rw [ownKey, fromBytes_toBytes] at key_eq
  rw [ownSignature, signatureBytes_toArray] at signature_eq
  cases key_eq
  cases signature_eq
  exact ⟨_, differ, passes⟩

/-- So is a seal. -/
theorem AmalgafySeal.forged_of_verify
    (fromBytes_toBytes : ∀ key, ed.fromBytes (ed.toBytes (ed.verifyingKey key)) =
      .ok (ed.verifyingKey key))
    {signingKey : ed.SigningKey} {message : Array UInt8} {amalgafySeal : AmalgafySeal}
    (ownKey : amalgafySeal.signingPublicKey = ed.toBytes (ed.verifyingKey signingKey))
    (ownSignature : amalgafySeal.signature = (ed.sign signingKey message).toArray)
    (differ : canonicalBytes amalgafySeal.payload ≠ message)
    (verified : amalgafySeal.verify ed = .ok ()) : Forged ed signingKey message := by
  rcases AmalgafySeal.verify_eq_ok_iff.mp verified with
    ⟨verifyingKey, signature, key_eq, signature_eq, bytes_eq, passes⟩
  rw [ownKey, fromBytes_toBytes] at key_eq
  rw [ownSignature, signatureBytes_toArray] at signature_eq
  cases key_eq
  cases signature_eq
  exact ⟨_, bytes_eq ▸ differ, passes⟩

/-- A signed manifest verifies.  With its key and its signature, no other payload and no
seal verifies, and no manifest with those of a seal, unless the signature scheme is
forged: a signature of the daemon passes for a message that it was not made for. -/
theorem manifest_binds (ed : Ed25519)
    (fromBytes_toBytes : ∀ key, ed.fromBytes (ed.toBytes (ed.verifyingKey key)) =
      .ok (ed.verifyingKey key))
    (verify_sign : ∀ key message,
      ed.verify (ed.verifyingKey key) message (ed.sign key message) = .ok ())
    (payload : EnergyManifestPayload) (signingKey : ed.SigningKey) :
    ∃ manifest, EnergyManifest.sign ed payload signingKey = .ok manifest ∧
      manifest.verify ed = .ok () ∧
      (∀ other, other ≠ payload →
        EnergyManifest.verify ed { manifest with payload := other } = .ok () →
        Forged ed signingKey payload.bytes) ∧
      (∀ amalgafySeal : AmalgafySeal,
        amalgafySeal.signingPublicKey = manifest.signingPublicKey →
        amalgafySeal.signature = manifest.signature → amalgafySeal.verify ed = .ok () →
        Forged ed signingKey payload.bytes) ∧
      ∀ (signer : AmalgafySigner ed) (sealedPayload : AmalgafySealPayload)
        (replayed : EnergyManifest),
        replayed.signingPublicKey = (signer.signed sealedPayload).signingPublicKey →
        replayed.signature = (signer.signed sealedPayload).signature →
        replayed.verify ed = .ok () →
        Forged ed signer.signingKey (canonicalBytes sealedPayload) := by
  refine ⟨_, rfl, ?_, ?_, ?_, ?_⟩
  · rw [EnergyManifest.verify_eq_ok_iff]
    exact ⟨_, _, fromBytes_toBytes signingKey, signatureBytes_toArray _, verify_sign signingKey _⟩
  · intro other differ verified
    apply EnergyManifest.forged_of_verify fromBytes_toBytes rfl rfl _ verified
    exact fun same => differ (EnergyManifestPayload.bytes_injective same)
  · intro amalgafySeal sameKey sameSignature verified
    apply AmalgafySeal.forged_of_verify fromBytes_toBytes sameKey sameSignature _ verified
    exact (payload.bytes_ne_canonicalBytes amalgafySeal.payload).symm
  · intro signer sealedPayload replayed sameKey sameSignature verified
    apply EnergyManifest.forged_of_verify fromBytes_toBytes sameKey sameSignature _ verified
    exact replayed.payload.bytes_ne_canonicalBytes sealedPayload

/-- A manifest signed with the digest scheme. -/
theorem manifest_binds_digestScheme :
    ∃ manifest, EnergyManifest.sign digestScheme
        ⟨1, "linux-ebpf", "NV-H100", 4242, 10, 20, 20, 3000000, 9500000, 65⟩
        (Vector.replicate 32 7) = .ok manifest ∧ manifest.verify digestScheme = .ok () := by
  rcases manifest_binds digestScheme (fun _ => rfl) (fun _ _ => if_pos rfl)
      ⟨1, "linux-ebpf", "NV-H100", 4242, 10, 20, 20, 3000000, 9500000, 65⟩
      (Vector.replicate 32 7) with
    ⟨manifest, signed, verified, -⟩
  exact ⟨manifest, signed, verified⟩

end Forgeries

end Mjae.Core
