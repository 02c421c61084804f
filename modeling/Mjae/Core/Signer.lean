import Mjae.Arith.Word
import Mjae.Core.Hardware
import Mjae.Core.Provider

/-!
# The Amalgafy seal

The signer sorts the attributions, encodes the payload in canonical form and
signs the bytes; a verifier encodes the declared payload again and compares.
The signature scheme is a parameter.
-/

namespace Mjae.Core

open Mjae.Arith Mjae.Json Mjae.Sort

/-- What the signer and the verifier use of `ed25519_dalek`. -/
structure Ed25519 where
  SigningKey : Type
  VerifyingKey : Type
  verifyingKey : SigningKey → VerifyingKey
  sign : SigningKey → Array UInt8 → Vector UInt8 64
  toBytes : VerifyingKey → Vector UInt8 32
  fromBytes : Vector UInt8 32 → Except String VerifyingKey
  verify : VerifyingKey → Array UInt8 → Vector UInt8 64 → Except String Unit

structure AmalgafySealPayload where
  manifestVersion : UInt32
  hardwareSerial : String
  hardwareIdentity : HardwareIdentity
  sealedAtUnixNs : UInt64
  totalMicroJoules : UInt64
  attributions : List PidEnergyAttribution
  deriving DecidableEq

structure AmalgafySeal where
  payload : AmalgafySealPayload
  signingPublicKey : Vector UInt8 32
  signature : Array UInt8
  canonicalPayload : Array UInt8

structure AmalgafySigner (ed : Ed25519) where
  signingKey : ed.SigningKey
  manifestVersion : UInt32

namespace AmalgafySigner

variable {ed : Ed25519}

def new (signingKey : ed.SigningKey) : AmalgafySigner ed :=
  { signingKey, manifestVersion := 1 }

def withManifestVersion (signer : AmalgafySigner ed) (version : UInt32) : AmalgafySigner ed :=
  { signer with manifestVersion := version }

def verifyingKey (signer : AmalgafySigner ed) : ed.VerifyingKey :=
  ed.verifyingKey signer.signingKey

end AmalgafySigner

instance : Serialize PidEnergyAttribution where
  toValue attribution := .object
    [("pid", toValue attribution.pid),
      ("window_start_ns", toValue attribution.windowStartNs),
      ("window_end_ns", toValue attribution.windowEndNs),
      ("burst_power_uw", toValue attribution.burstPowerUw),
      ("attributed_energy_uj", toValue attribution.attributedEnergyUj),
      ("hardware_signature", toValue attribution.hardwareSignature)]

instance : Serialize AmalgafySealPayload where
  toValue payload := .object
    [("manifest_version", toValue payload.manifestVersion),
      ("hardware_serial", toValue payload.hardwareSerial),
      ("hardware_identity", toValue payload.hardwareIdentity),
      ("sealed_at_unix_ns", toValue payload.sealedAtUnixNs),
      ("total_micro_joules", toValue payload.totalMicroJoules),
      ("attributions", toValue payload.attributions)]

/-! ## Verifying and sealing -/

/-- A slice as a signature. -/
def signatureBytes (slice : Array UInt8) : Except String (Vector UInt8 64) :=
  if sized : slice.size = 64 then .ok ⟨slice, sized⟩
  else .error "invalid ed25519 signature length"

theorem signatureBytes_toArray (signature : Vector UInt8 64) :
    signatureBytes signature.toArray = .ok signature :=
  dif_pos signature.size_toArray

/-- Verify the signature against the stored bytes, and those against the payload. -/
def AmalgafySeal.verify (ed : Ed25519) (amalgafySeal : AmalgafySeal) : Except String Unit := do
  let verifyingKey ← ed.fromBytes amalgafySeal.signingPublicKey
  let signature ← signatureBytes amalgafySeal.signature
  let reCanonical ← canonicalJson amalgafySeal.payload
  if reCanonical ≠ amalgafySeal.canonicalPayload then
    .error "AmalgafySeal canonical payload does not match its declared payload"
  else ed.verify verifyingKey amalgafySeal.canonicalPayload signature

/-- What a verified seal has gone through. -/
theorem AmalgafySeal.verify_eq_ok_iff {ed : Ed25519} {amalgafySeal : AmalgafySeal} :
    amalgafySeal.verify ed = .ok () ↔
      ∃ verifyingKey signature,
        ed.fromBytes amalgafySeal.signingPublicKey = .ok verifyingKey ∧
        signatureBytes amalgafySeal.signature = .ok signature ∧
        canonicalBytes amalgafySeal.payload = amalgafySeal.canonicalPayload ∧
        ed.verify verifyingKey amalgafySeal.canonicalPayload signature = .ok () := by
  rw [AmalgafySeal.verify]
  cases ed.fromBytes amalgafySeal.signingPublicKey with
  | error message => simp [bind, Except.bind]
  | ok verifyingKey =>
      cases signatureBytes amalgafySeal.signature with
      | error message => simp [bind, Except.bind]
      | ok signature =>
          by_cases same : canonicalBytes amalgafySeal.payload = amalgafySeal.canonicalPayload
          · simp [bind, Except.bind, canonicalJson, same]
          · simp [bind, Except.bind, canonicalJson, same]

/-- The order of attributions in a payload. -/
def compareAttributions (a b : PidEnergyAttribution) : Ordering :=
  ((compare a.pid b.pid).then (compare a.windowStartNs b.windowStartNs)).then
    (compare a.windowEndNs b.windowEndNs)

/-- The wall clock in a payload: 0 before the epoch, at most the largest word. -/
def sealedAtUnixNs (sinceEpochNs : Option Nat) : UInt64 :=
  U64.clamp (sinceEpochNs.getD 0)

/-- Sign the attributions; `sinceEpochNs` is the answer of the wall clock. -/
def AmalgafySigner.seal {ed : Ed25519} (signer : AmalgafySigner ed) (sinceEpochNs : Option Nat)
    (attributions : List PidEnergyAttribution) (hardwareSerial : String)
    (totalMicroJoules : UInt64) (hardwareIdentity : HardwareIdentity) :
    Except String AmalgafySeal := do
  let payload : AmalgafySealPayload :=
    { manifestVersion := signer.manifestVersion
      hardwareSerial
      hardwareIdentity
      sealedAtUnixNs := sealedAtUnixNs sinceEpochNs
      totalMicroJoules
      attributions := sortBy compareAttributions attributions }
  let canonical ← canonicalJson payload
  .ok
    { payload
      signingPublicKey := ed.toBytes signer.verifyingKey
      signature := (ed.sign signer.signingKey canonical).toArray
      canonicalPayload := canonical }

/-! ## Binding -/

theorem canonicalizeValue_pidEnergyAttribution (attribution : PidEnergyAttribution) :
    canonicalizeValue (toValue attribution) = .object
      [("attributed_energy_uj", canonicalizeValue (toValue attribution.attributedEnergyUj)),
        ("burst_power_uw", canonicalizeValue (toValue attribution.burstPowerUw)),
        ("hardware_signature", canonicalizeValue (toValue attribution.hardwareSignature)),
        ("pid", canonicalizeValue (toValue attribution.pid)),
        ("window_end_ns", canonicalizeValue (toValue attribution.windowEndNs)),
        ("window_start_ns", canonicalizeValue (toValue attribution.windowStartNs))] := by
  simp +decide [toValue, canonicalizeValue, canonicalizeMembers, sortBy, insertMember, Before,
    compareKeys]

instance : Binding PidEnergyAttribution where
  eq_of_canonicalizeValue {a b} same := by
    rw [canonicalizeValue_pidEnergyAttribution, canonicalizeValue_pidEnergyAttribution] at same
    simp only [Value.object.injEq, List.cons.injEq, Prod.mk.injEq, true_and, and_true] at same
    rcases same with ⟨energies, powers, signatures, pids, ends, starts⟩
    cases a
    cases b
    congr
    · exact eq_of_canonicalizeValue pids
    · exact eq_of_canonicalizeValue starts
    · exact eq_of_canonicalizeValue ends
    · exact eq_of_canonicalizeValue powers
    · exact eq_of_canonicalizeValue energies
    · exact eq_of_canonicalizeValue signatures

theorem canonicalizeValue_amalgafySealPayload (payload : AmalgafySealPayload) :
    canonicalizeValue (toValue payload) = .object
      [("attributions", canonicalizeValue (toValue payload.attributions)),
        ("hardware_identity", canonicalizeValue (toValue payload.hardwareIdentity)),
        ("hardware_serial", canonicalizeValue (toValue payload.hardwareSerial)),
        ("manifest_version", canonicalizeValue (toValue payload.manifestVersion)),
        ("sealed_at_unix_ns", canonicalizeValue (toValue payload.sealedAtUnixNs)),
        ("total_micro_joules", canonicalizeValue (toValue payload.totalMicroJoules))] := by
  simp +decide [toValue, canonicalizeValue, canonicalizeMembers, sortBy, insertMember, Before,
    compareKeys]

instance : Binding AmalgafySealPayload where
  eq_of_canonicalizeValue {a b} same := by
    rw [canonicalizeValue_amalgafySealPayload, canonicalizeValue_amalgafySealPayload] at same
    simp only [Value.object.injEq, List.cons.injEq, Prod.mk.injEq, true_and, and_true] at same
    rcases same with ⟨lists, identities, serials, versions, clocks, totals⟩
    cases a
    cases b
    congr
    · exact eq_of_canonicalizeValue versions
    · exact eq_of_canonicalizeValue serials
    · exact eq_of_canonicalizeValue identities
    · exact eq_of_canonicalizeValue clocks
    · exact eq_of_canonicalizeValue totals
    · exact eq_of_canonicalizeValue lists

end Mjae.Core
