import Mjae.Core.Signer

/-!
# What a seal binds

A seal verifies for its own payload and for no other.  Its bytes do not depend
on the order in which the attributions came, except for the order among
attributions of one process and one window.
-/

namespace Mjae.Core

open Mjae.Sort

variable {ed : Ed25519}

/-! ## The order of the attributions -/

instance : Std.TransCmp compareAttributions :=
  inferInstanceAs (Std.TransCmp (compareLex
    (compareLex (compareOn PidEnergyAttribution.pid)
      (compareOn PidEnergyAttribution.windowStartNs))
    (compareOn PidEnergyAttribution.windowEndNs)))

/-- The attributions of one process and one window, in order. -/
def ofWindow (pid : UInt32) (windowStartNs windowEndNs : UInt64)
    (attributions : List PidEnergyAttribution) : List PidEnergyAttribution :=
  attributions.filter fun attribution =>
    attribution.pid = pid ∧ attribution.windowStartNs = windowStartNs ∧
      attribution.windowEndNs = windowEndNs

/-- Attributions tie exactly when they agree in process and window. -/
theorem compareAttributions_eq_iff (a b : PidEnergyAttribution) :
    compareAttributions a b = .eq ↔
      b.pid = a.pid ∧ b.windowStartNs = a.windowStartNs ∧ b.windowEndNs = a.windowEndNs := by
  simp only [compareAttributions, Ordering.then_eq_eq, Std.LawfulEqOrd.compare_eq_iff_eq,
    and_assoc]
  exact and_congr eq_comm (and_congr eq_comm eq_comm)

theorem tied_compareAttributions (element : PidEnergyAttribution)
    (attributions : List PidEnergyAttribution) :
    tied compareAttributions element attributions =
      ofWindow element.pid element.windowStartNs element.windowEndNs attributions := by
  simp only [tied, ofWindow, compareAttributions_eq_iff]

/-- The payload that a signer seals. -/
def AmalgafySigner.payload (signer : AmalgafySigner ed) (sinceEpochNs : Option Nat)
    (attributions : List PidEnergyAttribution) (hardwareSerial : String)
    (totalMicroJoules : UInt64) (hardwareIdentity : HardwareIdentity) : AmalgafySealPayload where
  manifestVersion := signer.manifestVersion
  hardwareSerial := hardwareSerial
  hardwareIdentity := hardwareIdentity
  sealedAtUnixNs := sealedAtUnixNs sinceEpochNs
  totalMicroJoules := totalMicroJoules
  attributions := sortBy compareAttributions attributions

/-- The seal of a payload. -/
def AmalgafySigner.signed (signer : AmalgafySigner ed) (payload : AmalgafySealPayload) :
    AmalgafySeal where
  payload := payload
  signingPublicKey := ed.toBytes signer.verifyingKey
  signature := (ed.sign signer.signingKey (canonicalBytes payload)).toArray
  canonicalPayload := canonicalBytes payload

/-- Sealing never fails. -/
theorem AmalgafySigner.seal_eq (signer : AmalgafySigner ed) (sinceEpochNs : Option Nat)
    (attributions : List PidEnergyAttribution) (hardwareSerial : String)
    (totalMicroJoules : UInt64) (hardwareIdentity : HardwareIdentity) :
    signer.seal sinceEpochNs attributions hardwareSerial totalMicroJoules hardwareIdentity =
      .ok (signer.signed (signer.payload sinceEpochNs attributions hardwareSerial
        totalMicroJoules hardwareIdentity)) :=
  rfl

/-- Seals of two lists have the same bytes exactly when the lists sort to the same list. -/
theorem seal_canonicalPayload_eq_iff_sortBy (signer : AmalgafySigner ed)
    (sinceEpochNs : Option Nat) (first second : List PidEnergyAttribution)
    (hardwareSerial : String) (totalMicroJoules : UInt64)
    (hardwareIdentity : HardwareIdentity) :
    (signer.seal sinceEpochNs first hardwareSerial totalMicroJoules hardwareIdentity).map
        AmalgafySeal.canonicalPayload =
      (signer.seal sinceEpochNs second hardwareSerial totalMicroJoules hardwareIdentity).map
        AmalgafySeal.canonicalPayload ↔
    sortBy compareAttributions first = sortBy compareAttributions second := by
  simp only [AmalgafySigner.seal_eq, Except.map, Except.ok.injEq, AmalgafySigner.signed,
    canonicalBytes_eq_iff, AmalgafySigner.payload, AmalgafySealPayload.mk.injEq, true_and]

/-- The bytes of a seal are the same for two lists of attributions exactly when the
attributions of every process and window come in the same order in both. -/
theorem seal_canonicalPayload_eq_iff (ed : Ed25519) (signer : AmalgafySigner ed)
    (sinceEpochNs : Option Nat) (first second : List PidEnergyAttribution)
    (hardwareSerial : String) (totalMicroJoules : UInt64)
    (hardwareIdentity : HardwareIdentity) :
    (signer.seal sinceEpochNs first hardwareSerial totalMicroJoules hardwareIdentity).map
        AmalgafySeal.canonicalPayload =
      (signer.seal sinceEpochNs second hardwareSerial totalMicroJoules hardwareIdentity).map
        AmalgafySeal.canonicalPayload ↔
    ∀ pid windowStartNs windowEndNs,
      ofWindow pid windowStartNs windowEndNs first =
        ofWindow pid windowStartNs windowEndNs second := by
  rw [seal_canonicalPayload_eq_iff_sortBy, sortBy_eq_iff]
  constructor
  · intro same pid windowStartNs windowEndNs
    have ofElement := same ⟨pid, windowStartNs, windowEndNs, 0, 0, ""⟩
    rw [tied_compareAttributions, tied_compareAttributions] at ofElement
    exact ofElement
  · intro same element
    rw [tied_compareAttributions, tied_compareAttributions, same]

/-- A scheme that signs with a digest of key and message. -/
def digestScheme : Ed25519 where
  SigningKey := Vector UInt8 32
  VerifyingKey := Vector UInt8 32
  verifyingKey key := key
  sign key message := Vector.replicate 64 ((key.toArray ++ message).foldl (· + ·) 0)
  toBytes key := key
  fromBytes bytes := .ok bytes
  verify key message signature :=
    if signature = Vector.replicate 64 ((key.toArray ++ message).foldl (· + ·) 0) then .ok ()
    else .error "signature error"

/-- Two attributions of one process and one window, exchanged, change the bytes. -/
theorem not_seal_canonicalPayload_eq_of_perm :
    ¬ ∀ (ed : Ed25519) (signer : AmalgafySigner ed) (sinceEpochNs : Option Nat)
      (first second : List PidEnergyAttribution) (hardwareSerial : String)
      (totalMicroJoules : UInt64) (hardwareIdentity : HardwareIdentity),
      first.Perm second →
      (signer.seal sinceEpochNs first hardwareSerial totalMicroJoules hardwareIdentity).map
          AmalgafySeal.canonicalPayload =
        (signer.seal sinceEpochNs second hardwareSerial totalMicroJoules hardwareIdentity).map
          AmalgafySeal.canonicalPayload := by
  intro orderFree
  have same := orderFree digestScheme (.new (Vector.replicate 32 9)) (some 1)
    [⟨7, 100, 200, 5, 10, "NV-H100"⟩, ⟨7, 100, 200, 5, 20, "NV-H100"⟩]
    [⟨7, 100, 200, 5, 20, "NV-H100"⟩, ⟨7, 100, 200, 5, 10, "NV-H100"⟩]
    "NV-H100" 30 (.manual "NV-H100") (List.Perm.swap ..)
  rw [seal_canonicalPayload_eq_iff_sortBy] at same
  revert same
  decide

/-! ## The payload -/

/-- A seal with another payload verifies exactly when that payload has the sealed bytes. -/
theorem verify_replaced
    (fromBytes_toBytes : ∀ key, ed.fromBytes (ed.toBytes (ed.verifyingKey key)) =
      .ok (ed.verifyingKey key))
    (verify_sign : ∀ key message,
      ed.verify (ed.verifyingKey key) message (ed.sign key message) = .ok ())
    (signer : AmalgafySigner ed) (sealed payload : AmalgafySealPayload) :
    AmalgafySeal.verify ed { signer.signed sealed with payload } = .ok () ↔
      canonicalBytes payload = canonicalBytes sealed := by
  rw [AmalgafySeal.verify_eq_ok_iff]
  simp only [AmalgafySigner.signed, AmalgafySigner.verifyingKey]
  constructor
  · rintro ⟨_, _, -, -, same, -⟩
    exact same
  · intro same
    exact ⟨_, _, fromBytes_toBytes signer.signingKey, signatureBytes_toArray _, same,
      verify_sign signer.signingKey _⟩

/-- A sealed payload verifies, and no other payload verifies in its place. -/
theorem verify_seal_iff (ed : Ed25519)
    (fromBytes_toBytes : ∀ key, ed.fromBytes (ed.toBytes (ed.verifyingKey key)) =
      .ok (ed.verifyingKey key))
    (verify_sign : ∀ key message,
      ed.verify (ed.verifyingKey key) message (ed.sign key message) = .ok ())
    (signer : AmalgafySigner ed) (sinceEpochNs : Option Nat)
    (attributions : List PidEnergyAttribution) (hardwareSerial : String)
    (totalMicroJoules : UInt64) (hardwareIdentity : HardwareIdentity) :
    ∃ amalgafySeal,
      signer.seal sinceEpochNs attributions hardwareSerial totalMicroJoules hardwareIdentity =
        .ok amalgafySeal ∧
      ∀ payload : AmalgafySealPayload,
        AmalgafySeal.verify ed { amalgafySeal with payload } = .ok () ↔
          payload = amalgafySeal.payload := by
  apply Exists.intro
  constructor
  · exact signer.seal_eq sinceEpochNs attributions hardwareSerial totalMicroJoules
      hardwareIdentity
  · intro payload
    rw [verify_replaced fromBytes_toBytes verify_sign, canonicalBytes_eq_iff]
    rfl

/-- One attribution, sealed with the digest scheme. -/
theorem verify_seal_iff_digestScheme :
    ∃ amalgafySeal,
      (AmalgafySigner.new (Vector.replicate 32 9) : AmalgafySigner digestScheme).seal (some 1)
        [⟨7, 100, 200, 5, 10, "NV-H100"⟩] "NV-H100" 10 (.manual "NV-H100") =
        .ok amalgafySeal ∧
      ∀ payload : AmalgafySealPayload,
        AmalgafySeal.verify digestScheme { amalgafySeal with payload } = .ok () ↔
          payload = amalgafySeal.payload :=
  verify_seal_iff digestScheme (fun _ => rfl) (fun _ _ => if_pos rfl) _ _ _ _ _ _

end Mjae.Core
