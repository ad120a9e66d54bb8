/-
SubmittedIt/BundleLaws.lean

What the functions on private receipt bundles guarantee.

Verification returns the bundle it is given, so a bundle that any of these
functions returns is verified, and says what its receipt says.  Encrypting and
decrypting under one key are inverse on the bundles that fit an envelope.

Main results: `verify_eq_ok`, `decrypt_sealBundle`, `createOrUpdate_ok` and
`attach_ok`.
-/
import SubmittedIt.PrivateReceipt

namespace SubmittedIt.Extension

open Transaction ReceiptCore

variable {P : StoragePlatform}

/-! ### Verification -/

theorem liftProtocol_eq_ok {α : Type} {x : Except ProtocolError α} {a : α} :
    liftProtocol x = .ok a ↔ x = .ok a := by
  rcases x with e | b
  · simp [liftProtocol]
  · simp [liftProtocol]

theorem validateReceipt_eq_self {receipt receipt' : Receipt}
    (h : validateReceipt P receipt = .ok receipt') : receipt' = receipt := by
  unfold validateReceipt at h
  simp only [bind_eq_ok] at h
  obtain ⟨-, -, chain, -, -, -, -, -, -, -, -, -, -, -, -, -, h⟩ := h
  exact (Except.ok.inj h).symm

/-- What verification checks of a receipt alone. -/
structure VerifiedReceipt (P : StoragePlatform) (receipt : Receipt) : Prop where
  valid : validateReceipt P receipt = .ok receipt
  signed : ∀ event ∈ receipt.events,
    event.extensionSignature ≠ none ∧ event.authoritySignature = none
  verified : receipt.verification.result = .verified
  checks : (receipt.verification.checks.map fun check => (check.check, check.result)) =
    (expectedVerificationChecks receipt.events).map fun check => (check.check, check.result)
  chain : ∃ result, validateEventChain (Except.ok : Decoder LifecycleEventEnvelope) P.keccak
    receipt.events = .ok result
  signatures : ∀ event ∈ receipt.events,
    verifyExtensionEventSignature P event receipt.extensionPublicKey = true

/-- What verification checks of a bundle. -/
structure Verified (P : StoragePlatform) (bundle : PrivateReceiptBundle) : Prop where
  operational : parseStoredAttemptReceipt P bundle.operational = true
  receipt : VerifiedReceipt P bundle.receipt
  matching : receiptMatchesOperational bundle.receipt bundle.operational = true

theorem parse_eq_ok {bundle bundle' : PrivateReceiptBundle} :
    parsePrivateReceiptBundle P bundle = .ok bundle' ↔
      bundle' = bundle ∧ parseStoredAttemptReceipt P bundle.operational = true ∧
        validateReceipt P bundle.receipt = .ok bundle.receipt ∧
        receiptMatchesOperational bundle.receipt bundle.operational = true ∧
        (∀ event ∈ bundle.receipt.events,
          event.extensionSignature ≠ none ∧ event.authoritySignature = none) ∧
        bundle.receipt.verification.result = .verified ∧
        (bundle.receipt.verification.checks.map fun check => (check.check, check.result)) =
          (expectedVerificationChecks bundle.receipt.events).map
            fun check => (check.check, check.result) := by
  unfold parsePrivateReceiptBundle
  simp only [bind_eq_ok, revertIf_eq_ok, exists_const, Bool.not_eq_false, liftProtocol_eq_ok]
  constructor
  · rintro ⟨hoperational, receipt, hreceipt, hmatching, hchecks, hpure⟩
    have hself := validateReceipt_eq_self hreceipt
    subst hself
    simp only [not_or, not_not, List.any_eq_true, Bool.or_eq_true, not_exists, not_and,
      Option.isNone_iff_eq_none, Option.isSome_iff_ne_none] at hchecks
    exact ⟨(Except.ok.inj hpure).symm, hoperational, hreceipt, hmatching, hchecks.1, hchecks.2.1,
      hchecks.2.2⟩
  · rintro ⟨rfl, hoperational, hreceipt, hmatching, hsigned, hverified, hchecks⟩
    refine ⟨hoperational, _, hreceipt, hmatching, ?_, rfl⟩
    simp only [not_or, not_not, List.any_eq_true, Bool.or_eq_true, not_exists, not_and,
      Option.isNone_iff_eq_none, Option.isSome_iff_ne_none]
    exact ⟨hsigned, hverified, hchecks⟩

/-- **Verification returns the bundle it is given**, when it is verified. -/
theorem verify_eq_ok {bundle bundle' : PrivateReceiptBundle} :
    verifyPrivateReceiptBundle P bundle = .ok bundle' ↔ bundle' = bundle ∧ Verified P bundle := by
  unfold verifyPrivateReceiptBundle
  simp only [bind_eq_ok, revertIf_eq_ok, exists_const, Bool.not_eq_false, liftProtocol_eq_ok,
    parse_eq_ok, List.all_eq_true]
  constructor
  · rintro ⟨b, ⟨rfl, hoperational, hreceipt, hmatching, hsigned, hverified, hchecks⟩, result, hchain,
      hsignatures, hpure⟩
    exact ⟨(Except.ok.inj hpure).symm, hoperational,
      ⟨hreceipt, hsigned, hverified, hchecks, ⟨result, hchain⟩, hsignatures⟩, hmatching⟩
  · rintro ⟨rfl, h⟩
    obtain ⟨result, hchain⟩ := h.receipt.chain
    exact ⟨_, ⟨rfl, h.operational, h.receipt.valid, h.matching, h.receipt.signed,
      h.receipt.verified, h.receipt.checks⟩, result, hchain, h.receipt.signatures, rfl⟩

theorem Verified.verify {bundle : PrivateReceiptBundle} (h : Verified P bundle) :
    verifyPrivateReceiptBundle P bundle = .ok bundle := verify_eq_ok.mpr ⟨rfl, h⟩

/-! ### Events of a verified bundle -/

/-- The hashes of a receipt's events. -/
def Receipt.eventHashes (receipt : Receipt) : List HashHex := receipt.events.map (·.eventHash)

theorem receiptMatches_eq_true {receipt : Receipt} {operational : StoredAttemptReceipt} :
    receiptMatchesOperational receipt operational = true ↔
      receipt.receiptId = operational.receiptId ∧ receipt.createdAt = operational.capturedAt ∧
        receipt.currentStage = .entered operational.currentStage.toEventStage ∧
        receipt.derivedStatus = .pendingAcceptance ∧
        receipt.events.map withoutExtensionSignature = operationalEvents operational := by
  simp [receiptMatchesOperational, and_assoc]

theorem operationalEvents_eventHash (operational : StoredAttemptReceipt) :
    (operationalEvents operational).map (·.eventHash) = operational.eventHashes := by
  unfold operationalEvents StoredAttemptReceipt.eventHashes
  cases operational.siteConfirmationEvent <;> rfl

theorem Verified.eventHashes {bundle : PrivateReceiptBundle} (h : Verified P bundle) :
    bundle.receipt.eventHashes = bundle.operational.eventHashes := by
  have hevents := (receiptMatches_eq_true.mp h.matching).2.2.2.2
  calc bundle.receipt.events.map (·.eventHash)
      = (bundle.receipt.events.map withoutExtensionSignature).map (·.eventHash) := by
        rw [List.map_map]; rfl
    _ = bundle.operational.eventHashes := by rw [hevents, operationalEvents_eventHash]

theorem Verified.receiptId {bundle : PrivateReceiptBundle} (h : Verified P bundle) :
    bundle.receipt.receiptId = bundle.operational.receiptId :=
  (receiptMatches_eq_true.mp h.matching).1

/-! ### Envelopes -/

/-- The bundle's envelope is within the limits of the format. -/
structure FitsEnvelope (P : StoragePlatform) (bundle : PrivateReceiptBundle) (key : CryptoKey)
    (blobId : OpaqueId) : Prop where
  keyId : 16 ≤ bundle.receipt.extensionPublicKey.keyId.length
  lower : 16 ≤ P.byteLength (sealBundle P bundle key blobId).ciphertext
  upper : P.byteLength (sealBundle P bundle key blobId).ciphertext ≤ MAX_EXPORT_PACKAGE_BYTES

theorem parseEnvelope_eq_ok {envelope envelope' : EncryptedReceiptEnvelope P} :
    parseEncryptedReceiptEnvelope P envelope = .ok envelope' ↔
      envelope' = envelope ∧ 16 ≤ envelope.authenticatedMetadata.extensionKeyId.length ∧
        16 ≤ P.byteLength envelope.ciphertext ∧
        P.byteLength envelope.ciphertext ≤ MAX_EXPORT_PACKAGE_BYTES := by
  unfold parseEncryptedReceiptEnvelope
  simp only [bind_eq_ok, revertIf_eq_ok, exists_const, not_or, not_lt, gt_iff_lt]
  constructor
  · rintro ⟨hkey, hbytes, hpure⟩
    exact ⟨(Except.ok.inj hpure).symm, hkey, hbytes.1, hbytes.2⟩
  · rintro ⟨rfl, hkey, hlower, hupper⟩
    exact ⟨hkey, ⟨hlower, hupper⟩, rfl⟩

theorem parseEnvelope_seal {bundle : PrivateReceiptBundle} {key : CryptoKey} {blobId : OpaqueId}
    {envelope : EncryptedReceiptEnvelope P} :
    parseEncryptedReceiptEnvelope P (sealBundle P bundle key blobId) = .ok envelope ↔
      envelope = sealBundle P bundle key blobId ∧ FitsEnvelope P bundle key blobId := by
  rw [parseEnvelope_eq_ok]
  constructor
  · rintro ⟨rfl, hkey, hlower, hupper⟩
    exact ⟨rfl, hkey, hlower, hupper⟩
  · rintro ⟨rfl, h⟩
    exact ⟨rfl, h.keyId, h.lower, h.upper⟩

theorem encrypt_eq_ok {bundle : PrivateReceiptBundle} {key : CryptoKey} {blobId : OpaqueId}
    {envelope : EncryptedReceiptEnvelope P} :
    encryptPrivateReceiptBundle P bundle key blobId = .ok envelope ↔
      Verified P bundle ∧ FitsEnvelope P bundle key blobId ∧
        envelope = sealBundle P bundle key blobId := by
  unfold encryptPrivateReceiptBundle
  simp only [bind_eq_ok, verify_eq_ok]
  constructor
  · rintro ⟨b, ⟨rfl, hverified⟩, hparse⟩
    obtain ⟨rfl, hfits⟩ := parseEnvelope_seal.mp hparse
    exact ⟨hverified, hfits, rfl⟩
  · rintro ⟨hverified, hfits, rfl⟩
    exact ⟨bundle, ⟨rfl, hverified⟩, parseEnvelope_seal.mpr ⟨rfl, hfits⟩⟩

/-- **What was encrypted decrypts to itself.** -/
theorem decrypt_sealBundle {bundle : PrivateReceiptBundle} {key : CryptoKey} {blobId : OpaqueId}
    (hverified : Verified P bundle) (hfits : FitsEnvelope P bundle key blobId) :
    decryptPrivateReceiptEnvelope P (sealBundle P bundle key blobId) key = .ok bundle := by
  unfold decryptPrivateReceiptEnvelope
  simp only [bind_eq_ok]
  refine ⟨_, parseEnvelope_seal.mpr ⟨rfl, hfits⟩, ?_⟩
  have hplain : P.decrypt key (sealBundle P bundle key blobId).iv
      (sealBundle P bundle key blobId).authenticatedMetadata
      (sealBundle P bundle key blobId).ciphertext = some bundle := P.decrypt_encrypt _ _ _ _
  rw [hplain]
  simp only [bind_eq_ok, verify_eq_ok]
  refine ⟨bundle, ⟨rfl, hverified⟩, (), ?_, rfl⟩
  simp [sealBundle, envelopeMetadata]

theorem decrypt_verified {envelope : EncryptedReceiptEnvelope P} {key : CryptoKey}
    {bundle : PrivateReceiptBundle}
    (h : decryptPrivateReceiptEnvelope P envelope key = .ok bundle) :
    Verified P bundle ∧ bundle.receipt.receiptId = envelope.authenticatedMetadata.receiptId ∧
      16 ≤ bundle.receipt.extensionPublicKey.keyId.length := by
  unfold decryptPrivateReceiptEnvelope at h
  simp only [bind_eq_ok] at h
  obtain ⟨envelope', henvelope, h⟩ := h
  obtain ⟨rfl, hkey, -, -⟩ := parseEnvelope_eq_ok.mp henvelope
  split at h
  · cases h
  · simp only [bind_eq_ok, verify_eq_ok, revertIf_eq_ok, exists_const] at h
    obtain ⟨b, ⟨rfl, hverified⟩, hmetadata, hpure⟩ := h
    cases hpure
    simp only [not_or, not_not] at hmetadata
    exact ⟨hverified, hmetadata.1, by rw [hmetadata.2.2]; exact hkey⟩

/-! ### Securing and anchoring a receipt -/

/-- **A secured bundle is verified** and holds the operational receipt it was
made for. -/
theorem createOrUpdate_ok {operational : StoredAttemptReceipt}
    {identity : InstallationIdentityRecord} {existing : Option PrivateReceiptBundle} {draw : Nat}
    {verifiedAt : Timestamp} {bundle : PrivateReceiptBundle}
    (h : createOrUpdatePrivateReceiptBundle P operational identity existing draw verifiedAt
      = .ok bundle) : Verified P bundle ∧ bundle.operational = operational := by
  unfold createOrUpdatePrivateReceiptBundle at h
  simp only [bind_eq_ok, revertIf_eq_ok, exists_const] at h
  obtain ⟨-, h⟩ := h
  -- the branch that signs the events
  have hfresh : ∀ b, (∃ events,
      signEvents P existing identity draw (operationalEvents operational) = .ok events ∧
      ∃ receipt, liftProtocol (createReceipt P operational.capturedAt events identity.publicKey
        operational.receiptId operational.event.core.schemaVersion
        (verificationState verifiedAt events)) = .ok receipt ∧
      verifyPrivateReceiptBundle P { operational, receipt, ownership := .local } = .ok b) →
      Verified P b ∧ b.operational = operational := by
    rintro b ⟨events, -, receipt, -, hverify⟩
    obtain ⟨rfl, hverified⟩ := verify_eq_ok.mp hverify
    exact ⟨hverified, rfl⟩
  rcases existing with - | existing
  · simp only [bind_eq_ok] at h
    exact hfresh bundle h
  · simp only [bind_eq_ok] at h
    obtain ⟨existing', hexisting, -, -, h⟩ := h
    obtain ⟨rfl, hverified⟩ := verify_eq_ok.mp hexisting
    split at h
    · rename_i hsame
      cases h
      exact ⟨hverified, hsame⟩
    · simp only [bind_eq_ok] at h
      obtain ⟨-, -, -, -, h⟩ := h
      exact hfresh bundle h

/-- **An anchored bundle is verified** and holds the receipt it was made for,
with its events. -/
theorem attach_ok {bundle anchored : PrivateReceiptBundle} {eventHash : HashHex}
    {chainAnchor : ChainAnchorMetadata} {verifiedAt : Timestamp}
    (h : attachVerifiedChainAnchor P bundle eventHash chainAnchor verifiedAt = .ok anchored) :
    Verified P anchored ∧ anchored.operational = bundle.operational ∧
      anchored.ownership = bundle.ownership := by
  unfold attachVerifiedChainAnchor at h
  simp only [bind_eq_ok, verify_eq_ok] at h
  obtain ⟨b, ⟨rfl, -⟩, h⟩ := h
  split at h
  · cases h
  · simp only [bind_eq_ok, verify_eq_ok] at h
    obtain ⟨-, -, receipt, -, rfl, hverified⟩ := h
    exact ⟨hverified, rfl, rfl⟩

end SubmittedIt.Extension
