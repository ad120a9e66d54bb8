/-
SubmittedIt/PrivateReceipt.lean

Signed receipts and their encryption (packages/receipt-core/src/lifecycle.ts,
apps/extension/lib: crypto.ts, private-receipt.ts, encrypted-receipt.ts).

Signing and encrypting draw random values; a function that does so takes the
number of its draw.  A verified bundle is returned as it was given, so
`Verified` says what verification checks and `verify_eq_ok` that it changes
nothing.  The functions here are those of the storage, on typed values; that
they accept what the parsers of unknown values accept is shown in
TypedReceipts.lean.
-/
import SubmittedIt.StorageSchema

namespace SubmittedIt.Extension

open Transaction ReceiptCore

def MAX_EXPORT_PACKAGE_BYTES : Nat := 1024 * 1024

/-! ### Receipts -/

/-- `checkPassed`. -/
def checkPassed (verification : VerificationState) (name : VerificationCheckName) : Bool :=
  verification.checks.any fun check => check.check = name && check.result = .passed

/-- A check's name as the source spells it. -/
def checkNameText : VerificationCheckName → String
  | .decryption => "DECRYPTION"
  | .schema => "SCHEMA"
  | .eventHash => "EVENT_HASH"
  | .eventLink => "EVENT_LINK"
  | .extensionSignature => "EXTENSION_SIGNATURE"
  | .authoritySignature => "AUTHORITY_SIGNATURE"
  | .chainAnchor => "CHAIN_ANCHOR"

def verificationResultText : VerificationResult → String
  | .notVerified => "NOT_VERIFIED"
  | .verified => "VERIFIED"
  | .failed => "FAILED"

def derivedStatusText : DerivedReceiptStatus → String
  | .prepared => "PREPARED"
  | .pendingAcceptance => "PENDING_ACCEPTANCE"
  | .accepted => "ACCEPTED"
  | .rejected => "REJECTED"
  | .verificationFailed => "VERIFICATION_FAILED"

/-- `requirePassedCheck`, at the path all its callers give. -/
def requirePassedCheck (verification : VerificationState) (name : VerificationCheckName) :
    Except ProtocolError Unit :=
  revertIf (checkPassed verification name = false)
    ⟨"MISSING_VERIFICATION_CHECK", "VERIFIED requires a passed " ++ checkNameText name ++ " check.",
      "$.verification.checks"⟩

/-- `deriveReceiptStatus`. -/
def deriveReceiptStatus (stage : LifecycleStage) (verification : VerificationState) :
    DerivedReceiptStatus :=
  let structural := verification.result = .verified && checkPassed verification .schema
    && checkPassed verification .eventHash && checkPassed verification .eventLink
    && checkPassed verification .authoritySignature
  if verification.result = .failed then .verificationFailed
  else match stage with
  | .none => .prepared
  | .entered .authorityAccepted => if structural then .accepted else .pendingAcceptance
  | .entered .authorityRejected => if structural then .rejected else .pendingAcceptance
  | .entered .attempted => .pendingAcceptance
  | .entered .siteConfirmed => .pendingAcceptance

/-- The loop of `parseVerificationState` that looks for a check named twice. -/
def assertDistinctChecks (path : String) (names : List VerificationCheckName) :
    List VerificationCheck → Except ProtocolError Unit
  | [] => pure ()
  | check :: checks => do
    revertIf (check.check ∈ names)
      ⟨"DUPLICATE_VERIFICATION_CHECK",
        "contains duplicate check " ++ checkNameText check.check ++ ".", path ++ ".checks"⟩
    assertDistinctChecks path (check.check :: names) checks

/-- `parseVerificationState`, on checks in canonical order. -/
def parseVerificationState (value : VerificationState) (path : String) :
    Except ProtocolError Unit := do
  assertDistinctChecks path [] value.checks
  let hasFailure := value.checks.any fun check => check.result = .failed
  let allPassed := value.checks ≠ [] && value.checks.all fun check => check.result = .passed
  revertIf (value.result = .failed ∧ hasFailure = false)
    ⟨"VERIFICATION_STATE_MISMATCH", "FAILED requires a failed check.", path⟩
  revertIf (value.result = .verified ∧ allPassed = false)
    ⟨"VERIFICATION_STATE_MISMATCH", "VERIFIED requires all checks to pass.", path⟩
  revertIf (value.result = .notVerified ∧ hasFailure = true)
    ⟨"VERIFICATION_STATE_MISMATCH", "NOT_VERIFIED cannot contain a failed check.", path⟩
  revertIf (value.result ≠ .notVerified ∧ value.verifiedAt = none)
    ⟨"MISSING_VERIFICATION_TIME", verificationResultText value.result ++ " requires verifiedAt.",
      path⟩

/-- `createExtensionSignaturePayload`, of a correctly hashed event. -/
def createExtensionSignaturePayload (event : LifecycleEventEnvelope) : ExtensionSignaturePayload :=
  ⟨event.eventHash, event.core.receiptId, event.core.schemaVersion, event.core.stage⟩

/-- `createAuthoritySignaturePayload`, of a correctly hashed event. -/
def createAuthoritySignaturePayload (event : LifecycleEventEnvelope) :
    Option AuthoritySignaturePayload :=
  match event.core.body with
  | .authorityAccepted acknowledgment | .authorityRejected acknowledgment =>
    some ⟨acknowledgment.authorityId, event.eventHash, event.core.receiptId,
      event.core.schemaVersion, event.core.stage⟩
  | .attempted _ | .siteConfirmed _ => none

section receipt

variable (P : StoragePlatform)

/-- `validateEnvelopePayloads`. -/
def validateEnvelopePayloads (event : LifecycleEventEnvelope) (extensionKeyId : Text)
    (path : String) : Except ProtocolError Unit := do
  (match event.extensionSignature with
  | none => .ok ()
  | some signature => do
    revertIf (signature.keyId ≠ extensionKeyId)
      ⟨"EXTENSION_KEY_MISMATCH", "extension signature keyId must match extensionPublicKey.keyId.",
        path ++ ".extensionSignature.keyId"⟩
    revertIf (signature.payloadHash ≠
        P.keccak (.extensionSignature (createExtensionSignaturePayload event)))
      ⟨"SIGNATURE_PAYLOAD_MISMATCH", "extension signature payloadHash is incorrect.",
        path ++ ".extensionSignature.payloadHash"⟩)
  match event.authoritySignature with
  | none => .ok ()
  | some signature =>
    match createAuthoritySignaturePayload event with
    | none => .error ⟨"AUTHORITY_PAYLOAD_STAGE",
        "authority signature payloads require an authority event.", "$.core.stage"⟩
    | some payload =>
      revertIf (signature.payloadHash ≠ P.keccak (.authoritySignature payload))
        ⟨"SIGNATURE_PAYLOAD_MISMATCH", "authority signature payloadHash is incorrect.",
          path ++ ".authoritySignature.payloadHash"⟩

/-- The loop of `validateReceipt` over the events. -/
def validateReceiptEvents (receipt : Receipt) :
    Nat → List LifecycleEventEnvelope → Except ProtocolError Unit
  | _, [] => pure ()
  | index, event :: events => do
    let path := "$.events[" ++ toString index ++ "]"
    revertIf (event.core.receiptId ≠ receipt.receiptId)
      ⟨"RECEIPT_ID_MISMATCH", "event receiptId does not match the receipt envelope.",
        path ++ ".core.receiptId"⟩
    revertIf (event.core.schemaVersion ≠ receipt.schemaVersion)
      ⟨"SCHEMA_VERSION_MISMATCH", "event schemaVersion does not match the receipt envelope.",
        path ++ ".core.schemaVersion"⟩
    validateEnvelopePayloads P event receipt.extensionPublicKey.keyId path
    validateReceiptEvents receipt (index + 1) events

/-- The checks that `validateReceipt` requires of a verified receipt. -/
def requireVerifiedChecks (receipt : Receipt) (stage : LifecycleStage) :
    Except ProtocolError Unit := do
  let require := fun (condition : Bool) (name : VerificationCheckName) =>
    if condition then requirePassedCheck receipt.verification name else .ok ()
  require true .schema
  require true .eventHash
  require true .eventLink
  require (receipt.events.any fun event => event.extensionSignature.isSome) .extensionSignature
  require (receipt.events.any fun event => event.chainAnchor.isSome) .chainAnchor
  require (stage = .entered .authorityAccepted || stage = .entered .authorityRejected)
    .authoritySignature

/-- `validateReceipt`. -/
def validateReceipt (receipt : Receipt) : Except ProtocolError Receipt := do
  parseVerificationState receipt.verification "$.verification"
  let chain ← validateEventChain (Except.ok : Decoder LifecycleEventEnvelope) P.keccak
    receipt.events
  revertIf (chain.receiptId.any fun id => id ≠ receipt.receiptId)
    ⟨"RECEIPT_ID_MISMATCH", "receiptId does not match the linked event chain.", "$.receiptId"⟩
  validateReceiptEvents P receipt 0 receipt.events
  revertIf (receipt.currentStage ≠ chain.currentStage)
    ⟨"CLAIMED_STAGE_MISMATCH", "currentStage " ++ lifecycleStageText receipt.currentStage ++
      " disagrees with recomputed stage " ++ lifecycleStageText chain.currentStage ++ ".",
      "$.currentStage"⟩
  revertIf (receipt.derivedStatus ≠ deriveReceiptStatus chain.currentStage receipt.verification)
    ⟨"CLAIMED_STATUS_MISMATCH", "derivedStatus " ++ derivedStatusText receipt.derivedStatus ++
      " disagrees with recomputed status " ++
      derivedStatusText (deriveReceiptStatus chain.currentStage receipt.verification) ++ ".",
      "$.derivedStatus"⟩
  revertIf ((chain.currentStage = .entered .authorityAccepted ∨
        chain.currentStage = .entered .authorityRejected) ∧
      (receipt.events.getLast?.bind fun event => event.authoritySignature) = none)
    ⟨"MISSING_AUTHORITY_SIGNATURE",
      "authority lifecycle events require an authority signature envelope.", "$.events"⟩
  (if receipt.verification.result = .verified then
    requireVerifiedChecks receipt chain.currentStage else .ok ())
  return receipt

/-- `createReceipt`. -/
def createReceipt (createdAt : Timestamp) (events : List LifecycleEventEnvelope)
    (extensionPublicKey : PublicKeyDescriptor) (receiptId : ReceiptId)
    (schemaVersion : SchemaVersion) (verification : VerificationState) :
    Except ProtocolError Receipt := do
  let chain ← validateEventChain (Except.ok : Decoder LifecycleEventEnvelope) P.keccak events
  validateReceipt P {
    createdAt, events, extensionPublicKey, receiptId, schemaVersion, verification
    currentStage := chain.currentStage
    derivedStatus := deriveReceiptStatus chain.currentStage verification }

/-! ### Signatures -/

/-- `verifyExtensionEventSignature`. -/
def verifyExtensionEventSignature (event : LifecycleEventEnvelope) (key : PublicKeyDescriptor) :
    Bool :=
  match event.extensionSignature with
  | none => false
  | some signature =>
    let payload := createExtensionSignaturePayload event
    signature.keyId = key.keyId && event.eventHash = hashEventCore P.keccak event.core
      && signature.payloadHash = P.keccak (.extensionSignature payload)
      && P.verifyBytes payload signature.signature key

/-- `signExtensionEvent`. -/
def signExtensionEvent (event : LifecycleEventEnvelope) (identity : InstallationIdentityRecord)
    (draw : Nat) : Except StorageError LifecycleEventEnvelope :=
  if event.core.stage ≠ .attempted ∧ event.core.stage ≠ .siteConfirmed then
    .error (.failure "The local extension signs only Attempted and Site confirmed events.")
  else if event.authoritySignature ≠ none ∨ event.chainAnchor ≠ none then
    .error (.failure "The extension refused to sign an event with unrelated evidence attached.")
  else if event.eventHash ≠ hashEventCore P.keccak event.core then
    .error (.failure "Stored event hash does not match its canonical core.")
  else if event.extensionSignature ≠ none then
    if verifyExtensionEventSignature P event identity.publicKey then .ok event
    else .error (.failure "The event already contains an invalid extension signature.")
  else
    let payload := createExtensionSignaturePayload event
    let signed := { event with
      extensionSignature := some {
        keyId := identity.publicKey.keyId
        payloadHash := P.keccak (.extensionSignature payload)
        signature := P.sign identity.privateKey draw payload } }
    if verifyExtensionEventSignature P signed identity.publicKey then .ok signed
    else .error (.failure "The generated extension signature did not verify.")

/-! ### Private receipt bundles -/

/-- `operationalEvents`. -/
def operationalEvents (receipt : StoredAttemptReceipt) : List LifecycleEventEnvelope :=
  receipt.event :: receipt.siteConfirmationEvent.toList

/-- `withoutExtensionSignature`. -/
def withoutExtensionSignature (event : LifecycleEventEnvelope) : LifecycleEventEnvelope :=
  { event with extensionSignature := none, chainAnchor := none }

/-- `expectedVerificationChecks`. -/
def expectedVerificationChecks (events : List LifecycleEventEnvelope) : List VerificationCheck :=
  (if events.any fun event => event.chainAnchor.isSome then [⟨.chainAnchor, none, .passed⟩]
    else []) ++
  [⟨.eventHash, none, .passed⟩, ⟨.eventLink, none, .passed⟩,
    ⟨.extensionSignature, none, .passed⟩, ⟨.schema, none, .passed⟩]

/-- `verificationState`. -/
def verificationState (timestamp : Timestamp) (events : List LifecycleEventEnvelope) :
    VerificationState :=
  ⟨expectedVerificationChecks events, .verified, some timestamp⟩

/-- `receiptMatchesOperational`. -/
def receiptMatchesOperational (receipt : Receipt) (operational : StoredAttemptReceipt) : Bool :=
  receipt.receiptId = operational.receiptId && receipt.createdAt = operational.capturedAt
    && receipt.currentStage = .entered operational.currentStage.toEventStage
    && receipt.derivedStatus = .pendingAcceptance
    && receipt.events.map withoutExtensionSignature = operationalEvents operational

/-- Errors of the receipt package, thrown on. -/
def liftProtocol {α : Type} : Except ProtocolError α → Except StorageError α
  | .ok a => .ok a
  | .error e => .error (.protocol e)

/-- `parsePrivateReceiptBundle`. -/
def parsePrivateReceiptBundle (bundle : PrivateReceiptBundle) :
    Except StorageError PrivateReceiptBundle := do
  revertIf (parseStoredAttemptReceipt P bundle.operational = false)
    (.failure "The private receipt bundle contains invalid operational evidence.")
  let receipt ← liftProtocol (validateReceipt P bundle.receipt)
  revertIf (receiptMatchesOperational receipt bundle.operational = false)
    (.failure "The signed receipt does not match its preserved operational evidence.")
  revertIf ((receipt.events.any fun event =>
        event.extensionSignature.isNone || event.authoritySignature.isSome) = true ∨
      receipt.verification.result ≠ .verified ∨
      (receipt.verification.checks.map fun check => (check.check, check.result)) ≠
        (expectedVerificationChecks receipt.events).map fun check => (check.check, check.result))
    (.failure "The private receipt bundle lacks complete local signature verification.")
  return bundle

/-- `verifyPrivateReceiptBundle`. -/
def verifyPrivateReceiptBundle (bundle : PrivateReceiptBundle) :
    Except StorageError PrivateReceiptBundle := do
  let bundle ← parsePrivateReceiptBundle P bundle
  let _ ← liftProtocol (validateEventChain (Except.ok : Decoder LifecycleEventEnvelope) P.keccak
    bundle.receipt.events)
  revertIf ((bundle.receipt.events.all fun event =>
      verifyExtensionEventSignature P event bundle.receipt.extensionPublicKey) = false)
    (.failure "An extension event signature did not verify.")
  return bundle

/-- The loop of `signedEventsForOperational`. -/
def signEvents (existing : Option PrivateReceiptBundle) (identity : InstallationIdentityRecord)
    (draw : Nat) :
    List LifecycleEventEnvelope → Except StorageError (List LifecycleEventEnvelope)
  | [] => pure []
  | event :: events => do
    let prior := existing.bind fun bundle =>
      (bundle.receipt.events.find? fun prior => prior.eventHash = event.eventHash).filter
        fun prior => withoutExtensionSignature prior = event
          && verifyExtensionEventSignature P prior bundle.receipt.extensionPublicKey
    let signed ← match prior with
      | some prior => pure prior
      | none => signExtensionEvent P event identity draw
    return signed :: (← signEvents existing identity draw events)

/-- `createOrUpdatePrivateReceiptBundle`. -/
def createOrUpdatePrivateReceiptBundle (operational : StoredAttemptReceipt)
    (identity : InstallationIdentityRecord) (existing : Option PrivateReceiptBundle)
    (draw : Nat) (verifiedAt : Timestamp) : Except StorageError PrivateReceiptBundle := do
  revertIf (parseStoredAttemptReceipt P operational = false)
    (.failure "SubmittedIt refused to secure invalid operational receipt evidence.")
  let fresh : Except StorageError PrivateReceiptBundle := do
    let events ← signEvents P existing identity draw (operationalEvents operational)
    let receipt ← liftProtocol (createReceipt P operational.capturedAt events identity.publicKey
      operational.receiptId operational.event.core.schemaVersion
      (verificationState verifiedAt events))
    verifyPrivateReceiptBundle P { operational, receipt, ownership := .local }
  match existing with
  | none => fresh
  | some existing => do
    let existing ← verifyPrivateReceiptBundle P existing
    revertIf (existing.operational.receiptId ≠ operational.receiptId)
      (.failure "SubmittedIt refused a cross-receipt encrypted update.")
    if existing.operational = operational then return existing
    revertIf (existing.ownership = .imported)
      (.failure
        "Imported receipts are read-only because their original signing key was not imported.")
    revertIf (existing.receipt.extensionPublicKey ≠ identity.publicKey)
      (.failure "The current installation cannot sign as the receipt's original identity.")
    fresh

/-- The events with an anchor on the first one with a hash. -/
def attachAnchor (eventHash : HashHex) (chainAnchor : ChainAnchorMetadata) :
    List LifecycleEventEnvelope → List LifecycleEventEnvelope
  | [] => []
  | event :: events =>
    if event.eventHash = eventHash then { event with chainAnchor := some chainAnchor } :: events
    else event :: attachAnchor eventHash chainAnchor events

/-- `attachVerifiedChainAnchor`. -/
def attachVerifiedChainAnchor (bundle : PrivateReceiptBundle) (eventHash : HashHex)
    (chainAnchor : ChainAnchorMetadata) (verifiedAt : Timestamp) :
    Except StorageError PrivateReceiptBundle := do
  let bundle ← verifyPrivateReceiptBundle P bundle
  match bundle.receipt.events.find? fun event => event.eventHash = eventHash with
  | none => .error (.failure
      "The independently verified anchor does not belong to this receipt.")
  | some event => do
    revertIf (event.chainAnchor ≠ none ∧ event.chainAnchor ≠ some chainAnchor)
      (.failure "A verified event anchor is immutable once saved.")
    let events := attachAnchor eventHash chainAnchor bundle.receipt.events
    let receipt ← liftProtocol (createReceipt P bundle.receipt.createdAt events
      bundle.receipt.extensionPublicKey bundle.receipt.receiptId bundle.receipt.schemaVersion
      (verificationState verifiedAt events))
    verifyPrivateReceiptBundle P { bundle with receipt }

/-- The confirmation context an import leaves. -/
def supersedeContext (operational : StoredAttemptReceipt) : StoredAttemptReceipt :=
  { operational with
    confirmationContext := operational.confirmationContext.map fun context =>
      { context with status := .superseded } }

/-- `importedPrivateReceiptBundle`; the input is `none` where it is no bundle
at all. -/
def importedPrivateReceiptBundle (input : Option PrivateReceiptBundle)
    (currentPublicKey : Option PublicKeyDescriptor) :
    Except StorageError PrivateReceiptBundle := do
  match input with
  | none => .error (.failure "Encrypted receipt plaintext must be a private receipt bundle.")
  | some bundle => do
    let verified ← verifyPrivateReceiptBundle P bundle
    revertIf ((verified.receipt.events.any fun event => event.chainAnchor.isSome) = true)
      (.failure
        "Imported chain-anchor claims require independent public verification before persistence.")
    verifyPrivateReceiptBundle P {
      operational := supersedeContext verified.operational
      ownership :=
        if currentPublicKey = some verified.receipt.extensionPublicKey then .local else .imported
      receipt := verified.receipt }

/-! ### Encrypted envelopes -/

/-- `parseEncryptedReceiptEnvelope`. -/
def parseEncryptedReceiptEnvelope (envelope : EncryptedReceiptEnvelope P) :
    Except StorageError (EncryptedReceiptEnvelope P) := do
  revertIf (envelope.authenticatedMetadata.extensionKeyId.length < 16)
    (.failure "Encrypted receipt metadata is malformed or unsupported.")
  revertIf (P.byteLength envelope.ciphertext < 16 ∨
      P.byteLength envelope.ciphertext > MAX_EXPORT_PACKAGE_BYTES)
    (.failure "$.ciphertext is truncated or exceeds the encrypted-receipt limit.")
  return envelope

/-- The metadata an envelope of a bundle authenticates. -/
def envelopeMetadata (bundle : PrivateReceiptBundle) (blobId : OpaqueId) :
    EncryptedReceiptMetadata where
  blobId := blobId
  extensionKeyId := bundle.receipt.extensionPublicKey.keyId
  receiptId := bundle.receipt.receiptId
  receiptSchemaVersion := bundle.receipt.schemaVersion

/-- The envelope of a bundle; its blob identifier and its nonce are one random
draw. -/
def sealBundle (bundle : PrivateReceiptBundle) (key : CryptoKey) (blobId : OpaqueId) :
    EncryptedReceiptEnvelope P where
  authenticatedMetadata := envelopeMetadata bundle blobId
  ciphertext := P.encrypt key blobId (envelopeMetadata bundle blobId) bundle
  iv := blobId

/-- `encryptPrivateReceiptBundle`. -/
def encryptPrivateReceiptBundle (bundle : PrivateReceiptBundle) (key : CryptoKey)
    (blobId : OpaqueId) : Except StorageError (EncryptedReceiptEnvelope P) := do
  let bundle ← verifyPrivateReceiptBundle P bundle
  parseEncryptedReceiptEnvelope P (sealBundle P bundle key blobId)

/-- `decryptPrivateReceiptEnvelope`. -/
def decryptPrivateReceiptEnvelope (envelope : EncryptedReceiptEnvelope P) (key : CryptoKey) :
    Except StorageError PrivateReceiptBundle := do
  let envelope ← parseEncryptedReceiptEnvelope P envelope
  match P.decrypt key envelope.iv envelope.authenticatedMetadata envelope.ciphertext with
  | none => .error (.failure "Encrypted receipt authentication failed.")
  | some plaintext => do
    let bundle ← verifyPrivateReceiptBundle P plaintext
    revertIf (bundle.receipt.receiptId ≠ envelope.authenticatedMetadata.receiptId ∨
        bundle.receipt.schemaVersion ≠ envelope.authenticatedMetadata.receiptSchemaVersion ∨
        bundle.receipt.extensionPublicKey.keyId ≠ envelope.authenticatedMetadata.extensionKeyId)
      (.failure "Encrypted receipt metadata does not match its authenticated plaintext.")
    return bundle

end receipt

end SubmittedIt.Extension
