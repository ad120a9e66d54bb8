/-
SubmittedIt/DemoService.lean

The demo filing service (apps/web/lib/demo/service.ts) and its authority
(authority.ts).

`DemoPlatform` names what the service is given: the two hash functions, the
event parser, the authority's key and the verification of its signatures.
Nothing is assumed of them unless a statement says so.  `DemoOp` lists what
the service awaits, or takes from outside: random bytes, the clock and the
database.  A transaction's own random bytes and clock reading are part of the
environment's answer to it.
-/
import SubmittedIt.DemoDatabase

namespace SubmittedIt.Demo

open Transaction ReceiptCore
open Relay (DbOutcome Digest encodeBase64Url isRelayOpaqueId)

/-- What the service is given. -/
structure DemoPlatform (Raw : Type) where
  /-- `sha256Hex`. -/
  sha256 : Text → Digest
  keccak : Keccak
  /-- `parseEventCore`. -/
  parseEventCore : Raw → Except ProtocolError LifecycleEventCore
  /-- The authority's key. -/
  publicKey : PublicKeyDescriptor
  /-- `verifyBytes`, on the preimage of a payload. -/
  verifies : PublicKeyDescriptor → AuthoritySignaturePayload → Text → Bool
  processingDelayMs : Nat

/-! ### Views -/

/-- `DemoPersistedAcknowledgment`; its authority is always the demo's. -/
structure DemoPersistedAcknowledgment where
  acknowledgedAt : Timestamp
  outcome : TerminalOutcome
  reason : Option Text
  reference : Text
  deriving DecidableEq

/-- `DemoSubmissionView`. -/
structure DemoSubmissionView where
  acknowledgment : Option DemoPersistedAcknowledgment
  filing : DemoSubmissionInput
  createdAt : Timestamp
  processingReadyAt : Timestamp
  queuedAt : Timestamp
  scenarioLabel : String
  status : DemoDatabaseStatus
  submissionReference : Text
  updatedAt : Timestamp
  deriving DecidableEq

/-- A text that JavaScript takes for true. -/
def truthy (text : Option Text) : Bool := text.any fun t => t ≠ []

/-- The view of a row whose acknowledgment is known. -/
def SubmissionRow.view (row : SubmissionRow)
    (acknowledgment : Option DemoPersistedAcknowledgment) : DemoSubmissionView where
  acknowledgment := acknowledgment
  filing := row.filing
  createdAt := row.createdAt
  processingReadyAt := row.processingReadyAt
  queuedAt := row.queuedAt
  scenarioLabel := DEMO_SCENARIO_LABELS row.filing.scenario
  status := row.currentStatus
  submissionReference := row.submissionReference
  updatedAt := row.updatedAt

/-- The acknowledgment of a row in a terminal status. -/
def terminalAcknowledgment (row : SubmissionRow) (outcome : TerminalOutcome) :
    Except DemoError DemoPersistedAcknowledgment :=
  match row.authorityReference, row.acknowledgedAt with
  | some reference, some acknowledgedAt =>
    if row.terminalOutcome ≠ some outcome ∨ reference = [] ∨
        (outcome = .rejected ∧ truthy row.rejectionReason = false) ∨
        (outcome = .accepted ∧ truthy row.rejectionReason = true) then
      .error (.internal "Stored terminal demo outcome is incomplete.")
    else .ok ⟨acknowledgedAt, outcome, row.rejectionReason.filter fun t => t ≠ [], reference⟩
  | _, _ => .error (.internal "Stored terminal demo outcome is incomplete.")

/-- `toSubmissionView`. -/
def toSubmissionView (row : SubmissionRow) : Except DemoError DemoSubmissionView := do
  revertIf (row.authorityId ≠ DEMO_AUTHORITY_ID)
    (.internal "Stored demo submission identity or certification is invalid.")
  match row.currentStatus with
  | .accepted => return row.view (some (← terminalAcknowledgment row .accepted))
  | .rejected => return row.view (some (← terminalAcknowledgment row .rejected))
  | .queued | .pending =>
    revertIf (row.terminalOutcome ≠ none ∨ truthy row.authorityReference = true ∨
        truthy row.rejectionReason = true ∨ row.acknowledgedAt ≠ none)
      (.internal "Stored nonterminal demo submission contains terminal data.")
    return row.view none

/-! ### Signatures -/

/-- The acknowledgment of an authority event, with the outcome its stage
names. -/
def authorityAcknowledgment (core : LifecycleEventCore) :
    Option (TerminalOutcome × AuthorityAcknowledgment) :=
  match core.body with
  | .authorityAccepted acknowledgment => some (.accepted, acknowledgment)
  | .authorityRejected acknowledgment => some (.rejected, acknowledgment)
  | _ => none

/-- `DemoReceiptBoundSignature`. -/
structure DemoReceiptBoundSignature where
  outcome : TerminalOutcome
  authorityAcknowledgment : AuthorityAcknowledgment
  authorityPublicKey : PublicKeyDescriptor
  authoritySignature : SignatureEnvelope
  eventHash : HashHex
  deriving DecidableEq

section platform

variable {Raw : Type} (P : DemoPlatform Raw)

/-- `createAuthoritySignaturePayload` of the event that a core makes. -/
def signaturePayload (core : LifecycleEventCore) (acknowledgment : AuthorityAcknowledgment) :
    AuthoritySignaturePayload where
  authorityId := acknowledgment.authorityId
  eventHash := hashEventCore P.keccak core
  receiptId := core.receiptId
  schemaVersion := core.schemaVersion
  stage := core.stage

/-- `hashAuthoritySignaturePayload`. -/
def hashAuthoritySignaturePayload (core : LifecycleEventCore)
    (acknowledgment : AuthorityAcknowledgment) : HashHex :=
  P.keccak (.authoritySignature (signaturePayload P core acknowledgment))

/-- `verifyDemoAuthoritySignature`. -/
def verifyDemoAuthoritySignature (core : LifecycleEventCore) (eventHash : HashHex)
    (signature : SignatureEnvelope) (publicKey : PublicKeyDescriptor) : Bool :=
  match authorityAcknowledgment core with
  | none => false
  | some (_, acknowledgment) =>
    hashEventCore P.keccak core = eventHash && signature.keyId = publicKey.keyId &&
      signature.payloadHash = hashAuthoritySignaturePayload P core acknowledgment &&
      P.verifies publicKey (signaturePayload P core acknowledgment) signature.signature

/-- `signEventCore`, for the signature that the private key gives. -/
def signEventCore (core : LifecycleEventCore) (signature : Text) :
    Except DemoError DemoReceiptBoundSignature :=
  match authorityAcknowledgment core with
  | none =>
    .error (.internal "The demo authority signs only Accepted or Rejected event cores.")
  | some (outcome, acknowledgment) =>
    let envelope : SignatureEnvelope :=
      ⟨P.publicKey.keyId, hashAuthoritySignaturePayload P core acknowledgment, signature⟩
    let eventHash := hashEventCore P.keccak core
    if verifyDemoAuthoritySignature P core eventHash envelope P.publicKey = false then
      .error (.internal "The generated demo authority signature did not verify.")
    else .ok ⟨outcome, acknowledgment, P.publicKey, envelope, eventHash⟩

/-- `toStoredSignature`. -/
def toStoredSignature (row : SignatureRow) : Except DemoError DemoReceiptBoundSignature :=
  match authorityAcknowledgment row.eventCore with
  | none =>
    .error (.internal "Stored authority signature is not attached to an authority event.")
  | some (outcome, acknowledgment) =>
    if row.eventHash ≠ hashEventCore P.keccak row.eventCore ∨
        row.authoritySignature.payloadHash ≠ row.payloadHash ∨
        row.eventCore.receiptId ≠ row.receiptId ∨
        row.eventCore.previousEventHash ≠ row.previousEventHash ∨
        verifyDemoAuthoritySignature P row.eventCore row.eventHash row.authoritySignature
          row.authorityPublicKey = false then
      .error (.internal "Stored authority signature failed its integrity check.")
    else .ok ⟨outcome, acknowledgment, row.authorityPublicKey, row.authoritySignature,
      row.eventHash⟩

def notFound : DemoError :=
  .portal "NOT_FOUND" "No demo submission is available for that identifier." 404

/-- The row that the insert statement of the signing transaction names. -/
def DemoReceiptBoundSignature.row (signed : DemoReceiptBoundSignature) (submissionId : Nat)
    (core : LifecycleEventCore) (now : Timestamp) : SignatureRow where
  submissionId := submissionId
  receiptId := core.receiptId
  previousEventHash := core.previousEventHash
  eventCore := core
  eventHash := signed.eventHash
  payloadHash := signed.authoritySignature.payloadHash
  authoritySignature := signed.authoritySignature
  authorityPublicKey := signed.authorityPublicKey
  signedAt := now

/-- The transaction of `signTerminalAcknowledgment`. -/
def signTransaction (hash : Digest) (core : LifecycleEventCore) (signature : Text)
    (now : Timestamp) (db : DemoDb) : Except DemoError (DemoReceiptBoundSignature × DemoDb) :=
  match db.byTokenHash hash with
  | none => .error notFound
  | some submission =>
    match db.signatureOf submission.id with
    | some existing => do
      revertIf (existing.eventHash ≠ hashEventCore P.keccak core)
        (.portal "ACKNOWLEDGMENT_ALREADY_BOUND"
          "This terminal acknowledgment is already bound to a different receipt event." 409)
      let stored ← toStoredSignature P existing
      return (stored, db)
    | none => do
      let signed ← signEventCore P core signature
      let db ← insertSignature (signed.row submission.id core now) db
      return (signed, db)

/-! ### Operations -/

inductive DemoOp
  | randomBytes (n : Nat)
  | now
  | create (new : NewSubmission)
  | select (hash : Digest)
  | get (hash : Digest) (now : Timestamp)
  | sign (hash : Digest) (core : LifecycleEventCore)

@[reducible] def DemoOp.Result : DemoOp → Type
  | randomBytes _ => List UInt8
  | now => Timestamp
  | create _ => SubmissionRow
  | select _ => Option SubmissionRow
  | get .. => Option SubmissionRow
  | sign .. => DemoReceiptBoundSignature

/-- The environment's part in an operation: what it returns, or how the
statements fared and what the transaction takes from outside. -/
@[reducible] def DemoOp.Answer : DemoOp → Type
  | randomBytes n => { bytes : List UInt8 // bytes.length = n }
  | now => Timestamp
  | create _ => DbOutcome
  | select _ => DbOutcome
  | get .. => DbOutcome × { bytes : List UInt8 // bytes.length = 12 }
  | sign .. => DbOutcome × Text × Timestamp

/-- Statements under a given outcome of their connection. -/
def underOutcome {α : Type} (outcome : DbOutcome)
    (statements : DemoDb → Except DemoError α × DemoDb) (db : DemoDb) :
    Except DemoError α × DemoDb :=
  match outcome with
  | .acknowledged => statements db
  | .notSent => (.error .database, db)
  | .lost => (.error .database, (statements db).2)

/-- What an operation does to the database, and what it returns, for an answer
of the environment. -/
def executeDemoOp : (o : DemoOp) → o.Answer → DemoDb → Except DemoError o.Result × DemoDb
  | .randomBytes _, bytes, db => (.ok bytes.1, db)
  | .now, now, db => (.ok now, db)
  | .create new, outcome, db => underOutcome outcome (atomically (createTransaction new)) db
  | .select hash, outcome, db => underOutcome outcome (fun db => (.ok (db.byTokenHash hash), db)) db
  | .get hash now, (outcome, bytes), db =>
    underOutcome outcome (atomically (getTransaction hash now bytes.1)) db
  | .sign hash core, (outcome, signature, now), db =>
    underOutcome outcome (atomically (signTransaction P hash core signature now)) db

/-! ### service.ts -/

abbrev DemoProgram := Prog DemoOp DemoOp.Result DemoError

/-- `isDemoLookupToken`. -/
def isDemoLookupToken (value : Text) : Bool := isRelayOpaqueId value

/-- `createSubmission`. -/
def createSubmission (input : DemoSubmissionInput) : DemoProgram (Text × DemoSubmissionView) := do
  let tokenBytes : List UInt8 ← .perform (DemoOp.randomBytes 32)
  let lookupToken := encodeBase64Url tokenBytes
  let referenceBytes : List UInt8 ← .perform (DemoOp.randomBytes 10)
  let queuedAt : Timestamp ← .perform DemoOp.now
  let row : SubmissionRow ← .perform (DemoOp.create {
    publicTokenHash := P.sha256 lookupToken
    submissionReference := createSubmissionReference referenceBytes
    input
    queuedAt
    processingReadyAt := queuedAt + P.processingDelayMs })
  let submission ← .ofExcept (toSubmissionView row)
  return (lookupToken, submission)

/-- The view of a row that was looked up. -/
def viewFound : Option SubmissionRow → Except DemoError (Option DemoSubmissionView)
  | none => .ok none
  | some row => do return some (← toSubmissionView row)

/-- `readSubmission`. -/
def readSubmission (lookupToken : Text) : DemoProgram (Option DemoSubmissionView) := do
  if isDemoLookupToken lookupToken = false then return none
  let row : Option SubmissionRow ← .perform (DemoOp.select (P.sha256 lookupToken))
  .ofExcept (viewFound row)

/-- `getSubmission`. -/
def getSubmission (lookupToken : Text) : DemoProgram (Option DemoSubmissionView) := do
  if isDemoLookupToken lookupToken = false then return none
  let now : Timestamp ← .perform DemoOp.now
  let row : Option SubmissionRow ← .perform (DemoOp.get (P.sha256 lookupToken) now)
  .ofExcept (viewFound row)

def mismatch (code publicMessage : String) : DemoError := .portal code publicMessage 409

/-- The parse of a proposed event core. -/
def parseProposed (input : Raw) : Except DemoError LifecycleEventCore :=
  match P.parseEventCore input with
  | .ok core => .ok core
  | .error e =>
    if e.code = "AUTHORITY_OUTCOME_MISMATCH" then
      .error (mismatch "MISMATCHED_OUTCOME"
        "The proposed outcome does not match its authority stage.")
    else
      .error (.portal "MALFORMED_EVENT_CORE"
        "The proposed event core does not satisfy the SubmittedIt receipt protocol." 400)

/-- The checks of a proposed event core against the persisted acknowledgment. -/
def checkProposed (core : LifecycleEventCore) (stored : DemoPersistedAcknowledgment) :
    Except DemoError Unit := do
  let some (outcome, proposed) := authorityAcknowledgment core
    | .error (mismatch "MISMATCHED_STAGE"
        "The fictional authority signs only terminal authority event cores.")
  let expectedStage : EventStage :=
    if stored.outcome = .accepted then .authorityAccepted else .authorityRejected
  revertIf (core.stage ≠ expectedStage) (mismatch "MISMATCHED_STAGE"
    "The proposed authority stage does not match the persisted demo outcome.")
  revertIf (outcome ≠ stored.outcome) (mismatch "MISMATCHED_OUTCOME"
    "The proposed authority outcome does not match the persisted demo outcome.")
  revertIf (proposed.authorityId ≠ DEMO_AUTHORITY_ID) (mismatch "MISMATCHED_AUTHORITY_ID"
    "The proposed authority identifier does not match this fictional authority.")
  revertIf (proposed.acknowledgedAt ≠ stored.acknowledgedAt)
    (mismatch "MISMATCHED_ACKNOWLEDGMENT_TIME"
      "The proposed acknowledgment time does not match the persisted outcome.")
  revertIf (core.occurredAt ≠ stored.acknowledgedAt) (mismatch "MISMATCHED_EVENT_CORE"
    "The proposed event occurrence time does not match the persisted acknowledgment.")
  revertIf (proposed.reference ≠ some stored.reference) (mismatch "MISMATCHED_AUTHORITY_REFERENCE"
    "The proposed fictional authority reference does not match the persisted outcome.")
  revertIf (proposed.reason ≠ stored.reason) (mismatch "MISMATCHED_REJECTION_REASON"
    "The proposed rejection reason does not match the persisted outcome.")
  revertIf (core.schemaVersion ≠ CURRENT_SCHEMA_VERSION ∨ core.receiptId = ZERO_HASH ∨
    core.previousEventHash = ZERO_HASH) (mismatch "MISMATCHED_EVENT_CORE"
      "The proposed event core must use the current schema and nonzero receipt linkage.")

/-- `signTerminalAcknowledgment`. -/
def signTerminalAcknowledgment (lookupToken : Text) (eventCoreInput : Raw) :
    DemoProgram DemoReceiptBoundSignature := do
  if isDemoLookupToken lookupToken = false then
    .throw (.portal "MALFORMED_TOKEN" "The demo submission identifier is malformed." 400)
  let submission ← getSubmission P lookupToken
  match submission with
  | none => .throw notFound
  | some submission =>
    match submission.acknowledgment with
    | none => .throw (mismatch "ACKNOWLEDGMENT_NOT_AVAILABLE"
        "A queued or pending demo submission cannot receive an authority signature.")
    | some stored =>
      let core ← .ofExcept (parseProposed P eventCoreInput)
      .ofExcept (checkProposed core stored)
      let result ← (Prog.perform (DemoOp.sign (P.sha256 lookupToken) core) :
        DemoProgram DemoReceiptBoundSignature).attempt
      match result with
      | .ok signed => return signed
      | .error e =>
        if e = .uniqueViolation then
          .throw (mismatch "RECEIPT_ALREADY_BOUND"
            "That receipt identifier is already bound to another demo acknowledgment.")
        else .throw e

end platform

end SubmittedIt.Demo
