/-
SubmittedIt/DemoDatabase.lean

The tables of the demo filing portal
(apps/web/db/migrations/0001_demo_filing.sql) and the statements and
transactions that apps/web/lib/demo/service.ts runs on them.

The `CHECK` constraints of `demo_submissions` on one row are fields of
`SubmissionRow`, so a statement has to check them to make a row; the unique
constraints are checked by the statements.  A transaction locks the row of
its submission with its first statement and keeps the lock to its end, and
what it writes belongs to that submission, so transactions on one submission
run one after another; each is one operation here.  One that fails leaves no
trace (`atomically`).

A JSON column of `demo_authority_signatures` holds the value that was put in:
what the service reads there are its parsers' own results.
-/
import SubmittedIt.RelayBlobs

namespace SubmittedIt.Demo

open Transaction ReceiptCore
open Relay (DbOutcome Digest charLength)

/-! ### types.ts -/

/-- `DEMO_AUTHORITY_ID`. -/
def DEMO_AUTHORITY_ID : Text := ascii "submittedit-demo-authority"

inductive DemoScenario
  | accepted
  | rejected
  | pending
  deriving DecidableEq, Repr

/-- `DEMO_SCENARIO_LABELS`. -/
def DEMO_SCENARIO_LABELS : DemoScenario → String
  | .accepted => "Accepted after processing"
  | .pending => "No acknowledgment received"
  | .rejected => "Rejected after processing"

inductive DemoDatabaseStatus
  | queued
  | pending
  | accepted
  | rejected
  deriving DecidableEq, Repr

inductive DemoFormType
  | sampleAnnualFiling
  | sampleExtensionRequest
  | sampleCorrection
  deriving DecidableEq, Repr

/-- The values of `terminal_outcome`. -/
inductive TerminalOutcome
  | accepted
  | rejected
  deriving DecidableEq, Repr

def DemoScenario.status : DemoScenario → DemoDatabaseStatus
  | accepted => .accepted
  | rejected => .rejected
  | pending => .pending

def TerminalOutcome.status : TerminalOutcome → DemoDatabaseStatus
  | accepted => .accepted
  | rejected => .rejected

/-- `DemoSubmissionInput`; its certification is always given. -/
structure DemoSubmissionInput where
  claimedAmountCents : Int
  contactEmail : Text
  filerDisplayName : Text
  filingYear : Int
  formType : DemoFormType
  scenario : DemoScenario
  deriving DecidableEq

/-- What an awaited operation of the demo portal can throw. -/
inductive DemoError
  /-- A `DemoPortalError`. -/
  | portal (code publicMessage : String) (status : Nat)
  /-- SQLSTATE 23505. -/
  | uniqueViolation
  /-- The database is unreachable, or refuses the statement otherwise. -/
  | database
  | internal (message : String)
  deriving DecidableEq

/-! ### Rows -/

/-- `demo_submission_outcome_consistency`. -/
def OutcomeConsistency (status : DemoDatabaseStatus) (outcome : Option TerminalOutcome)
    (reference reason : Option Text) (acknowledgedAt : Option Timestamp) : Prop :=
  ((status = .queued ∨ status = .pending) ∧ outcome = none ∧ reference = none ∧ reason = none ∧
      acknowledgedAt = none) ∨
    (status = .accepted ∧ outcome = some .accepted ∧ reference ≠ none ∧ reason = none ∧
      acknowledgedAt ≠ none) ∨
    (status = .rejected ∧ outcome = some .rejected ∧ reference ≠ none ∧ reason ≠ none ∧
      acknowledgedAt ≠ none)

instance (status : DemoDatabaseStatus) (outcome : Option TerminalOutcome)
    (reference reason : Option Text) (acknowledgedAt : Option Timestamp) :
    Decidable (OutcomeConsistency status outcome reference reason acknowledgedAt) := by
  unfold OutcomeConsistency
  infer_instance

/-- The `CHECK` constraints on the columns that come from the form. -/
def DemoSubmissionInput.checked (input : DemoSubmissionInput) : Bool :=
  (2024 ≤ input.filingYear && input.filingYear ≤ 2026) &&
    (0 ≤ input.claimedAmountCents && input.claimedAmountCents ≤ 9999999999) &&
    charLength input.filerDisplayName ≤ 120 && charLength input.contactEmail ≤ 254

/-- A row of `demo_submissions`; `filing` groups the columns that come from the
form. -/
structure SubmissionRow where
  id : Nat
  publicTokenHash : Digest
  submissionReference : Text
  filing : DemoSubmissionInput
  queuedAt : Timestamp
  processingReadyAt : Timestamp
  currentStatus : DemoDatabaseStatus
  terminalOutcome : Option TerminalOutcome
  authorityReference : Option Text
  rejectionReason : Option Text
  acknowledgedAt : Option Timestamp
  authorityId : Text
  version : Nat
  createdAt : Timestamp
  updatedAt : Timestamp
  filing_checked : filing.checked = true
  authority_checked : authorityId = DEMO_AUTHORITY_ID
  time_order : queuedAt ≤ processingReadyAt ∧ createdAt = queuedAt ∧ createdAt ≤ updatedAt
  outcome_consistency : OutcomeConsistency currentStatus terminalOutcome authorityReference
    rejectionReason acknowledgedAt
  deriving DecidableEq

/-- A row of `demo_submission_status_history`. -/
structure StatusHistoryRow where
  submissionId : Nat
  status : DemoDatabaseStatus
  recordedAt : Timestamp
  deriving DecidableEq

/-- A row of `demo_authority_signatures`. -/
structure SignatureRow where
  submissionId : Nat
  receiptId : ReceiptId
  previousEventHash : HashHex
  eventCore : LifecycleEventCore
  eventHash : HashHex
  payloadHash : HashHex
  authoritySignature : SignatureEnvelope
  authorityPublicKey : PublicKeyDescriptor
  signedAt : Timestamp
  deriving DecidableEq

structure DemoDb where
  submissions : List SubmissionRow
  history : List StatusHistoryRow
  signatures : List SignatureRow

namespace DemoDb

/-- The tables as the migration creates them. -/
def empty : DemoDb := ⟨[], [], []⟩

def byTokenHash (db : DemoDb) (hash : Digest) : Option SubmissionRow :=
  db.submissions.find? fun row => row.publicTokenHash = hash

def signatureOf (db : DemoDb) (submissionId : Nat) : Option SignatureRow :=
  db.signatures.find? fun row => row.submissionId = submissionId

/-- The identifier of the next submission: the first one above all in use. -/
def nextId (db : DemoDb) : Nat := (db.submissions.map (·.id)).foldl max 0 + 1

end DemoDb

/-! ### Statements -/

/-- A transaction: one that fails is rolled back. -/
def atomically {α : Type} (body : DemoDb → Except DemoError (α × DemoDb)) (db : DemoDb) :
    Except DemoError α × DemoDb :=
  match body db with
  | .ok (a, db') => (.ok a, db')
  | .error e => (.error e, db)

/-- What `createSubmission` binds to its insert statement. -/
structure NewSubmission where
  publicTokenHash : Digest
  submissionReference : Text
  input : DemoSubmissionInput
  queuedAt : Timestamp
  processingReadyAt : Timestamp

/-- `INSERT INTO demo_submissions`. -/
def insertSubmission (new : NewSubmission) (db : DemoDb) :
    Except DemoError (SubmissionRow × DemoDb) :=
  if h : new.input.checked = true ∧ new.queuedAt ≤ new.processingReadyAt then
    if ∃ row ∈ db.submissions, row.publicTokenHash = new.publicTokenHash ∨
        row.submissionReference = new.submissionReference then .error .uniqueViolation
    else
      let row : SubmissionRow := {
        id := db.nextId
        publicTokenHash := new.publicTokenHash
        submissionReference := new.submissionReference
        filing := new.input
        queuedAt := new.queuedAt
        processingReadyAt := new.processingReadyAt
        currentStatus := .queued
        terminalOutcome := none
        authorityReference := none
        rejectionReason := none
        acknowledgedAt := none
        authorityId := DEMO_AUTHORITY_ID
        version := 1
        createdAt := new.queuedAt
        updatedAt := new.queuedAt
        filing_checked := h.1
        authority_checked := rfl
        time_order := ⟨h.2, rfl, le_rfl⟩
        outcome_consistency := .inl ⟨.inl rfl, rfl, rfl, rfl, rfl⟩ }
      .ok (row, { db with submissions := db.submissions ++ [row] })
  else .error .database

/-- `INSERT INTO demo_submission_status_history`. -/
def recordStatus (submissionId : Nat) (status : DemoDatabaseStatus) (recordedAt : Timestamp)
    (db : DemoDb) : Except DemoError DemoDb :=
  if ∃ row ∈ db.history, row.submissionId = submissionId ∧ row.status = status then
    .error .uniqueViolation
  else .ok { db with history := db.history ++ [⟨submissionId, status, recordedAt⟩] }

/-- `prevent_demo_submission_outcome_rewrite`. -/
def preventOutcomeRewrite (old new : SubmissionRow) : Except DemoError Unit :=
  revertIf (old.currentStatus ≠ .queued ∧
    (new.currentStatus ≠ old.currentStatus ∨ new.terminalOutcome ≠ old.terminalOutcome ∨
      new.authorityReference ≠ old.authorityReference ∨
      new.rejectionReason ≠ old.rejectionReason ∨ new.acknowledgedAt ≠ old.acknowledgedAt ∨
      new.authorityId ≠ old.authorityId ∨ new.queuedAt ≠ old.queuedAt ∨
      new.processingReadyAt ≠ old.processingReadyAt)) .database

/-- The columns that a transition sets. -/
structure StatusUpdate where
  currentStatus : DemoDatabaseStatus
  terminalOutcome : Option TerminalOutcome
  authorityReference : Option Text
  rejectionReason : Option Text
  acknowledgedAt : Option Timestamp
  updatedAt : Timestamp

/-- The row an update makes, when it passes the `CHECK` constraints. -/
def StatusUpdate.apply (update : StatusUpdate) (old : SubmissionRow) :
    Except DemoError SubmissionRow :=
  if h : old.createdAt ≤ update.updatedAt ∧ OutcomeConsistency update.currentStatus
      update.terminalOutcome update.authorityReference update.rejectionReason
      update.acknowledgedAt then
    .ok { old with
      currentStatus := update.currentStatus
      terminalOutcome := update.terminalOutcome
      authorityReference := update.authorityReference
      rejectionReason := update.rejectionReason
      acknowledgedAt := update.acknowledgedAt
      version := old.version + 1
      updatedAt := update.updatedAt
      time_order := ⟨old.time_order.1, old.time_order.2.1, h.1⟩
      outcome_consistency := h.2 }
  else .error .database

/-- `UPDATE demo_submissions SET … WHERE id = … AND current_status = 'QUEUED'
RETURNING …`, with its trigger. -/
def updateQueued (id : Nat) (update : StatusUpdate) (db : DemoDb) :
    Except DemoError (Option SubmissionRow × DemoDb) :=
  match db.submissions.find? fun row => row.id = id && row.currentStatus = .queued with
  | none => .ok (none, db)
  | some old => do
    let new ← update.apply old
    preventOutcomeRewrite old new
    revertIf (∃ row ∈ db.submissions, row.id ≠ id ∧ row.authorityReference ≠ none ∧
      row.authorityReference = new.authorityReference) .uniqueViolation
    return (some new, { db with
      submissions := db.submissions.map fun row => if row.id = id then new else row })

/-- `INSERT INTO demo_authority_signatures`. -/
def insertSignature (row : SignatureRow) (db : DemoDb) : Except DemoError DemoDb :=
  if ∃ r ∈ db.signatures, r.submissionId = row.submissionId ∨ r.receiptId = row.receiptId ∨
      r.eventHash = row.eventHash ∨ r.payloadHash = row.payloadHash then .error .uniqueViolation
  else .ok { db with signatures := db.signatures ++ [row] }

/-! ### Transactions -/

/-- `REJECTION_REASON`. -/
def REJECTION_REASON : Text :=
  ascii "Synthetic validation rule: this sample filing requires supporting review."

/-- `toString("hex").toUpperCase()`. -/
def hexUpper (bytes : List UInt8) : Text :=
  let digit (n : Nat) : UInt16 := if n < 10 then UInt16.ofNat (48 + n) else UInt16.ofNat (55 + n)
  bytes.flatMap fun b => [digit (b.toNat / 16), digit (b.toNat % 16)]

/-- `createSubmissionReference`, for its random bytes. -/
def createSubmissionReference (bytes : List UInt8) : Text := ascii "SIT-DEMO-" ++ hexUpper bytes

/-- `createAuthorityReference`, for its random bytes. -/
def createAuthorityReference (bytes : List UInt8) : Text := ascii "SIT-LAB-ACK-" ++ hexUpper bytes

/-- The transaction of `createSubmission`. -/
def createTransaction (new : NewSubmission) (db : DemoDb) :
    Except DemoError (SubmissionRow × DemoDb) := do
  let (inserted, db) ← insertSubmission new db
  let db ← recordStatus inserted.id .queued new.queuedAt db
  return (inserted, db)

/-- The columns of a submission that leaves the queue. -/
def StatusUpdate.transition (stored : SubmissionRow) (now : Timestamp) (reference : Text) :
    StatusUpdate :=
  match stored.filing.scenario with
  | .pending =>
    ⟨.pending, stored.terminalOutcome, stored.authorityReference, stored.rejectionReason,
      stored.acknowledgedAt, now⟩
  | .accepted => ⟨.accepted, some .accepted, some reference, none, some now, now⟩
  | .rejected => ⟨.rejected, some .rejected, some reference, some REJECTION_REASON, some now, now⟩

/-- The transaction of `getSubmission`: the row, which leaves the queue when it
is time. -/
def getTransaction (hash : Digest) (now : Timestamp) (referenceBytes : List UInt8) (db : DemoDb) :
    Except DemoError (Option SubmissionRow × DemoDb) :=
  match db.byTokenHash hash with
  | none => .ok (none, db)
  | some stored =>
    if stored.currentStatus ≠ .queued ∨ now < stored.processingReadyAt then .ok (some stored, db)
    else do
      let update := StatusUpdate.transition stored now (createAuthorityReference referenceBytes)
      let (some updated, db) ← updateQueued stored.id update db
        | .error (.internal (if stored.filing.scenario = .pending
            then "The pending demo transition did not update a row."
            else "The terminal demo transition did not update a row."))
      let db ← recordStatus stored.id update.currentStatus now db
      return (some updated, db)

end SubmittedIt.Demo
