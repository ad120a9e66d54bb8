/-
SubmittedIt/AnchorService.lean

The relay and the chain that a discarded run of the anchor workflow leaves, and
what resuming the workflow from a stored operation is
(apps/extension/lib/anchor-workflow.ts).

A `Service` answers as the run was answered: the upload, the request, the
discovery and the verification alike, and the status reads in their order, the
last answer from then on.  `LeftBy` says that it is the service of a run, and
`nextStatuses` what is left of the status reads behind one of its events.  An
operation is resumed in wakes that the recovery filter selects.

`Course`, `Requests` and `Uploads` say what the rest of a run does with an
operation, its counters and times apart: how the answers lead it to a decision,
chain evidence or a final failure.  `Onward` puts them together for an operation
that a wake begins with; `congr` carries each of them to an operation that
differs in nothing that decides.
-/
import SubmittedIt.AnchorWorkflow

namespace SubmittedIt.Extension

open ReceiptCore Prog

variable {P : StoragePlatform} {configuration : ExtensionRelayConfiguration}

/-- The events of a workflow. -/
abbrev WorkflowEvent (P : StoragePlatform) :=
  Event (WorkflowOp P) WorkflowOp.Answer AnchorOperations

/-! ### What a run was answered -/

/-- The answer to a status read. -/
def statusAnswer : WorkflowEvent P → Option (Option RelayResponse)
  | ⟨.fetch (.operations _), answer, _⟩ => some answer
  | _ => none

/-- The answers to the status reads of a part of a run. -/
def statusAnswers (log : List (WorkflowEvent P)) : List (Option RelayResponse) :=
  log.filterMap statusAnswer

/-- The row that the relay answered with. -/
def answeredRow : WorkflowEvent P → Option RelayOperationView
  | ⟨.fetch _, answer, _⟩ => answer.bind fun response => response.body.view
  | _ => none

/-- The last row that the relay answered with. -/
def lastRow (log : List (WorkflowEvent P)) : Option RelayOperationView :=
  (log.filterMap answeredRow).getLast?

/-- What the status reads are answered behind a part of a run: what they were
in the rest of the run, or the row that the relay answered with last. -/
def nextStatuses (before after : List (WorkflowEvent P)) : List (Option RelayResponse) :=
  if statusAnswers after = [] then
    ((lastRow before).map fun view => some ⟨200, .operation view⟩).toList
  else statusAnswers after

/-! ### The relay and the chain -/

/-- What a workflow is answered, the status reads apart. -/
structure Service (P : StoragePlatform) where
  now : Timestamp
  artifacts : AnchorRelayArtifacts P
  upload : Option RelayResponse
  request : Option RelayResponse
  verifyAnchor : HashHex → Except WorkflowError VerifiedSubmissionReceiptAnchor
  discoverAnchor : Except WorkflowError (Option DiscoveredHash)

/-- The durable operations, and the answers to the next status reads. -/
abbrev Station := AnchorOperations × List (Option RelayResponse)

/-- The answers after a status read: the last one stays. -/
def advance : List (Option RelayResponse) → List (Option RelayResponse)
  | _ :: next :: rest => next :: rest
  | statuses => statuses

namespace Service

variable (service : Service P)

/-- What the service answers. -/
def answer (statuses : List (Option RelayResponse)) : (o : WorkflowOp P) → o.Answer
  | .now => service.now
  | .pause _ => ()
  | .ensure .. => .ok none
  | .getArtifacts .. => .ok service.artifacts
  | .save _ => .ok ()
  | .confirm .. => .ok ()
  | .fetch (.blobs _) => service.upload
  | .fetch (.events _) => service.request
  | .fetch (.operations _) => statuses.head?.join
  | .verifyAnchor _ _ transactionHash => service.verifyAnchor transactionHash
  | .discoverAnchor _ => service.discoverAnchor

/-- The answers that are left. -/
def left (statuses : List (Option RelayResponse)) : WorkflowOp P → List (Option RelayResponse)
  | .fetch (.operations _) => advance statuses
  | _ => statuses

/-- The workflow's operations, answered by the service. -/
def exec (configuration : ExtensionRelayConfiguration) (o : WorkflowOp P) (s : Station) :
    Except WorkflowError o.Result × Station :=
  let (r, store) := executeWorkflow configuration o (service.answer s.2 o) s.1
  (r, store, left s.2 o)

/-- The service answers as the run was answered. -/
def Agrees : WorkflowEvent P → Prop
  | ⟨.fetch (.blobs _), answer, _⟩ => service.upload = answer
  | ⟨.fetch (.events _), answer, _⟩ => service.request = answer
  | ⟨.verifyAnchor _ _ transactionHash, answer, _⟩ => service.verifyAnchor transactionHash = answer
  | ⟨.discoverAnchor _, answer, _⟩ => service.discoverAnchor = answer
  | ⟨.getArtifacts _ _, answer, _⟩ =>
    ∀ artifacts, answer = .ok artifacts → service.artifacts = artifacts
  | _ => True

/-- The service is the relay and the chain of the run. -/
def LeftBy (log : List (WorkflowEvent P)) : Prop := ∀ e ∈ log, service.Agrees e

end Service

/-- A discovery does not fail as only a verification does. -/
def DiscoveryFits : WorkflowEvent P → Prop
  | ⟨.discoverAnchor _, answer, _⟩ =>
    ∀ error, answer = .error (.verification error) → error.code ≠ .transactionFailed
  | _ => True

/-! ### Resuming -/

/-- The event stored the operation, on the way to a result. -/
def Persists (configuration : ExtensionRelayConfiguration) (e : WorkflowEvent P)
    (operation : AnchorOperation) : Prop :=
  (executeWorkflow configuration e.op e.answer e.before).2.get operation.eventHash
      = some operation ∧
    (e.op = .save operation ∨ e.before.get operation.eventHash = none)

/-- What the event left stored. -/
def leaves (configuration : ExtensionRelayConfiguration) (e : WorkflowEvent P) :
    AnchorOperations :=
  (executeWorkflow configuration e.op e.answer e.before).2

/-- One wake: the workflow runs if the recovery filter selects the event. -/
def wake (service : Service P) (configuration : ExtensionRelayConfiguration)
    (receiptId : ReceiptId) (eventHash : HashHex) (s : Station) : Station :=
  if anchorEventsNeedRecovery [eventHash] s.1 then
    ((runAnchorWorkflow receiptId eventHash).run (service.exec configuration) s).2
  else s

/-- Some number of wakes ends with the event's operation in the state. -/
def Reaches (service : Service P) (configuration : ExtensionRelayConfiguration)
    (receiptId : ReceiptId) (eventHash : HashHex) (s : Station) (state : AnchorOperationState) :
    Prop :=
  ∃ k operation, ((wake service configuration receiptId eventHash)^[k] s).1.get eventHash
    = some operation ∧ operation.state = state

/-- A final decision about an event. -/
def AnchorOperationState.decided (state : AnchorOperationState) : Prop :=
  state = .chainEvidenceConfirmed ∨ state = .finalFailure

/-- The workflow goes straight to the verification. -/
def AnchorOperation.direct (operation : AnchorOperation) : Bool :=
  operation.transactionHash.isSome && directReverify operation.state

/-- The counters have room for a wake that reads the status so many times, and
at least once if it goes on to the status reads. -/
def AnchorOperation.affords (operation : AnchorOperation) (reads : Nat) : Bool :=
  if operation.direct then operation.counters.verifications < 10000
  else if operation.relayBlobId = none then operation.counters.uploads < 10000
  else if operation.statusToken = none then operation.counters.relayRequests < 10000
  else operation.alreadyAnchored || operation.counters.polls + max reads 1 ≤ 10000

/-- The relay answered the request with a reverted row, before the run stored
the row's own state. -/
def RevertedOnSubmit (operation : AnchorOperation) (before : List (WorkflowEvent P)) : Prop :=
  operation.state = .submittedToRelay ∧ ∃ view ∈ lastRow before, view.state = .reverted

/-! ### What a decision takes -/

/-- The part of an operation that no step changes fits. -/
structure Valid (operation : AnchorOperation) : Prop where
  relay : isCanonicalRelayBaseUrl operation.relayBaseUrl = true
  chain : 1 ≤ operation.chainId ∧ operation.chainId ≤ 2 ^ 53 - 1
  address : isHexAddress operation.contractAddress = true
  count : operation.eventCount = operation.stage.eventCount

/-- The operation is bound to the configuration and to the receipt. -/
structure Bound (configuration : ExtensionRelayConfiguration) (receiptId : ReceiptId)
    (eventHash : HashHex) (operation : AnchorOperation) : Prop where
  event : operation.eventHash = eventHash
  receipt : operation.receiptId = receiptId
  chain : operation.chainId = configuration.chainId
  contract : ContractClient.toLowerCase operation.contractAddress
    = ContractClient.toLowerCase configuration.contractAddress
  relay : operation.relayBaseUrl = configuration.relayBaseUrl

/-- What of an operation decides, together with its state and its error. -/
def AnchorOperation.terms (operation : AnchorOperation) :=
  ((operation.chainId, operation.contractAddress, operation.anchoredAt, operation.anchoredBy),
    operation.eventHash, operation.receiptId, operation.stage, operation.statusToken,
    operation.blockNumber, operation.transactionHash, operation.counters.verifications)

/-- The verification of the transaction ends in the decision. -/
structure Settles (service : Service P) (decision : AnchorOperationState)
    (operation : AnchorOperation) (hash : HashHex) : Prop where
  known : operation.transactionHash = none ∨ operation.transactionHash = some hash
  room : operation.blockNumber = none ∨ operation.anchoredAt = none ∨ operation.anchoredBy = none
  outcome : (decision = .chainEvidenceConfirmed ∧ ∃ verified,
      service.verifyAnchor hash = .ok verified ∧ operation.chainId = verified.chainId ∧
      ContractClient.toLowerCase operation.contractAddress = .hex verified.contractAddress 0) ∨
    decision = .finalFailure ∧ ∃ error, service.verifyAnchor hash = .error (.verification error) ∧
      error.code = .transactionFailed

/-- The verification has room for its count, and ends in the decision. -/
structure Verifies (service : Service P) (decision : AnchorOperationState)
    (operation : AnchorOperation) (hash : HashHex) : Prop where
  count : operation.counters.verifications < 10000
  settles : Settles service decision operation hash

/-- The discovery finds a transaction whose verification ends in the decision. -/
def Discovers (service : Service P) (decision : AnchorOperationState)
    (operation : AnchorOperation) : Prop :=
  ∃ hash, service.discoverAnchor = .ok (some (.canonical hash)) ∧
    Verifies service decision operation hash

/-- The view's error can be stored. -/
def RelayOperationView.errorFits (view : RelayOperationView) : Bool :=
  view.error.all fun error =>
    isErrorCode error.code && 1 ≤ utf16Length error.message && utf16Length error.message ≤ 500

/-- The error can be stored, and is a final failure. -/
structure Fails (error : RelayClientError) : Prop where
  state : relayErrorState error = .finalFailure
  fits : parseErrorBody error.code error.message = true

/-- The loop asks the relay about the operation. -/
structure Asks (operation : AnchorOperation) : Prop where
  unfailed : operation.state ≠ .finalFailure
  fresh : operation.alreadyAnchored = false
  unverified : operation.state = .verifyingContractState → operation.transactionHash = none

/-- The view can be stored with the operation. -/
structure Fits (operation : AnchorOperation) (view : RelayOperationView) : Prop where
  binding : assertRelayBinding operation view = .ok ()
  error : view.errorFits = true
  known : operation.transactionHash = none ∨
    operation.transactionHash = (view.transactionHash <|> operation.transactionHash)
  room : (view.transactionHash <|> operation.transactionHash) = none ∨
    (view.blockNumber <|> operation.blockNumber) = none ∨ operation.anchoredAt = none ∨
    operation.anchoredBy = none

/-- What a status read of the operation makes of the response. -/
def readOf (operation : AnchorOperation) (response : Option RelayResponse) :
    Except RelayClientError RelayOperationView := do
  let body ← relayFetch response
  match operation.statusToken with
  | some statusToken => readRelayOperation statusToken body
  | none =>
    .error ⟨"INVALID_STATUS_TOKEN", "The stored relay status token is invalid.", none, false⟩

/-- The operation with the relay's view of it. -/
def AnchorOperation.viewed (operation : AnchorOperation) (view : RelayOperationView) :
    AnchorOperation := relayViewUpdate operation view operation.updatedAt

/-- **How the status reads lead to the decision**: the loop, with so many turns
left, reads these answers. -/
inductive Course (service : Service P) (decision : AnchorOperationState) :
    Nat → AnchorOperation → List (Option RelayResponse) → Prop
  | stops {n : Nat} {operation : AnchorOperation} :
      operation.state = .finalFailure → operation.alreadyAnchored = false →
      decision = .finalFailure → Course service decision (n + 1) operation []
  | discovers {n : Nat} {operation : AnchorOperation} :
      operation.alreadyAnchored = true → Discovers service decision operation →
      Course service decision (n + 1) operation []
  | verifies {n : Nat} {operation : AnchorOperation} {hash : HashHex} :
      operation.alreadyAnchored = false → operation.state = .verifyingContractState →
      operation.transactionHash = some hash → Verifies service decision operation hash →
      Course service decision (n + 1) operation []
  | refused {n : Nat} {operation : AnchorOperation} {response : Option RelayResponse}
      {error : RelayClientError} :
      Asks operation → readOf operation response = .error error → Fails error →
      decision = .finalFailure → Course service decision (n + 1) operation [response]
  | confirmed {n : Nat} {operation : AnchorOperation} {response : Option RelayResponse}
      {view : RelayOperationView} {hash : HashHex} :
      Asks operation → readOf operation response = .ok view → Fits operation view →
      view.state = .confirmed → (operation.viewed view).transactionHash = some hash →
      Verifies service decision (operation.viewed view) hash →
      Course service decision (n + 1) operation [response]
  | anchored {n : Nat} {operation : AnchorOperation} {response : Option RelayResponse}
      {view : RelayOperationView} :
      Asks operation → readOf operation response = .ok view → Fits operation view →
      view.state = .failedFinal → view.alreadyAnchored = true →
      Discovers service decision (operation.viewed view) →
      Course service decision (n + 1) operation [response]
  | failed {n : Nat} {operation : AnchorOperation} {response : Option RelayResponse}
      {view : RelayOperationView} :
      Asks operation → readOf operation response = .ok view → Fits operation view →
      (view.state = .failedFinal ∧ view.alreadyAnchored = false ∨ view.state = .reverted) →
      decision = .finalFailure → Course service decision (n + 1) operation [response]
  | goesOn {n : Nat} {operation : AnchorOperation} {response : Option RelayResponse}
      {view : RelayOperationView} {rest : List (Option RelayResponse)} :
      Asks operation → readOf operation response = .ok view → Fits operation view →
      view.state ≠ .failedFinal → view.state ≠ .reverted →
      (view.state = .confirmed → (operation.viewed view).transactionHash = none) →
      Course service decision n (operation.viewed view) rest →
      Course service decision (n + 1) operation (response :: rest)

/-- The operation with the relay's answer to its request. -/
def AnchorOperation.accepted (operation : AnchorOperation) (view : RelayOperationView) :
    AnchorOperation := (submittedUpdate operation view operation.updatedAt).viewed view

/-- What a request makes of the service's answer. -/
def Service.requested (service : Service P) : Except RelayClientError RelayOperationView :=
  relayFetch service.request >>= requestRelayAnchor service.artifacts.event

/-- What an upload makes of the service's answer. -/
def Service.uploaded (service : Service P) : Except RelayClientError UploadedRelayBlob :=
  relayFetch service.upload >>=
    uploadEncryptedReceipt service.artifacts.envelope.authenticatedMetadata.receiptId

/-- **How the request leads to the decision.** -/
inductive Requests (service : Service P) (decision : AnchorOperationState)
    (operation : AnchorOperation) : List (Option RelayResponse) → Prop
  | refused {error : RelayClientError} :
      service.requested = .error error → error.code ≠ "EVENT_ALREADY_ANCHORED" → Fails error →
      decision = .finalFailure → Requests service decision operation []
  | anchored {error : RelayClientError} :
      service.requested = .error error → error.code = "EVENT_ALREADY_ANCHORED" →
      Discovers service decision operation → Requests service decision operation []
  | accepted {view : RelayOperationView} {rest : List (Option RelayResponse)} :
      service.requested = .ok view → assertRelayBinding operation view = .ok () →
      view.errorFits = true →
      (operation.transactionHash = none ∨ operation.transactionHash = view.transactionHash) →
      (view.transactionHash = none ∨ view.blockNumber = none ∨ operation.anchoredAt = none ∨
        operation.anchoredBy = none) →
      operation.counters.polls + rest.length ≤ 10000 →
      Course service decision MAX_POLLS_PER_WAKE (operation.accepted view) rest →
      Requests service decision operation rest

/-- The operation with the blob that the relay stored. -/
def AnchorOperation.stored (operation : AnchorOperation) (blob : UploadedRelayBlob) :
    AnchorOperation := uploadedUpdate operation blob.blobId operation.updatedAt

/-- **How the upload leads to the decision.** -/
inductive Uploads (service : Service P) (decision : AnchorOperationState)
    (operation : AnchorOperation) : List (Option RelayResponse) → Prop
  | refused {error : RelayClientError} :
      service.uploaded = .error error → Fails error → decision = .finalFailure →
      Uploads service decision operation []
  | requests {blob : UploadedRelayBlob} {rest : List (Option RelayResponse)} :
      service.uploaded = .ok blob → operation.statusToken = none →
      operation.counters.relayRequests < 10000 →
      Requests service decision (operation.stored blob) rest →
      Uploads service decision operation rest
  | asks {blob : UploadedRelayBlob} {rest : List (Option RelayResponse)} :
      service.uploaded = .ok blob → operation.statusToken ≠ none →
      operation.counters.polls + rest.length ≤ 10000 →
      Course service decision MAX_POLLS_PER_WAKE (operation.stored blob) rest →
      Uploads service decision operation rest

/-- **What a wake does with the operation**, the counter that it increments
first apart. -/
inductive Onward (service : Service P) (decision : AnchorOperationState)
    (operation : AnchorOperation) (rest : List (Option RelayResponse)) : Prop
  | verifies {hash : HashHex} : operation.direct = true → operation.transactionHash = some hash →
      Settles service decision operation hash → Onward service decision operation rest
  | uploads : operation.direct = false → operation.relayBlobId = none →
      Uploads service decision operation rest → Onward service decision operation rest
  | requests : operation.direct = false → operation.relayBlobId ≠ none →
      operation.statusToken = none → Requests service decision operation rest →
      Onward service decision operation rest
  | asks : operation.direct = false → operation.relayBlobId ≠ none →
      operation.statusToken ≠ none → Course service decision MAX_POLLS_PER_WAKE operation rest →
      Onward service decision operation rest

/-- The answers to the status reads that a wake makes. -/
def NextReads (before after : List (WorkflowEvent P)) (rest : List (Option RelayResponse)) :
    Prop :=
  rest = statusAnswers after ∨
    statusAnswers after = [] ∧ rest.length = 1 ∧ rest = nextStatuses before after

/-- What wakes from the operation decide: what the run decided, except where a
reverted row ends them. -/
def EndsAs (decision : AnchorOperationState) (operation : AnchorOperation)
    (before : List (WorkflowEvent P)) (outcome : AnchorOperationState) : Prop :=
  outcome = decision ∧ ¬ (decision = .chainEvidenceConfirmed ∧ RevertedOnSubmit operation before) ∨
    outcome = .finalFailure ∧ decision = .chainEvidenceConfirmed ∧
      RevertedOnSubmit operation before

/-- The stored operation is one that a wake can resume. -/
structure Resumable (service : Service P) (configuration : ExtensionRelayConfiguration)
    (receiptId : ReceiptId) (eventHash : HashHex) (decision : AnchorOperationState)
    (operation : AnchorOperation) (before after : List (WorkflowEvent P)) : Prop where
  bound : Bound configuration receiptId eventHash operation
  parsed : parseAnchorOperation operation = true
  pending : operation.state ≠ .chainEvidenceConfirmed
  onward : ∃ outcome rest, EndsAs decision operation before outcome ∧
    NextReads before after rest ∧ Onward service outcome operation rest

/-- Every operation that the log stores on the way is a final failure, or one
that a wake can resume. -/
def Covered (service : Service P) (configuration : ExtensionRelayConfiguration)
    (receiptId : ReceiptId) (eventHash : HashHex) (decision : AnchorOperationState) :
    List (WorkflowEvent P) → List (WorkflowEvent P) → Prop
  | _, [] => True
  | before, e :: after =>
    (∀ operation, Persists configuration e operation → operation.state ≠ .finalFailure →
      Resumable service configuration receiptId eventHash decision operation before after) ∧
    Covered service configuration receiptId eventHash decision (before ++ [e]) after

theorem parse_iff (operation : AnchorOperation) : parseAnchorOperation operation = true ↔
    Valid operation ∧ parseCounters operation.counters = true ∧
      operation.lastError.all parseError = true ∧
      (operation.state = .chainEvidenceConfirmed ↔ operation.transactionHash.isSome = true ∧
        operation.blockNumber.isSome = true ∧ operation.anchoredAt.isSome = true ∧
        operation.anchoredBy.isSome = true) := by
  have hdecide : ∀ (p : Prop) [Decidable p] (b : Bool), decide p = b ↔ (p ↔ b = true) := by
    intro p _ b
    rw [Bool.eq_iff_iff, decide_eq_true_eq]
  simp only [parseAnchorOperation, hdecide, Bool.and_eq_true, iff_true, and_assoc]
  constructor
  · rintro ⟨hrelay, hlow, hhigh, haddress, hcount, hcounters, herror, hstate⟩
    exact ⟨⟨hrelay, ⟨hlow, hhigh⟩, haddress, hcount⟩, hcounters, herror, hstate⟩
  · rintro ⟨⟨hrelay, ⟨hlow, hhigh⟩, haddress, hcount⟩, hcounters, herror, hstate⟩
    exact ⟨hrelay, hlow, hhigh, haddress, hcount, hcounters, herror, hstate⟩

theorem assertRelayBinding_ok {operation : AnchorOperation} {relay : RelayOperationView} :
    assertRelayBinding operation relay = .ok () ↔
      relay.chainId = operation.chainId ∧
      ContractClient.toLowerCase relay.contractAddress
        = ContractClient.toLowerCase operation.contractAddress ∧
      relay.eventHash = operation.eventHash ∧ relay.receiptId = operation.receiptId ∧
      relay.stage = operation.stage ∧
      (operation.statusToken = none ∨ operation.statusToken = some relay.statusToken) := by
  unfold assertRelayBinding
  split
  · rename_i hmismatch
    constructor
    · intro h
      cases h
    · tauto
  · rename_i hmatch
    simp only [ne_eq, not_or, not_not, not_and] at hmatch
    tauto

/-! ### Operations that differ in nothing that decides -/

section congr

variable {service : Service P} {decision : AnchorOperationState}
  {operation operation' : AnchorOperation} {hash : HashHex} {view : RelayOperationView}
  {response : Option RelayResponse} {rest : List (Option RelayResponse)}

theorem Settles.congr (h : Settles service decision operation hash)
    (hterms : operation.terms = operation'.terms) :
    Settles service decision operation' hash := by
  simp only [AnchorOperation.terms, Prod.mk.injEq] at hterms
  obtain ⟨⟨hchain, hcontract, hat, hby⟩, -, -, -, -, hblock, hhash, -⟩ := hterms
  obtain ⟨hknown, hroom, houtcome⟩ := h
  rw [hhash] at hknown
  rw [hblock, hat, hby] at hroom
  rw [hchain, hcontract] at houtcome
  exact ⟨hknown, hroom, houtcome⟩

theorem Verifies.congr (h : Verifies service decision operation hash)
    (hterms : operation.terms = operation'.terms) :
    Verifies service decision operation' hash := by
  refine ⟨?_, h.settles.congr hterms⟩
  simp only [AnchorOperation.terms, Prod.mk.injEq] at hterms
  exact hterms.2.2.2.2.2.2.2 ▸ h.count

theorem Discovers.congr (h : Discovers service decision operation)
    (hterms : operation.terms = operation'.terms) : Discovers service decision operation' := by
  obtain ⟨hash, hfound, hverifies⟩ := h
  exact ⟨hash, hfound, hverifies.congr hterms⟩

theorem Fits.congr (h : Fits operation view) (hterms : operation.terms = operation'.terms) :
    Fits operation' view := by
  simp only [AnchorOperation.terms, Prod.mk.injEq] at hterms
  obtain ⟨⟨hchain, hcontract, hat, hby⟩, hevent, hreceipt, hstage, htoken, hblock, hhash, -⟩ :=
    hterms
  obtain ⟨hbinding, herror, hknown, hroom⟩ := h
  rw [assertRelayBinding_ok, hchain, hcontract, hevent, hreceipt, hstage, htoken,
    ← assertRelayBinding_ok] at hbinding
  rw [hhash] at hknown
  rw [hhash, hblock, hat, hby] at hroom
  exact ⟨hbinding, herror, hknown, hroom⟩

theorem statusToken_of_terms (hterms : operation.terms = operation'.terms) :
    operation.statusToken = operation'.statusToken := by
  simp only [AnchorOperation.terms, Prod.mk.injEq] at hterms
  exact hterms.2.2.2.2.1

theorem transactionHash_of_terms (hterms : operation.terms = operation'.terms) :
    operation.transactionHash = operation'.transactionHash := by
  simp only [AnchorOperation.terms, Prod.mk.injEq] at hterms
  exact hterms.2.2.2.2.2.2.1

theorem readOf_congr (hterms : operation.terms = operation'.terms)
    (response : Option RelayResponse) : readOf operation response = readOf operation' response := by
  simp only [readOf, statusToken_of_terms hterms]

theorem terms_viewed (hterms : operation.terms = operation'.terms) (view : RelayOperationView) :
    (operation.viewed view).terms = (operation'.viewed view).terms := by
  simp only [AnchorOperation.terms, Prod.mk.injEq] at hterms
  simp [AnchorOperation.terms, AnchorOperation.viewed, relayViewUpdate, hterms]

theorem hash_viewed (hterms : operation.terms = operation'.terms) (view : RelayOperationView) :
    (operation.viewed view).transactionHash = (operation'.viewed view).transactionHash :=
  transactionHash_of_terms (terms_viewed hterms view)

@[simp] theorem alreadyAnchored_relayViewUpdate (operation : AnchorOperation)
    (view : RelayOperationView) (now : Timestamp) :
    (relayViewUpdate operation view now).alreadyAnchored = view.alreadyAnchored := by
  show (view.error.map _).any _ = view.error.any _
  cases view.error <;> rfl

theorem Course.congr {n : Nat} (h : Course service decision n operation rest)
    (hterms : operation.terms = operation'.terms) (hstate : operation.state = operation'.state)
    (hanchored : operation.alreadyAnchored = operation'.alreadyAnchored) :
    Course service decision n operation' rest := by
  have hasks : Asks operation → Asks operation' := by
    rintro ⟨hunfailed, hfresh, hunverified⟩
    rw [hstate] at hunfailed hunverified
    rw [hanchored] at hfresh
    rw [transactionHash_of_terms hterms] at hunverified
    exact ⟨hunfailed, hfresh, hunverified⟩
  induction h generalizing operation' with
  | stops hstopped hfresh hdecision =>
    exact .stops (hstate ▸ hstopped) (hanchored ▸ hfresh) hdecision
  | discovers hknown hdiscovers =>
    exact .discovers (hanchored ▸ hknown) (hdiscovers.congr hterms)
  | verifies hfresh hverifying hhash hverifies =>
    exact .verifies (hanchored ▸ hfresh) (hstate ▸ hverifying)
      (transactionHash_of_terms hterms ▸ hhash) (hverifies.congr hterms)
  | refused hask hread hfails hdecision =>
    exact .refused (hasks hask) (readOf_congr hterms _ ▸ hread) hfails hdecision
  | confirmed hask hread hfits hview hhash hverifies =>
    exact .confirmed (hasks hask) (readOf_congr hterms _ ▸ hread) (hfits.congr hterms) hview
      (hash_viewed hterms _ ▸ hhash) (hverifies.congr (terms_viewed hterms _))
  | anchored hask hread hfits hview hknown hdiscovers =>
    exact .anchored (hasks hask) (readOf_congr hterms _ ▸ hread) (hfits.congr hterms) hview hknown
      (hdiscovers.congr (terms_viewed hterms _))
  | failed hask hread hfits hview hdecision =>
    exact .failed (hasks hask) (readOf_congr hterms _ ▸ hread) (hfits.congr hterms) hview hdecision
  | goesOn hask hread hfits hunfailed hunreverted hhash _ ih =>
    have hterms' := terms_viewed hterms
    refine .goesOn (hasks hask) (readOf_congr hterms _ ▸ hread) (hfits.congr hterms) hunfailed
      hunreverted (hash_viewed hterms _ ▸ hhash) (ih (hterms' _) rfl ?_ ?_)
    · simp [AnchorOperation.viewed]
    · rintro ⟨hunfailed', hfresh', hunverified'⟩
      refine ⟨hunfailed', ?_, ?_⟩
      · simpa [AnchorOperation.viewed] using hfresh'
      · rw [← hash_viewed hterms]
        exact hunverified'

theorem Course.asks {n : Nat} (h : Course service decision n operation rest) (hne : rest ≠ []) :
    Asks operation := by
  cases h with
  | stops | discovers | verifies => exact absurd rfl hne
  | refused hask | confirmed hask | anchored hask | failed hask | goesOn hask => exact hask

/-- The answers lead any operation on that the loop asks about, with the same
terms. -/
theorem Course.reask {n : Nat} (h : Course service decision n operation rest) (hne : rest ≠ [])
    (hterms : operation.terms = operation'.terms) (hask : Asks operation') :
    Course service decision n operation' rest := by
  cases h with
  | stops | discovers | verifies => exact absurd rfl hne
  | refused _ hread hfails hdecision =>
    exact .refused hask (readOf_congr hterms _ ▸ hread) hfails hdecision
  | confirmed _ hread hfits hview hhash hverifies =>
    exact .confirmed hask (readOf_congr hterms _ ▸ hread) (hfits.congr hterms) hview
      (hash_viewed hterms _ ▸ hhash) (hverifies.congr (terms_viewed hterms _))
  | anchored _ hread hfits hview hknown hdiscovers =>
    exact .anchored hask (readOf_congr hterms _ ▸ hread) (hfits.congr hterms) hview hknown
      (hdiscovers.congr (terms_viewed hterms _))
  | failed _ hread hfits hview hdecision =>
    exact .failed hask (readOf_congr hterms _ ▸ hread) (hfits.congr hterms) hview hdecision
  | goesOn _ hread hfits hunfailed hunreverted hhash hcourse =>
    refine .goesOn hask (readOf_congr hterms _ ▸ hread) (hfits.congr hterms) hunfailed
      hunreverted (hash_viewed hterms _ ▸ hhash) (hcourse.congr (terms_viewed hterms _) rfl ?_)
    simp [AnchorOperation.viewed]

/-- More turns do no harm. -/
theorem Course.mono {n m : Nat} (h : Course service decision n operation rest) (hle : n ≤ m) :
    Course service decision m operation rest := by
  induction h generalizing m with
  | stops hstopped hfresh hdecision =>
    obtain ⟨m, rfl⟩ := Nat.exists_eq_add_of_lt hle
    exact .stops hstopped hfresh hdecision
  | discovers hknown hdiscovers =>
    obtain ⟨m, rfl⟩ := Nat.exists_eq_add_of_lt hle
    exact .discovers hknown hdiscovers
  | verifies hfresh hverifying hhash hverifies =>
    obtain ⟨m, rfl⟩ := Nat.exists_eq_add_of_lt hle
    exact .verifies hfresh hverifying hhash hverifies
  | refused hask hread hfails hdecision =>
    obtain ⟨m, rfl⟩ := Nat.exists_eq_add_of_lt hle
    exact .refused hask hread hfails hdecision
  | confirmed hask hread hfits hview hhash hverifies =>
    obtain ⟨m, rfl⟩ := Nat.exists_eq_add_of_lt hle
    exact .confirmed hask hread hfits hview hhash hverifies
  | anchored hask hread hfits hview hknown hdiscovers =>
    obtain ⟨m, rfl⟩ := Nat.exists_eq_add_of_lt hle
    exact .anchored hask hread hfits hview hknown hdiscovers
  | failed hask hread hfits hview hdecision =>
    obtain ⟨m, rfl⟩ := Nat.exists_eq_add_of_lt hle
    exact .failed hask hread hfits hview hdecision
  | goesOn hask hread hfits hunfailed hunreverted hhash _ ih =>
    obtain ⟨m, rfl⟩ := Nat.exists_eq_add_of_lt hle
    exact .goesOn hask hread hfits hunfailed hunreverted hhash (ih (Nat.le_add_right _ _))

/-- The transaction that the operation is verified with is the one that is
known. -/
theorem Verifies.settles_known {hash' : HashHex} (h : Verifies service decision operation hash')
    (hhash : operation.transactionHash = some hash) : Settles service decision operation hash := by
  have hsame : hash = hash' := by
    simpa [hhash] using h.settles.known
  exact hsame ▸ h.settles

/-- A course whose operation can be verified straight away. -/
theorem Course.settles {n : Nat} (h : Course service decision n operation rest)
    (hstate : operation.state = .verifyingContractState)
    (hhash : operation.transactionHash = some hash) :
    Settles service decision operation hash := by
  have hnot : ¬ Asks operation := fun hask => by
    rw [hask.unverified hstate] at hhash
    cases hhash
  cases h with
  | stops hstopped =>
    rw [hstate] at hstopped
    cases hstopped
  | discovers _ hdiscovers =>
    obtain ⟨hash', -, hverifies⟩ := hdiscovers
    exact hverifies.settles_known hhash
  | verifies _ _ _ hverifies => exact hverifies.settles_known hhash
  | refused hask | confirmed hask | anchored hask | failed hask | goesOn hask =>
    exact absurd hask hnot

/-- What a wake does with an operation in the loop. -/
theorem Onward.of_course {n : Nat} (h : Course service decision n operation rest)
    (hn : n ≤ MAX_POLLS_PER_WAKE) (hblob : operation.relayBlobId ≠ none)
    (htoken : operation.statusToken ≠ none)
    (hdirect : operation.direct = true → operation.state = .verifyingContractState) :
    Onward service decision operation rest := by
  by_cases hstraight : operation.direct = true
  · have hsome : operation.transactionHash.isSome = true := by
      simp only [AnchorOperation.direct, Bool.and_eq_true] at hstraight
      exact hstraight.1
    obtain ⟨hash, hhash⟩ := Option.isSome_iff_exists.mp hsome
    exact .verifies hstraight hhash (h.settles (hdirect hstraight) hhash)
  · exact .asks (Bool.eq_false_iff.mpr hstraight) hblob htoken (h.mono hn)

theorem Requests.congr (h : Requests service decision operation rest)
    (hterms : operation.terms = operation'.terms)
    (hpolls : operation.counters.polls = operation'.counters.polls) :
    Requests service decision operation' rest := by
  cases h with
  | refused hrequest hcode hfails hdecision => exact .refused hrequest hcode hfails hdecision
  | anchored hrequest hcode hdiscovers =>
    exact .anchored hrequest hcode (hdiscovers.congr hterms)
  | @accepted view _ hrequest hbinding herror hknown hroom hreads hcourse =>
    have hsame := hterms
    simp only [AnchorOperation.terms, Prod.mk.injEq] at hsame
    obtain ⟨⟨hchain, hcontract, hat, hby⟩, hevent, hreceipt, hstage, htoken, hblock, hhash, hcount⟩ :=
      hsame
    rw [assertRelayBinding_ok, hchain, hcontract, hevent, hreceipt, hstage, htoken,
      ← assertRelayBinding_ok] at hbinding
    rw [hhash] at hknown
    rw [hat, hby] at hroom
    refine .accepted hrequest hbinding herror hknown hroom (hpolls ▸ hreads)
      (hcourse.congr (terms_viewed ?_ _) rfl ?_)
    · simp [AnchorOperation.terms, submittedUpdate, hchain, hcontract, hat, hby, hevent, hreceipt,
        hstage, hcount]
    · simp [AnchorOperation.accepted, AnchorOperation.viewed]

theorem Uploads.congr (h : Uploads service decision operation rest)
    (hterms : operation.terms = operation'.terms)
    (hpolls : operation.counters.polls = operation'.counters.polls)
    (hrequests : operation.counters.relayRequests = operation'.counters.relayRequests) :
    Uploads service decision operation' rest := by
  have htoken := statusToken_of_terms hterms
  cases h with
  | refused hupload hfails hdecision => exact .refused hupload hfails hdecision
  | @requests blob _ hupload hnone hcount hrequest =>
    have hstored : (operation.stored blob).terms = (operation'.stored blob).terms := hterms
    exact .requests hupload (htoken ▸ hnone) (hrequests ▸ hcount) (hrequest.congr hstored hpolls)
  | @asks blob _ hupload hsome hreads hcourse =>
    have hstored : (operation.stored blob).terms = (operation'.stored blob).terms := hterms
    exact .asks hupload (htoken ▸ hsome) (hpolls ▸ hreads) (hcourse.congr hstored rfl rfl)

end congr

end SubmittedIt.Extension
