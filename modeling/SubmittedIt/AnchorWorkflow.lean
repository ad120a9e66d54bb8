/-
SubmittedIt/AnchorWorkflow.lean

The anchor workflow of the extension (apps/extension/lib/anchor-workflow.ts),
and the durable operations it works on.

A run of `runAnchorWorkflow` awaits the clock, a pause, the four functions of
its persistence, the relay, and the two functions of the chain verifier; these
are the operations `WorkflowOp`.  Each is answered by the environment, except
that the durable operations are a state of their own, on which `ensure`,
`save` and `confirm` act as ensureAnchorOperation, saveAnchorOperation and
storeVerifiedChainAnchor do on the stored list: the environment says whether
the storage works, and what the encrypted receipt is.

A `return` of a promise inside a `try` is not awaited there, so its rejection
is not caught; the calls that are so returned stand after the guarded part.
-/
import SubmittedIt.SecureStorage
import SubmittedIt.RelayClient
import SubmittedIt.Executions

namespace SubmittedIt.Extension

open ReceiptCore

def MAX_POLLS_PER_WAKE : Nat := 6

def POLL_DELAY_MS : Nat := 400

/-! ### Data -/

/-- `AnchorVerificationErrorCode`. -/
inductive AnchorVerificationErrorCode
  | anchorNotFound
  | contractMismatch
  | eventLogMismatch
  | malformedChainResponse
  | notFinal
  | rpcUnavailable
  | storedContractMismatch
  | transactionFailed
  | wrongNetwork
  deriving DecidableEq

/-- The code as text. -/
def AnchorVerificationErrorCode.text : AnchorVerificationErrorCode → String
  | .anchorNotFound => "ANCHOR_NOT_FOUND"
  | .contractMismatch => "CONTRACT_MISMATCH"
  | .eventLogMismatch => "EVENT_LOG_MISMATCH"
  | .malformedChainResponse => "MALFORMED_CHAIN_RESPONSE"
  | .notFinal => "NOT_FINAL"
  | .rpcUnavailable => "RPC_UNAVAILABLE"
  | .storedContractMismatch => "STORED_CONTRACT_MISMATCH"
  | .transactionFailed => "TRANSACTION_FAILED"
  | .wrongNetwork => "WRONG_NETWORK"

/-- `AnchorVerificationError`.  Its messages are the verifier's own sentences. -/
structure AnchorVerificationError where
  code : AnchorVerificationErrorCode
  message : String
  recoverable : Bool
  fits : 1 ≤ utf16Length message ∧ utf16Length message ≤ 500
  deriving DecidableEq

/-- What an awaited operation of the workflow can throw. -/
inductive WorkflowError
  | relay (error : RelayClientError)
  | verification (error : AnchorVerificationError)
  | storage (error : StorageError)
  | other
  deriving DecidableEq

/-- `VerifiedSubmissionReceiptAnchor`, as far as it is read. -/
structure VerifiedSubmissionReceiptAnchor where
  anchoredAt : Timestamp
  anchoredBy : AddressHex
  blockNumber : Nat
  chainId : Nat
  contractAddress : AddressHex
  transactionHash : HashHex
  deriving DecidableEq

/-- The transaction hash of the log that a discovery found: what the node sent,
which nothing checks. -/
inductive DiscoveredHash
  | canonical (hash : HashHex)
  /-- A text that is no 32 bytes in lower-case hex. -/
  | other
  deriving DecidableEq

/-- `AnchorRelayArtifacts`, as far as the workflow reads them; `blobId` is
that of the index entry. -/
structure AnchorRelayArtifacts (P : StoragePlatform) where
  envelope : EncryptedReceiptEnvelope P
  event : LifecycleEventEnvelope
  blobId : OpaqueId
  publicKey : PublicKeyDescriptor

/-- `ExtensionRelayConfiguration`, as far as it decides anything here. -/
structure ExtensionRelayConfiguration where
  chainId : Nat
  contractAddress : AddressText
  relayBaseUrl : RelayBaseUrl

/-- What the workflow awaits. -/
inductive WorkflowOp (P : StoragePlatform)
  | now
  | pause (milliseconds : Nat)
  | ensure (receiptId : ReceiptId) (eventHash : HashHex) (now : Timestamp)
  | getArtifacts (receiptId : ReceiptId) (eventHash : HashHex)
  | save (operation : AnchorOperation)
  | confirm (operation : AnchorOperation) (verified : VerifiedSubmissionReceiptAnchor)
      (now : Timestamp)
  | fetch (request : RelayRequest P)
  | verifyAnchor (event : LifecycleEventEnvelope) (extensionPublicKey : PublicKeyDescriptor)
      (transactionHash : HashHex)
  | discoverAnchor (event : LifecycleEventEnvelope)

/-- The values of the operations. -/
abbrev WorkflowOp.Result {P : StoragePlatform} : WorkflowOp P → Type
  | .now => Timestamp
  | .pause _ => Unit
  | .ensure .. | .save _ | .confirm .. => AnchorOperation
  | .getArtifacts .. => AnchorRelayArtifacts P
  | .fetch _ => Option RelayResponse
  | .verifyAnchor .. => VerifiedSubmissionReceiptAnchor
  | .discoverAnchor _ => Option DiscoveredHash

/-- What the environment answers.  For `ensure` it is what the encrypted
receipt says of the event: the blob it is stored in and the event's stage;
for the other storage operations, whether the storage works. -/
abbrev WorkflowOp.Answer {P : StoragePlatform} : WorkflowOp P → Type
  | .now => Timestamp
  | .pause _ => Unit
  | .ensure .. => Except StorageError (Option (OpaqueId × AnchorableStage))
  | .save _ | .confirm .. => Except StorageError Unit
  | .getArtifacts .. => Except StorageError (AnchorRelayArtifacts P)
  | .fetch _ => Option RelayResponse
  | .verifyAnchor .. => Except WorkflowError VerifiedSubmissionReceiptAnchor
  | .discoverAnchor _ => Except WorkflowError (Option DiscoveredHash)

/-! ### The durable operations -/

/-- The stored anchor operations. -/
abbrev AnchorOperations := List AnchorOperation

namespace AnchorOperations

/-- The operation of an event. -/
def get (store : AnchorOperations) (eventHash : HashHex) : Option AnchorOperation :=
  store.find? fun candidate => candidate.eventHash = eventHash

/-- What saveAnchorOperation stores. -/
def put (store : AnchorOperations) (operation : AnchorOperation) : AnchorOperations :=
  operation :: store.filter fun candidate => candidate.eventHash ≠ operation.eventHash

/-- The list part of saveAnchorOperation. -/
def save (store : AnchorOperations) (operation : AnchorOperation) :
    Except StorageError AnchorOperations :=
  if parseAnchorOperation operation = false then
    .error (.failure "SubmittedIt refused to persist malformed anchor progress.")
  else if ((store.get operation.eventHash).any fun previous =>
      !keepsEvidence previous operation) = true then
    .error (.failure "SubmittedIt refused to rewrite immutable anchor-operation evidence.")
  else if store.get operation.eventHash = none ∧ store.length ≥ MAX_ANCHOR_OPERATIONS then
    .error (.failure "SubmittedIt local anchor-operation storage is full.")
  else .ok (store.put operation)

/-- The list part of ensureAnchorOperation. -/
def ensure (store : AnchorOperations) (configuration : ExtensionRelayConfiguration)
    (receiptId : ReceiptId) (eventHash : HashHex) (now : Timestamp)
    (found : Option (OpaqueId × AnchorableStage)) :
    Except StorageError (AnchorOperation × AnchorOperations) :=
  match store.get eventHash with
  | some existing =>
    if existing.receiptId ≠ receiptId ∨ existing.chainId ≠ configuration.chainId
        ∨ ContractClient.toLowerCase existing.contractAddress
          ≠ ContractClient.toLowerCase configuration.contractAddress
        ∨ existing.relayBaseUrl ≠ configuration.relayBaseUrl then
      .error (.failure "The signed event is already bound to different anchor configuration.")
    else .ok (existing, store)
  | none =>
    match found with
    | some (localBlobId, stage) => do
      let operation ← createAnchorOperation {
        chainId := configuration.chainId
        contractAddress := configuration.contractAddress
        eventHash
        localBlobId
        now
        receiptId
        relayBaseUrl := configuration.relayBaseUrl
        stage }
      let stored ← store.save operation
      pure (operation, stored)
    | none => .error
        (.failure "Only a locally signed Attempted or Site confirmed event can be anchored.")

/-- The list part of storeVerifiedChainAnchor. -/
def confirm (store : AnchorOperations) (eventHash : HashHex)
    (verified : VerifiedSubmissionReceiptAnchor) (now : Timestamp) :
    Except StorageError (AnchorOperation × AnchorOperations) :=
  match store.get eventHash with
  | some operation =>
    if operation.chainId ≠ verified.chainId
        ∨ ContractClient.toLowerCase operation.contractAddress
          ≠ .hex verified.contractAddress 0 then
      .error (.failure "The verified chain evidence does not match a durable local operation.")
    else do
      let confirmed ← updateAnchorOperation (operation.confirm
        ⟨verified.anchoredAt, verified.anchoredBy, verified.blockNumber, verified.chainId,
          verified.contractAddress, eventHash, verified.transactionHash⟩ now)
      pure (confirmed, store.map fun candidate =>
        if candidate.eventHash = confirmed.eventHash then confirmed else candidate)
  | none => .error
      (.failure "The verified chain evidence does not match a durable local operation.")

variable {store stored : AnchorOperations} {operation : AnchorOperation} {eventHash : HashHex}

theorem get_eventHash (h : store.get eventHash = some operation) :
    operation.eventHash = eventHash := by
  simpa using List.find?_some h

@[simp] theorem get_put (store : AnchorOperations) (operation : AnchorOperation) :
    (store.put operation).get operation.eventHash = some operation := by
  simp [get, put]

theorem get_put_of_ne (h : operation.eventHash ≠ eventHash) :
    (store.put operation).get eventHash = store.get eventHash := by
  simp only [get, put, List.find?_cons_of_neg (p := fun candidate : AnchorOperation =>
    decide (candidate.eventHash = eventHash)) (by simpa using h)]
  rw [List.find?_filter]
  congr 1
  funext candidate
  by_cases hc : candidate.eventHash = eventHash
  · simp [hc, Ne.symm h]
  · simp [hc]

/-- What a save stores, and what it requires of the operation stored before. -/
theorem save_ok (h : store.save operation = .ok stored) :
    parseAnchorOperation operation = true ∧ stored = store.put operation ∧
      ∀ previous, store.get operation.eventHash = some previous →
        keepsEvidence previous operation = true := by
  unfold save at h
  split at h
  · cases h
  rename_i hparse
  split at h
  · cases h
  rename_i hkeeps
  split at h
  · cases h
  cases h
  refine ⟨Bool.not_eq_false _ ▸ hparse, rfl, fun previous hprevious => ?_⟩
  simpa [hprevious] using hkeeps

/-- What a confirmation requires. -/
theorem confirm_ok {verified : VerifiedSubmissionReceiptAnchor} {now : Timestamp}
    {confirmed : AnchorOperation} (hget : store.get eventHash = some operation)
    (h : store.confirm eventHash verified now = .ok (confirmed, stored)) :
    operation.chainId = verified.chainId ∧
      ContractClient.toLowerCase operation.contractAddress = .hex verified.contractAddress 0 := by
  simp only [confirm, hget] at h
  split at h
  · cases h
  · rename_i hmatch
    simpa [not_or] using hmatch

/-- A confirmation of a stored operation whose chain the evidence is of. -/
theorem confirm_eq (verified : VerifiedSubmissionReceiptAnchor) (now : Timestamp)
    (hget : store.get eventHash = some operation)
    (hchain : operation.chainId = verified.chainId)
    (hcontract : ContractClient.toLowerCase operation.contractAddress
      = .hex verified.contractAddress 0)
    (hparse : parseAnchorOperation operation = true) :
    ∃ confirmed stored, store.confirm eventHash verified now = .ok (confirmed, stored) ∧
      confirmed.state = .chainEvidenceConfirmed ∧ stored.get eventHash = some confirmed := by
  have hevent := get_eventHash hget
  let confirmed := operation.confirm ⟨verified.anchoredAt, verified.anchoredBy,
    verified.blockNumber, verified.chainId, verified.contractAddress, eventHash,
    verified.transactionHash⟩ now
  have hconfirmed : parseAnchorOperation confirmed = true := by
    simp only [parseAnchorOperation, Bool.and_eq_true] at hparse
    simpa [parseAnchorOperation, confirmed, AnchorOperation.confirm] using hparse.1.1
  refine ⟨confirmed, store.map fun candidate =>
    if candidate.eventHash = confirmed.eventHash then confirmed else candidate, ?_, rfl, ?_⟩
  · simp only [confirm, hget]
    rw [if_neg (by simp [hchain, hcontract])]
    simp only [updateAnchorOperation]
    rw [if_pos hconfirmed]
    rfl
  · -- the event's operation is found where it was
    have hsame : ((fun candidate : AnchorOperation => decide (candidate.eventHash = eventHash)) ∘
        fun candidate => if candidate.eventHash = confirmed.eventHash then confirmed
          else candidate) = fun candidate => decide (candidate.eventHash = eventHash) := by
      funext candidate
      by_cases hc : candidate.eventHash = confirmed.eventHash
      · simp [hc]
      · simp [hc]
    rw [get, List.find?_map, hsame]
    rw [get] at hget
    rw [hget]
    exact congrArg some (if_pos rfl)

/-- What a confirmation stores: the operation it confirms, and what was
stored. -/
theorem confirm_stored {verified : VerifiedSubmissionReceiptAnchor} {now : Timestamp}
    {confirmed : AnchorOperation}
    (h : store.confirm eventHash verified now = .ok (confirmed, stored)) :
    parseAnchorOperation confirmed = true ∧ confirmed.state = .chainEvidenceConfirmed ∧
      ∀ candidate ∈ stored, candidate = confirmed ∨ candidate ∈ store := by
  unfold confirm at h
  split at h
  · rename_i operation hget
    split at h
    · cases h
    rcases hupdate : updateAnchorOperation (operation.confirm
      ⟨verified.anchoredAt, verified.anchoredBy, verified.blockNumber, verified.chainId,
        verified.contractAddress, eventHash, verified.transactionHash⟩ now) with e | result
    · rw [hupdate] at h
      cases h
    · rw [hupdate] at h
      cases h
      obtain ⟨rfl, hparse⟩ := updateAnchorOperation_eq_ok.mp hupdate
      refine ⟨hparse, rfl, fun candidate hmem => ?_⟩
      obtain ⟨previous, hprevious, rfl⟩ := List.mem_map.mp hmem
      split
      · exact .inl rfl
      · exact .inr hprevious
  · cases h

/-- A confirmation adds no event. -/
theorem confirm_get_none {verified : VerifiedSubmissionReceiptAnchor} {now : Timestamp}
    {confirmed : AnchorOperation} {other : HashHex}
    (h : store.confirm eventHash verified now = .ok (confirmed, stored))
    (hnone : store.get other = none) : stored.get other = none := by
  unfold confirm at h
  split at h
  · rename_i operation hget
    split at h
    · cases h
    rcases hupdate : updateAnchorOperation (operation.confirm
      ⟨verified.anchoredAt, verified.anchoredBy, verified.blockNumber, verified.chainId,
        verified.contractAddress, eventHash, verified.transactionHash⟩ now) with e | result
    · rw [hupdate] at h
      cases h
    · rw [hupdate] at h
      cases h
      simp only [get, List.find?_eq_none, decide_eq_true_eq, List.mem_map] at hnone ⊢
      rintro _ ⟨candidate, hmem, rfl⟩
      split
      · rename_i hsame
        exact fun h => hnone candidate hmem (hsame.trans h)
      · exact hnone candidate hmem
  · cases h

/-- A save over an operation whose evidence it keeps. -/
theorem save_eq {previous : AnchorOperation} (hparse : parseAnchorOperation operation = true)
    (hprevious : store.get operation.eventHash = some previous)
    (hkeeps : keepsEvidence previous operation = true) :
    store.save operation = .ok (store.put operation) := by
  simp [save, hparse, hprevious, hkeeps]

end AnchorOperations

/-- An operation of the workflow, answered by the environment. -/
def executeWorkflow {P : StoragePlatform} (configuration : ExtensionRelayConfiguration) :
    (o : WorkflowOp P) → o.Answer → AnchorOperations →
      Except WorkflowError o.Result × AnchorOperations
  | .now, answer, store => (.ok answer, store)
  | .pause _, _, store => (.ok (), store)
  | .ensure receiptId eventHash now, answer, store =>
    match answer >>= store.ensure configuration receiptId eventHash now with
    | .ok (operation, stored) => (.ok operation, stored)
    | .error e => (.error (.storage e), store)
  | .getArtifacts _ _, answer, store => (answer.mapError .storage, store)
  | .save operation, answer, store =>
    match answer >>= fun _ => store.save operation with
    | .ok stored => (.ok operation, stored)
    | .error e => (.error (.storage e), store)
  | .confirm operation verified now, answer, store =>
    match answer >>= fun _ => store.confirm operation.eventHash verified now with
    | .ok (confirmed, stored) => (.ok confirmed, stored)
    | .error e => (.error (.storage e), store)
  | .fetch _, answer, store => (.ok answer, store)
  | .verifyAnchor _ _ _, answer, store => (answer, store)
  | .discoverAnchor _, answer, store => (answer, store)

section execute

variable {P : StoragePlatform} {configuration : ExtensionRelayConfiguration}
  {store stored : AnchorOperations} {operation result : AnchorOperation}

/-- A save that succeeds. -/
theorem executeWorkflow_save {answer : Except StorageError Unit}
    (h : executeWorkflow configuration (P := P) (.save operation) answer store
      = (.ok result, stored)) :
    answer = .ok () ∧ result = operation ∧ store.save operation = .ok stored := by
  rcases answer with e | ⟨⟩
  · cases h
  rcases hsave : store.save operation with e | stored'
  · simp [executeWorkflow, bind, Except.bind, hsave] at h
  · simp only [executeWorkflow, bind, Except.bind, hsave, Prod.mk.injEq, Except.ok.injEq] at h
    exact ⟨rfl, h.1.symm, congrArg Except.ok h.2⟩

theorem executeWorkflow_save_error {answer : Except StorageError Unit} {error : WorkflowError}
    (h : executeWorkflow configuration (P := P) (.save operation) answer store
      = (.error error, stored)) : ∃ e, error = .storage e := by
  rcases answer with e | ⟨⟩
  · cases h
    exact ⟨e, rfl⟩
  rcases hsave : store.save operation with e | stored'
  · simp only [executeWorkflow, bind, Except.bind, hsave, Prod.mk.injEq, Except.error.injEq] at h
    exact ⟨e, h.1.symm⟩
  · simp [executeWorkflow, bind, Except.bind, hsave] at h

/-- A save stores its operation, or nothing. -/
theorem executeWorkflow_save_stored (configuration : ExtensionRelayConfiguration)
    (store : AnchorOperations) (operation : AnchorOperation) (answer : Except StorageError Unit) :
    (executeWorkflow configuration (P := P) (.save operation) answer store).2 = store ∨
      (executeWorkflow configuration (P := P) (.save operation) answer store).2
        = store.put operation := by
  rcases answer with e | ⟨⟩
  · exact .inl rfl
  rcases hsave : store.save operation with e | stored
  · left
    simp [executeWorkflow, bind, Except.bind, hsave]
  · right
    obtain ⟨-, rfl, -⟩ := AnchorOperations.save_ok hsave
    simp [executeWorkflow, bind, Except.bind, hsave]

/-- A confirmation that succeeds. -/
theorem executeWorkflow_confirm {answer : Except StorageError Unit}
    {verified : VerifiedSubmissionReceiptAnchor} {now : Timestamp}
    (h : executeWorkflow configuration (P := P) (.confirm operation verified now) answer store
      = (.ok result, stored)) :
    store.confirm operation.eventHash verified now = .ok (result, stored) := by
  rcases answer with e | ⟨⟩
  · cases h
  rcases hconfirm : store.confirm operation.eventHash verified now with e | ⟨confirmed, stored'⟩
  · simp [executeWorkflow, bind, Except.bind, hconfirm] at h
  · simp only [executeWorkflow, bind, Except.bind, hconfirm, Prod.mk.injEq, Except.ok.injEq] at h
    rw [h.1, h.2]

/-- An operation that fails stores nothing. -/
theorem executeWorkflow_error {o : WorkflowOp P} {answer : o.Answer} {error : WorkflowError}
    (h : executeWorkflow configuration o answer store = (.error error, stored)) :
    stored = store := by
  unfold executeWorkflow at h
  split at h
  case h_3 | h_5 | h_6 =>
    split at h
    · cases h
    · exact (Prod.mk.inj h).2.symm
  all_goals exact (Prod.mk.inj h).2.symm

/-- The operation that ensureAnchorOperation creates. -/
structure Created (configuration : ExtensionRelayConfiguration) (receiptId : ReceiptId)
    (eventHash : HashHex) (operation : AnchorOperation) : Prop where
  event : operation.eventHash = eventHash
  receipt : operation.receiptId = receiptId
  chain : operation.chainId = configuration.chainId
  contract : operation.contractAddress = configuration.contractAddress
  relay : operation.relayBaseUrl = configuration.relayBaseUrl
  state : operation.state = .savedLocally
  error : operation.lastError = none
  blob : operation.relayBlobId = none
  hash : operation.transactionHash = none
  counters : operation.counters = ⟨0, 0, 0, 0⟩
  unanchored : operation.anchoredAt = none

/-- What ensuring an operation answers: the one that is stored, or a new one. -/
theorem executeWorkflow_ensure {answer : Except StorageError (Option (OpaqueId × AnchorableStage))}
    {receiptId : ReceiptId} {eventHash : HashHex} {now : Timestamp}
    (h : executeWorkflow configuration (P := P) (.ensure receiptId eventHash now) answer store
      = (.ok result, stored)) :
    (store.get eventHash = some result ∧ stored = store ∧ result.receiptId = receiptId ∧
      result.chainId = configuration.chainId ∧
      ContractClient.toLowerCase result.contractAddress
        = ContractClient.toLowerCase configuration.contractAddress ∧
      result.relayBaseUrl = configuration.relayBaseUrl) ∨
    (store.get eventHash = none ∧ stored = store.put result ∧
      parseAnchorOperation result = true ∧
      Created configuration receiptId eventHash result) := by
  rcases answer with e | found
  · cases h
  have hensure : store.ensure configuration receiptId eventHash now found
      = .ok (result, stored) := by
    rcases hresult : store.ensure configuration receiptId eventHash now found with
      e | ⟨operation, stored'⟩
    · simp [executeWorkflow, bind, Except.bind, hresult] at h
    · simp only [executeWorkflow, bind, Except.bind, hresult, Prod.mk.injEq,
        Except.ok.injEq] at h
      rw [h.1, h.2]
  unfold AnchorOperations.ensure at hensure
  split at hensure
  · rename_i existing hget
    split at hensure
    · cases hensure
    · rename_i hmatch
      cases hensure
      simp only [ne_eq, not_or, not_not] at hmatch
      exact .inl ⟨hget, rfl, hmatch⟩
  · rename_i hget
    split at hensure
    · rename_i localBlobId stage
      right
      unfold createAnchorOperation at hensure
      dsimp only at hensure
      split_ifs at hensure with hparse
      · simp only [bind, Except.bind] at hensure
        split at hensure
        · cases hensure
        rename_i stored' hsave
        obtain ⟨-, rfl, -⟩ := AnchorOperations.save_ok hsave
        cases hensure
        exact ⟨hget, rfl, hparse, rfl, rfl, rfl, rfl, rfl, rfl, rfl, rfl, rfl, rfl, rfl⟩
      · cases hensure
    · cases hensure

end execute

/-! ### The workflow -/

section workflow

variable (P : StoragePlatform)

/-- An asynchronous function of the workflow. -/
abbrev WorkflowProg (α : Type) := Prog (WorkflowOp P) WorkflowOp.Result WorkflowError α

variable {P}

def await (o : WorkflowOp P) : WorkflowProg P o.Result := Prog.perform o

/-- `persistence.save(updateAnchorOperation(…))`. -/
def saveUpdate (next : AnchorOperation) : WorkflowProg P AnchorOperation := do
  let updated ← Prog.ofExcept ((updateAnchorOperation next).mapError .storage)
  await (.save updated)

/-- The operation that `operationError` updates to. -/
def operationError (operation : AnchorOperation) (state : AnchorOperationState)
    (code message : String) (recoverable : Bool) (now : Timestamp) : AnchorOperation :=
  { operation with
    lastError := some ⟨now, code, message, recoverable⟩
    state
    updatedAt := now }

/-- `assertRelayBinding`. -/
def assertRelayBinding (operation : AnchorOperation) (relay : RelayOperationView) :
    Except WorkflowError Unit :=
  if relay.chainId ≠ operation.chainId
      ∨ ContractClient.toLowerCase relay.contractAddress
        ≠ ContractClient.toLowerCase operation.contractAddress
      ∨ relay.eventHash ≠ operation.eventHash ∨ relay.receiptId ≠ operation.receiptId
      ∨ relay.stage ≠ operation.stage
      ∨ (operation.statusToken ≠ none ∧ operation.statusToken ≠ some relay.statusToken) then
    .error (.relay ⟨"RELAY_RESPONSE_MISMATCH",
      "The relay operation does not match the durable signed-event binding.", none, false⟩)
  else .ok ()

/-- `localStateForRelay`. -/
def localStateForRelay (relay : RelayOperationView) : AnchorOperationState :=
  match relay.state with
  | .validating | .ready | .submitting => .waitingForTransaction
  | .submitted =>
    if relay.transactionHash.isSome then .waitingForConfirmations else .waitingForTransaction
  | .confirmed => .verifyingContractState
  | .failedRetryable => .retryableFailure
  | .failedFinal | .reverted => .finalFailure

/-- The operation that `withRelayView` updates to. -/
def relayViewUpdate (operation : AnchorOperation) (relay : RelayOperationView)
    (now : Timestamp) : AnchorOperation :=
  { operation with
    blockNumber := relay.blockNumber <|> operation.blockNumber
    lastError := relay.error.map fun error =>
      ⟨now, error.code, error.message, relay.state = .failedRetryable⟩
    state := localStateForRelay relay
    statusToken := some relay.statusToken
    transactionHash := relay.transactionHash <|> operation.transactionHash
    updatedAt := now }

/-- `persistence.save(withRelayView(…))`. -/
def saveRelayView (operation : AnchorOperation) (relay : RelayOperationView) :
    WorkflowProg P AnchorOperation := do
  let now ← (await .now : WorkflowProg P Timestamp)
  Prog.ofExcept (assertRelayBinding operation relay)
  saveUpdate (relayViewUpdate operation relay now)

/-- The state that a relay error leads to. -/
def relayErrorState (error : RelayClientError) : AnchorOperationState :=
  if error.code = "RELAY_UNAVAILABLE" ∨ error.status = none then .relayUnavailable
  else if error.recoverable then .retryableFailure
  else .finalFailure

/-- `failForRelayError`. -/
def failForRelayError (operation : AnchorOperation) (error : WorkflowError) (now : Timestamp) :
    WorkflowProg P AnchorOperation :=
  match error with
  | .relay error => saveUpdate (operationError operation (relayErrorState error) error.code
      error.message error.recoverable now)
  | _ => saveUpdate (operationError operation .relayUnavailable "RELAY_UNAVAILABLE"
      "The relay could not be reached and no chain result is claimed." true now)

/-- The state that a verification error leads to. -/
def verificationErrorState : AnchorVerificationErrorCode → AnchorOperationState
  | .wrongNetwork => .wrongNetwork
  | .contractMismatch | .eventLogMismatch | .storedContractMismatch => .contractMismatch
  | .transactionFailed => .finalFailure
  | .notFinal | .anchorNotFound => .reconciliationRequired
  | .malformedChainResponse | .rpcUnavailable => .rpcUnavailable

/-- `failForVerificationError`. -/
def failForVerificationError (operation : AnchorOperation) (error : WorkflowError)
    (now : Timestamp) : WorkflowProg P AnchorOperation :=
  match error with
  | .verification error => saveUpdate (operationError operation
      (verificationErrorState error.code) error.code.text error.message error.recoverable now)
  | _ => saveUpdate (operationError operation .rpcUnavailable "RPC_UNAVAILABLE"
      "Independent chain verification is unavailable; no confirmed chain evidence is claimed."
      true now)

/-- The operation once its verification begins. -/
def verifyingUpdate (operation : AnchorOperation) (transactionHash : HashHex)
    (now : Timestamp) : AnchorOperation :=
  { operation with
    counters := { operation.counters with
      verifications := operation.counters.verifications + 1 }
    lastError := none
    state := .verifyingContractState
    transactionHash := some transactionHash
    updatedAt := now }

/-- `verifyAndConfirm`. -/
def verifyAndConfirm (operation : AnchorOperation) (artifacts : AnchorRelayArtifacts P)
    (transactionHash : HashHex) : WorkflowProg P AnchorOperation := do
  let now ← (await .now : WorkflowProg P Timestamp)
  let verifying ← saveUpdate (verifyingUpdate operation transactionHash now)
  let verified ← (await (.verifyAnchor artifacts.event artifacts.publicKey transactionHash) :
    WorkflowProg P VerifiedSubmissionReceiptAnchor).attempt
  match verified with
  | .ok verified => await (.confirm verifying verified now)
  | .error error => failForVerificationError verifying error now

/-- The operation whose transaction was not found. -/
def notDiscovered (operation : AnchorOperation) (now : Timestamp) : AnchorOperation :=
  operationError operation .reconciliationRequired "ANCHOR_TRANSACTION_NOT_FOUND"
    "The event appears anchored, but its transaction could not yet be independently discovered."
    true now

/-- `verifyAndConfirm`, of a hash that no operation can store. -/
def verifyUnstorable : WorkflowProg P AnchorOperation := do
  let _ ← (await .now : WorkflowProg P Timestamp)
  Prog.throw
    (.storage (.failure "SubmittedIt refused an invalid durable anchor-operation update."))

/-- `discoverAndVerify`. -/
def discoverAndVerify (operation : AnchorOperation) (artifacts : AnchorRelayArtifacts P) :
    WorkflowProg P AnchorOperation := do
  let now ← (await .now : WorkflowProg P Timestamp)
  let discovered ← (do
    let transactionHash ← (await (.discoverAnchor artifacts.event) :
      WorkflowProg P (Option DiscoveredHash))
    match transactionHash with
    | some transactionHash => pure (Sum.inl transactionHash)
    | none => do
      let updated ← Prog.ofExcept
        ((updateAnchorOperation (notDiscovered operation now)).mapError .storage)
      pure (Sum.inr updated) : WorkflowProg P (DiscoveredHash ⊕ AnchorOperation)).attempt
  match discovered with
  | .ok (.inl (.canonical transactionHash)) => verifyAndConfirm operation artifacts transactionHash
  | .ok (.inl .other) => verifyUnstorable
  | .ok (.inr updated) => await (.save updated)
  | .error error => failForVerificationError operation error now

/-- `DIRECT_REVERIFY_STATES`. -/
def directReverify : AnchorOperationState → Bool
  | .verifyingContractState | .rpcUnavailable | .wrongNetwork | .contractMismatch => true
  | _ => false

/-- The error is the relay's, that the event was anchored already. -/
def WorkflowError.alreadyAnchored : WorkflowError → Bool
  | .relay error => error.code = "EVENT_ALREADY_ANCHORED"
  | _ => false

/-- The view's error is that the event was anchored already. -/
def RelayOperationView.alreadyAnchored (view : RelayOperationView) : Bool :=
  view.error.any fun error => error.code = "EVENT_ALREADY_ANCHORED"

/-- The operation's last error is that the event was anchored already. -/
def AnchorOperation.alreadyAnchored (operation : AnchorOperation) : Bool :=
  operation.lastError.any fun error => error.code = "EVENT_ALREADY_ANCHORED"

/-- The operation before its upload. -/
def uploadingUpdate (operation : AnchorOperation) (localBlobId : OpaqueId) (now : Timestamp) :
    AnchorOperation :=
  { operation with
    counters := { operation.counters with uploads := operation.counters.uploads + 1 }
    lastError := none
    localBlobId
    state := .uploadingEncryptedProof
    updatedAt := now }

/-- The operation after its upload. -/
def uploadedUpdate (operation : AnchorOperation) (relayBlobId : OpaqueId) (now : Timestamp) :
    AnchorOperation :=
  { operation with
    lastError := none
    relayBlobId := some relayBlobId
    state := .encryptedProofUploaded
    updatedAt := now }

/-- The operation before its request. -/
def requestingUpdate (operation : AnchorOperation) (now : Timestamp) : AnchorOperation :=
  { operation with
    counters := { operation.counters with
      relayRequests := operation.counters.relayRequests + 1 }
    lastError := none
    state := .requestingMonadAnchor
    updatedAt := now }

/-- The operation after its request. -/
def submittedUpdate (operation : AnchorOperation) (relay : RelayOperationView)
    (now : Timestamp) : AnchorOperation :=
  { operation with
    blockNumber := relay.blockNumber
    lastError := none
    state := .submittedToRelay
    statusToken := some relay.statusToken
    transactionHash := relay.transactionHash
    updatedAt := now }

/-- The operation before a status read. -/
def pollUpdate (operation : AnchorOperation) (now : Timestamp) : AnchorOperation :=
  { operation with
    counters := { operation.counters with polls := operation.counters.polls + 1 }
    state := if operation.transactionHash = none then .waitingForTransaction
      else .waitingForConfirmations
    updatedAt := now }

/-- One request of the relay, and the reading of its body. -/
def fetchRelay {α : Type} (request : RelayRequest P) (read : RelayBody → Except RelayClientError α) :
    WorkflowProg P α := do
  let response ← (await (.fetch request) : WorkflowProg P (Option RelayResponse))
  Prog.ofExcept ((relayFetch response >>= read).mapError .relay)

/-- The status read of a poll. -/
def readStatus (statusToken : Option OpaqueId) : WorkflowProg P RelayOperationView :=
  match statusToken with
  | some statusToken => fetchRelay (.operations statusToken) (readRelayOperation statusToken)
  | none => Prog.throw (.relay ⟨"INVALID_STATUS_TOKEN",
      "The stored relay status token is invalid.", none, false⟩)

/-- `failForRelayError` at the time of the failure. -/
def failNow (operation : AnchorOperation) (error : WorkflowError) :
    WorkflowProg P AnchorOperation := do
  let now ← (await .now : WorkflowProg P Timestamp)
  failForRelayError operation error now

/-- The guarded part of the upload. -/
def upload (operation : AnchorOperation) (artifacts : AnchorRelayArtifacts P) :
    WorkflowProg P AnchorOperation := do
  let uploaded ← fetchRelay (.blobs artifacts.envelope)
    (uploadEncryptedReceipt artifacts.envelope.authenticatedMetadata.receiptId)
  let now ← (await .now : WorkflowProg P Timestamp)
  saveUpdate (uploadedUpdate operation uploaded.blobId now)

/-- The upload, of an operation that has no relay blob yet: the operation to go
on with, or the one to return. -/
def uploadProof (operation : AnchorOperation) (artifacts : AnchorRelayArtifacts P) :
    WorkflowProg P (AnchorOperation ⊕ AnchorOperation) :=
  if operation.relayBlobId.isSome then pure (.inl operation)
  else do
    let now ← (await .now : WorkflowProg P Timestamp)
    let operation ← saveUpdate (uploadingUpdate operation artifacts.blobId now)
    let uploaded ← (upload operation artifacts).attempt
    match uploaded with
    | .ok operation => pure (.inl operation)
    | .error error => do
      let failed ← failNow operation error
      pure (.inr failed)

/-- The guarded part of the request, up to its first save. -/
def submit (operation : AnchorOperation) (artifacts : AnchorRelayArtifacts P) :
    WorkflowProg P (RelayOperationView × AnchorOperation) := do
  let relay ← fetchRelay (.events {
      blobId := operation.relayBlobId
      event := artifacts.event
      extensionPublicKey := artifacts.publicKey
      idempotencyKey := operation.idempotencyKey }) (requestRelayAnchor artifacts.event)
  Prog.ofExcept (assertRelayBinding operation relay)
  let now ← (await .now : WorkflowProg P Timestamp)
  let submitted ← saveUpdate (submittedUpdate operation relay now)
  pure (relay, submitted)

/-- The request of an operation that has no status token yet: the operation to
go on with, or the one to return. -/
def requestAnchor (operation : AnchorOperation) (artifacts : AnchorRelayArtifacts P) :
    WorkflowProg P (AnchorOperation ⊕ AnchorOperation) :=
  if operation.statusToken.isSome then pure (.inl operation)
  else do
    let now ← (await .now : WorkflowProg P Timestamp)
    let operation ← saveUpdate (requestingUpdate operation now)
    let submitted ← (submit operation artifacts).attempt
    match submitted with
    | .ok (relay, submitted) => do
      let viewed ← (saveRelayView submitted relay).attempt
      match viewed with
      | .ok operation => pure (.inl operation)
      | .error error => do
        let failed ← failNow submitted error
        pure (.inr failed)
    | .error error =>
      if error.alreadyAnchored then do
        let result ← discoverAndVerify operation artifacts
        pure (.inr result)
      else do
        let failed ← failNow operation error
        pure (.inr failed)

/-- The operation whose polling paused. -/
def pausedUpdate (operation : AnchorOperation) (now : Timestamp) : AnchorOperation :=
  operationError operation .reconciliationRequired "BOUNDED_POLLING_PAUSED"
    "SubmittedIt paused bounded polling and will safely recheck this durable operation." true now

/-- The pause before every poll but the first. -/
def pauseUnless (first : Bool) : WorkflowProg P Unit :=
  if first then pure () else await (.pause POLL_DELAY_MS)

/-- The guarded part of a poll. -/
def readView (operation : AnchorOperation) :
    WorkflowProg P (RelayOperationView × AnchorOperation) := do
  let relay ← readStatus operation.statusToken
  let viewed ← saveRelayView operation relay
  pure (relay, viewed)

/-- The polling loop with `n` turns left; `first` in the first of them. -/
def pollRelay (artifacts : AnchorRelayArtifacts P) (first : Bool) :
    Nat → AnchorOperation → WorkflowProg P AnchorOperation
  | 0, operation => do
    let now ← (await .now : WorkflowProg P Timestamp)
    saveUpdate (pausedUpdate operation now)
  | n + 1, operation =>
    if operation.state = .chainEvidenceConfirmed then pure operation
    else if operation.state = .finalFailure ∧ operation.alreadyAnchored = false then
      pure operation
    else if operation.alreadyAnchored then discoverAndVerify operation artifacts
    else match operation.transactionHash, operation.state with
    | some transactionHash, .verifyingContractState =>
      verifyAndConfirm operation artifacts transactionHash
    | _, _ => do
      pauseUnless first
      let now ← (await .now : WorkflowProg P Timestamp)
      let operation ← saveUpdate (pollUpdate operation now)
      let read ← (readView operation).attempt
      match read with
      | .error error => failNow operation error
      | .ok (relay, viewed) =>
        match relay.state, viewed.transactionHash with
        | .confirmed, some transactionHash => verifyAndConfirm viewed artifacts transactionHash
        | .failedFinal, _ =>
          if relay.alreadyAnchored then discoverAndVerify viewed artifacts else pure viewed
        | .reverted, _ => pure viewed
        | _, _ => pollRelay artifacts false n viewed

/-- The workflow from the request on. -/
def requestAndPoll (operation : AnchorOperation) (artifacts : AnchorRelayArtifacts P) :
    WorkflowProg P AnchorOperation := do
  let requested ← requestAnchor operation artifacts
  match requested with
  | .inr result => pure result
  | .inl operation => pollRelay artifacts true MAX_POLLS_PER_WAKE operation

/-- `runAnchorWorkflow`. -/
def runAnchorWorkflow (receiptId : ReceiptId) (eventHash : HashHex) :
    WorkflowProg P AnchorOperation := do
  let now ← (await .now : WorkflowProg P Timestamp)
  let operation ← (await (.ensure receiptId eventHash now) : WorkflowProg P AnchorOperation)
  if operation.state = .chainEvidenceConfirmed ∨ operation.state = .finalFailure then
    pure operation
  else do
    let artifacts ← (await (.getArtifacts receiptId eventHash) :
      WorkflowProg P (AnchorRelayArtifacts P))
    match operation.transactionHash, directReverify operation.state with
    | some transactionHash, true => verifyAndConfirm operation artifacts transactionHash
    | _, _ => do
      let uploaded ← uploadProof operation artifacts
      match uploaded with
      | .inr result => pure result
      | .inl operation => requestAndPoll operation artifacts

end workflow

end SubmittedIt.Extension
