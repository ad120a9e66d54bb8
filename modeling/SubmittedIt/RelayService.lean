/-
SubmittedIt/RelayService.lean

The relay service (apps/web/lib/relay/relay-service.ts).

`RelayOp` lists what the service awaits: the clock, the chain gateway, its
source of random identifiers and its database statements.  The gateway and
the clock may answer anything, and a database connection may fail before a
statement or after it (the acknowledgement is lost); `execute` says what an
operation does for a given answer of the environment.

The service's methods are programs over these operations.  A `return` of a
promise that is not awaited leaves its `try` block, so a `catch` covers
exactly the awaited calls; `attempt` marks them.  Log lines are left out.
-/
import SubmittedIt.Prog
import SubmittedIt.RelayDatabase

namespace SubmittedIt.Relay

open Transaction ReceiptCore ContractClient

/-! ### Operations -/

inductive RelayOp
  | now
  | randomId
  | getChainId
  | getContractCode
  | getProtocolVersion
  | getBalance
  | getPendingNonce
  | getRelayerAddress
  | getReceiptState (receiptId : ReceiptId) (eventHash : HashHex)
  | estimateAnchor (request : AnchorRequest)
  | prepareAnchor (request : AnchorRequest) (fee : RelayFeeQuote) (nonce : Nat)
  | broadcastTransaction (transaction : PreparedRelayTransaction)
  | waitForReceipt (hash : HashHex) (confirmations timeoutMs : Nat)
  | readTransactionReceipt (hash : HashHex)
  | selectBlob (publicId : OpaqueId)
  | selectByEventHash (eventHash : HashHex)
  | selectByIdempotencyKey (keyHash : Digest)
  | selectById (id : Nat)
  | selectByStatusToken (statusToken : OpaqueId)
  | applyRateLimits (limits : List RelayDb.RateLimit)
  | acquireOperation (a : Acquisition)
  | countPoll (statusToken : OpaqueId)
  | update (id : Nat) (stmt : Statement)
  | prepareNewTransaction (p : Preparation)
  | recordMinedCost (id blockNumber : Nat)
  | markFinalWithoutTransaction (id : Nat)
  | markExternallyAnchored (id : Nat)

/-- What an operation returns. -/
@[reducible] def RelayOp.Result : RelayOp → Type
  | now => Timestamp
  | randomId => OpaqueId
  | getChainId => Nat
  | getContractCode => Bool
  | getProtocolVersion => Nat
  | getBalance => Nat
  | getPendingNonce => Nat
  | getRelayerAddress => Address
  | getReceiptState .. => RelayContractState
  | estimateAnchor _ => RelayFeeQuote
  | prepareAnchor .. => PreparedRelayTransaction
  | broadcastTransaction _ => HashHex
  | waitForReceipt .. => RelayTransactionReceipt
  | readTransactionReceipt _ => Option RelayTransactionReceipt
  | selectBlob _ => Option BlobBindingRow
  | selectByEventHash _ => Option RelayOperationRow
  | selectByIdempotencyKey _ => Option RelayOperationRow
  | selectById _ => Option RelayOperationRow
  | selectByStatusToken _ => Option RelayOperationRow
  | applyRateLimits _ => Bool
  | acquireOperation _ => Bool × RelayOperationRow
  | countPoll _ => Option RelayOperationRow
  | update .. => Option RelayOperationRow
  | prepareNewTransaction _ => Option RelayOperationRow × Option PreparedRelayTransaction
  | recordMinedCost .. => Option RelayOperationRow
  | markFinalWithoutTransaction _ => Option RelayOperationRow
  | markExternallyAnchored _ => Option RelayOperationRow

/-- How a database statement fared: executed and acknowledged, never sent, or
executed with its acknowledgement lost. -/
inductive DbOutcome
  | acknowledged
  | notSent
  | lost
  deriving DecidableEq

/-- The environment's part in a statement: its outcome and the database's
clock. -/
structure DbAnswer where
  outcome : DbOutcome
  now : Timestamp

/-- The environment's part in an operation. -/
@[reducible] def RelayOp.Answer : RelayOp → Type
  | now => Timestamp
  | randomId => OpaqueId
  | getChainId => Except RelayError Nat
  | getContractCode => Except RelayError Bool
  | getProtocolVersion => Except RelayError Nat
  | getBalance => Except RelayError Nat
  | getPendingNonce => Except RelayError Nat
  | getRelayerAddress => Except RelayError Address
  | getReceiptState .. => Except RelayError RelayContractState
  | estimateAnchor _ => Except RelayError RelayFeeQuote
  | prepareAnchor .. => Except RelayError PreparedRelayTransaction
  | broadcastTransaction _ => Except RelayError HashHex
  | waitForReceipt .. => Except RelayError RelayTransactionReceipt
  | readTransactionReceipt _ => Except RelayError (Option RelayTransactionReceipt)
  | prepareNewTransaction _ => DbAnswer ×
      (AnchorRequest → RelayFeeQuote → Nat → Except RelayError PreparedRelayTransaction)
  | _ => DbAnswer

/-- A statement under a given outcome of its connection. -/
def DbAnswer.apply {α : Type} (answer : DbAnswer)
    (statement : RelayDb → Timestamp → Except RelayError α × RelayDb) (db : RelayDb) :
    Except RelayError α × RelayDb :=
  match answer.outcome with
  | .acknowledged => statement db answer.now
  | .notSent => (.error .database, db)
  | .lost => (.error .database, (statement db answer.now).2)

/-- A statement that only reads. -/
def reads {α : Type} (f : RelayDb → α) (db : RelayDb) (_ : Timestamp) :
    Except RelayError α × RelayDb :=
  (.ok (f db), db)

/-- What an operation does to the database, and what it returns, for an
answer of the environment. -/
def execute (P : RelayPlatform) :
    (o : RelayOp) → o.Answer → RelayDb → Except RelayError o.Result × RelayDb
  | .now, t, db => (.ok t, db)
  | .randomId, id, db => (.ok id, db)
  | .getChainId, answer, db => (answer, db)
  | .getContractCode, answer, db => (answer, db)
  | .getProtocolVersion, answer, db => (answer, db)
  | .getBalance, answer, db => (answer, db)
  | .getPendingNonce, answer, db => (answer, db)
  | .getRelayerAddress, answer, db => (answer, db)
  | .getReceiptState .., answer, db => (answer, db)
  | .estimateAnchor _, answer, db => (answer, db)
  | .prepareAnchor .., answer, db => (answer, db)
  | .broadcastTransaction _, answer, db => (answer, db)
  | .waitForReceipt .., answer, db => (answer, db)
  | .readTransactionReceipt _, answer, db => (answer, db)
  | .selectBlob publicId, answer, db =>
    answer.apply (reads fun db => db.blobs.find? fun b => b.publicId = publicId && b.active) db
  | .selectByEventHash eventHash, answer, db =>
    answer.apply (reads fun db =>
      db.operations.find? fun r => r.binding.eventHash = eventHash) db
  | .selectByIdempotencyKey keyHash, answer, db =>
    answer.apply (reads fun db =>
      db.operations.find? fun r => r.binding.idempotencyKeyHash = some keyHash) db
  | .selectById id, answer, db => answer.apply (reads fun db => db.row id) db
  | .selectByStatusToken statusToken, answer, db =>
    answer.apply (reads fun db =>
      db.operations.find? fun r => r.binding.publicStatusId = statusToken) db
  | .applyRateLimits limits, answer, db =>
    answer.apply (fun db _ => (.ok (db.applyRateLimits limits).1, (db.applyRateLimits limits).2)) db
  | .acquireOperation a, answer, db => answer.apply (fun db now => db.acquireOperation a now) db
  | .countPoll statusToken, answer, db =>
    answer.apply (fun db now => db.countPoll statusToken now) db
  | .update id stmt, answer, db => answer.apply (fun db now => db.update id stmt now) db
  | .prepareNewTransaction p, (answer, prepareAnchor), db =>
    answer.apply (fun db now => db.prepareNewTransaction P.checksum p prepareAnchor now) db
  | .recordMinedCost id blockNumber, answer, db =>
    answer.apply (fun db now => db.recordMinedCost id blockNumber now) db
  | .markFinalWithoutTransaction id, answer, db =>
    answer.apply (fun db now => db.markFinalWithoutTransaction id now) db
  | .markExternallyAnchored id, answer, db =>
    answer.apply (fun db now => db.markExternallyAnchored id now) db

/-- A method of the service. -/
abbrev RelayProg (α : Type) := Prog RelayOp RelayOp.Result RelayError α

/-- One awaited operation. -/
def call (o : RelayOp) : RelayProg o.Result := Prog.perform o

def now : RelayProg Timestamp := call .now

def update (id : Nat) (stmt : Statement) : RelayProg (Option RelayOperationRow) :=
  call (.update id stmt)

/-! ### Reading and marking rows -/

/-- `#refresh`. -/
def refresh (id : Nat) : RelayProg RelayOperationRow := do
  match ← (call (.selectById id) : RelayProg (Option RelayOperationRow)) with
  | some row => pure row
  | none => Prog.throw (.internal "The durable relay operation disappeared.")

/-- An update that falls back to the stored row where none matched. -/
def updateOrRefresh (id : Nat) (stmt : Statement) : RelayProg RelayOperationRow := do
  match ← update id stmt with
  | some row => pure row
  | none => refresh id

section service

variable (P : RelayPlatform) (config : RelayConfiguration)

/-- `#markRetryable`. -/
def markRetryable (id : Nat) (code : RelayErrorCode) (message : String) :
    RelayProg RelayOperationRow := do
  let t ← now
  updateOrRefresh id (.markRetryable code message (t + config.confirmationPollIntervalMs))

/-- `#deferReconciliation`. -/
def deferReconciliation (id : Nat) : RelayProg RelayOperationRow := do
  let t ← now
  updateOrRefresh id (.deferReconciliation (t + config.confirmationPollIntervalMs))

/-- `#recordMinedCost`. -/
def recordMinedCost (row : RelayOperationRow) (blockNumber : Nat) :
    RelayProg RelayOperationRow := do
  let locked ← (call (.recordMinedCost row.id blockNumber) :
    RelayProg (Option RelayOperationRow))
  pure (locked.getD row)

/-- `#markFinalWithoutTransaction`. -/
def markFinalWithoutTransaction (row : RelayOperationRow) : RelayProg RelayOperationRow := do
  let locked ← (call (.markFinalWithoutTransaction row.id) :
    RelayProg (Option RelayOperationRow))
  pure (locked.getD row)

/-- `#markExternallyAnchored`. -/
def markExternallyAnchored (row : RelayOperationRow) : RelayProg RelayOperationRow := do
  let locked ← (call (.markExternallyAnchored row.id) :
    RelayProg (Option RelayOperationRow))
  pure (locked.getD row)

/-! ### Finalization -/

/-- The end of each branch of `#finalizeReceipt`: the branch's `UPDATE` on the
mined row, or the stored row where it matched none. -/
def settle (row mined : RelayOperationRow) (stmt : Timestamp → Statement) :
    RelayProg RelayOperationRow := do
  let t ← now
  match ← update mined.id (stmt t) with
  | some row => pure row
  | none => refresh row.id

/-- Whether the registry shows the event the row was to anchor. -/
def evidenceMatches (row : RelayOperationRow) (contractState : RelayContractState) : Bool :=
  contractState.isEventAnchored && decide (row.binding.contractStage ≤ contractState.currentStage)
    && decide (contractState.extensionKeyHash = row.binding.extensionKeyHash)

/-- `#finalizeReceipt`. -/
def finalizeReceipt (row : RelayOperationRow) (receipt : RelayTransactionReceipt) :
    RelayProg RelayOperationRow :=
  if row.transaction.hash = none ∨ some receipt.transactionHash ≠ row.transaction.hash then
    markRetryable config row.id .rpcUnavailable
      "The RPC returned a receipt for an unexpected transaction; confirmation was not recorded."
  else do
    let mined ← recordMinedCost row receipt.blockNumber
    if receipt.reverted = true then settle row mined (.reverted receipt.blockNumber)
    else if receipt.contractEventFound = false then
      settle row mined (.eventMissing receipt.blockNumber)
    else do
      let read ← (call (.getReceiptState row.binding.receiptId row.binding.eventHash) :
        RelayProg RelayContractState).attempt
      match read with
      | .error _ =>
        markRetryable config row.id .rpcUnavailable
          "The transaction mined, but contract-state reconciliation is temporarily unavailable."
      | .ok contractState =>
        if evidenceMatches row contractState = false then
          settle row mined (.stateMismatch receipt.blockNumber)
        else settle row mined (.confirmed receipt.blockNumber)

/-! ### Broadcasting -/

/-- `isTimeoutError`. -/
def isTimeoutError : RelayError → Bool
  | .chain timeout => timeout
  | _ => false

/-- `#broadcastPrepared`. -/
def broadcastPrepared (row : RelayOperationRow) (prepared : PreparedRelayTransaction) :
    RelayProg RelayOperationRow := do
  let sent ← (do
    let broadcastHash ← (call (.broadcastTransaction prepared) : RelayProg HashHex)
    if broadcastHash ≠ prepared.hash then
      Prog.throw (.internal "RPC returned a different transaction hash.")
    else pure () : RelayProg Unit).attempt
  match sent with
  | .error _ =>
    markRetryable config row.id .transactionSubmissionFailed
      "Transaction broadcast was not acknowledged; the same signed transaction can be retried."
  | .ok () => do
    let submittedAt ← now
    let t ← now
    let stored ← update row.id (.submitted submittedAt (t + config.confirmationPollIntervalMs))
    let submitted ← match stored with
      | some row => pure row
      | none => refresh row.id
    let waited ← (call (.waitForReceipt prepared.hash config.confirmationTarget
      config.confirmationTimeoutMs) : RelayProg RelayTransactionReceipt).attempt
    match waited with
    | .ok receipt =>
      if receipt.confirmations < config.confirmationTarget then
        markRetryable config submitted.id .confirmationTimeout
          "The transaction has not reached the configured confirmation target."
      else finalizeReceipt config submitted receipt
    | .error e =>
      if isTimeoutError e = true then
        markRetryable config submitted.id .confirmationTimeout
          "Confirmation timed out; the persisted transaction will be reconciled without resubmission."
      else
        markRetryable config submitted.id .rpcUnavailable
          "The receipt RPC is unavailable; the persisted transaction will be reconciled later."

/-- `#recreatePrepared`. -/
def recreatePrepared (row : RelayOperationRow) : RelayProg PreparedRelayTransaction :=
  match row.transaction.nonce with
  | none => Prog.throw (.internal "Stored transaction nonce is missing.")
  | some nonce =>
    match requestFromRow P.checksum row, feeFromRow row with
    | .ok request, some fee => do
      let prepared ← (call (.prepareAnchor request fee nonce) :
        RelayProg PreparedRelayTransaction)
      if some prepared.hash ≠ row.transaction.hash then
        Prog.throw (.internal
          "Recreated transaction hash differs from the durable transaction hash.")
      else pure prepared
    | _, _ => Prog.throw (.internal "Stored relay fee reservation is incomplete.")

/-- `#rebroadcast`. -/
def rebroadcast (row : RelayOperationRow) : RelayProg RelayOperationRow := do
  match ← (recreatePrepared P row).attempt with
  | .error _ =>
    markRetryable config row.id .transactionSubmissionFailed
      "The durable transaction could not be reconstructed safely."
  | .ok prepared => do
    let t ← now
    match ← update row.id
        (.rebroadcast (t + config.confirmationPollIntervalMs) config.maxAttemptsPerEvent) with
    | none => refresh row.id
    | some updated => broadcastPrepared config updated prepared

/-! ### Preparing -/

/-- `#prepareNewTransaction`. -/
def prepareNewTransaction (row : RelayOperationRow) :
    RelayProg (RelayOperationRow × Option PreparedRelayTransaction) := do
  let signer ← (do
    let pendingNonce ← (call .getPendingNonce : RelayProg Nat)
    let signerAddress ← (call .getRelayerAddress : RelayProg Address)
    pure (pendingNonce, signerAddress) : RelayProg (Nat × Address)).attempt
  match signer with
  | .error _ => do
    let marked ← markRetryable config row.id .rpcUnavailable
      "The relayer nonce is temporarily unavailable; the operation remains recoverable."
    pure (marked, none)
  | .ok (pendingNonce, signerAddress) => do
    let prepared ← (do
      let t ← now
      call (.prepareNewTransaction {
        id := row.id
        nonceKey := ⟨config.chainId, config.contractAddress, signerAddress⟩
        pendingNonce
        nextReconcileAt := t + max 5000 config.confirmationPollIntervalMs }) :
      RelayProg (Option RelayOperationRow × Option PreparedRelayTransaction)).attempt
    match prepared with
    | .error _ => do
      let marked ← markRetryable config row.id .transactionSubmissionFailed
        "The relay could not prepare the transaction; the operation remains recoverable."
      pure (marked, none)
    | .ok (stored, transaction) => pure (stored.getD row, transaction)

/-! ### Reconciliation -/

/-- Whether a row's next reconciliation is due; the clock is read only where
the row names a time. -/
def reconciliationDue (row : RelayOperationRow) : RelayProg Bool :=
  match row.nextReconcileAt with
  | none => pure true
  | some next => do
    let t ← now
    pure (decide (next ≤ t))

/-- `#reconcile`. -/
def reconcile (rowInput : RelayOperationRow) (allowBroadcast : Bool) :
    RelayProg RelayOperationRow := do
  let row ← refresh rowInput.id
  if row.state.isTerminal = true then pure row
  else match row.transaction.hash with
  | some hash => do
    let due ← reconciliationDue row
    if due = false then pure row
    else do
      let read ← (call (.readTransactionReceipt hash) :
        RelayProg (Option RelayTransactionReceipt)).attempt
      match read with
      | .error _ =>
        markRetryable config row.id .rpcUnavailable
          "The transaction receipt is temporarily unavailable; reconciliation will retry."
      | .ok (some receipt) =>
        if receipt.confirmations < config.confirmationTarget then
          deferReconciliation config row.id
        else finalizeReceipt config row receipt
      | .ok none =>
        if allowBroadcast = true ∧ row.attemptCount < config.maxAttemptsPerEvent then
          rebroadcast P config row
        else if row.attemptCount ≥ config.maxAttemptsPerEvent ∧ row.state ≠ .failedRetryable then
          markRetryable config row.id .transactionSubmissionFailed
            "The maximum safe broadcasts were exhausted; receipt-only reconciliation remains available."
        else if allowBroadcast = true then pure row
        else deferReconciliation config row.id
  | none =>
    if allowBroadcast = false then pure row
    else if row.attemptCount ≥ config.maxAttemptsPerEvent then markFinalWithoutTransaction row
    else do
      let prepared ← prepareNewTransaction config row
      match prepared.2 with
      | some transaction => broadcastPrepared config prepared.1 transaction
      | none => pure prepared.1

/-! ### Checks of a request -/

/-- The checks of `parseRelayEventRequest` on a decoded request. -/
def parseRelayEventRequest (input : Option RelayEventRequest) :
    Except RelayError (RelayEventRequest × RelayEventStage) :=
  match input with
  | none =>
    .error (serviceError .invalidSchema
      "The relay request schema is invalid or contains unsupported fields." 400)
  | some request =>
    let event := request.event
    let stage := match event.core.stage with
      | .attempted => some RelayEventStage.attempted
      | .siteConfirmed => some RelayEventStage.siteConfirmed
      | .authorityAccepted | .authorityRejected => none
    match stage with
    | none => .error (serviceError .invalidSchema
        "This checkpoint relays signed Attempted and Site confirmed events without an existing chain anchor."
        400)
    | some stage =>
      if event.extensionSignature = none ∨ event.authoritySignature ≠ none
          ∨ event.chainAnchor ≠ none then
        .error (serviceError .invalidSchema
          "This checkpoint relays signed Attempted and Site confirmed events without an existing chain anchor."
          400)
      else if hashEventCore P.keccak event.core ≠ event.eventHash then
        .error (serviceError .invalidEventHash
          "The supplied event hash does not match the canonical event core." 409)
      else .ok (request, stage)

/-- `verifyExtensionSignature`. -/
def verifyExtensionSignature (event : LifecycleEventEnvelope) (key : PublicKeyDescriptor) : Bool :=
  match event.extensionSignature with
  | none => false
  | some signature =>
    let payload : ExtensionSignaturePayload :=
      ⟨event.eventHash, event.core.receiptId, event.core.schemaVersion, event.core.stage⟩
    signature.keyId = key.keyId && signature.payloadHash = P.keccak (.extensionSignature payload)
      && P.verifyBytes payload signature.signature key

/-- `#validateRequest`. -/
def validateRequest (request : RelayEventRequest) (stage : RelayEventStage) :
    RelayProg ValidatedRelayEvent := do
  match ← (call (.selectBlob request.blobId) : RelayProg (Option BlobBindingRow)) with
  | none => Prog.throw (serviceError .blobNotFound
      "The referenced encrypted receipt blob does not exist." 404)
  | some blob =>
    if blob.receiptId ≠ request.event.core.receiptId then
      Prog.throw (serviceError .invalidSchema
        "The encrypted blob and signed event refer to different receipt IDs." 409)
    else if blob.extensionKeyId ≠ request.extensionPublicKey.keyId
        ∨ request.event.extensionSignature.map (·.keyId) ≠ some request.extensionPublicKey.keyId then
      Prog.throw (serviceError .keyFingerprintMismatch
        "The encrypted blob, signature, and extension public key identities do not match." 409)
    else if verifyExtensionSignature P request.event request.extensionPublicKey = false then
      Prog.throw (serviceError .invalidSignature
        "The extension signature does not verify for the canonical event." 401)
    else match P.keyFingerprint request.extensionPublicKey with
      | .error e => Prog.throw (.service e)
      | .ok extensionKeyHash => pure {
          request, stage, extensionKeyHash
          eventHash := request.event.eventHash
          requestFingerprint :=
            P.fingerprintRequest request.blobId request.event request.extensionPublicKey }

/-- `#buildAnchorRequest`. -/
def buildAnchorRequest (event : ValidatedRelayEvent) : Except RelayError AnchorRequest :=
  match createChainAnchorPayload (Except.ok : Decoder LifecycleEventEnvelope) P.keccak
      event.request.event config.chainId config.contractAddress with
  | .error e => .error (.internal e.message)
  | .ok projection =>
    match createAnchorRequestForTarget P.checksum projection event.extensionKeyHash 0
        ⟨config.contractAddress, config.chainId⟩ with
    | .error e => .error (.internal e.message)
    | .ok request => .ok request

/-- `#validateStaticTransition`. -/
def validateStaticTransition (event : ValidatedRelayEvent) : Except RelayError Unit := do
  let previous := event.request.event.core.previousEventHash
  revertIf (event.stage = .attempted ∧ previous ≠ ZERO_HASH)
    (serviceError .incorrectPreviousEvent
      "An Attempted event must use the zero previous-event hash." 409)
  revertIf (event.stage = .siteConfirmed ∧ previous = ZERO_HASH)
    (serviceError .incorrectPreviousEvent
      "A Site confirmed event must link to a nonzero previous-event hash." 409)

/-- `#chainCall`: a failure that is no service error is an unavailable RPC. -/
def chainCall {α : Type} (call : RelayProg α) : RelayProg α :=
  call.tryCatch fun e =>
    match e with
    | .service e => Prog.throw (.service e)
    | _ => Prog.throw (serviceError .rpcUnavailable
        "The configured chain RPC is unavailable. No transaction was sent." 503)

/-- `#precheckRuntime`. -/
def precheckRuntime (event : ValidatedRelayEvent) : RelayProg RelayContractState := do
  let chainId ← chainCall (call .getChainId : RelayProg Nat)
  let code ← chainCall (call .getContractCode : RelayProg Bool)
  if chainId ≠ config.chainId then
    Prog.throw (serviceError .wrongChain "The relay RPC is connected to a different chain." 503)
  else if code = false then
    Prog.throw (serviceError .contractMismatch
      "The configured registry address has no contract bytecode." 503)
  else do
    let protocolVersion ← chainCall (call .getProtocolVersion : RelayProg Nat)
    let contractState ← chainCall (call
      (.getReceiptState event.request.event.core.receiptId event.eventHash) :
      RelayProg RelayContractState)
    if protocolVersion ≠ 1 then
      Prog.throw (serviceError .contractMismatch
        "The configured registry protocol version is not supported." 503)
    else pure contractState

/-- `#validateTransition`. -/
def validateTransition (event : ValidatedRelayEvent) (state : RelayContractState) :
    Except RelayError Unit :=
  match event.stage with
  | .attempted =>
    revertIf (state.currentStage ≠ 0 ∨ state.eventCount ≠ 0 ∨ state.latestEventHash ≠ 0)
      (serviceError .invalidTransition
        "The contract receipt is no longer eligible for a first Attempted event." 409)
  | .siteConfirmed => do
    revertIf (state.latestEventHash ≠ event.request.event.core.previousEventHash)
      (serviceError .incorrectPreviousEvent
        "The linked event does not match the contract's current receipt tip." 409)
    revertIf (state.currentStage ≠ 1 ∨ state.eventCount ≠ 1)
      (serviceError .invalidTransition
        "The current contract stage does not permit Site confirmed." 409)
    revertIf (state.extensionKeyHash ≠ event.extensionKeyHash)
      (serviceError .keyFingerprintMismatch
        "The extension public key does not match the key established onchain." 409)

/-- `#estimate`. -/
def estimate (request : AnchorRequest) : RelayProg RelayFeeQuote :=
  (call (.estimateAnchor request) : RelayProg RelayFeeQuote).tryCatch fun _ =>
    Prog.throw (serviceError .rpcUnavailable
      "The relay could not estimate a safe transaction fee. No transaction was sent." 503)

/-- The start of the rate-limit window a reading of the clock falls in. -/
def windowStart (t : Timestamp) : Timestamp :=
  let windowMs : Int := config.rateLimitWindowSeconds * 1000
  t / windowMs * windowMs

/-- `#applyRateLimits`. -/
def applyRateLimits (event : ValidatedRelayEvent) (networkScope : Text) : RelayProg Unit := do
  let t ← now
  let start := windowStart config t
  let limits : List RelayDb.RateLimit := [
    ⟨⟨.ip, P.scopeHash (.ip networkScope), start⟩, config.requestIpRequestsPerWindow⟩,
    ⟨⟨.publicKey, P.scopeHash (.publicKey event.extensionKeyHash), start⟩,
      config.publicKeyRequestsPerWindow⟩,
    ⟨⟨.receipt, P.scopeHash (.receipt event.request.event.core.receiptId), start⟩,
      config.receiptRequestsPerWindow⟩]
  let limited ← (call (.applyRateLimits limits) : RelayProg Bool)
  if limited = true then
    let remainingMs := start + config.rateLimitWindowSeconds * 1000 - t
    Prog.throw (.service ⟨.rateLimited,
      "The relay request limit was reached. Retry after the indicated window.", 429,
      some (max 1 (-(-remainingMs / 1000)))⟩)
  else pure ()

/-- `#assertExistingBinding`. -/
def assertExistingBinding (row : RelayOperationRow) (event : ValidatedRelayEvent) :
    RelayProg Unit :=
  if row.binding.requestFingerprint ≠ event.requestFingerprint then
    Prog.throw (serviceError .idempotencyConflict
      "The event hash is already bound to different relay request content." 409)
  else match event.request.idempotencyKey with
    | none => pure ()
    | some key => do
      let keyed ← (call (.selectByIdempotencyKey (P.sha256 key)) :
        RelayProg (Option RelayOperationRow))
      if keyed.any (fun r => r.id ≠ row.id) then
        Prog.throw (serviceError .idempotencyConflict
          "That idempotency key is already bound to a different relay request." 409)
      else pure ()

/-- `#findByEventHash`. -/
def findByEventHash (eventHash : HashHex) : RelayProg (Option RelayOperationRow) :=
  call (.selectByEventHash eventHash)

/-- `#acquireOperation`. -/
def acquireOperation (event : ValidatedRelayEvent) (request : AnchorRequest)
    (fee : RelayFeeQuote) (reservation : Nat) : RelayProg (Bool × RelayOperationRow) := do
  let publicStatusId ← (call .randomId : RelayProg OpaqueId)
  let t ← now
  call (.acquireOperation {
    event, fee, reservation, publicStatusId
    args := request.args
    chainId := request.chainId
    address := request.address
    idempotencyKeyHash := event.request.idempotencyKey.map P.sha256
    now := t
    dailyBudgetWei := config.dailyBudgetWei
    confirmationTarget := config.confirmationTarget })

/-! ### The two entry points -/

/-- The part of `relay` for an event that is already anchored. -/
def relayAnchored (validated : ValidatedRelayEvent) : RelayProg RelayOperationView := do
  match ← findByEventHash validated.eventHash with
  | none => Prog.throw (serviceError .eventAlreadyAnchored
      "This event is already anchored outside the current relay record; no transaction was sent."
      409)
  | some existing => do
    assertExistingBinding P existing validated
    if existing.transaction.hash = none then do
      let conflicted ← markExternallyAnchored existing
      pure (toOperationView conflicted)
    else do
      let reconciled ← reconcile P config existing false
      pure (toOperationView reconciled)

/-- The part of `relay` that acquires an operation and broadcasts it. -/
def relayFresh (validated : ValidatedRelayEvent) (anchorRequest : AnchorRequest)
    (networkScope : Text) : RelayProg RelayOperationView := do
  let contractState ← precheckRuntime config validated
  if contractState.isEventAnchored = true then relayAnchored P config validated
  else do
    Prog.ofExcept (validateTransition validated contractState)
    let fee ← estimate anchorRequest
    let reservation := fee.gasLimit * fee.maxFeePerGas
    if reservation > config.dailyBudgetWei then
      Prog.throw (serviceError .dailyBudgetExceeded
        "The relay daily fee budget cannot cover this request. Try again after the UTC budget reset."
        429)
    else do
      let balance ← chainCall (call .getBalance : RelayProg Nat)
      if balance < reservation + config.minimumBalanceWei then
        Prog.throw (serviceError .insufficientRelayerFunds
          "The relayer balance is below its protected operating reserve. Try again after funding."
          503)
      else do
        applyRateLimits P config validated networkScope
        let acquired ← acquireOperation P config validated anchorRequest fee reservation
        let result ← reconcile P config acquired.2 true
        pure (toOperationView result)

/-- `relay`. -/
def relay (input : Option RelayEventRequest) (context : RelayRequestContext) :
    RelayProg RelayOperationView := do
  let (request, stage) ← Prog.ofExcept (parseRelayEventRequest P input)
  let validated ← validateRequest P request stage
  let anchorRequest ← Prog.ofExcept (buildAnchorRequest P config validated)
  Prog.ofExcept (validateStaticTransition validated)
  match ← findByEventHash validated.eventHash with
  | none => relayFresh P config validated anchorRequest context.networkScope
  | some persisted => do
    assertExistingBinding P persisted validated
    if persisted.state.isTerminal = true then pure (toOperationView persisted)
    else if persisted.transaction.hash ≠ none then do
      applyRateLimits P config validated context.networkScope
      let contractState ← precheckRuntime config validated
      let reconciled ← reconcile P config persisted (!contractState.isEventAnchored)
      pure (toOperationView reconciled)
    else relayFresh P config validated anchorRequest context.networkScope

/-- `getOperation`; the token is `none` where it is not an opaque
identifier. -/
def getOperation (statusToken : Option OpaqueId) : RelayProg (Option RelayOperationView) :=
  match statusToken with
  | none => Prog.throw (serviceError .operationNotFound
      "No relay operation is available for that identifier." 404)
  | some statusToken => do
    let polled ← (call (.countPoll statusToken) : RelayProg (Option RelayOperationRow))
    let found ← match polled with
      | some row => pure (some row)
      | none => (call (.selectByStatusToken statusToken) :
          RelayProg (Option RelayOperationRow))
    match found with
    | none => pure none
    | some row =>
      if row.state.isTerminal = true then pure (some (toOperationView row))
      else if row.pollCount > config.maxConfirmationPolls then pure (some (toOperationView row))
      else do
        let reconciled ← reconcile P config row false
        pure (some (toOperationView reconciled))

/-- A request to the service: a call of one of its entry points. -/
inductive RelayCall : RelayProg Unit → Prop
  | relay (input : Option RelayEventRequest) (context : RelayRequestContext) :
      RelayCall (relay P config input context >>= fun _ => pure ())
  | getOperation (statusToken : Option OpaqueId) :
      RelayCall (getOperation P config statusToken >>= fun _ => pure ())

/-- The database states that any interleaving of requests reaches, with any
number of instances of the service, crashes at any await and any answers of
the environment. -/
def ReachableDb (blobs : List BlobBindingRow) (db : RelayDb) : Prop :=
  Interleave.Reachable (execute P) (RelayCall P config) (RelayDb.initial blobs) db

end service

end SubmittedIt.Relay
