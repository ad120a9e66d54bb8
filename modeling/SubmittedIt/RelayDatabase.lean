/-
SubmittedIt/RelayDatabase.lean

The relay's database statements.

A statement or a transaction is one atomic operation on `RelayDb`: a
transaction of the service locks the rows it decides on, so its effects
appear at once when it commits, and an exception inside it undoes them all.
The triggers of `relay_operations` are part of every update:
`enforceRelayOperationUpdate` may raise an exception, and
`recordRelayOperationHistory` appends to the history.

The service's single-row `UPDATE`s are the constructors of `Statement`; each
has a `WHERE` condition beside the row's identifier (`applies`) and a `SET`
clause (`set`).
-/
import SubmittedIt.RelayTypes

namespace SubmittedIt.Relay

open ReceiptCore ContractClient

/-! ### Triggers -/

/-- The transition relation of `enforce_relay_operation_update`. -/
def allowedTransition : RelayOperationState → RelayOperationState → Bool
  | .validating, new => new = .ready || new = .failedFinal
  | .ready, new => new = .submitting || new = .failedRetryable || new = .failedFinal
  | .submitting, new => new = .submitted || new = .failedRetryable || new = .failedFinal
  | .submitted, new =>
    new = .confirmed || new = .reverted || new = .failedRetryable || new = .failedFinal
  | .failedRetryable, new =>
    new = .ready || new = .submitting || new = .submitted || new = .confirmed
      || new = .reverted || new = .failedFinal
  | .confirmed, _ => false
  | .reverted, _ => false
  | .failedFinal, _ => false

/-- The state as the database spells it. -/
def stateText : RelayOperationState → String
  | .validating => "VALIDATING"
  | .ready => "READY"
  | .submitting => "SUBMITTING"
  | .submitted => "SUBMITTED"
  | .confirmed => "CONFIRMED"
  | .reverted => "REVERTED"
  | .failedRetryable => "FAILED_RETRYABLE"
  | .failedFinal => "FAILED_FINAL"

/-- `enforce_relay_operation_update`, executed at the database's time `now`. -/
def enforceRelayOperationUpdate (old new : RelayOperationRow) (now : Timestamp) :
    Except RelayError RelayOperationRow :=
  if new.binding ≠ old.binding then
    .error (.guard "relay operation identity and contract arguments are immutable")
  else if old.transaction.hash ≠ none ∧ new.transaction ≠ old.transaction then
    .error (.guard "relay prepared transaction identity is immutable once recorded")
  else if old.state.isTerminal = true ∧ new ≠ old then
    .error (.guard "terminal relay operation result is immutable")
  else if new.state ≠ old.state ∧ allowedTransition old.state new.state = false then
    .error (.guard ("invalid relay operation transition from " ++ stateText old.state ++ " to " ++
      stateText new.state))
  else
    let stamped := { new with updatedAt := now }
    .ok (if stamped ≠ old then { stamped with stateVersion := old.stateVersion + 1 } else stamped)

/-- `record_relay_operation_history`; `fromState` is `none` for an insertion. -/
def recordRelayOperationHistory (history : List RelayHistoryRow)
    (fromState : Option RelayOperationState) (new : RelayOperationRow) : List RelayHistoryRow :=
  if fromState = some new.state then history
  else
    let sequences := (history.filter fun h => h.operationId = new.id).map (·.sequence)
    history ++ [{
      operationId := new.id
      sequence := sequences.foldl max 0 + 1
      fromState
      toState := new.state
      resultCode := new.lastError.map (·.code)
      transactionHash := new.transaction.hash }]

/-! ### Single-row updates -/

/-- The service's `UPDATE relay_operations` statements. -/
inductive Statement
  | markRetryable (code : RelayErrorCode) (message : String) (nextReconcileAt : Timestamp)
  | deferReconciliation (nextReconcileAt : Timestamp)
  | rebroadcast (nextReconcileAt : Timestamp) (maxAttemptsPerEvent : Nat)
  | submitted (submittedAt nextReconcileAt : Timestamp)
  | reverted (blockNumber : Nat) (confirmedAt : Timestamp)
  | eventMissing (blockNumber : Nat) (confirmedAt : Timestamp)
  | stateMismatch (blockNumber : Nat) (confirmedAt : Timestamp)
  | confirmed (blockNumber : Nat) (confirmedAt : Timestamp)
  | countPoll
  deriving DecidableEq

/-- The `WHERE` condition of a statement, its row apart. -/
def Statement.applies : Statement → RelayOperationRow → Bool
  | .markRetryable .., row => !row.state.isTerminal
  | .deferReconciliation _, row => !row.state.isTerminal
  | .rebroadcast _ maxAttemptsPerEvent, row =>
    (row.state = .submitting || row.state = .submitted || row.state = .failedRetryable)
      && row.attemptCount < maxAttemptsPerEvent
  | .submitted .., row => row.state = .submitting
  | .reverted .., row => !row.state.isTerminal
  | .eventMissing .., row => row.state = .submitted || row.state = .failedRetryable
  | .stateMismatch .., row => row.state = .submitted || row.state = .failedRetryable
  | .confirmed .., row => row.state = .submitted || row.state = .failedRetryable
  | .countPoll, row => !row.state.isTerminal

/-- The `SET` clause of a statement. -/
def Statement.set : Statement → RelayOperationRow → RelayOperationRow
  | .markRetryable code message next, row =>
    { row with state := .failedRetryable, lastError := some ⟨code, message⟩,
               nextReconcileAt := some next }
  | .deferReconciliation next, row => { row with nextReconcileAt := some next }
  | .rebroadcast next _, row =>
    { row with state := if row.state = .failedRetryable then .submitting else row.state,
               attemptCount := row.attemptCount + 1, lastError := none,
               nextReconcileAt := some next }
  | .submitted at_ next, row =>
    { row with state := .submitted, submittedAt := some (row.submittedAt.getD at_),
               lastError := none, nextReconcileAt := some next }
  | .reverted block at_, row =>
    { row with state := .reverted, blockNumber := some block,
               lastError := some ⟨.transactionReverted,
                 "The local-chain transaction reverted; no anchor is claimed."⟩,
               confirmedAt := some at_, nextReconcileAt := none }
  | .eventMissing block at_, row =>
    { row with state := .failedFinal, blockNumber := some block,
               lastError := some ⟨.contractMismatch,
                 "The successful transaction did not emit the required registry event."⟩,
               confirmedAt := some at_, nextReconcileAt := none }
  | .stateMismatch block at_, row =>
    { row with state := .failedFinal, blockNumber := some block,
               lastError := some ⟨.contractMismatch,
                 "The mined transaction does not match the expected registry state."⟩,
               confirmedAt := some at_, nextReconcileAt := none }
  | .confirmed block at_, row =>
    { row with state := .confirmed, blockNumber := some block, lastError := none,
               confirmedAt := some at_, nextReconcileAt := none }
  | .countPoll, row => { row with pollCount := row.pollCount + 1 }

namespace RelayDb

/-- The row with an identifier. -/
def row (db : RelayDb) (id : Nat) : Option RelayOperationRow :=
  db.operations.find? fun r => r.id = id

/-- Put a row in the place of the one with its identifier, and run the
history trigger. -/
def replace (db : RelayDb) (old new : RelayOperationRow) : RelayDb :=
  { db with
    operations := db.operations.map fun r => if r.id = old.id then new else r
    history := recordRelayOperationHistory db.history (some old.state) new }

/-- `UPDATE relay_operations SET … WHERE id = old.id`, with its triggers. -/
def write (db : RelayDb) (old new : RelayOperationRow) (now : Timestamp) :
    Except RelayError RelayOperationRow × RelayDb :=
  match enforceRelayOperationUpdate old new now with
  | .ok stored => (.ok stored, db.replace old stored)
  | .error e => (.error e, db)

/-- A statement on the row with an identifier; `none` where no row matches. -/
def update (db : RelayDb) (id : Nat) (stmt : Statement) (now : Timestamp) :
    Except RelayError (Option RelayOperationRow) × RelayDb :=
  match db.row id with
  | none => (.ok none, db)
  | some old =>
    if stmt.applies old then
      match db.write old (stmt.set old) now with
      | (.ok stored, db') => (.ok (some stored), db')
      | (.error e, db') => (.error e, db')
    else (.ok none, db)

/-- `SET poll_count = poll_count + 1` for a status token. -/
def countPoll (db : RelayDb) (statusToken : OpaqueId) (now : Timestamp) :
    Except RelayError (Option RelayOperationRow) × RelayDb :=
  match db.operations.find? fun r => r.binding.publicStatusId = statusToken with
  | none => (.ok none, db)
  | some old => db.update old.id .countPoll now

/-! ### Budgets -/

/-- The budget an operation is charged to. -/
def budgetKey (row : RelayOperationRow) : BudgetKey :=
  ⟨row.binding.budgetDate, row.binding.chainId, row.binding.contractAddress⟩

/-- Change the budget row with a key, where there is one. -/
def updateBudget (db : RelayDb) (key : BudgetKey) (f : RelayBudget → RelayBudget) : RelayDb :=
  { db with budgets := Function.update db.budgets key ((db.budgets key).map f) }

/-- Release a reservation. -/
def release (reserved : Nat) (budget : RelayBudget) : RelayBudget :=
  { budget with reservedFeeWei := budget.reservedFeeWei - reserved }

/-- Turn a reservation into a charge. -/
def charge (reserved : Nat) (budget : RelayBudget) : RelayBudget :=
  { budget with
    reservedFeeWei := budget.reservedFeeWei - reserved
    spentFeeWei := budget.spentFeeWei + reserved
    transactionCount := budget.transactionCount + 1 }

/-! ### Transactions -/

/-- The transaction of `#recordMinedCost`; `none` where the row is gone. -/
def recordMinedCost (db : RelayDb) (id : Nat) (blockNumber : Nat) (now : Timestamp) :
    Except RelayError (Option RelayOperationRow) × RelayDb :=
  match db.row id with
  | none => (.ok none, db)
  | some locked =>
    if locked.chargedFeeWei > 0 then (.ok (some locked), db)
    else
      let charged := { locked with
        reservedFeeWei := 0, chargedFeeWei := locked.reservedFeeWei,
        blockNumber := some blockNumber }
      match (db.updateBudget (budgetKey locked) (charge locked.reservedFeeWei)).write
          locked charged now with
      | (.ok stored, db') => (.ok (some stored), db')
      | (.error e, _) => (.error e, db)

/-- Release the reservation of an operation and fail it for good. -/
def failWithoutTransaction (db : RelayDb) (locked : RelayOperationRow) (failure : RelayFailure)
    (now : Timestamp) : Except RelayError (Option RelayOperationRow) × RelayDb :=
  let failed := { locked with
    state := .failedFinal, reservedFeeWei := 0, lastError := some failure,
    nextReconcileAt := none }
  match (db.updateBudget (budgetKey locked) (release locked.reservedFeeWei)).write
      locked failed now with
  | (.ok stored, db') => (.ok (some stored), db')
  | (.error e, _) => (.error e, db)

/-- The transaction of `#markFinalWithoutTransaction`. -/
def markFinalWithoutTransaction (db : RelayDb) (id : Nat) (now : Timestamp) :
    Except RelayError (Option RelayOperationRow) × RelayDb :=
  match db.row id with
  | none => (.ok none, db)
  | some locked =>
    if locked.transaction.hash ≠ none then (.ok (some locked), db)
    else db.failWithoutTransaction locked
      ⟨.transactionSubmissionFailed, "The maximum safe transaction attempts were exhausted."⟩ now

/-- The transaction of `#markExternallyAnchored`. -/
def markExternallyAnchored (db : RelayDb) (id : Nat) (now : Timestamp) :
    Except RelayError (Option RelayOperationRow) × RelayDb :=
  match db.row id with
  | none => (.ok none, db)
  | some locked =>
    if locked.transaction.hash ≠ none ∨ locked.state.isTerminal = true then
      (.ok (some locked), db)
    else db.failWithoutTransaction locked
      ⟨.eventAlreadyAnchored,
        "The event was anchored by another sender before this relay broadcast."⟩ now

/-- One rate limit of a request. -/
structure RateLimit where
  key : CounterKey
  limit : Nat
  deriving DecidableEq

/-- The transaction of `#applyRateLimits`: count the request in every window;
true where a limit is exceeded. -/
def applyRateLimits (db : RelayDb) : List RateLimit → Bool × RelayDb
  | [] => (false, db)
  | limit :: limits =>
    let count := db.counters limit.key + 1
    let rest := ({ db with counters := Function.update db.counters limit.key count }
      : RelayDb).applyRateLimits limits
    (count > limit.limit || rest.1, rest.2)

end RelayDb

/-! ### Acquiring an operation -/

/-- A day of the UTC calendar. -/
def budgetDate (now : Timestamp) : Int := now / 86400000

/-- What `#acquireOperation` binds to its statements. -/
structure Acquisition where
  event : ValidatedRelayEvent
  args : AnchorEventArguments
  chainId : Nat
  address : AddressHex
  fee : RelayFeeQuote
  reservation : Nat
  idempotencyKeyHash : Option Digest
  publicStatusId : OpaqueId
  now : Timestamp
  dailyBudgetWei : Nat
  confirmationTarget : Nat

/-- The columns of the operation an acquisition inserts. -/
def Acquisition.binding (a : Acquisition) (blobRow : Nat) : RelayBinding where
  publicStatusId := a.publicStatusId
  encryptedBlobId := blobRow
  eventHash := a.event.eventHash
  requestFingerprint := a.event.requestFingerprint
  idempotencyKeyHash := a.idempotencyKeyHash
  receiptId := a.event.request.event.core.receiptId
  stage := a.event.stage
  contractStage := a.args.stage
  previousEventHash := a.event.request.event.core.previousEventHash
  extensionKeyHash := a.event.extensionKeyHash
  extensionKeyId := a.event.request.extensionPublicKey.keyId
  authorityKeyHash := 0
  chainId := a.chainId
  contractAddress := a.address
  budgetDate := budgetDate a.now
  confirmationTarget := a.confirmationTarget
  createdAt := a.now

/-- The inserted row, once the second statement has made it `READY`. -/
def Acquisition.ready (a : Acquisition) (id blobRow : Nat) (now : Timestamp) :
    RelayOperationRow where
  id := id
  binding := a.binding blobRow
  state := .ready
  transaction := ⟨none, none, some a.fee.gasLimit, some a.fee.maxFeePerGas,
    some a.fee.maxPriorityFeePerGas⟩
  blockNumber := none
  reservedFeeWei := a.reservation
  chargedFeeWei := 0
  attemptCount := 0
  pollCount := 0
  lastError := none
  nextReconcileAt := none
  submittedAt := none
  confirmedAt := none
  updatedAt := now
  stateVersion := 2

/-- `char_length`: the code points of a text, each low surrogate being the
second half of one. -/
def charLength (t : Text) : Nat :=
  (t.filter fun u => !(decide (0xDC00 ≤ u.toNat) && decide (u.toNat ≤ 0xDFFF))).length

/-- The `CHECK` constraints of `relay_operations` that an inserted row could
break. -/
def Acquisition.checks (a : Acquisition) : Bool :=
  decide (0 < a.fee.gasLimit) && decide (0 < a.fee.maxFeePerGas)
    && decide (a.event.extensionKeyHash ≠ 0) && (a.args.stage == 1 || a.args.stage == 2)
    && decide (1 ≤ charLength a.event.request.extensionPublicKey.keyId)
    && decide (charLength a.event.request.extensionPublicKey.keyId ≤ 256)
    && decide (0 < a.chainId) && decide (1 ≤ a.confirmationTarget)
    && decide (a.confirmationTarget ≤ 64)

/-- The identifier of the next operation: the first one above all in use. -/
def RelayDb.nextId (db : RelayDb) : Nat := (db.operations.map (·.id)).foldl max 0 + 1

def serviceError (code : RelayErrorCode) (message : String) (status : Nat) : RelayError :=
  .service ⟨code, message, status, none⟩

/-- The row an idempotency key is bound to. -/
def RelayDb.keyedRow (db : RelayDb) : Option Digest → Option RelayOperationRow
  | none => none
  | some k => db.operations.find? fun r => r.binding.idempotencyKeyHash = some k

/-- The transaction of `#acquireOperation`: whether the row was created, and
the row. -/
def RelayDb.acquireOperation (db : RelayDb) (a : Acquisition) (now : Timestamp) :
    Except RelayError (Bool × RelayOperationRow) × RelayDb :=
  if (db.keyedRow a.idempotencyKeyHash).any fun (r : RelayOperationRow) =>
      r.binding.eventHash ≠ a.event.eventHash
        || r.binding.requestFingerprint ≠ a.event.requestFingerprint then
    (.error (serviceError .idempotencyConflict
      "That idempotency key is already bound to a different relay request." 409), db)
  else match db.operations.find? fun (r : RelayOperationRow) => r.binding.eventHash = a.event.eventHash with
  | some existing =>
    if existing.binding.requestFingerprint ≠ a.event.requestFingerprint then
      (.error (serviceError .idempotencyConflict
        "The event hash is already bound to different relay request content." 409), db)
    else (.ok (false, existing), db)
  | none =>
    if db.operations.any fun (r : RelayOperationRow) =>
        r.binding.receiptId = a.event.request.event.core.receiptId
          && r.binding.contractStage = a.args.stage then
      (.error (serviceError .invalidTransition
        "That receipt already has a different durable event for this lifecycle stage." 409), db)
    else
      let key : BudgetKey := ⟨budgetDate a.now, a.chainId, a.address⟩
      let budget := (db.budgets key).getD ⟨0, 0, 0⟩
      if budget.reservedFeeWei + budget.spentFeeWei + a.reservation > a.dailyBudgetWei then
        (.error (serviceError .dailyBudgetExceeded
          "The durable daily relay budget is exhausted. Try again after the UTC budget reset."
          429), db)
      else match db.blobs.find? fun (b : BlobBindingRow) => b.publicId = a.event.request.blobId && b.active with
      | none =>
        (.error (serviceError .blobNotFound "The encrypted receipt blob is no longer available."
          404), db)
      | some blob =>
        -- a public status identifier is a fresh random value; a clash violates
        -- its UNIQUE constraint
        if a.checks = false ∨ db.operations.any fun (r : RelayOperationRow) =>
            r.binding.publicStatusId = a.publicStatusId then
          (.error .database, db)
        else
          let row := a.ready db.nextId blob.id now
          let inserted := { row with state := .validating, updatedAt := a.now, stateVersion := 1 }
          (.ok (true, row), { db with
            operations := db.operations ++ [row]
            history := recordRelayOperationHistory
              (recordRelayOperationHistory db.history none inserted) (some .validating) row
            budgets := Function.update db.budgets key
              (some { budget with reservedFeeWei := budget.reservedFeeWei + a.reservation }) })

/-! ### Preparing a transaction -/

/-- `requestFromRow`. -/
def requestFromRow (checksum : Address → BitVec 40) (row : RelayOperationRow) :
    Except ContractProjectionError AnchorRequest :=
  createAnchorRequestForTarget checksum
    { chainId := row.binding.chainId
      contractAddress := row.binding.contractAddress
      eventHash := row.binding.eventHash
      previousEventHash := row.binding.previousEventHash
      receiptId := row.binding.receiptId
      schemaVersion := CURRENT_SCHEMA_VERSION
      stage := row.binding.stage.toEventStage }
    row.binding.extensionKeyHash 0
    { address := .hex row.binding.contractAddress 0, chainId := row.binding.chainId }

/-- `feeFromRow`. -/
def feeFromRow (row : RelayOperationRow) : Option RelayFeeQuote :=
  match row.transaction.gasLimit, row.transaction.maxFeePerGas,
    row.transaction.maxPriorityFeePerGas with
  | some gasLimit, some maxFeePerGas, some maxPriorityFeePerGas =>
    some ⟨gasLimit, maxFeePerGas, maxPriorityFeePerGas⟩
  | _, _, _ => none

/-- What `#prepareNewTransaction` binds to its statements. -/
structure Preparation where
  id : Nat
  nonceKey : NonceKey
  pendingNonce : Nat
  nextReconcileAt : Timestamp

/-- The transaction of `#prepareNewTransaction`.  `prepareAnchor` is the
gateway's answer to the preparation it asks for while it holds the locks. -/
def RelayDb.prepareNewTransaction (db : RelayDb) (checksum : Address → BitVec 40)
    (p : Preparation)
    (prepareAnchor : AnchorRequest → RelayFeeQuote → Nat →
      Except RelayError PreparedRelayTransaction) (now : Timestamp) :
    Except RelayError (Option RelayOperationRow × Option PreparedRelayTransaction) × RelayDb :=
  match db.row p.id with
  | none => (.ok (none, none), db)
  | some locked =>
    if locked.transaction.hash ≠ none ∨ locked.state.isTerminal = true then
      (.ok (some locked, none), db)
    else
      let storedNonce := (db.nonces p.nonceKey).getD p.pendingNonce
      let nonce := max storedNonce p.pendingNonce
      match requestFromRow checksum locked, feeFromRow locked with
      | .ok request, some fee =>
        match prepareAnchor request fee nonce with
        | .error e => (.error e, db)
        | .ok prepared =>
          let preparedRow := { locked with
            state := .submitting
            transaction := { locked.transaction with
              hash := some prepared.hash, nonce := some prepared.nonce }
            attemptCount := locked.attemptCount + 1
            lastError := none
            nextReconcileAt := some p.nextReconcileAt }
          -- transaction_hash is UNIQUE
          if db.operations.any fun (r : RelayOperationRow) => r.transaction.hash = some prepared.hash then
            (.error .database, db)
          else
            match ({ db with nonces := Function.update db.nonces p.nonceKey (some (nonce + 1)) }
                : RelayDb).write locked preparedRow now with
            | (.ok stored, db') => (.ok (some stored, some prepared), db')
            | (.error e, _) => (.error e, db)
      | _, _ => (.error (.internal "Stored relay fee reservation is incomplete."), db)

end SubmittedIt.Relay
