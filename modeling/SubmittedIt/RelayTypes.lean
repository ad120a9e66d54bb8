/-
SubmittedIt/RelayTypes.lean

The data of the relay (apps/web/lib/relay and the tables of
apps/web/db/migrations/0002_relay_foundation.sql).

The columns of `relay_operations` that its trigger keeps immutable are
grouped in `RelayBinding`, those of the prepared transaction in
`RelayTransaction`; the other columns are fields of the row.  The two error
columns are always written together and are one optional value.  Opaque
identifiers (43 random base64url characters) are numbers, since only their
equality matters; a SHA-256 digest is a word.
-/
import SubmittedIt.ContractClient

namespace SubmittedIt.Relay

open ReceiptCore ContractClient

/-- An identifier of 43 base64url characters. -/
abbrev OpaqueId := Nat

/-- A SHA-256 digest. -/
abbrev Digest := BitVec 256

/-! ### Errors -/

/-- `RelayErrorCode`, the codes the relay service raises or records. -/
inductive RelayErrorCode
  | invalidSchema
  | blobNotFound
  | invalidEventHash
  | invalidSignature
  | keyFingerprintMismatch
  | invalidTransition
  | incorrectPreviousEvent
  | eventAlreadyAnchored
  | idempotencyConflict
  | rateLimited
  | dailyBudgetExceeded
  | insufficientRelayerFunds
  | rpcUnavailable
  | wrongChain
  | contractMismatch
  | transactionSubmissionFailed
  | transactionReverted
  | confirmationTimeout
  | operationNotFound
  | relayServiceUnavailable
  deriving DecidableEq, Repr

/-- `RelayServiceError`. -/
structure RelayServiceError where
  code : RelayErrorCode
  publicMessage : String
  status : Nat
  retryAfterSeconds : Option Int
  deriving DecidableEq

/-- What an awaited operation of the relay can throw. -/
inductive RelayError
  | service (e : RelayServiceError)
  /-- An exception of the update trigger. -/
  | guard (message : String)
  /-- The database is unreachable, or a constraint failed. -/
  | database
  /-- The chain RPC failed; `timeout` where the error names a timeout. -/
  | chain (timeout : Bool)
  | internal (message : String)
  deriving DecidableEq

/-! ### Configuration and requests -/

/-- `RelayConfiguration`. -/
structure RelayConfiguration where
  chainId : Nat
  confirmationPollIntervalMs : Nat
  confirmationTarget : Nat
  confirmationTimeoutMs : Nat
  contractAddress : AddressText
  dailyBudgetWei : Nat
  maxAttemptsPerEvent : Nat
  maxConfirmationPolls : Nat
  minimumBalanceWei : Nat
  publicKeyRequestsPerWindow : Nat
  rateLimitWindowSeconds : Nat
  receiptRequestsPerWindow : Nat
  requestIpRequestsPerWindow : Nat

/-- `RelayEventRequest` before its event is checked. -/
structure RelayEventRequest where
  blobId : OpaqueId
  event : LifecycleEventEnvelope
  extensionPublicKey : PublicKeyDescriptor
  idempotencyKey : Option Text
  deriving DecidableEq

/-- `RelayEventStage`. -/
inductive RelayEventStage
  | attempted
  | siteConfirmed
  deriving DecidableEq, Repr

def RelayEventStage.toEventStage : RelayEventStage → EventStage
  | .attempted => .attempted
  | .siteConfirmed => .siteConfirmed

/-- `ValidatedRelayEvent`: a request whose event is signed, correctly hashed
and of a stage the relay serves. -/
structure ValidatedRelayEvent where
  request : RelayEventRequest
  stage : RelayEventStage
  eventHash : HashHex
  extensionKeyHash : Bytes32
  requestFingerprint : Digest
  deriving DecidableEq

/-- `RelayRequestContext`, as far as it decides anything. -/
structure RelayRequestContext where
  networkScope : Text

/-- `RelayFeeQuote`. -/
structure RelayFeeQuote where
  gasLimit : Nat
  maxFeePerGas : Nat
  maxPriorityFeePerGas : Nat
  deriving DecidableEq

/-- `PreparedRelayTransaction`; the serialized bytes are a function of the
rest. -/
structure PreparedRelayTransaction where
  hash : HashHex
  nonce : Nat
  deriving DecidableEq

/-- `RelayContractState`. -/
structure RelayContractState where
  currentStage : Nat
  eventCount : Nat
  extensionKeyHash : Bytes32
  isEventAnchored : Bool
  latestEventHash : Bytes32
  deriving DecidableEq

/-- `RelayTransactionReceipt`, as far as the service reads it. -/
structure RelayTransactionReceipt where
  blockNumber : Nat
  confirmations : Nat
  contractEventFound : Bool
  reverted : Bool
  transactionHash : HashHex
  deriving DecidableEq

/-! ### Rows -/

/-- `RelayOperationState`. -/
inductive RelayOperationState
  | validating
  | ready
  | submitting
  | submitted
  | confirmed
  | reverted
  | failedRetryable
  | failedFinal
  deriving DecidableEq, Repr

/-- `TERMINAL_STATES`. -/
def RelayOperationState.isTerminal : RelayOperationState → Bool
  | .confirmed | .reverted | .failedFinal => true
  | .validating | .ready | .submitting | .submitted | .failedRetryable => false

/-- The columns of `relay_operations` that never change. -/
structure RelayBinding where
  publicStatusId : OpaqueId
  encryptedBlobId : Nat
  eventHash : HashHex
  requestFingerprint : Digest
  idempotencyKeyHash : Option Digest
  receiptId : ReceiptId
  stage : RelayEventStage
  contractStage : Nat
  previousEventHash : HashHex
  extensionKeyHash : Bytes32
  extensionKeyId : Text
  authorityKeyHash : Bytes32
  chainId : Nat
  contractAddress : AddressHex
  budgetDate : Int
  confirmationTarget : Nat
  createdAt : Timestamp
  deriving DecidableEq

/-- The columns of the prepared transaction. -/
structure RelayTransaction where
  hash : Option HashHex
  nonce : Option Nat
  gasLimit : Option Nat
  maxFeePerGas : Option Nat
  maxPriorityFeePerGas : Option Nat
  deriving DecidableEq

/-- The error columns. -/
structure RelayFailure where
  code : RelayErrorCode
  message : String
  deriving DecidableEq

/-- A row of `relay_operations`. -/
structure RelayOperationRow where
  id : Nat
  binding : RelayBinding
  state : RelayOperationState
  transaction : RelayTransaction
  blockNumber : Option Nat
  reservedFeeWei : Nat
  chargedFeeWei : Nat
  attemptCount : Nat
  pollCount : Nat
  lastError : Option RelayFailure
  nextReconcileAt : Option Timestamp
  submittedAt : Option Timestamp
  confirmedAt : Option Timestamp
  updatedAt : Timestamp
  stateVersion : Nat
  deriving DecidableEq

/-- A row of `relay_operation_history`. -/
structure RelayHistoryRow where
  operationId : Nat
  sequence : Nat
  fromState : Option RelayOperationState
  toState : RelayOperationState
  resultCode : Option RelayErrorCode
  transactionHash : Option HashHex
  deriving DecidableEq

/-- A row of `relay_encrypted_blobs`, as far as the service reads it. -/
structure BlobBindingRow where
  id : Nat
  publicId : OpaqueId
  receiptId : ReceiptId
  extensionKeyId : Text
  active : Bool
  deriving DecidableEq

/-- A row of `relay_daily_budgets`. -/
structure RelayBudget where
  reservedFeeWei : Nat
  spentFeeWei : Nat
  transactionCount : Nat
  deriving DecidableEq

/-- The key of a daily budget. -/
structure BudgetKey where
  budgetDate : Int
  chainId : Nat
  contractAddress : AddressHex
  deriving DecidableEq

/-- The key of a signer's nonce; the contract is spelled as configured. -/
structure NonceKey where
  chainId : Nat
  contractAddress : AddressText
  signerAddress : Address
  deriving DecidableEq

/-- What a rate limit counts. -/
inductive RateScope
  | ip (networkScope : Text)
  | publicKey (extensionKeyHash : Bytes32)
  | receipt (receiptId : ReceiptId)
  deriving DecidableEq

/-- The column `scope_kind` of a rate-limit counter. -/
inductive RateScopeKind
  | ip
  | publicKey
  | receipt
  deriving DecidableEq

/-- The key of a rate-limit counter. -/
structure CounterKey where
  scopeKind : RateScopeKind
  scopeHash : Digest
  windowStartedAt : Timestamp
  deriving DecidableEq

/-- The relay's database. -/
structure RelayDb where
  blobs : List BlobBindingRow
  operations : List RelayOperationRow
  history : List RelayHistoryRow
  budgets : BudgetKey → Option RelayBudget
  nonces : NonceKey → Option Nat
  counters : CounterKey → Nat

/-- The database after its migrations, with the blobs uploaded so far. -/
def RelayDb.initial (blobs : List BlobBindingRow) : RelayDb where
  blobs := blobs
  operations := []
  history := []
  budgets := fun _ => none
  nonces := fun _ => none
  counters := fun _ => 0

/-- `RelayOperationView`. -/
structure RelayOperationView where
  blockNumber : Option Nat
  chainId : Nat
  contractAddress : AddressHex
  createdAt : Timestamp
  error : Option RelayFailure
  eventHash : HashHex
  receiptId : ReceiptId
  stage : RelayEventStage
  state : RelayOperationState
  statusToken : OpaqueId
  transactionHash : Option HashHex
  updatedAt : Timestamp
  deriving DecidableEq

/-- `toOperationView`. -/
def toOperationView (row : RelayOperationRow) : RelayOperationView where
  blockNumber := row.blockNumber
  chainId := row.binding.chainId
  contractAddress := row.binding.contractAddress
  createdAt := row.binding.createdAt
  error := row.lastError
  eventHash := row.binding.eventHash
  receiptId := row.binding.receiptId
  stage := row.binding.stage
  state := row.state
  statusToken := row.binding.publicStatusId
  transactionHash := row.transaction.hash
  updatedAt := row.updatedAt

/-! ### What the platform computes -/

/-- Hashes, signatures and address checksums.  Nothing is assumed of them
unless a statement says so. -/
structure RelayPlatform where
  keccak : Keccak
  checksum : Address → BitVec 40
  /-- Verification of a P-256 signature over a payload. -/
  verifyBytes : ExtensionSignaturePayload → Text → PublicKeyDescriptor → Bool
  /-- `deriveExtensionKeyFingerprint`. -/
  keyFingerprint : PublicKeyDescriptor → Except RelayServiceError Bytes32
  /-- `fingerprintRequest` of a request's blob, event and key. -/
  fingerprintRequest : OpaqueId → LifecycleEventEnvelope → PublicKeyDescriptor → Digest
  sha256 : Text → Digest
  scopeHash : RateScope → Digest

end SubmittedIt.Relay
