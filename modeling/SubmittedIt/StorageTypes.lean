/-
SubmittedIt/StorageTypes.lean

The data the extension stores (apps/extension/lib: storage-schema.ts,
anchor-state.ts, private-receipt.ts, encrypted-receipt.ts, crypto.ts,
vault.ts and secure-storage.ts).

Values are typed as those of the receipt package are: a stored text that is no
value of these types is refused where it is read.  Fields that can hold one
value only (format and version tags, `derivedStatus`, the null slots of an
operational receipt) are left out.  A key is a handle, as the browser hands
out non-extractable keys; opaque random identifiers are numbers.

What the browser computes is a `StoragePlatform`.  Its one law is that of
AES-GCM: what was encrypted can be decrypted under the same key, nonce and
metadata.
-/
import SubmittedIt.ContractClient

namespace SubmittedIt.Extension

open ReceiptCore

/-- An identifier that encodes 32 random bytes. -/
abbrev OpaqueId := Nat

/-- A handle to a non-extractable key. -/
abbrev CryptoKey := Nat

/-! ### Settings -/

inductive ReminderInterval
  | off | oneDay | threeDays | sevenDays
  deriving DecidableEq

inductive RetentionPreference
  | untilDeleted | thirtyDays | ninetyDays
  deriving DecidableEq

structure RevokedSite where
  origin : Origin
  revokedAt : Timestamp
  deriving DecidableEq

structure ExtensionSettings where
  reminderInterval : ReminderInterval
  retentionPreference : RetentionPreference
  demoMode : Bool
  revokedSites : List RevokedSite
  deriving DecidableEq

/-- An entry of the record `enabledOrigins`; its key is its origin. -/
structure EnabledOriginMetadata where
  origin : Origin
  enabledAt : Timestamp
  deriving DecidableEq

structure ExtensionMigrationMetadata where
  sourceVersion : Option Nat
  migratedAt : Option Timestamp
  deriving DecidableEq

/-! ### Operational receipts -/

inductive ConfirmationContextStatus
  | active | completed | expired | superseded
  deriving DecidableEq

inductive NavigationObservationKind
  | document | domUpdate | history | panelReconcile
  deriving DecidableEq

structure StoredNavigationObservation where
  sequence : Nat
  observationId : OpaqueId
  documentInstanceId : OpaqueId
  kind : NavigationObservationKind
  observedAt : Timestamp
  origin : Origin
  pageUrl : Url
  deriving DecidableEq

structure StoredConfirmationContext where
  status : ConfirmationContextStatus
  tabId : Nat
  attemptEventHash : HashHex
  documentInstanceId : OpaqueId
  startedAt : Timestamp
  expiresAt : Timestamp
  originalOrigin : Origin
  originalPageUrl : Url
  currentOrigin : Origin
  currentPageUrl : Url
  sequence : Nat
  observations : List StoredNavigationObservation
  deriving DecidableEq

/-- The title of a page: a text that `normalizeOptionalText` leaves as it is, or
any other. -/
inductive PageTitle
  | normalized (text : Text)
  | other (text : Text)
  deriving DecidableEq

def PageTitle.isNormalized : PageTitle → Bool
  | .normalized _ => true
  | .other _ => false

def PageTitle.text : PageTitle → Text
  | .normalized text | .other text => text

structure StoredSiteConfirmationEvidence where
  displaySnippet : Text
  navigationSequence : Nat
  originChangeConfirmed : Bool
  pageOrigin : Origin
  pageTitle : PageTitle
  pageUrl : Url
  saveId : OpaqueId
  savedAt : Timestamp
  deriving DecidableEq

/-- `AnchorableStage`: a stage the extension records and anchors. -/
inductive AnchorableStage
  | attempted
  | siteConfirmed
  deriving DecidableEq

def AnchorableStage.toEventStage : AnchorableStage → EventStage
  | .attempted => .attempted
  | .siteConfirmed => .siteConfirmed

/-- The part of a stored receipt that an attempt fixes. -/
structure ParsedAttemptBase where
  attemptId : OpaqueId
  attemptFingerprint : HashHex
  receiptId : ReceiptId
  receiptNonce : OpaqueId
  capturedAt : Timestamp
  origin : Origin
  pagePathHash : HashHex
  actionOrigin : Origin
  event : LifecycleEventEnvelope
  deriving DecidableEq

/-- `StoredAttemptReceipt`. -/
structure StoredAttemptReceipt extends ParsedAttemptBase where
  currentStage : AnchorableStage
  siteConfirmationEvent : Option LifecycleEventEnvelope
  siteConfirmationEvidence : Option StoredSiteConfirmationEvidence
  confirmationContext : Option StoredConfirmationContext
  deriving DecidableEq

/-- `ExtensionLocalState`. -/
structure ExtensionLocalState where
  initializedAt : Timestamp
  updatedAt : Timestamp
  hasSeenWelcome : Bool
  settings : ExtensionSettings
  enabledOrigins : List EnabledOriginMetadata
  receiptIndex : List StoredAttemptReceipt
  migration : ExtensionMigrationMetadata
  deriving DecidableEq

/-! ### Signed receipts -/

inductive DerivedReceiptStatus
  | prepared | pendingAcceptance | accepted | rejected | verificationFailed
  deriving DecidableEq

inductive VerificationCheckName
  | decryption | schema | eventHash | eventLink | extensionSignature | authoritySignature
  | chainAnchor
  deriving DecidableEq

inductive VerificationCheckResult
  | notRun | passed | failed
  deriving DecidableEq

structure VerificationCheck where
  check : VerificationCheckName
  detail : Option Text
  result : VerificationCheckResult
  deriving DecidableEq

inductive VerificationResult
  | notVerified | verified | failed
  deriving DecidableEq

/-- `VerificationState`; its checks are in canonical order. -/
structure VerificationState where
  checks : List VerificationCheck
  result : VerificationResult
  verifiedAt : Option Timestamp
  deriving DecidableEq

/-- `Receipt`. -/
structure Receipt where
  createdAt : Timestamp
  currentStage : LifecycleStage
  derivedStatus : DerivedReceiptStatus
  events : List LifecycleEventEnvelope
  extensionPublicKey : PublicKeyDescriptor
  receiptId : ReceiptId
  schemaVersion : SchemaVersion
  verification : VerificationState
  deriving DecidableEq

inductive ReceiptOwnership
  | imported
  | «local»
  deriving DecidableEq

/-- `PrivateReceiptBundle`. -/
structure PrivateReceiptBundle where
  operational : StoredAttemptReceipt
  ownership : ReceiptOwnership
  receipt : Receipt
  deriving DecidableEq

/-! ### Anchor operations -/

/-- `AnchorOperationState`. -/
inductive AnchorOperationState
  | savedLocally
  | uploadingEncryptedProof
  | encryptedProofUploaded
  | requestingMonadAnchor
  | submittedToRelay
  | waitingForTransaction
  | waitingForConfirmations
  | verifyingContractState
  | chainEvidenceConfirmed
  | retryableFailure
  | finalFailure
  | relayUnavailable
  | rpcUnavailable
  | wrongNetwork
  | contractMismatch
  | reconciliationRequired
  deriving DecidableEq

structure AnchorOperationError where
  at_ : Timestamp
  code : String
  message : String
  recoverable : Bool
  deriving DecidableEq

structure AnchorOperationCounters where
  polls : Nat
  relayRequests : Nat
  uploads : Nat
  verifications : Nat
  deriving DecidableEq

/-- The base address of a relay: a canonical one, which is `https` or loopback
`http` without credentials, query or fragment and spelled as a parsed URL is
written, or any other text. -/
inductive RelayBaseUrl
  | canonical (text : Text)
  | other (text : Text)
  deriving DecidableEq

/-- `AnchorOperation`. -/
structure AnchorOperation where
  anchoredAt : Option Timestamp
  anchoredBy : Option AddressHex
  blockNumber : Option Nat
  chainId : Nat
  contractAddress : AddressText
  counters : AnchorOperationCounters
  createdAt : Timestamp
  eventCount : Nat
  eventHash : HashHex
  idempotencyKey : HashHex
  lastError : Option AnchorOperationError
  localBlobId : OpaqueId
  receiptId : ReceiptId
  relayBaseUrl : RelayBaseUrl
  relayBlobId : Option OpaqueId
  stage : AnchorableStage
  state : AnchorOperationState
  statusToken : Option OpaqueId
  transactionHash : Option HashHex
  updatedAt : Timestamp
  deriving DecidableEq

/-! ### Identities, keys and envelopes -/

/-- The fingerprint of an installation identity, under its prefix. -/
structure IdentityFingerprint where
  text : Text
  prefixed : (ascii "sha256:").isPrefixOf text = true
  deriving DecidableEq

structure InstallationIdentityRecord where
  createdAt : Timestamp
  fingerprint : IdentityFingerprint
  privateKey : CryptoKey
  publicKey : PublicKeyDescriptor
  deriving DecidableEq

structure SecureIdentityMetadata where
  createdAt : Timestamp
  fingerprint : IdentityFingerprint
  publicKey : PublicKeyDescriptor
  deriving DecidableEq

structure ReceiptKeyRecord where
  createdAt : Timestamp
  key : CryptoKey
  keyId : OpaqueId
  receiptId : ReceiptId
  deriving DecidableEq

/-- `EncryptedReceiptMetadata`. -/
structure EncryptedReceiptMetadata where
  blobId : OpaqueId
  extensionKeyId : Text
  receiptId : ReceiptId
  receiptSchemaVersion : SchemaVersion
  deriving DecidableEq

/-- What the browser provides: hashing, signing, encryption, key generation
and the clock.  A random choice is told by the number of the choice. -/
structure StoragePlatform where
  keccak : Keccak
  hashPagePath : Origin → Text → HashHex
  /-- The time of a reading of the clock. -/
  clock : Nat → Timestamp
  generateIdentity : Timestamp → Nat → InstallationIdentityRecord
  sign : CryptoKey → Nat → ExtensionSignaturePayload → Text
  /-- Verification of a P-256 signature over a payload. -/
  verifyBytes : ExtensionSignaturePayload → Text → PublicKeyDescriptor → Bool
  Ciphertext : Type
  byteLength : Ciphertext → Nat
  encrypt : CryptoKey → Nat → EncryptedReceiptMetadata → PrivateReceiptBundle → Ciphertext
  decrypt : CryptoKey → Nat → EncryptedReceiptMetadata → Ciphertext → Option PrivateReceiptBundle
  decrypt_encrypt : ∀ key iv metadata bundle,
    decrypt key iv metadata (encrypt key iv metadata bundle) = some bundle

/-- `EncryptedReceiptEnvelope`. -/
structure EncryptedReceiptEnvelope (P : StoragePlatform) where
  authenticatedMetadata : EncryptedReceiptMetadata
  ciphertext : P.Ciphertext
  iv : Nat

/-! ### What is stored -/

/-- `EncryptedReceiptIndexEntry`. -/
structure EncryptedReceiptIndexEntry where
  blobId : OpaqueId
  capturedAt : Timestamp
  currentStage : AnchorableStage
  extensionKeyId : Text
  keyId : OpaqueId
  origin : Origin
  ownership : ReceiptOwnership
  receiptId : ReceiptId
  siteConfirmationOrigin : Option Origin
  siteConfirmedAt : Option Timestamp
  deriving DecidableEq

/-- `SecureExtensionLocalState`. -/
structure SecureExtensionLocalState where
  anchorOperations : List AnchorOperation
  enabledOrigins : List EnabledOriginMetadata
  hasSeenWelcome : Bool
  identity : Option SecureIdentityMetadata
  initializedAt : Timestamp
  migration : ExtensionMigrationMetadata
  receiptIndex : List EncryptedReceiptIndexEntry
  settings : ExtensionSettings
  updatedAt : Timestamp
  deriving DecidableEq

/-- An encrypted index of version 4: the current one without
`anchorOperations`. -/
structure LegacySecureState where
  enabledOrigins : List EnabledOriginMetadata
  hasSeenWelcome : Bool
  identity : Option SecureIdentityMetadata
  initializedAt : Timestamp
  migration : ExtensionMigrationMetadata
  receiptIndex : List EncryptedReceiptIndexEntry
  settings : ExtensionSettings
  updatedAt : Timestamp
  deriving DecidableEq

/-- The fields that the plaintext states of versions 1 and 2 share. -/
structure LegacyFields where
  initializedAt : Timestamp
  updatedAt : Timestamp
  hasSeenWelcome : Bool
  settings : ExtensionSettings
  enabledOrigins : List EnabledOriginMetadata
  migration : ExtensionMigrationMetadata
  deriving DecidableEq

/-- A plaintext state of an earlier version, or any other plaintext value.  Its
`schemaVersion`, if it is a number, is a natural one: under any other no load
succeeds. -/
inductive LegacyValue
  | versionThree (state : ExtensionLocalState)
  | versionTwo (fields : LegacyFields) (receiptIndex : List ParsedAttemptBase)
  | versionOne (fields : LegacyFields)
  | versionZero (hasSeenWelcome : Option Bool) (reminderInterval : Option ReminderInterval)
      (retentionPreference : Option RetentionPreference) (demoMode : Option Bool)
  | other (schemaVersion : Option Nat)
  deriving DecidableEq

/-- What the storage area holds under the extension's key; `malformed` is a
value that declares a version of the encrypted index without having its
fields. -/
inductive StoredValue
  | absent
  | current (state : SecureExtensionLocalState)
  | legacyEncrypted (state : LegacySecureState)
  | malformed (legacy : Bool)
  | plaintext (value : LegacyValue)
  deriving DecidableEq

structure MigrationJournalEntry where
  blobId : OpaqueId
  keyId : OpaqueId
  receiptId : ReceiptId
  deriving DecidableEq

structure MigrationJournal where
  sourceStateVersion : Nat
  startedAt : Timestamp
  entries : List MigrationJournalEntry
  deriving DecidableEq

/-- A record of the vault's store of blobs, under its blob identifier. -/
structure StoredBlob (P : StoragePlatform) where
  envelope : EncryptedReceiptEnvelope P
  receiptId : ReceiptId

/-! ### Errors -/

/-- What the extension's storage functions throw. -/
inductive StorageError
  | failure (message : String)
  | protocol (error : ProtocolError)
  | duplicateReceipt (receiptId : ReceiptId)
  /-- A storage-area or vault operation failed. -/
  | operation
  deriving DecidableEq

end SubmittedIt.Extension
