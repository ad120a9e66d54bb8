/-
SubmittedIt/SecureStorage.lean

The extension's encrypted storage (apps/extension/lib: vault.ts and
secure-storage.ts).

`World` is what persists: the value in the storage area and the contents of
the vault.  Each operation of the storage area and each method of the vault is
one atomic operation (`StorageOp`, `exec`); drawing a random value and reading
the clock are operations too, since the functions of the platform are told
which draw it is.  The functions of secure-storage.ts are programs over these
operations.

Two reads started together are performed one after the other.  A map from
receipt identifiers to bundles is a list of pairs in the order of insertion.
-/
import SubmittedIt.ProgLogic
import SubmittedIt.BundleLaws
import SubmittedIt.AnchorState

namespace SubmittedIt.Extension

open Transaction ReceiptCore

/-! ### Storage -/

/-- The vault's object stores. -/
structure Vault (P : StoragePlatform) where
  identity : Option InstallationIdentityRecord
  keys : OpaqueId → Option ReceiptKeyRecord
  blobs : OpaqueId → Option (StoredBlob P)
  journal : Option MigrationJournal

/-- What persists, and the number of random draws and clock readings made. -/
structure World (P : StoragePlatform) where
  area : StoredValue
  vault : Vault P
  draws : Nat

/-- The operations the storage functions await. -/
inductive StorageOp (P : StoragePlatform)
  | draw
  | now
  | areaGet
  | areaSet (state : SecureExtensionLocalState)
  | areaRemove
  | getIdentity
  | putIdentityIfAbsent (identity : InstallationIdentityRecord)
  | getReceiptKey (keyId : OpaqueId)
  | getEnvelope (blobId : OpaqueId)
  | putReceiptArtifacts (key : ReceiptKeyRecord) (envelope : EncryptedReceiptEnvelope P)
  | deleteBlob (blobId : OpaqueId)
  | deleteKey (keyId : OpaqueId)
  | deleteReceipt (receiptId : ReceiptId)
  | getMigrationJournal
  | putMigrationJournal (journal : MigrationJournal)
  | deleteMigrationJournal
  | deleteAll

@[reducible] def StorageOp.Result {P : StoragePlatform} : StorageOp P → Type
  | draw => Nat
  | now => Timestamp
  | areaGet => StoredValue
  | getIdentity => Option InstallationIdentityRecord
  | putIdentityIfAbsent _ => InstallationIdentityRecord
  | getReceiptKey _ => Option ReceiptKeyRecord
  | getEnvelope _ => Option (EncryptedReceiptEnvelope P)
  | getMigrationJournal => Option MigrationJournal
  | _ => Unit

/-- A storage-area or vault operation, as opposed to a draw or a clock
reading. -/
def StorageOp.isStorage {P : StoragePlatform} : StorageOp P → Bool
  | draw | now => false
  | _ => true

namespace Vault

variable {P : StoragePlatform}

/-- `getEnvelope`. -/
def getEnvelope (vault : Vault P) (blobId : OpaqueId) :
    Except StorageError (Option (EncryptedReceiptEnvelope P)) :=
  match vault.blobs blobId with
  | none => .ok none
  | some stored =>
    match parseEncryptedReceiptEnvelope P stored.envelope with
    | .error e => .error e
    | .ok envelope =>
      if blobId ≠ envelope.authenticatedMetadata.blobId
          ∨ stored.receiptId ≠ envelope.authenticatedMetadata.receiptId then
        .error (.failure "A persisted encrypted receipt blob has mismatched storage metadata.")
      else .ok (some envelope)

/-- `putReceiptArtifacts`: the blob is put, the key is added unless one with
its identifier is there. -/
def putReceiptArtifacts (vault : Vault P) (key : ReceiptKeyRecord)
    (envelope : EncryptedReceiptEnvelope P) : Except StorageError Unit × Vault P :=
  match parseEncryptedReceiptEnvelope P envelope with
  | .error e => (.error e, vault)
  | .ok envelope =>
    let metadata := envelope.authenticatedMetadata
    if key.receiptId ≠ metadata.receiptId then
      (.error (.failure "Receipt key and encrypted envelope identities do not match."), vault)
    else (.ok (), { vault with
      keys := Function.update vault.keys key.keyId (some ((vault.keys key.keyId).getD key))
      blobs := Function.update vault.blobs metadata.blobId (some ⟨envelope, metadata.receiptId⟩) })

/-- `deleteReceipt`: every key and every blob of a receipt. -/
def deleteReceipt (vault : Vault P) (receiptId : ReceiptId) : Vault P :=
  { vault with
    keys := fun id => (vault.keys id).filter fun key => key.receiptId ≠ receiptId
    blobs := fun id => (vault.blobs id).filter fun blob => blob.receiptId ≠ receiptId }

def empty : Vault P := ⟨none, fun _ => none, fun _ => none, none⟩

end Vault

/-- What an operation returns and does. -/
def exec (P : StoragePlatform) :
    (o : StorageOp P) → World P → Except StorageError o.Result × World P
  | .draw, w => (.ok w.draws, { w with draws := w.draws + 1 })
  | .now, w => (.ok (P.clock w.draws), { w with draws := w.draws + 1 })
  | .areaGet, w => (.ok w.area, w)
  | .areaSet state, w => (.ok (), { w with area := .current state })
  | .areaRemove, w => (.ok (), { w with area := .absent })
  | .getIdentity, w => (.ok w.vault.identity, w)
  | .putIdentityIfAbsent identity, w =>
    let stored := w.vault.identity.getD identity
    (.ok stored, { w with vault := { w.vault with identity := some stored } })
  | .getReceiptKey keyId, w => (.ok (w.vault.keys keyId), w)
  | .getEnvelope blobId, w => (w.vault.getEnvelope blobId, w)
  | .putReceiptArtifacts key envelope, w =>
    let r := w.vault.putReceiptArtifacts key envelope
    (r.1, { w with vault := r.2 })
  | .deleteBlob blobId, w =>
    (.ok (), { w with vault := { w.vault with
      blobs := Function.update w.vault.blobs blobId none } })
  | .deleteKey keyId, w =>
    (.ok (), { w with vault := { w.vault with
      keys := Function.update w.vault.keys keyId none } })
  | .deleteReceipt receiptId, w => (.ok (), { w with vault := w.vault.deleteReceipt receiptId })
  | .getMigrationJournal, w => (.ok w.vault.journal, w)
  | .putMigrationJournal journal, w =>
    (.ok (), { w with vault := { w.vault with journal := some journal } })
  | .deleteMigrationJournal, w =>
    (.ok (), { w with vault := { w.vault with journal := none } })
  | .deleteAll, w => (.ok (), { w with vault := .empty })

/-! ### The encrypted index -/

/-- `parseIndexEntry`. -/
def parseIndexEntry (value : EncryptedReceiptIndexEntry) : Bool :=
  16 ≤ value.extensionKeyId.length && inspectNormalizedOrigin value.origin
    && value.siteConfirmationOrigin.all inspectNormalizedOrigin
    && match value.currentStage with
      | .attempted => value.siteConfirmedAt = none && value.siteConfirmationOrigin = none
      | .siteConfirmed => value.siteConfirmedAt.isSome && value.siteConfirmationOrigin.isSome

/-- `validateSecureExtensionState`. -/
def validateSecureExtensionState (value : SecureExtensionLocalState) : Bool :=
  value.anchorOperations.length ≤ MAX_ANCHOR_OPERATIONS
    && value.receiptIndex.length ≤ MAX_LOCAL_RECEIPTS
    && parseSettings value.settings && parseEnabledOrigins value.enabledOrigins
    && parseMigration value.migration
    && value.receiptIndex.all parseIndexEntry
    && decide (value.receiptIndex.map (·.receiptId)).Nodup
    && decide (value.receiptIndex.map (·.blobId)).Nodup
    && decide (value.receiptIndex.map (·.keyId)).Nodup
    && (value.receiptIndex = [] || value.identity.isSome)
    && value.anchorOperations.all (fun operation => parseAnchorOperation operation
      && decide (operation.receiptId ∈ value.receiptIndex.map (·.receiptId)))
    && decide (value.anchorOperations.map (·.eventHash)).Nodup

/-- `identityMetadata`. -/
def identityMetadata (identity : InstallationIdentityRecord) : SecureIdentityMetadata :=
  ⟨identity.createdAt, identity.fingerprint, identity.publicKey⟩

/-- `identityMetadataMatches`. -/
def identityMetadataMatches (metadata : SecureIdentityMetadata)
    (identity : InstallationIdentityRecord) : Bool :=
  metadata = identityMetadata identity

/-- `initialSecureState`. -/
def initialSecureState (initializedAt : Timestamp) : SecureExtensionLocalState :=
  let initial := createInitialExtensionState initializedAt
  { anchorOperations := []
    enabledOrigins := initial.enabledOrigins
    hasSeenWelcome := initial.hasSeenWelcome
    identity := none
    initializedAt := initial.initializedAt
    migration := initial.migration
    receiptIndex := []
    settings := initial.settings
    updatedAt := initial.updatedAt }

/-- The current index that a version 4 index becomes. -/
def LegacySecureState.upgrade (legacy : LegacySecureState) (now : Timestamp) :
    SecureExtensionLocalState where
  anchorOperations := []
  enabledOrigins := legacy.enabledOrigins
  hasSeenWelcome := legacy.hasSeenWelcome
  identity := legacy.identity
  initializedAt := legacy.initializedAt
  migration := legacy.migration
  receiptIndex := legacy.receiptIndex
  settings := legacy.settings
  updatedAt := now

/-- A map from receipt identifiers to decrypted bundles. -/
abbrev Bundles := List (ReceiptId × PrivateReceiptBundle)

def Bundles.get (bundles : Bundles) (receiptId : ReceiptId) : Option PrivateReceiptBundle :=
  (bundles.find? fun entry => entry.1 = receiptId).map (·.2)

/-- `bundles.set`. -/
def Bundles.set (bundles : Bundles) (receiptId : ReceiptId) (bundle : PrivateReceiptBundle) :
    Bundles :=
  bundles.map fun entry => if entry.1 = receiptId then (receiptId, bundle) else entry

/-- `LoadedSecureExtensionState`. -/
structure LoadedSecureExtensionState where
  bundles : Bundles
  persistent : SecureExtensionLocalState
  working : ExtensionLocalState
  deriving DecidableEq

/-- The operational receipts of the index entries. -/
def operationalReceipts (bundles : Bundles) :
    List EncryptedReceiptIndexEntry → Except StorageError (List StoredAttemptReceipt)
  | [] => .ok []
  | entry :: entries =>
    match bundles.get entry.receiptId with
    | none => .error (.failure "An encrypted receipt index entry has no decrypted bundle.")
    | some bundle =>
      match operationalReceipts bundles entries with
      | .error e => .error e
      | .ok receipts => .ok (bundle.operational :: receipts)

/-- `indexFromArtifacts`, of a blob and a key with given identifiers. -/
def indexFromArtifacts (bundle : PrivateReceiptBundle) (blobId keyId : OpaqueId) :
    EncryptedReceiptIndexEntry where
  blobId := blobId
  capturedAt := bundle.operational.capturedAt
  currentStage := bundle.operational.currentStage
  extensionKeyId := bundle.receipt.extensionPublicKey.keyId
  keyId := keyId
  origin := bundle.operational.origin
  ownership := bundle.ownership
  receiptId := bundle.operational.receiptId
  siteConfirmationOrigin := bundle.operational.siteConfirmationEvidence.map (·.pageOrigin)
  siteConfirmedAt := bundle.operational.siteConfirmationEvent.map (·.core.occurredAt)

/-- An anchor operation belongs to an event of a bundle. -/
def operationMatches (bundle : Option PrivateReceiptBundle) (operation : AnchorOperation) : Bool :=
  (bundle.bind fun bundle => bundle.receipt.events.find? fun event =>
    event.eventHash = operation.eventHash).any fun event =>
      event.core.stage = operation.stage.toEventStage

section programs

variable (P : StoragePlatform)

/-- `workingFromPersistent`. -/
def workingFromPersistent (persistent : SecureExtensionLocalState) (bundles : Bundles) :
    Except StorageError ExtensionLocalState := do
  let receiptIndex ← operationalReceipts bundles persistent.receiptIndex
  let state : ExtensionLocalState := {
    initializedAt := persistent.initializedAt
    updatedAt := persistent.updatedAt
    hasSeenWelcome := persistent.hasSeenWelcome
    settings := persistent.settings
    enabledOrigins := persistent.enabledOrigins
    receiptIndex
    migration := persistent.migration }
  revertIf (validateExtensionState P state = false)
    (.failure "Decrypted receipt state failed strict extension validation.")
  return state

/-- A storage function. -/
abbrev StorageProg (α : Type) := Prog (StorageOp P) StorageOp.Result StorageError α

variable {P}

def perform (o : StorageOp P) : StorageProg P o.Result := Prog.perform o

/-- A failure with a message. -/
def fail {α : Type} (message : String) : StorageProg P α := Prog.throw (.failure message)

/-- `writePersistentState`. -/
def writePersistentState (state : SecureExtensionLocalState) :
    StorageProg P SecureExtensionLocalState :=
  if validateSecureExtensionState state = false then
    fail "SubmittedIt refused to store an invalid encrypted local index."
  else do
    perform (.areaSet state)
    pure state

variable (P) in
/-- `generateReceiptKey`. -/
def generateReceiptKey (receiptId : ReceiptId) (createdAt : Timestamp) :
    StorageProg P ReceiptKeyRecord := do
  let draw ← (perform .draw : StorageProg P Nat)
  pure { createdAt, key := draw, keyId := draw, receiptId }

/-- The encryption of a bundle under a fresh blob identifier. -/
def encryptBundle (bundle : PrivateReceiptBundle) (key : ReceiptKeyRecord) :
    StorageProg P (EncryptedReceiptEnvelope P) := do
  let draw ← (perform .draw : StorageProg P Nat)
  Prog.ofExcept (encryptPrivateReceiptBundle P bundle key.key draw)

/-- The bundle of an operational receipt, signed with a fresh draw. -/
def secureBundle (operational : StoredAttemptReceipt) (identity : InstallationIdentityRecord)
    (existing : Option PrivateReceiptBundle) : StorageProg P PrivateReceiptBundle := do
  let draw ← (perform .draw : StorageProg P Nat)
  let verifiedAt ← (perform .now : StorageProg P Timestamp)
  Prog.ofExcept
    (createOrUpdatePrivateReceiptBundle P operational identity existing draw verifiedAt)

/-- `ensureIdentity`. -/
def ensureIdentity (existingMetadata : Option SecureIdentityMetadata) (now : Timestamp) :
    StorageProg P InstallationIdentityRecord := do
  let existing ← (perform .getIdentity : StorageProg P (Option InstallationIdentityRecord))
  match existingMetadata, existing with
  | some metadata, some existing =>
    if identityMetadataMatches metadata existing = false then
      fail "The persisted installation signing identity is missing or does not match its public record."
    else pure existing
  | some _, none =>
    fail "The persisted installation signing identity is missing or does not match its public record."
  | none, some existing => pure existing
  | none, none => do
    let draw ← (perform .draw : StorageProg P Nat)
    perform (.putIdentityIfAbsent (P.generateIdentity now draw))

/-- The bundle of an index entry. -/
def decryptEntry (entry : EncryptedReceiptIndexEntry) : StorageProg P PrivateReceiptBundle := do
  let key ← (perform (.getReceiptKey entry.keyId) : StorageProg P (Option ReceiptKeyRecord))
  let envelope ← (perform (.getEnvelope entry.blobId) :
    StorageProg P (Option (EncryptedReceiptEnvelope P)))
  match key, envelope with
  | some key, some envelope =>
    if key.receiptId ≠ entry.receiptId then
      fail "An encrypted receipt blob or local decryption key is missing."
    else do
      let bundle ← Prog.ofExcept (decryptPrivateReceiptEnvelope P envelope key.key)
      -- `indexMatchesBundle`
      if entry ≠ indexFromArtifacts bundle envelope.authenticatedMetadata.blobId key.keyId then
        fail "Encrypted receipt index metadata does not match its authenticated bundle."
      else pure bundle
  | _, _ => fail "An encrypted receipt blob or local decryption key is missing."

/-- The loop of `decryptIndexedBundles` over the index. -/
def decryptEntries : List EncryptedReceiptIndexEntry → StorageProg P Bundles
  | [] => pure []
  | entry :: entries => do
    let bundle ← decryptEntry entry
    let bundles ← decryptEntries entries
    pure ((entry.receiptId, bundle) :: bundles)

/-- `decryptIndexedBundles`. -/
def decryptIndexedBundles (persistent : SecureExtensionLocalState) : StorageProg P Bundles := do
  let bundles ← decryptEntries persistent.receiptIndex
  if (persistent.anchorOperations.all fun operation =>
      operationMatches (bundles.get operation.receiptId) operation) = false then
    fail "A durable anchor operation does not match its encrypted signed event."
  else pure bundles

/-- What a load returns for an index it has read or written. -/
def loadedFrom (persistent : SecureExtensionLocalState) (bundles : Bundles) :
    StorageProg P LoadedSecureExtensionState := do
  let working ← Prog.ofExcept (workingFromPersistent P persistent bundles)
  pure ⟨bundles, persistent, working⟩

/-! ### Loading -/

/-- The artifacts a migration reuses from an interrupted one. -/
def reuseArtifacts (operational : StoredAttemptReceipt) (reusable : Option MigrationJournalEntry) :
    StorageProg P (Option (PrivateReceiptBundle × OpaqueId × OpaqueId)) := do
  match reusable with
  | none => pure none
  | some entry => do
    let key ← (perform (.getReceiptKey entry.keyId) : StorageProg P (Option ReceiptKeyRecord))
    let envelope ← (perform (.getEnvelope entry.blobId) :
      StorageProg P (Option (EncryptedReceiptEnvelope P)))
    match key, envelope with
    | some key, some envelope =>
      match decryptPrivateReceiptEnvelope P envelope key.key with
      | .error _ => pure none
      | .ok candidate =>
        if candidate.operational = operational then
          pure (some (candidate, envelope.authenticatedMetadata.blobId, key.keyId))
        else pure none
    | _, _ => pure none

/-- One iteration of the loop of `migrateLegacyState`: a bundle with the
identifiers of its blob and its key. -/
def migrateReceipt (identity : InstallationIdentityRecord) (now : Timestamp)
    (operational : StoredAttemptReceipt) (reusable : Option MigrationJournalEntry) :
    StorageProg P (PrivateReceiptBundle × OpaqueId × OpaqueId) := do
  match ← reuseArtifacts operational reusable with
  | some reused => pure reused
  | none => do
    let bundle ← secureBundle operational identity none
    let key ← generateReceiptKey P operational.receiptId now
    let envelope ← encryptBundle bundle key
    perform (.putReceiptArtifacts key envelope)
    pure (bundle, envelope.authenticatedMetadata.blobId, key.keyId)

/-- The loop of `migrateLegacyState`. -/
def migrateReceipts (identity : InstallationIdentityRecord) (sourceVersion : Nat)
    (now : Timestamp) (reusableEntries : List MigrationJournalEntry) :
    List MigrationJournalEntry → List StoredAttemptReceipt →
      StorageProg P (List EncryptedReceiptIndexEntry × Bundles)
  | _, [] => pure ([], [])
  | entries, operational :: receipts => do
    let (bundle, blobId, keyId) ← migrateReceipt identity now operational
      (reusableEntries.find? fun entry => entry.receiptId = operational.receiptId)
    let entry := indexFromArtifacts bundle blobId keyId
    let entries := entries ++ [⟨blobId, keyId, entry.receiptId⟩]
    perform (.putMigrationJournal ⟨sourceVersion, now, entries⟩)
    let (receiptIndex, bundles) ← migrateReceipts identity sourceVersion now reusableEntries
      entries receipts
    pure (entry :: receiptIndex, (entry.receiptId, bundle) :: bundles)

/-- `migrateLegacyState`. -/
def migrateLegacyState (legacy : ExtensionLocalState) (sourceVersion : Nat) (now : Timestamp) :
    StorageProg P LoadedSecureExtensionState := do
  let identity ← ensureIdentity none now
  let priorJournal ← (perform .getMigrationJournal : StorageProg P (Option MigrationJournal))
  let reusableEntries := match priorJournal with
    | some journal => if journal.sourceStateVersion = sourceVersion then journal.entries else []
    | none => []
  perform (.putMigrationJournal ⟨sourceVersion, now, []⟩)
  let (receiptIndex, bundles) ← migrateReceipts identity sourceVersion now reusableEntries []
    legacy.receiptIndex
  let persistent ← writePersistentState {
    anchorOperations := []
    enabledOrigins := legacy.enabledOrigins
    hasSeenWelcome := legacy.hasSeenWelcome
    identity := some (identityMetadata identity)
    initializedAt := legacy.initializedAt
    migration := ⟨some sourceVersion, some now⟩
    receiptIndex
    settings := legacy.settings
    updatedAt := now }
  perform .deleteMigrationJournal
  loadedFrom persistent bundles

/-- The load of a valid current index. -/
def loadCurrent (secure : SecureExtensionLocalState) (ensure : Option Bool) (now : Timestamp) :
    StorageProg P LoadedSecureExtensionState := do
  let storedIdentity ← (perform .getIdentity : StorageProg P (Option InstallationIdentityRecord))
  let persistent ← match secure.identity with
    | some metadata =>
      if (storedIdentity.any (identityMetadataMatches metadata)) = false then
        fail "The local signing identity is unavailable; SubmittedIt will not rotate it silently."
      else pure secure
    | none =>
      if secure.receiptIndex ≠ [] then
        fail "Encrypted receipts exist without their installation identity metadata."
      else if ensure = some true then do
        let identity ← ensureIdentity none now
        writePersistentState
          { secure with identity := some (identityMetadata identity), updatedAt := now }
      else pure secure
  let bundles ← decryptIndexedBundles persistent
  loadedFrom persistent bundles

/-- `loadSecureExtensionState`; `ensure` is the option `ensureIdentity`. -/
def loadSecureExtensionState (ensure : Option Bool) (now : Timestamp) :
    StorageProg P LoadedSecureExtensionState := do
  match ← (perform .areaGet : StorageProg P StoredValue) with
  | .absent => do
    let identity ← if ensure = some false then pure none
      else do
        let identity ← ensureIdentity none now
        pure (some (identityMetadata identity))
    let persistent ← writePersistentState { initialSecureState now with identity }
    loadedFrom persistent []
  | .current secure =>
    if validateSecureExtensionState secure = false then
      fail "The encrypted local index is malformed; SubmittedIt will not replace it or rotate keys silently."
    else loadCurrent secure ensure now
  | .legacyEncrypted legacy =>
    if validateSecureExtensionState (legacy.upgrade now) = false then
      fail "The legacy encrypted local index is malformed; SubmittedIt will not replace it silently."
    else do
      let persistent ← writePersistentState (legacy.upgrade now)
      let bundles ← decryptIndexedBundles persistent
      loadedFrom persistent bundles
  | .malformed legacy =>
    if legacy then
      fail "The legacy encrypted local index is malformed; SubmittedIt will not replace it silently."
    else
      fail "The encrypted local index is malformed; SubmittedIt will not replace it or rotate keys silently."
  | .plaintext value =>
    migrateLegacyState (resolveStoredExtensionState P value now) value.sourceVersion now

/-! ### Saving -/

/-- `persistentFromWorking`. -/
def persistentFromWorking (working : ExtensionLocalState) (prior : SecureExtensionLocalState)
    (identity : InstallationIdentityRecord) (receiptIndex : List EncryptedReceiptIndexEntry)
    (now : Timestamp) : SecureExtensionLocalState where
  anchorOperations := prior.anchorOperations.filter fun operation =>
    operation.receiptId ∈ receiptIndex.map (·.receiptId)
  enabledOrigins := working.enabledOrigins
  hasSeenWelcome := working.hasSeenWelcome
  identity := some (identityMetadata identity)
  initializedAt := working.initializedAt
  migration := prior.migration
  receiptIndex := receiptIndex
  settings := working.settings
  updatedAt := now

/-- An artifact that a save has written and not yet committed. -/
structure StagedArtifact where
  blobId : OpaqueId
  keyId : OpaqueId
  newReceipt : Bool
  deriving DecidableEq

/-- The entry of a receipt in an index. -/
def SecureExtensionLocalState.entry (persistent : SecureExtensionLocalState)
    (receiptId : ReceiptId) : Option EncryptedReceiptIndexEntry :=
  persistent.receiptIndex.find? fun entry => entry.receiptId = receiptId

/-- One iteration of the loop of `saveSecureExtensionState`. -/
def stageReceipt (current : LoadedSecureExtensionState) (identity : InstallationIdentityRecord)
    (now : Timestamp) (operational : StoredAttemptReceipt) :
    StorageProg P (EncryptedReceiptIndexEntry × Option StagedArtifact) := do
  let previousEntry := current.persistent.entry operational.receiptId
  let previousBundle := current.bundles.get operational.receiptId
  match previousEntry.filter fun _ => previousBundle.any fun bundle =>
      bundle.operational = operational with
  | some unchanged => pure (unchanged, none)
  | none => do
    let bundle ← secureBundle operational identity previousBundle
    let key ← match previousEntry with
      | some entry => (perform (.getReceiptKey entry.keyId) :
          StorageProg P (Option ReceiptKeyRecord))
      | none => do
        let key ← generateReceiptKey P operational.receiptId now
        pure (some key)
    match key.filter fun key => key.receiptId = operational.receiptId with
    | none => fail "The receipt encryption key is missing or belongs to another receipt."
    | some key => do
      let envelope ← encryptBundle bundle key
      perform (.putReceiptArtifacts key envelope)
      let entry := indexFromArtifacts bundle envelope.authenticatedMetadata.blobId key.keyId
      pure (entry, some ⟨entry.blobId, entry.keyId, previousEntry.isNone⟩)

/-- The loop of `saveSecureExtensionState`: the artifacts staged so far, and
the new index or the error that stopped it. -/
def stageReceipts (current : LoadedSecureExtensionState) (identity : InstallationIdentityRecord)
    (now : Timestamp) (nextIndex : List EncryptedReceiptIndexEntry)
    (staged : List StagedArtifact) : List StoredAttemptReceipt →
      StorageProg P (List StagedArtifact × Except StorageError (List EncryptedReceiptIndexEntry))
  | [] => pure (staged, .ok nextIndex)
  | operational :: receipts => do
    match ← (stageReceipt current identity now operational).attempt with
    | .error e => pure (staged, .error e)
    | .ok (entry, artifact) =>
      stageReceipts current identity now (nextIndex ++ [entry]) (staged ++ artifact.toList) receipts

/-- The loop that deletes what a committed index no longer names. -/
def deleteReplaced (nextIndex : List EncryptedReceiptIndexEntry) :
    List EncryptedReceiptIndexEntry → StorageProg P Unit
  | [] => pure ()
  | previous :: entries => do
    match nextIndex.find? fun entry => entry.receiptId = previous.receiptId with
    | none => perform (.deleteReceipt previous.receiptId)
    | some replacement =>
      if replacement.blobId ≠ previous.blobId then perform (.deleteBlob previous.blobId)
      else pure ()
    deleteReplaced nextIndex entries

/-- The `catch` branch: delete what was staged, whether or not that fails. -/
def rollback : List StagedArtifact → StorageProg P Unit
  | [] => pure ()
  | artifact :: staged => do
    let _ ← (perform (.deleteBlob artifact.blobId) : StorageProg P Unit).attempt
    let _ ← (if artifact.newReceipt then perform (.deleteKey artifact.keyId) else pure () :
      StorageProg P Unit).attempt
    rollback staged

/-- The commit of a save and what follows it. -/
def commitIndex (current : LoadedSecureExtensionState) (state : SecureExtensionLocalState) :
    StorageProg P LoadedSecureExtensionState := do
  let persistent ← writePersistentState state
  deleteReplaced state.receiptIndex current.persistent.receiptIndex
  let bundles ← decryptIndexedBundles persistent
  loadedFrom persistent bundles

/-- `saveSecureExtensionState`. -/
def saveSecureExtensionState (workingInput : ExtensionLocalState) (now : Timestamp) :
    StorageProg P LoadedSecureExtensionState :=
  let working := { workingInput with updatedAt := now }
  if validateExtensionState P working = false then
    fail "SubmittedIt refused to save invalid decrypted receipt state."
  else do
    let current ← loadSecureExtensionState (some true) now
    let identity ← ensureIdentity current.persistent.identity now
    let (staged, result) ← stageReceipts current identity now [] [] working.receiptIndex
    let saved ← (do
      let nextIndex ← Prog.ofExcept result
      commitIndex current (persistentFromWorking working current.persistent identity nextIndex now) :
        StorageProg P LoadedSecureExtensionState).attempt
    match saved with
    | .ok loaded => pure loaded
    | .error e => do
      rollback staged
      Prog.throw e

/-! ### Importing and deleting -/

/-- `getPrivateReceiptBundle`. -/
def getPrivateReceiptBundle (receiptId : ReceiptId) : StorageProg P PrivateReceiptBundle := do
  let now ← (perform .now : StorageProg P Timestamp)
  let loaded ← loadSecureExtensionState none now
  match loaded.bundles.get receiptId with
  | none => fail "SubmittedIt could not find that local encrypted receipt."
  | some bundle => pure bundle

/-- `storeImportedReceiptBundle`; the input is `none` where it is no bundle at
all. -/
def storeImportedReceiptBundle (bundleInput : Option PrivateReceiptBundle)
    (replaceDuplicate : Bool) (now : Timestamp) :
    StorageProg P (PrivateReceiptBundle × LoadedSecureExtensionState) := do
  let loaded ← loadSecureExtensionState (some true) now
  let identity ← (perform .getIdentity : StorageProg P (Option InstallationIdentityRecord))
  let bundle ← Prog.ofExcept
    (importedPrivateReceiptBundle P bundleInput (identity.map (·.publicKey)))
  let existing := loaded.persistent.entry bundle.receipt.receiptId
  if existing.isSome ∧ replaceDuplicate = false then
    Prog.throw (.duplicateReceipt bundle.receipt.receiptId)
  else do
    let key ← generateReceiptKey P bundle.receipt.receiptId now
    let envelope ← encryptBundle bundle key
    perform (.putReceiptArtifacts key envelope)
    let newEntry := indexFromArtifacts bundle envelope.authenticatedMetadata.blobId key.keyId
    let receiptIndex := newEntry :: loaded.persistent.receiptIndex.filter fun entry =>
      entry.receiptId ≠ newEntry.receiptId
    if receiptIndex.length > MAX_LOCAL_RECEIPTS then do
      perform (.deleteBlob newEntry.blobId)
      perform (.deleteKey newEntry.keyId)
      fail "SubmittedIt local encrypted receipt storage is full."
    else do
      let written ← (writePersistentState { loaded.persistent with
        anchorOperations := loaded.persistent.anchorOperations.filter fun operation =>
          operation.receiptId ≠ newEntry.receiptId
        receiptIndex
        updatedAt := now } : StorageProg P SecureExtensionLocalState).attempt
      match written with
      | .error e => do
        rollback [⟨newEntry.blobId, newEntry.keyId, true⟩]
        Prog.throw e
      | .ok persistent => do
        match existing with
        | none => pure ()
        | some existing => do
          perform (.deleteBlob existing.blobId)
          perform (.deleteKey existing.keyId)
        let bundles ← decryptIndexedBundles persistent
        let state ← loadedFrom persistent bundles
        let bundle ← Prog.ofExcept (verifyPrivateReceiptBundle P bundle)
        pure (bundle, state)

/-- `deleteSecureReceipt`. -/
def deleteSecureReceipt (receiptId : ReceiptId) (now : Timestamp) :
    StorageProg P LoadedSecureExtensionState := do
  let loaded ← loadSecureExtensionState none now
  if (loaded.bundles.get receiptId).isNone then
    fail "SubmittedIt could not find that local encrypted receipt."
  else
    saveSecureExtensionState { loaded.working with
      receiptIndex := loaded.working.receiptIndex.filter fun receipt =>
        receipt.receiptId ≠ receiptId } now

/-- `deleteAllSecureExtensionData`. -/
def deleteAllSecureExtensionData (now : Timestamp) :
    StorageProg P LoadedSecureExtensionState := do
  perform .deleteAll
  perform .areaRemove
  let persistent ← writePersistentState (initialSecureState now)
  loadedFrom persistent []

/-! ### Anchor operations -/

/-- `getAnchorRelayArtifacts`, as far as its storage operations go: the bundle
and its envelope. -/
def getAnchorRelayArtifacts (receiptId : ReceiptId) (eventHash : HashHex) :
    StorageProg P (PrivateReceiptBundle × EncryptedReceiptEnvelope P) := do
  let now ← (perform .now : StorageProg P Timestamp)
  let loaded ← loadSecureExtensionState none now
  match loaded.bundles.get receiptId, loaded.persistent.entry receiptId with
  | some bundle, some index =>
    if bundle.ownership ≠ .local then
      fail "Only a locally signed encrypted receipt can enter the relay lifecycle."
    else do
      let envelope ← (perform (.getEnvelope index.blobId) :
        StorageProg P (Option (EncryptedReceiptEnvelope P)))
      match envelope, bundle.receipt.events.find? fun event => event.eventHash = eventHash with
      | some envelope, some signed =>
        if signed.extensionSignature = none then
          fail "The encrypted receipt or its signed event is unavailable."
        else pure (bundle, envelope)
      | _, _ => fail "The encrypted receipt or its signed event is unavailable."
  | _, _ => fail "Only a locally signed encrypted receipt can enter the relay lifecycle."

/-- What a rewrite of an anchor operation has to keep. -/
def keepsEvidence (previous next : AnchorOperation) : Bool :=
  previous.chainId = next.chainId && previous.contractAddress = next.contractAddress
    && previous.createdAt = next.createdAt && previous.eventCount = next.eventCount
    && previous.eventHash = next.eventHash && previous.idempotencyKey = next.idempotencyKey
    && previous.relayBaseUrl = next.relayBaseUrl && previous.receiptId = next.receiptId
    && previous.stage = next.stage
    && (previous.relayBlobId = none || previous.relayBlobId = next.relayBlobId)
    && (previous.statusToken = none || previous.statusToken = next.statusToken)
    && (previous.transactionHash = none || previous.transactionHash = next.transactionHash)
    && previous.counters.polls ≤ next.counters.polls
    && previous.counters.relayRequests ≤ next.counters.relayRequests
    && previous.counters.uploads ≤ next.counters.uploads
    && previous.counters.verifications ≤ next.counters.verifications
    && previous.state ≠ .chainEvidenceConfirmed

/-- `saveAnchorOperation`. -/
def saveAnchorOperation (operation : AnchorOperation) :
    StorageProg P LoadedSecureExtensionState :=
  if parseAnchorOperation operation = false then
    fail "SubmittedIt refused to persist malformed anchor progress."
  else do
    let now ← (perform .now : StorageProg P Timestamp)
    let loaded ← loadSecureExtensionState none now
    let bundle := loaded.bundles.get operation.receiptId
    if operationMatches bundle operation = false ∨ bundle.map (·.ownership) ≠ some .local then
      fail "The anchor operation does not belong to a locally signed event."
    else do
      let previous := loaded.persistent.anchorOperations.find? fun candidate =>
        candidate.eventHash = operation.eventHash
      if (previous.any fun previous => !keepsEvidence previous operation) = true then
        fail "SubmittedIt refused to rewrite immutable anchor-operation evidence."
      else if previous = none
          ∧ loaded.persistent.anchorOperations.length ≥ MAX_ANCHOR_OPERATIONS then
        fail "SubmittedIt local anchor-operation storage is full."
      else do
        let persistent ← writePersistentState { loaded.persistent with
          anchorOperations := operation :: loaded.persistent.anchorOperations.filter
            fun candidate => candidate.eventHash ≠ operation.eventHash
          updatedAt := operation.updatedAt }
        pure { loaded with persistent }

/-- The input of `ensureAnchorOperation`. -/
structure EnsureAnchorOperation where
  chainId : Nat
  contractAddress : AddressText
  eventHash : HashHex
  now : Timestamp
  receiptId : ReceiptId
  relayBaseUrl : RelayBaseUrl

/-- The stage of an event that can be anchored. -/
def anchorableStage : EventStage → Option AnchorableStage
  | .attempted => some .attempted
  | .siteConfirmed => some .siteConfirmed
  | .authorityAccepted | .authorityRejected => none

/-- `ensureAnchorOperation`. -/
def ensureAnchorOperation (input : EnsureAnchorOperation) : StorageProg P AnchorOperation := do
  let now ← (perform .now : StorageProg P Timestamp)
  let loaded ← loadSecureExtensionState none now
  match loaded.persistent.anchorOperations.find? fun operation =>
      operation.eventHash = input.eventHash with
  | some existing =>
    if existing.receiptId ≠ input.receiptId ∨ existing.chainId ≠ input.chainId
        ∨ ContractClient.toLowerCase existing.contractAddress
          ≠ ContractClient.toLowerCase input.contractAddress
        ∨ existing.relayBaseUrl ≠ input.relayBaseUrl then
      fail "The signed event is already bound to different anchor configuration."
    else pure existing
  | none =>
    let bundle := (loaded.bundles.get input.receiptId).filter fun bundle =>
      bundle.ownership = .local
    let event := bundle.bind fun bundle => bundle.receipt.events.find? fun event =>
      event.eventHash = input.eventHash
    match loaded.persistent.entry input.receiptId,
        event.bind fun event => anchorableStage event.core.stage with
    | some index, some stage => do
      let operation ← Prog.ofExcept (createAnchorOperation {
        chainId := input.chainId
        contractAddress := input.contractAddress
        eventHash := input.eventHash
        localBlobId := index.blobId
        now := input.now
        receiptId := input.receiptId
        relayBaseUrl := input.relayBaseUrl
        stage })
      let _ ← saveAnchorOperation operation
      pure operation
    | _, _ => fail "Only a locally signed Attempted or Site confirmed event can be anchored."

/-- `getAnchorOperation`. -/
def getAnchorOperation (eventHash : HashHex) : StorageProg P (Option AnchorOperation) := do
  let now ← (perform .now : StorageProg P Timestamp)
  let loaded ← loadSecureExtensionState none now
  pure (loaded.persistent.anchorOperations.find? fun operation =>
    operation.eventHash = eventHash)

/-- The input of `storeVerifiedChainAnchor`. -/
structure VerifiedChainAnchor where
  anchoredAt : Timestamp
  anchoredBy : AddressHex
  blockNumber : Nat
  chainId : Nat
  contractAddress : AddressHex
  eventHash : HashHex
  transactionHash : HashHex

/-- The operation once its chain evidence is verified. -/
def AnchorOperation.confirm (operation : AnchorOperation) (input : VerifiedChainAnchor)
    (now : Timestamp) : AnchorOperation :=
  { operation with
    anchoredAt := some input.anchoredAt
    anchoredBy := some input.anchoredBy
    blockNumber := some input.blockNumber
    lastError := none
    state := .chainEvidenceConfirmed
    transactionHash := some input.transactionHash
    updatedAt := now }

/-- `storeVerifiedChainAnchor`. -/
def storeVerifiedChainAnchor (input : VerifiedChainAnchor) (now : Timestamp) :
    StorageProg P LoadedSecureExtensionState := do
  let loadedAt ← (perform .now : StorageProg P Timestamp)
  let loaded ← loadSecureExtensionState none loadedAt
  let operation := loaded.persistent.anchorOperations.find? fun candidate =>
    candidate.eventHash = input.eventHash
  match operation, operation.bind fun operation => loaded.bundles.get operation.receiptId,
      operation.bind fun operation => loaded.persistent.entry operation.receiptId with
  | some operation, some bundle, some index =>
    if operation.chainId ≠ input.chainId
        ∨ ContractClient.toLowerCase operation.contractAddress ≠ .hex input.contractAddress 0 then
      fail "The verified chain evidence does not match a durable local operation."
    else do
      let key ← (perform (.getReceiptKey index.keyId) :
        StorageProg P (Option ReceiptKeyRecord))
      match key.filter fun key => key.receiptId = operation.receiptId with
      | none => fail "The receipt encryption key is unavailable."
      | some key => do
        let anchoredBundle ← Prog.ofExcept (attachVerifiedChainAnchor P bundle input.eventHash
          ⟨input.anchoredAt, input.blockNumber, input.chainId, input.contractAddress,
            input.transactionHash⟩ now)
        let envelope ← encryptBundle anchoredBundle key
        perform (.putReceiptArtifacts key envelope)
        let nextIndex := indexFromArtifacts anchoredBundle
          envelope.authenticatedMetadata.blobId key.keyId
        let confirmed ← Prog.ofExcept (updateAnchorOperation (operation.confirm input now))
        let stored ← (do
          let persistent ← writePersistentState { loaded.persistent with
            anchorOperations := loaded.persistent.anchorOperations.map fun candidate =>
              if candidate.eventHash = confirmed.eventHash then confirmed else candidate
            receiptIndex := loaded.persistent.receiptIndex.map fun entry =>
              if entry.receiptId = nextIndex.receiptId then nextIndex else entry
            updatedAt := now }
          if index.blobId ≠ nextIndex.blobId then perform (.deleteBlob index.blobId) else pure ()
          loadedFrom persistent
            (loaded.bundles.set anchoredBundle.receipt.receiptId anchoredBundle) :
          StorageProg P LoadedSecureExtensionState).attempt
        match stored with
        | .ok state => pure state
        | .error e => do
          rollback [⟨nextIndex.blobId, nextIndex.keyId, false⟩]
          Prog.throw e
  | _, _, _ => fail "The verified chain evidence does not match a durable local operation."

end programs

end SubmittedIt.Extension
