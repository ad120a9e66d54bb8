/-
SubmittedIt/StorageSchema.lean

Validation of operational receipts and of the working state
(apps/extension/lib/storage-schema.ts).

A parser of the source returns the value it accepts, rebuilt from its parts;
on typed values it returns the value itself, so each is the decision whether
it accepts.  Loops that collect identifiers in a set and stop at the first one
met twice are written as the property they decide.
-/
import SubmittedIt.StorageTypes

namespace SubmittedIt.Extension

open ReceiptCore

def MAX_LOCAL_RECEIPTS : Nat := 50
def MAX_NAVIGATION_HISTORY : Nat := 16
def MAX_SITE_CONFIRMATION_TITLE_LENGTH : Nat := 512
def MAX_SITE_CONFIRMATION_SNIPPET_LENGTH : Nat := 160

/-! ### Origins and page URLs -/

/-- An origin as text. -/
def originText (origin : Origin) : Text :=
  ascii (if origin.secure then "https://" else "http://") ++ origin.hostname ++
    match origin.port with
    | none => []
    | some port => ascii (":" ++ toString port)

/-- `inspectNormalizedOrigin`: of the restricted pages only the web store's
own host is left once a URL is reduced to its origin. -/
def inspectNormalizedOrigin (origin : Origin) : Bool :=
  (originText origin).length ≤ 4096 && origin.hostname ≠ []
    && origin.hostname ≠ ascii "chromewebstore.google.com"

/-- `privacySafePageUrl`. -/
def privacySafePageUrl (url : Url) : Url := { url with query := none }

/-- `isPrivacySafeUrl`. -/
def isPrivacySafeUrl (url : Url) : Bool := privacySafePageUrl url = url

/-! ### Texts -/

/-- The code units that `\s` matches and `trim` removes. -/
def isWhitespace (c : UInt16) : Bool :=
  (9 ≤ c && c ≤ 13) || c = 32 || c = 0xA0 || c = 0x1680 || (0x2000 ≤ c && c ≤ 0x200A)
    || c = 0x2028 || c = 0x2029 || c = 0x202F || c = 0x205F || c = 0x3000 || c = 0xFEFF

/-- `replace(/\s+/gu, " ")`. -/
def collapseWhitespace : Text → Text
  | [] => []
  | c :: text =>
    if isWhitespace c then
      32 :: (match text with
        | d :: _ => if isWhitespace d then (collapseWhitespace text).tail else collapseWhitespace text
        | [] => [])
    else c :: collapseWhitespace text

def trimEnd (text : Text) : Text := (text.reverse.dropWhile isWhitespace).reverse

def trim (text : Text) : Text := trimEnd (text.dropWhile isWhitespace)

/-- `siteConfirmationSnippet`. -/
def siteConfirmationSnippet (message : Text) (reference : Option Text) : Text :=
  let source := trim (collapseWhitespace message)
  let fallback := trim (reference.getD [])
  let value := if source = [] then fallback else source
  if value.length ≤ MAX_SITE_CONFIRMATION_SNIPPET_LENGTH then value
  else trimEnd (value.take (MAX_SITE_CONFIRMATION_SNIPPET_LENGTH - 1)) ++ [0x2026]

/-! ### Operational receipts -/

/-- `parseNavigationObservation`. -/
def parseNavigationObservation (value : StoredNavigationObservation) : Bool :=
  1 ≤ value.sequence && isPrivacySafeUrl value.pageUrl && inspectNormalizedOrigin value.origin
    && value.pageUrl.origin = value.origin

/-- The loop of `parseConfirmationContext` over the observations. -/
def parseObservations (sequence previousSequence : Nat) (previousObservedAt : Timestamp)
    (observationIds : List OpaqueId) : List StoredNavigationObservation → Bool
  | [] => true
  | observation :: observations =>
    parseNavigationObservation observation && previousSequence < observation.sequence
      && observation.sequence ≤ sequence && previousObservedAt ≤ observation.observedAt
      && observation.observationId ∉ observationIds
      && parseObservations sequence observation.sequence observation.observedAt
        (observation.observationId :: observationIds) observations

section schema

variable (P : StoragePlatform)

/-- `validateEventChain` accepts the events. -/
def chainAccepted (events : List LifecycleEventEnvelope) : Bool :=
  (validateEventChain (Except.ok : Decoder LifecycleEventEnvelope) P.keccak events).toBool

/-- `parseAttemptBase`. -/
def parseAttemptBase (value : ParsedAttemptBase) : Bool :=
  inspectNormalizedOrigin value.origin && inspectNormalizedOrigin value.actionOrigin &&
    match value.event.core.body with
    | .attempted body =>
      value.event.core.receiptId = value.receiptId
        && value.event.core.occurredAt = value.capturedAt
        && body.origin.origin = value.origin
        && isPrivacySafeUrl body.origin.pageUrl
        && P.hashPagePath value.origin body.origin.pageUrl.pathname = value.pagePathHash
        && body.formDescriptor.actionUrl.origin = value.actionOrigin
        && isPrivacySafeUrl body.formDescriptor.actionUrl
        && value.event.extensionSignature = none && value.event.authoritySignature = none
        && value.event.chainAnchor = none
        && chainAccepted P [value.event]
    | _ => false

/-- The page URL of an attempt. -/
def attemptPageUrl (base : ParsedAttemptBase) : Option Url :=
  match base.event.core.body with
  | .attempted body => some body.origin.pageUrl
  | _ => none

/-- `parseConfirmationContext`, on a context that is not null. -/
def parseConfirmationContext (value : StoredConfirmationContext) (base : ParsedAttemptBase) :
    Bool :=
  let latest := value.observations.getLast?
  value.attemptEventHash = base.event.eventHash && value.startedAt = base.capturedAt
    && value.tabId ≤ 2 ^ 53 - 1 && value.sequence ≤ 2 ^ 53 - 1
    && base.capturedAt < value.expiresAt
    && value.observations.length ≤ MAX_NAVIGATION_HISTORY
    && inspectNormalizedOrigin value.originalOrigin && inspectNormalizedOrigin value.currentOrigin
    && value.originalOrigin = base.origin
    && some value.originalPageUrl = attemptPageUrl base
    && isPrivacySafeUrl value.currentPageUrl
    && value.currentPageUrl.origin = value.currentOrigin
    && parseObservations value.sequence 0 base.capturedAt [] value.observations
    && (value.sequence ≠ 0 || value.observations = [])
    && (value.sequence = 0 || latest.map (·.sequence) = some value.sequence)
    && latest.all fun observation =>
      observation.documentInstanceId = value.documentInstanceId
        && observation.origin = value.currentOrigin && observation.pageUrl = value.currentPageUrl

/-- `parseSiteConfirmationEvidence`. -/
def parseSiteConfirmationEvidence (value : StoredSiteConfirmationEvidence)
    (base : ParsedAttemptBase) (event : LifecycleEventEnvelope)
    (context : Option StoredConfirmationContext) : Bool :=
  match event.core.body, context with
  | .siteConfirmed siteConfirmation, some context =>
    1 ≤ value.navigationSequence
      && value.pageTitle.isNormalized
      && value.pageTitle.text.length ≤ MAX_SITE_CONFIRMATION_TITLE_LENGTH
      && value.savedAt = event.core.occurredAt && base.capturedAt ≤ value.savedAt
      && value.pageUrl = siteConfirmation.pageUrl && isPrivacySafeUrl value.pageUrl
      && (siteConfirmation.message.any fun message => trim message ≠ [] &&
        value.displaySnippet = siteConfirmationSnippet message siteConfirmation.reference)
      && inspectNormalizedOrigin value.pageOrigin && value.pageUrl.origin = value.pageOrigin
      && value.originChangeConfirmed = decide (value.pageOrigin ≠ base.origin)
      && context.status = .completed
      && context.sequence = value.navigationSequence
      && context.currentOrigin = value.pageOrigin && context.currentPageUrl = value.pageUrl
      && (context.observations.getLast?.map (·.observedAt)).getD context.startedAt ≤ value.savedAt
  | _, _ => false

/-- `parseStoredAttemptReceipt`, and `validateStoredAttemptReceipt`. -/
def parseStoredAttemptReceipt (value : StoredAttemptReceipt) : Bool :=
  let base := value.toParsedAttemptBase
  parseAttemptBase P base
    && (value.confirmationContext.all fun context => parseConfirmationContext context base)
    && match value.siteConfirmationEvent with
    | none =>
      value.currentStage = .attempted && value.siteConfirmationEvidence = none
        && value.confirmationContext.map (·.status) ≠ some .completed
    | some siteEvent =>
      siteEvent.core.stage = .siteConfirmed
        && siteEvent.extensionSignature = none && siteEvent.authoritySignature = none
        && siteEvent.chainAnchor = none && value.currentStage = .siteConfirmed
        && chainAccepted P [base.event, siteEvent]
        && value.siteConfirmationEvidence.any fun evidence =>
          parseSiteConfirmationEvidence evidence base siteEvent value.confirmationContext

end schema

/-- The hashes of a stored receipt's events. -/
def StoredAttemptReceipt.eventHashes (receipt : StoredAttemptReceipt) : List HashHex :=
  receipt.event.eventHash :: (receipt.siteConfirmationEvent.map (·.eventHash)).toList

/-- Two receipts of one store share no identifier and no event. -/
structure Unrelated (first second : StoredAttemptReceipt) : Prop where
  attemptId : first.attemptId ≠ second.attemptId
  receiptId : first.receiptId ≠ second.receiptId
  events : ∀ hash ∈ second.eventHashes, hash ∉ first.eventHashes

instance (first second : StoredAttemptReceipt) : Decidable (Unrelated first second) :=
  decidable_of_iff (first.attemptId ≠ second.attemptId ∧ first.receiptId ≠ second.receiptId ∧
    (second.eventHashes.all fun hash => hash ∉ first.eventHashes) = true) <| by
    simp only [List.all_eq_true, decide_eq_true_eq]
    exact ⟨fun ⟨ha, hr, he⟩ => ⟨ha, hr, he⟩, fun h => ⟨h.attemptId, h.receiptId, h.events⟩⟩

/-- `parseReceiptIndex`. -/
def parseReceiptIndex (P : StoragePlatform) (value : List StoredAttemptReceipt) : Bool :=
  value.length ≤ MAX_LOCAL_RECEIPTS && value.all (parseStoredAttemptReceipt P)
    && decide (value.Pairwise Unrelated)

/-! ### The working state -/

/-- `parseSettings`. -/
def parseSettings (value : ExtensionSettings) : Bool :=
  value.revokedSites.length ≤ 100 && value.revokedSites.all (fun site =>
      inspectNormalizedOrigin site.origin)
    && decide (value.revokedSites.map (·.origin)).Nodup

/-- `parseEnabledOrigins`. -/
def parseEnabledOrigins (value : List EnabledOriginMetadata) : Bool :=
  value.length ≤ 100 && value.all fun metadata => inspectNormalizedOrigin metadata.origin

/-- `parseMigration`. -/
def parseMigration (value : ExtensionMigrationMetadata) : Bool :=
  value.sourceVersion.isSome = value.migratedAt.isSome

/-- `validateExtensionState`. -/
def validateExtensionState (P : StoragePlatform) (value : ExtensionLocalState) : Bool :=
  parseSettings value.settings && parseEnabledOrigins value.enabledOrigins
    && parseReceiptIndex P value.receiptIndex && parseMigration value.migration

/-- `createInitialExtensionState`. -/
def createInitialExtensionState (now : Timestamp) : ExtensionLocalState where
  initializedAt := now
  updatedAt := now
  hasSeenWelcome := false
  settings := ⟨.off, .untilDeleted, false, []⟩
  enabledOrigins := []
  receiptIndex := []
  migration := ⟨none, none⟩

/-! ### Earlier versions -/

/-- What `parseLegacyStoredAttemptReceipt` makes of a receipt it accepts. -/
def ParsedAttemptBase.toStored (base : ParsedAttemptBase) : StoredAttemptReceipt where
  toParsedAttemptBase := base
  currentStage := .attempted
  siteConfirmationEvent := none
  siteConfirmationEvidence := none
  confirmationContext := none

/-- `migrateVersionTwo`; `none` where the value is malformed. -/
def migrateVersionTwo (P : StoragePlatform) (fields : LegacyFields)
    (receiptIndex : List ParsedAttemptBase) (now : Timestamp) : Option ExtensionLocalState :=
  let migrated : ExtensionLocalState := {
    initializedAt := fields.initializedAt
    updatedAt := now
    hasSeenWelcome := fields.hasSeenWelcome
    settings := fields.settings
    enabledOrigins := fields.enabledOrigins
    receiptIndex := receiptIndex.map (·.toStored)
    migration := ⟨some 2, some now⟩ }
  if parseMigration fields.migration && validateExtensionState P migrated then some migrated
  else none

/-- `isLegacyVersionOne`. -/
def isLegacyVersionOne (fields : LegacyFields) : Bool :=
  parseSettings fields.settings && parseEnabledOrigins fields.enabledOrigins
    && parseMigration fields.migration

/-- `migrateVersionOne`. -/
def migrateVersionOne (fields : LegacyFields) (now : Timestamp) : ExtensionLocalState where
  initializedAt := fields.initializedAt
  updatedAt := now
  hasSeenWelcome := fields.hasSeenWelcome
  settings := fields.settings
  enabledOrigins := fields.enabledOrigins
  receiptIndex := []
  migration := ⟨some 1, some now⟩

/-- `migrateVersionZero`. -/
def migrateVersionZero (hasSeenWelcome : Option Bool) (reminderInterval : Option ReminderInterval)
    (retentionPreference : Option RetentionPreference) (demoMode : Option Bool)
    (now : Timestamp) : ExtensionLocalState :=
  let initial := createInitialExtensionState now
  { initial with
    hasSeenWelcome := hasSeenWelcome.getD false
    settings := {
      reminderInterval := reminderInterval.getD initial.settings.reminderInterval
      retentionPreference := retentionPreference.getD initial.settings.retentionPreference
      demoMode := demoMode.getD false
      revokedSites := [] }
    migration := ⟨some 0, some now⟩ }

/-- `resolveStoredExtensionState`: the state a plaintext value is read as. -/
def resolveStoredExtensionState (P : StoragePlatform) (value : LegacyValue) (now : Timestamp) :
    ExtensionLocalState :=
  match value with
  | .versionThree state =>
    if validateExtensionState P state then state else createInitialExtensionState now
  | .versionTwo fields receiptIndex =>
    (migrateVersionTwo P fields receiptIndex now).getD (createInitialExtensionState now)
  | .versionOne fields =>
    if isLegacyVersionOne fields then migrateVersionOne fields now
    else createInitialExtensionState now
  | .versionZero hasSeenWelcome reminderInterval retentionPreference demoMode =>
    migrateVersionZero hasSeenWelcome reminderInterval retentionPreference demoMode now
  | .other _ => createInitialExtensionState now

/-- The version a plaintext value declares. -/
def LegacyValue.sourceVersion : LegacyValue → Nat
  | .versionThree _ => 3
  | .versionTwo .. => 2
  | .versionOne _ => 1
  | .versionZero .. => 0
  | .other schemaVersion => schemaVersion.getD 0

/-! ### What a validated state satisfies -/

theorem parseReceiptIndex_eq_true {P : StoragePlatform} {value : List StoredAttemptReceipt} :
    parseReceiptIndex P value = true ↔
      value.length ≤ MAX_LOCAL_RECEIPTS ∧ (∀ r ∈ value, parseStoredAttemptReceipt P r = true) ∧
        value.Pairwise Unrelated := by
  simp [parseReceiptIndex, and_assoc]

theorem validateExtensionState_eq_true {P : StoragePlatform} {value : ExtensionLocalState} :
    validateExtensionState P value = true ↔
      parseSettings value.settings = true ∧ parseEnabledOrigins value.enabledOrigins = true ∧
        parseReceiptIndex P value.receiptIndex = true ∧ parseMigration value.migration = true := by
  simp [validateExtensionState, and_assoc]

theorem validate_createInitial (P : StoragePlatform) (now : Timestamp) :
    validateExtensionState P (createInitialExtensionState now) = true := rfl

/-- A plaintext value is always read as a valid state. -/
theorem validate_resolveStored (P : StoragePlatform) (value : LegacyValue) (now : Timestamp) :
    validateExtensionState P (resolveStoredExtensionState P value now) = true := by
  cases value with
  | versionThree state =>
    unfold resolveStoredExtensionState
    dsimp only
    split
    · assumption
    · exact validate_createInitial P now
  | versionTwo fields receiptIndex =>
    unfold resolveStoredExtensionState migrateVersionTwo
    dsimp only
    split
    · rename_i h
      rw [Bool.and_eq_true] at h
      exact h.2
    · exact validate_createInitial P now
  | versionOne fields =>
    unfold resolveStoredExtensionState
    dsimp only
    split
    · rename_i h
      simp only [isLegacyVersionOne, Bool.and_eq_true] at h
      refine validateExtensionState_eq_true.mpr ⟨h.1.1, h.1.2, rfl, rfl⟩
    · exact validate_createInitial P now
  | versionZero _ _ _ _ => rfl
  | other _ => exact validate_createInitial P now

end SubmittedIt.Extension
