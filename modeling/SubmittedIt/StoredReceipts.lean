/-
SubmittedIt/StoredReceipts.lean

Stored receipts as values (apps/extension/lib, storage-schema.ts).

What storage holds is read by its keys and checked against the events of the
receipt; a value that fails a check is no receipt (`none`).  Nothing of it is
normalized: texts are stored in the form in which they are checked.

`StoredAs read write` says of a reader that what it reads it reads again of
what is written, and of the value restored from its canonical text.

Main result: `validateStoredAttemptReceipt_stored`.
-/
import SubmittedIt.WebTexts

namespace SubmittedIt.Protocol

open JsValue (member hasOwn)

open Extension (ConfirmationContextStatus NavigationObservationKind)

/-! ### Reading stored values -/

/-- Go on only where the condition holds. -/
def ensure (condition : Prop) [Decidable condition] : Option Unit :=
  if condition then some () else none

theorem ensure_eq_some {condition : Prop} [Decidable condition] {u : Unit} :
    ensure condition = some u ↔ condition := by
  unfold ensure
  split
  · next h => exact ⟨fun _ => h, fun _ => rfl⟩
  · next h => exact ⟨nofun, fun h' => absurd h' h⟩

/-- What a parser of the protocol returns, or nothing where it throws. -/
def accept {α : Type} (parse : JsValue → Text → Except ReceiptProtocolError α) (value : JsValue) :
    Option α :=
  (parse value (ascii "$")).toOption

/-- `hasOnlyKeys`. -/
def hasOnlyKeys (value : List (Text × JsValue)) (keys : List String) : Bool :=
  value.all fun m => (keys.map ascii).contains m.1

/-- `value === text`. -/
def readLiteral (text : Text) : JsValue → Option Unit
  | .string found => ensure (found = text)
  | _ => none

/-- `value === null`. -/
def readNull : JsValue → Option Unit
  | .null => some ()
  | _ => none

/-- `OPAQUE_ID_PATTERN.test`. -/
def isOpaqueId (text : Text) : Bool :=
  text.length = 43 && text.all fun u => isAlphanumeric u || u = 95 || u = 45

/-- A text that is accepted. -/
def readTextIf (accepted : Text → Prop) [DecidablePred accepted] : JsValue → Option Text
  | .string text => if accepted text then some text else none
  | _ => none

/-- An opaque identifier. -/
def readOpaqueId : JsValue → Option Text := readTextIf fun text => isOpaqueId text = true

/-- A text that `isIsoTimestamp` accepts. -/
def readTimestamp : JsValue → Option Text := readTextIf fun text => (isoTime text).isSome = true

/-- `normalizedHash`. -/
def normalizedHash (value : JsValue) : Option Text := do
  let normalized ← accept normalizeHash value
  readLiteral normalized value
  return normalized

/-- `Date.parse(first) <= Date.parse(second)`. -/
def isoAtMost (first second : Text) : Bool :=
  match isoTime first, isoTime second with
  | some s, some t => s ≤ t
  | _, _ => false

/-- `Date.parse(first) < Date.parse(second)`. -/
def isoBefore (first second : Text) : Bool :=
  match isoTime first, isoTime second with
  | some s, some t => s < t
  | _, _ => false

section stored

variable (W : WebPlatform) (keccak256 : List UInt8 → HashHex)

/-- A text that `inspectNormalizedOrigin` accepts. -/
def readOrigin (value : JsValue) : Option Text := (inspectNormalizedOrigin W value).toOption

/-- A text that `isPrivacySafeUrl` accepts. -/
def readPageUrl : JsValue → Option Text :=
  readTextIf fun text => privacySafePageUrl W text = some text

/-- `new URL(url).origin === origin`. -/
def hasOrigin (url origin : Text) : Prop := (W.url url).map (·.origin) = some origin

instance (url origin : Text) : Decidable (hasOrigin W url origin) :=
  inferInstanceAs (Decidable (_ = _))

/-! ### Attempts -/

/-- An event of the stage `ATTEMPTED`. -/
@[ext] structure AttemptedEvent where
  envelope : LifecycleEventEnvelope
  body : AttemptedBody
  stage : envelope.core.body = .attempted body
  deriving DecidableEq

/-- An event of the stage `SITE_CONFIRMED`. -/
@[ext] structure ConfirmedEvent where
  envelope : LifecycleEventEnvelope
  confirmation : SiteConfirmation
  stage : envelope.core.body = .siteConfirmed confirmation
  deriving DecidableEq

/-- `event.core.stage === "ATTEMPTED"`. -/
def asAttempted (event : LifecycleEventEnvelope) : Option AttemptedEvent :=
  match h : event.core.body with
  | .attempted body => some ⟨event, body, h⟩
  | _ => none

/-- `event.core.stage === "SITE_CONFIRMED"`. -/
def asConfirmed (event : LifecycleEventEnvelope) : Option ConfirmedEvent :=
  match h : event.core.body with
  | .siteConfirmed confirmation => some ⟨event, confirmation, h⟩
  | _ => none

/-- The event has neither signatures nor an anchor. -/
def LifecycleEventEnvelope.bare (event : LifecycleEventEnvelope) : Bool :=
  event.extensionSignature.isNone && event.authoritySignature.isNone && event.chainAnchor.isNone

/-- `ParsedAttemptBase`. -/
@[ext] structure ParsedAttemptBase where
  actionOrigin : Text
  attemptFingerprint : Text
  attemptId : Text
  capturedAt : Text
  event : AttemptedEvent
  origin : Text
  pagePathHash : Text
  receiptId : Text
  receiptNonce : Text
  deriving DecidableEq

/-- `validateEventChain` accepts the events. -/
def isEventChain (events : List LifecycleEventEnvelope) : Bool :=
  (validateEventChain W.toReceiptPlatform keccak256 (events.map (·.value))).isOk

/-- What `parseAttemptBase` checks between an attempt and its event. -/
structure ParsedAttemptBase.Agrees (base : ParsedAttemptBase) : Prop where
  receiptId : base.event.envelope.core.receiptId = base.receiptId
  occurredAt : base.event.envelope.core.occurredAt = base.capturedAt
  origin : base.event.body.origin.origin = base.origin
  page : privacySafePageUrl W base.event.body.origin.pageUrl =
    some base.event.body.origin.pageUrl
  path : (W.url base.event.body.origin.pageUrl).map (fun page =>
    hashPagePath W keccak256 base.origin page.pathname) = some (.ok base.pagePathHash)
  action : hasOrigin W base.event.body.formDescriptor.actionUrl base.actionOrigin
  actionUrl : privacySafePageUrl W base.event.body.formDescriptor.actionUrl =
    some base.event.body.formDescriptor.actionUrl
  bare : base.event.envelope.bare = true
  chain : isEventChain W keccak256 [base.event.envelope] = true

theorem ParsedAttemptBase.agrees_iff (base : ParsedAttemptBase) :
    base.Agrees W keccak256 ↔ base.event.envelope.core.receiptId = base.receiptId ∧
      base.event.envelope.core.occurredAt = base.capturedAt ∧
      base.event.body.origin.origin = base.origin ∧
      privacySafePageUrl W base.event.body.origin.pageUrl =
        some base.event.body.origin.pageUrl ∧
      (W.url base.event.body.origin.pageUrl).map (fun page =>
        hashPagePath W keccak256 base.origin page.pathname) = some (.ok base.pagePathHash) ∧
      hasOrigin W base.event.body.formDescriptor.actionUrl base.actionOrigin ∧
      privacySafePageUrl W base.event.body.formDescriptor.actionUrl =
        some base.event.body.formDescriptor.actionUrl ∧
      base.event.envelope.bare = true ∧
      isEventChain W keccak256 [base.event.envelope] = true :=
  ⟨fun h => ⟨h.1, h.2, h.3, h.4, h.5, h.6, h.7, h.8, h.9⟩,
    fun ⟨h1, h2, h3, h4, h5, h6, h7, h8, h9⟩ => ⟨h1, h2, h3, h4, h5, h6, h7, h8, h9⟩⟩

instance (base : ParsedAttemptBase) : Decidable (base.Agrees W keccak256) :=
  decidable_of_iff' _ (base.agrees_iff W keccak256)

/-- `parseAttemptBase`. -/
def parseAttemptBase (value : List (Text × JsValue)) : Option ParsedAttemptBase := do
  let attemptId ← readOpaqueId (member (ascii "attemptId") value)
  let receiptNonce ← readOpaqueId (member (ascii "receiptNonce") value)
  let capturedAt ← readTimestamp (member (ascii "capturedAt") value)
  readLiteral (ascii "PENDING_ACCEPTANCE") (member (ascii "derivedStatus") value)
  readNull (member (ascii "authorityEvent") value)
  readNull (member (ascii "extensionSignature") value)
  readNull (member (ascii "chainAnchor") value)
  let origin ← readOrigin W (member (ascii "origin") value)
  let actionOrigin ← readOrigin W (member (ascii "actionOrigin") value)
  let receiptId ← normalizedHash (member (ascii "receiptId") value)
  let pagePathHash ← normalizedHash (member (ascii "pagePathHash") value)
  let attemptFingerprint ← normalizedHash (member (ascii "attemptFingerprint") value)
  let parsed ← accept (parseEventEnvelope W.toReceiptPlatform) (member (ascii "event") value)
  let event ← asAttempted parsed
  let base : ParsedAttemptBase := {
    actionOrigin, attemptFingerprint, attemptId, capturedAt, event, origin, pagePathHash, receiptId,
    receiptNonce }
  ensure (base.Agrees W keccak256)
  return base

/-! ### Navigation -/

def navigationObservationKindText : NavigationObservationKind → Text
  | .document => ascii "DOCUMENT"
  | .domUpdate => ascii "DOM_UPDATE"
  | .history => ascii "HISTORY"
  | .panelReconcile => ascii "PANEL_RECONCILE"

/-- `NAVIGATION_OBSERVATION_KINDS`. -/
def NAVIGATION_OBSERVATION_KINDS : List NavigationObservationKind :=
  [.document, .domUpdate, .history, .panelReconcile]

/-- `StoredNavigationObservation`. -/
@[ext] structure StoredNavigationObservation where
  sequence : Nat
  observationId : Text
  documentInstanceId : Text
  kind : NavigationObservationKind
  observedAt : Text
  origin : Text
  pageUrl : Text
  deriving DecidableEq

def StoredNavigationObservation.value (observation : StoredNavigationObservation) : JsValue :=
  .object [(ascii "sequence", writeNat observation.sequence),
    (ascii "observationId", .string observation.observationId),
    (ascii "documentInstanceId", .string observation.documentInstanceId),
    (ascii "kind", writeEnum navigationObservationKindText observation.kind),
    (ascii "observedAt", .string observation.observedAt),
    (ascii "origin", .string observation.origin), (ascii "pageUrl", .string observation.pageUrl)]

/-- `parseNavigationObservation`. -/
def parseNavigationObservation (input : JsValue) : Option StoredNavigationObservation := do
  let value ← accept asRecord input
  ensure (hasOnlyKeys value ["sequence", "observationId", "documentInstanceId", "kind",
    "observedAt", "origin", "pageUrl"] = true)
  let sequence ← accept normalizePositiveSafeInteger (member (ascii "sequence") value)
  let observationId ← readOpaqueId (member (ascii "observationId") value)
  let documentInstanceId ← readOpaqueId (member (ascii "documentInstanceId") value)
  let kind ← accept (parseEnum NAVIGATION_OBSERVATION_KINDS navigationObservationKindText)
    (member (ascii "kind") value)
  let observedAt ← readTimestamp (member (ascii "observedAt") value)
  let pageUrl ← readPageUrl W (member (ascii "pageUrl") value)
  let origin ← readOrigin W (member (ascii "origin") value)
  ensure (hasOrigin W pageUrl origin)
  return { sequence, observationId, documentInstanceId, kind, observedAt, origin, pageUrl }

/-- `MAX_NAVIGATION_HISTORY`. -/
def MAX_NAVIGATION_HISTORY : Nat := 16

/-- The variables of the loop over observations. -/
structure ObservationsSeen where
  previousSequence : Nat
  previousObservedAt : Text
  observationIds : List Text

/-- The variables after an observation. -/
def ObservationsSeen.push (seen : ObservationsSeen) (observation : StoredNavigationObservation) :
    ObservationsSeen where
  previousSequence := observation.sequence
  previousObservedAt := observation.observedAt
  observationIds := observation.observationId :: seen.observationIds

/-- What the loop checks of an observation, up to a sequence number. -/
def ObservationsSeen.admits (seen : ObservationsSeen) (sequence : Nat)
    (observation : StoredNavigationObservation) : Bool :=
  !(observation.sequence ≤ seen.previousSequence || observation.sequence > sequence ||
    isoBefore observation.observedAt seen.previousObservedAt ||
    seen.observationIds.contains observation.observationId)

/-- The loop over observations. -/
def parseObservations (sequence : Nat) :
    ObservationsSeen → List JsValue → Option (List StoredNavigationObservation)
  | _, [] => some []
  | seen, rawObservation :: rest => do
    let observation ← parseNavigationObservation W rawObservation
    ensure (seen.admits sequence observation = true)
    let observations ← parseObservations sequence (seen.push observation) rest
    return observation :: observations

/-- An array of values. -/
def readArray : JsValue → Option (List JsValue)
  | .array items => some items
  | _ => none

def confirmationContextStatusText : ConfirmationContextStatus → Text
  | .active => ascii "ACTIVE"
  | .completed => ascii "COMPLETED"
  | .expired => ascii "EXPIRED"
  | .superseded => ascii "SUPERSEDED"

/-- The statuses in their order. -/
def CONFIRMATION_CONTEXT_STATUSES : List ConfirmationContextStatus :=
  [.active, .completed, .expired, .superseded]

/-- A stored status: its text is `String(value)`, so that it may also stand in
arrays of one item. -/
@[ext] structure StoredStatus where
  status : ConfirmationContextStatus
  arrays : Nat
  deriving DecidableEq

/-- The status with so many arrays around it. -/
def StoredStatus.wrap (status : ConfirmationContextStatus) : Nat → JsValue
  | 0 => writeEnum confirmationContextStatusText status
  | n + 1 => .array [wrap status n]

def StoredStatus.value (stored : StoredStatus) : JsValue :=
  StoredStatus.wrap stored.status stored.arrays

/-- A value whose `String(value)` is a status. -/
def readStatus : JsValue → Option StoredStatus
  | .string text => (accept (parseEnum CONFIRMATION_CONTEXT_STATUSES confirmationContextStatusText)
      (.string text)).map (⟨·, 0⟩)
  | .array [item] => (readStatus item).map fun stored => ⟨stored.status, stored.arrays + 1⟩
  | _ => none

/-- `StoredConfirmationContext`. -/
@[ext] structure StoredConfirmationContext where
  status : StoredStatus
  tabId : Nat
  attemptEventHash : Text
  documentInstanceId : Text
  startedAt : Text
  expiresAt : Text
  originalOrigin : Text
  originalPageUrl : Text
  currentOrigin : Text
  currentPageUrl : Text
  sequence : Nat
  observations : List StoredNavigationObservation
  deriving DecidableEq

def StoredConfirmationContext.value (context : StoredConfirmationContext) : JsValue :=
  .object [(ascii "status", context.status.value), (ascii "tabId", writeNat context.tabId),
    (ascii "attemptEventHash", .string context.attemptEventHash),
    (ascii "documentInstanceId", .string context.documentInstanceId),
    (ascii "startedAt", .string context.startedAt), (ascii "expiresAt", .string context.expiresAt),
    (ascii "originalOrigin", .string context.originalOrigin),
    (ascii "originalPageUrl", .string context.originalPageUrl),
    (ascii "currentOrigin", .string context.currentOrigin),
    (ascii "currentPageUrl", .string context.currentPageUrl),
    (ascii "sequence", writeNat context.sequence),
    (ascii "observations", writeList StoredNavigationObservation.value context.observations)]

/-- `context.status === status`. -/
def StoredConfirmationContext.hasStatus (context : StoredConfirmationContext)
    (status : ConfirmationContextStatus) : Bool :=
  context.status = ⟨status, 0⟩

/-- What is checked of the last observation of a context. -/
def StoredConfirmationContext.current (context : StoredConfirmationContext) : Bool :=
  let latest := context.observations.getLast?
  !(context.sequence = 0 && !context.observations.isEmpty) &&
    !(context.sequence > 0 && latest.map (·.sequence) ≠ some context.sequence) &&
    latest.all fun observation => observation.documentInstanceId = context.documentInstanceId &&
      observation.origin = context.currentOrigin && observation.pageUrl = context.currentPageUrl

/-- `parseConfirmationContext`, where there is one. -/
def parseConfirmationContext (input : JsValue) (base : ParsedAttemptBase) :
    Option StoredConfirmationContext := do
  let value ← accept asRecord input
  ensure (hasOnlyKeys value ["status", "tabId", "attemptEventHash", "documentInstanceId",
    "startedAt", "expiresAt", "originalOrigin", "originalPageUrl", "currentOrigin",
    "currentPageUrl", "sequence", "observations"] = true)
  let status ← readStatus (member (ascii "status") value)
  let tabId ← accept normalizeNonNegativeSafeInteger (member (ascii "tabId") value)
  readLiteral base.event.envelope.eventHash (member (ascii "attemptEventHash") value)
  let documentInstanceId ← readOpaqueId (member (ascii "documentInstanceId") value)
  readLiteral base.capturedAt (member (ascii "startedAt") value)
  let expiresAt ← readTimestamp (member (ascii "expiresAt") value)
  ensure (isoAtMost expiresAt base.capturedAt = false)
  let sequence ← accept normalizeNonNegativeSafeInteger (member (ascii "sequence") value)
  let rawObservations ← readArray (member (ascii "observations") value)
  ensure (rawObservations.length ≤ MAX_NAVIGATION_HISTORY)
  let originalOrigin ← readOrigin W (member (ascii "originalOrigin") value)
  let currentOrigin ← readOrigin W (member (ascii "currentOrigin") value)
  ensure (originalOrigin = base.origin)
  readLiteral base.event.body.origin.pageUrl (member (ascii "originalPageUrl") value)
  let currentPageUrl ← readPageUrl W (member (ascii "currentPageUrl") value)
  ensure (hasOrigin W currentPageUrl currentOrigin)
  let observations ← parseObservations W sequence ⟨0, base.capturedAt, []⟩ rawObservations
  let context : StoredConfirmationContext := {
    status, tabId, attemptEventHash := base.event.envelope.eventHash, documentInstanceId,
    startedAt := base.capturedAt, expiresAt, originalOrigin,
    originalPageUrl := base.event.body.origin.pageUrl, currentOrigin, currentPageUrl, sequence,
    observations }
  ensure (context.current = true)
  return context

/-! ### Confirmations -/

/-- `MAX_SITE_CONFIRMATION_TITLE_LENGTH`. -/
def MAX_SITE_CONFIRMATION_TITLE_LENGTH : Nat := 512

/-- A stored page title. -/
def readPageTitle (value : JsValue) : Option Text := do
  let title ← accept (normalizeOptionalText W.toReceiptPlatform) value
  readLiteral title value
  ensure (title.length ≤ MAX_SITE_CONFIRMATION_TITLE_LENGTH)
  return title

/-- `StoredSiteConfirmationEvidence`. -/
@[ext] structure StoredSiteConfirmationEvidence where
  displaySnippet : Text
  navigationSequence : Nat
  originChangeConfirmed : Bool
  pageOrigin : Text
  pageTitle : Text
  pageUrl : Text
  saveId : Text
  savedAt : Text
  deriving DecidableEq

def StoredSiteConfirmationEvidence.value (evidence : StoredSiteConfirmationEvidence) : JsValue :=
  .object [(ascii "displaySnippet", .string evidence.displaySnippet),
    (ascii "navigationSequence", writeNat evidence.navigationSequence),
    (ascii "originChangeConfirmed", .boolean evidence.originChangeConfirmed),
    (ascii "pageOrigin", .string evidence.pageOrigin),
    (ascii "pageTitle", .string evidence.pageTitle), (ascii "pageUrl", .string evidence.pageUrl),
    (ascii "saveId", .string evidence.saveId), (ascii "savedAt", .string evidence.savedAt)]

/-- What is checked between evidence, the attempt and the navigation. -/
def StoredSiteConfirmationEvidence.Agrees (evidence : StoredSiteConfirmationEvidence)
    (base : ParsedAttemptBase) (context : StoredConfirmationContext) : Prop :=
  hasOrigin W evidence.pageUrl evidence.pageOrigin ∧
    evidence.originChangeConfirmed = decide (evidence.pageOrigin ≠ base.origin) ∧
    context.hasStatus .completed = true ∧ context.sequence = evidence.navigationSequence ∧
    context.currentOrigin = evidence.pageOrigin ∧ context.currentPageUrl = evidence.pageUrl ∧
    isoBefore evidence.savedAt
      ((context.observations.getLast?.map (·.observedAt)).getD context.startedAt) = false

instance (evidence : StoredSiteConfirmationEvidence) (base : ParsedAttemptBase)
    (context : StoredConfirmationContext) : Decidable (evidence.Agrees W base context) :=
  inferInstanceAs (Decidable (_ ∧ _ ∧ _ ∧ _ ∧ _ ∧ _ ∧ _))

/-- `parseSiteConfirmationEvidence`. -/
def parseSiteConfirmationEvidence (input : JsValue) (base : ParsedAttemptBase)
    (event : ConfirmedEvent) (context : Option StoredConfirmationContext) :
    Option StoredSiteConfirmationEvidence := do
  let value ← accept asRecord input
  ensure (hasOnlyKeys value ["displaySnippet", "navigationSequence", "originChangeConfirmed",
    "pageOrigin", "pageTitle", "pageUrl", "saveId", "savedAt"] = true)
  let navigationSequence ← accept normalizePositiveSafeInteger
    (member (ascii "navigationSequence") value)
  let originChangeConfirmed ← accept parseBoolean (member (ascii "originChangeConfirmed") value)
  let pageTitle ← readPageTitle W (member (ascii "pageTitle") value)
  let saveId ← readOpaqueId (member (ascii "saveId") value)
  readLiteral event.envelope.core.occurredAt (member (ascii "savedAt") value)
  ensure (isoBefore event.envelope.core.occurredAt base.capturedAt = false)
  readLiteral event.confirmation.pageUrl (member (ascii "pageUrl") value)
  let pageUrl ← readPageUrl W (member (ascii "pageUrl") value)
  let message ← event.confirmation.message
  ensure (trim message ≠ [])
  let displaySnippet := siteConfirmationSnippet W message event.confirmation.reference
  readLiteral displaySnippet (member (ascii "displaySnippet") value)
  let pageOrigin ← readOrigin W (member (ascii "pageOrigin") value)
  let context ← context
  let evidence : StoredSiteConfirmationEvidence := {
    displaySnippet, navigationSequence, originChangeConfirmed, pageOrigin, pageTitle, pageUrl,
    saveId, savedAt := event.envelope.core.occurredAt }
  ensure (evidence.Agrees W base context)
  return evidence

/-! ### Receipts -/

/-- `StoredAttemptReceipt`: an event of a confirmation and its evidence stand
together, and its stage is theirs. -/
@[ext] structure StoredAttemptReceipt extends ParsedAttemptBase where
  confirmationContext : Option StoredConfirmationContext
  siteConfirmation : Option (ConfirmedEvent × StoredSiteConfirmationEvidence)
  deriving DecidableEq

namespace StoredAttemptReceipt

/-- `currentStage`. -/
def currentStage (receipt : StoredAttemptReceipt) : EventStage :=
  if receipt.siteConfirmation.isSome then .siteConfirmed else .attempted

def siteConfirmationEvent (receipt : StoredAttemptReceipt) : Option LifecycleEventEnvelope :=
  receipt.siteConfirmation.map (·.1.envelope)

def siteConfirmationEvidence (receipt : StoredAttemptReceipt) :
    Option StoredSiteConfirmationEvidence :=
  receipt.siteConfirmation.map (·.2)

end StoredAttemptReceipt

/-- A value or null. -/
def writeNullable {α : Type} (write : α → JsValue) : Option α → JsValue
  | none => .null
  | some x => write x

def StoredAttemptReceipt.value (receipt : StoredAttemptReceipt) : JsValue :=
  .object [(ascii "storageVersion", writeNat 2), (ascii "attemptId", .string receipt.attemptId),
    (ascii "attemptFingerprint", .string receipt.attemptFingerprint),
    (ascii "receiptId", .string receipt.receiptId),
    (ascii "receiptNonce", .string receipt.receiptNonce),
    (ascii "capturedAt", .string receipt.capturedAt), (ascii "origin", .string receipt.origin),
    (ascii "pagePathHash", .string receipt.pagePathHash),
    (ascii "actionOrigin", .string receipt.actionOrigin),
    (ascii "currentStage", writeEnum eventStageText receipt.currentStage),
    (ascii "derivedStatus", .string (ascii "PENDING_ACCEPTANCE")),
    (ascii "event", receipt.event.envelope.value),
    (ascii "siteConfirmationEvent",
      writeNullable LifecycleEventEnvelope.value receipt.siteConfirmationEvent),
    (ascii "siteConfirmationEvidence",
      writeNullable StoredSiteConfirmationEvidence.value receipt.siteConfirmationEvidence),
    (ascii "confirmationContext",
      writeNullable StoredConfirmationContext.value receipt.confirmationContext),
    (ascii "authorityEvent", .null), (ascii "extensionSignature", .null),
    (ascii "chainAnchor", .null)]

/-- `ATTEMPT_RECEIPT_KEYS`. -/
def ATTEMPT_RECEIPT_KEYS : List String :=
  ["storageVersion", "attemptId", "attemptFingerprint", "receiptId", "receiptNonce", "capturedAt",
    "origin", "pagePathHash", "actionOrigin", "currentStage", "derivedStatus", "event",
    "siteConfirmationEvent", "siteConfirmationEvidence", "confirmationContext", "authorityEvent",
    "extensionSignature", "chainAnchor"]

/-- A value that may be null: nothing is read of null. -/
def readNullable {α : Type} (read : JsValue → Option α) : JsValue → Option (Option α)
  | .null => some none
  | value => (read value).map some

/-- The event of a confirmation that can be stored. -/
def readConfirmedEvent (value : JsValue) : Option ConfirmedEvent := do
  let siteEvent ← accept (parseEventEnvelope W.toReceiptPlatform) value
  let event ← asConfirmed siteEvent
  ensure (event.envelope.bare = true)
  return event

/-- A stored confirmation: its event and its evidence. -/
def parseSiteConfirmed (base : ParsedAttemptBase) (context : Option StoredConfirmationContext)
    (value : List (Text × JsValue)) : Option (ConfirmedEvent × StoredSiteConfirmationEvidence) := do
  let event ← readConfirmedEvent W (member (ascii "siteConfirmationEvent") value)
  ensure (isEventChain W keccak256 [base.event.envelope, event.envelope] = true)
  let evidence ← parseSiteConfirmationEvidence W (member (ascii "siteConfirmationEvidence") value)
    base event context
  return (event, evidence)

/-- `validateStoredAttemptReceipt`. -/
def validateStoredAttemptReceipt (input : JsValue) : Option StoredAttemptReceipt := do
  let value ← accept asRecord input
  ensure (hasOnlyKeys value ATTEMPT_RECEIPT_KEYS = true)
  let storageVersion ← accept normalizeNonNegativeSafeInteger
    (member (ascii "storageVersion") value)
  ensure (storageVersion = 2)
  let currentStage ← accept (parseEnum [EventStage.attempted, .siteConfirmed] eventStageText)
    (member (ascii "currentStage") value)
  let base ← parseAttemptBase W keccak256 value
  let context ← readNullable (parseConfirmationContext W · base)
    (member (ascii "confirmationContext") value)
  match member (ascii "siteConfirmationEvent") value with
  | .null =>
    ensure (currentStage = .attempted)
    readNull (member (ascii "siteConfirmationEvidence") value)
    ensure (context.any (·.hasStatus .completed) = false)
    return { base with confirmationContext := context, siteConfirmation := none }
  | _ =>
    ensure (currentStage = .siteConfirmed)
    let confirmation ← parseSiteConfirmed W keccak256 base context value
    return { base with confirmationContext := context, siteConfirmation := some confirmation }

end stored

section laws

variable {W : WebPlatform} {keccak256 : List UInt8 → HashHex}

/-! ### Readers -/

/-- What is read is read again of what is written, and of the value restored. -/
structure StoredAs (W : WebPlatform) {α : Type} (read : JsValue → Option α)
    (write : α → JsValue) : Prop where
  again : ∀ {v x}, read v = some x → read (write x) = some x
  restored : ∀ {v w x}, Restored W.toReceiptPlatform v w → read v = some x → read w = some x
  defined : ∀ {v x}, read v = some x → v ≠ .undefined

/-- A value is read alike under its key again. -/
theorem StoredAs.member {α : Type} {read : JsValue → Option α} {write : α → JsValue}
    (h : StoredAs W read write) {value props : List (Text × JsValue)}
    (hprops : RestoredMembers W.toReceiptPlatform value props) {key : Text}
    (hkey : isVisible key = true) {x : α} (hx : read (JsValue.member key value) = some x) :
    read (JsValue.member key props) = some x :=
  h.restored (hprops.found hkey (h.defined hx)) hx

theorem accept_eq_some {α : Type} {parse : JsValue → Text → Except ReceiptProtocolError α}
    {v : JsValue} {x : α} : accept parse v = some x ↔ parse v (ascii "$") = .ok x := by
  unfold accept
  rcases parse v (ascii "$") with e | y <;> simp [Except.toOption]

/-- A parser of the protocol. -/
theorem storedAs_accept {α : Type} {parse : JsValue → Text → Except ReceiptProtocolError α}
    {write : α → JsValue} (hparse : Parses W.toReceiptPlatform parse write)
    (hstable : Stable W.toReceiptPlatform parse)
    (hdefined : ∀ {p x}, parse .undefined p ≠ .ok x) : StoredAs W (accept parse) write where
  again h := accept_eq_some.mpr (hparse.again (accept_eq_some.mp h) _)
  restored hw h := accept_eq_some.mpr (hstable hw (accept_eq_some.mp h))
  defined h := by
    rintro rfl
    exact hdefined (accept_eq_some.mp h)

/-- A reader of normal texts that are kept as they are. -/
theorem storedAs_text {read : JsValue → Option Text}
    (hread : ∀ {v text}, read v = some text → v = .string text ∧
      normalizeText W.toTextPlatform text = text) : StoredAs W read .string where
  again {v text} h := by
    obtain ⟨rfl, -⟩ := hread h
    exact h
  restored {v w text} hw h := by
    obtain ⟨rfl, hnormal⟩ := hread h
    rw [restored_normal hnormal hw]
    exact h
  defined {v text} h := by
    obtain ⟨rfl, -⟩ := hread h
    exact nofun

theorem readLiteral_eq_some {text : Text} {v : JsValue} {u : Unit} :
    readLiteral text v = some u ↔ v = .string text := by
  unfold readLiteral
  split
  · rw [ensure_eq_some]
    exact ⟨fun h => congrArg _ h, fun h => JsValue.string.inj h⟩
  · next hv => exact ⟨nofun, fun h => absurd h (hv text)⟩

/-- A fixed normal text. -/
theorem storedAs_literal {text : Text} (h : normalizeText W.toTextPlatform text = text) :
    StoredAs W (readLiteral text) fun _ => .string text where
  again _ := readLiteral_eq_some.mpr rfl
  restored {v w u} hw hv := by
    obtain rfl := readLiteral_eq_some.mp hv
    exact readLiteral_eq_some.mpr (restored_normal h hw)
  defined {v u} hv := by
    obtain rfl := readLiteral_eq_some.mp hv
    exact nofun

theorem readNull_eq_some {v : JsValue} {u : Unit} : readNull v = some u ↔ v = .null := by
  unfold readNull
  split
  · exact ⟨fun _ => rfl, fun _ => rfl⟩
  · next hv => exact ⟨nofun, fun h => absurd h hv⟩

theorem storedAs_null : StoredAs W readNull fun _ => .null where
  again _ := rfl
  restored {v w u} hw h := by
    obtain rfl := readNull_eq_some.mp h
    exact readNull_eq_some.mpr (restored_null.mp hw)
  defined {v u} h := by
    obtain rfl := readNull_eq_some.mp h
    exact nofun

theorem readTextIf_eq_some {accepted : Text → Prop} [DecidablePred accepted] {v : JsValue}
    {text : Text} : readTextIf accepted v = some text ↔ v = .string text ∧ accepted text := by
  unfold readTextIf
  split
  · next found =>
    split
    · next haccepted =>
      constructor
      · intro h
        cases h
        exact ⟨rfl, haccepted⟩
      · rintro ⟨hv, -⟩
        rw [JsValue.string.inj hv]
    · next hrefused =>
      refine ⟨nofun, ?_⟩
      rintro ⟨hv, h⟩
      rw [JsValue.string.inj hv] at hrefused
      exact absurd h hrefused
  · next hv => exact ⟨nofun, fun h => absurd h.1 (hv text)⟩

theorem readOpaqueId_eq_some {v : JsValue} {text : Text} :
    readOpaqueId v = some text ↔ v = .string text ∧ isOpaqueId text = true :=
  readTextIf_eq_some

theorem storedAs_opaqueId : StoredAs W readOpaqueId .string := by
  apply storedAs_text
  intro v text h
  obtain ⟨hv, hopaque⟩ := readOpaqueId_eq_some.mp h
  rw [isOpaqueId, Bool.and_eq_true] at hopaque
  exact ⟨hv, normalizeText_visible (base64Url_visible hopaque.2)⟩

/-- **The texts of instants are visible.** -/
theorem isoTime_visible {text : Text} {instant : Int} (h : isoTime text = some instant) :
    isVisible text = true := by
  have htext := (isoTime_eq_some.mp h).1
  rcases hread : readInstant text with - | found
  · rw [isoTime, hread] at h
    cases h
  · unfold readInstant at hread
    split at hread
    · obtain ⟨fields, hfields, -⟩ := Option.map_eq_some_iff.mp hread
      exact matchTimestamp_visible hfields
    · next hlength =>
      simp only [Option.bind_eq_bind, Option.bind_eq_some_iff] at hread
      obtain ⟨year, hyear, fields, hfields, -⟩ := hread
      have hrest : isVisible (text.drop 7) = true := by
        have hvisible := matchTimestamp_visible hfields
        rw [isVisible, List.all_append, Bool.and_eq_true] at hvisible
        exact hvisible.2
      have hsign : isVisible ((text.drop 0).take 1) = true := by
        rw [← htext] at hlength ⊢
        unfold isoText at hlength ⊢
        dsimp only at hlength ⊢
        split at hlength
        · exact absurd rfl hlength
        · next hsix =>
          rw [if_neg hsix]
          show isVisible [if _ then 45 else 43] = true
          split
          · rfl
          · rfl
      exact visible_drop hsign (visible_drop (visible_digitsAt hyear) hrest)

theorem readTimestamp_eq_some {v : JsValue} {text : Text} :
    readTimestamp v = some text ↔ v = .string text ∧ (isoTime text).isSome = true :=
  readTextIf_eq_some

theorem storedAs_timestamp : StoredAs W readTimestamp .string := by
  apply storedAs_text
  intro v text h
  obtain ⟨hv, hiso⟩ := readTimestamp_eq_some.mp h
  obtain ⟨instant, hinstant⟩ := Option.isSome_iff_exists.mp hiso
  exact ⟨hv, normalizeText_visible (isoTime_visible hinstant)⟩

theorem normalizedHash_eq_some {v : JsValue} {text : Text} : normalizedHash v = some text ↔
    v = .string text ∧ normalizeHash v (ascii "$") = .ok text := by
  simp only [normalizedHash, Option.bind_eq_bind, Option.bind_eq_some_iff, accept_eq_some,
    readLiteral_eq_some, Option.pure_def, Option.some.injEq]
  constructor
  · rintro ⟨normalized, hhash, _, hv, rfl⟩
    exact ⟨hv, hhash⟩
  · rintro ⟨hv, hhash⟩
    exact ⟨text, hhash, (), hv, rfl⟩

theorem storedAs_hash : StoredAs W normalizedHash .string := by
  apply storedAs_text
  intro v text h
  obtain ⟨hv, hhash⟩ := normalizedHash_eq_some.mp h
  exact ⟨hv, normalizeText_visible (normalizeHash_eq_ok hhash).2.1⟩

theorem readOrigin_eq_some {v : JsValue} {origin : Text} :
    readOrigin W v = some origin ↔ inspectNormalizedOrigin W v = .ok origin := by
  unfold readOrigin
  rcases inspectNormalizedOrigin W v with e | y <;> simp [Except.toOption]

theorem storedAs_origin : StoredAs W (readOrigin W) .string := by
  apply storedAs_text
  intro v origin h
  have horigin := readOrigin_eq_some.mp h
  exact ⟨(inspectNormalizedOrigin_eq_ok.mp horigin).1,
    normalizeText_visible (inspectNormalizedOrigin_visible horigin)⟩

theorem readPageUrl_eq_some {v : JsValue} {url : Text} :
    readPageUrl W v = some url ↔ v = .string url ∧ privacySafePageUrl W url = some url :=
  readTextIf_eq_some

theorem storedAs_pageUrl : StoredAs W (readPageUrl W) .string := by
  apply storedAs_text
  intro v url h
  obtain ⟨hv, hsafe⟩ := readPageUrl_eq_some.mp h
  exact ⟨hv, privacySafePageUrl_normal hsafe⟩

theorem readPageTitle_eq_some {v : JsValue} {title : Text} :
    readPageTitle W v = some title ↔ v = .string title ∧
      normalizeText W.toTextPlatform title = title ∧
      title.length ≤ MAX_SITE_CONFIRMATION_TITLE_LENGTH := by
  simp only [readPageTitle, Option.bind_eq_bind, Option.bind_eq_some_iff, accept_eq_some,
    readLiteral_eq_some, ensure_eq_some, Option.pure_def, Option.some.injEq]
  constructor
  · rintro ⟨found, hfound, _, rfl, _, hlength, rfl⟩
    exact ⟨rfl, normalizeOptionalText_normal hfound, hlength⟩
  · rintro ⟨rfl, hnormal, hlength⟩
    exact ⟨title, congrArg Except.ok hnormal, (), rfl, (), hlength, rfl⟩

theorem storedAs_pageTitle : StoredAs W (readPageTitle W) .string := by
  apply storedAs_text
  intro v title h
  obtain ⟨hv, hnormal, -⟩ := readPageTitle_eq_some.mp h
  exact ⟨hv, hnormal⟩

theorem storedAs_nat :
    StoredAs W (accept normalizeNonNegativeSafeInteger) writeNat :=
  storedAs_accept normalizeNonNegativeSafeInteger_parses normalizeNonNegativeSafeInteger_stable
    nofun

theorem storedAs_positive : StoredAs W (accept normalizePositiveSafeInteger) writeNat :=
  storedAs_accept normalizePositiveSafeInteger_parses normalizePositiveSafeInteger_stable nofun

theorem storedAs_boolean : StoredAs W (accept parseBoolean) .boolean :=
  storedAs_accept parseBoolean_parses parseBoolean_stable nofun

theorem storedAs_enum {α : Type} (values : List α) {text : α → Text}
    (htext : Function.Injective text) (hvisible : ∀ x, isVisible (text x) = true) :
    StoredAs W (accept (parseEnum values text)) (writeEnum text) :=
  storedAs_accept (parseEnum_parses values htext hvisible) (parseEnum_stable values hvisible) nofun

theorem storedAs_event :
    StoredAs W (accept (parseEventEnvelope W.toReceiptPlatform)) LifecycleEventEnvelope.value :=
  storedAs_accept parseEventEnvelope_parses parseEventEnvelope_stable nofun

/-! ### Navigation -/

theorem accept_asRecord {v : JsValue} {value : List (Text × JsValue)} :
    accept asRecord v = some value ↔ v = .object value := by
  rw [accept_eq_some, asRecord_eq_ok]

/-- An object with visible keys has no other keys again. -/
theorem RestoredMembers.onlyKeys {value props : List (Text × JsValue)}
    (h : RestoredMembers W.toReceiptPlatform value props) {keys : List String}
    (hvisible : (keys.map ascii).all isVisible = true) (hkeys : hasOnlyKeys value keys = true) :
    hasOnlyKeys props keys = true := by
  refine List.all_eq_true.mpr fun n hn => ?_
  obtain ⟨m, hm, hname, -⟩ := h.given hn
  have hmem := List.all_eq_true.mp hkeys m hm
  have hnormal := List.all_eq_true.mp hvisible m.1 (List.contains_iff_mem.mp hmem)
  rw [← hname, normalizeText_visible hnormal]
  exact hmem

theorem storedAs_kind :
    StoredAs W (accept (parseEnum NAVIGATION_OBSERVATION_KINDS navigationObservationKindText))
      (writeEnum navigationObservationKindText) :=
  storedAs_enum _ (injective_of_nodup NAVIGATION_OBSERVATION_KINDS
    (by rintro (_ | _) <;> decide) (by decide)) (by rintro (_ | _) <;> rfl)

theorem parseNavigationObservation_eq_some {v : JsValue} {x : StoredNavigationObservation} :
    parseNavigationObservation W v = some x ↔ ∃ value, v = .object value ∧
      hasOnlyKeys value ["sequence", "observationId", "documentInstanceId", "kind", "observedAt",
        "origin", "pageUrl"] = true ∧
      accept normalizePositiveSafeInteger (member (ascii "sequence") value) = some x.sequence ∧
      readOpaqueId (member (ascii "observationId") value) = some x.observationId ∧
      readOpaqueId (member (ascii "documentInstanceId") value) = some x.documentInstanceId ∧
      accept (parseEnum NAVIGATION_OBSERVATION_KINDS navigationObservationKindText)
        (member (ascii "kind") value) = some x.kind ∧
      readTimestamp (member (ascii "observedAt") value) = some x.observedAt ∧
      readPageUrl W (member (ascii "pageUrl") value) = some x.pageUrl ∧
      readOrigin W (member (ascii "origin") value) = some x.origin ∧
      hasOrigin W x.pageUrl x.origin := by
  simp only [parseNavigationObservation, Option.bind_eq_bind, Option.bind_eq_some_iff,
    accept_asRecord, ensure_eq_some, Option.pure_def, Option.some.injEq]
  constructor
  · rintro ⟨value, hvalue, _, hkeys, _, h1, _, h2, _, h3, _, h4, _, h5, _, h6, _, h7, _, h8, rfl⟩
    exact ⟨value, hvalue, hkeys, h1, h2, h3, h4, h5, h6, h7, h8⟩
  · rintro ⟨value, hvalue, hkeys, h1, h2, h3, h4, h5, h6, h7, h8⟩
    exact ⟨value, hvalue, (), hkeys, _, h1, _, h2, _, h3, _, h4, _, h5, _, h6, _, h7, (), h8, rfl⟩

theorem storedAs_observation :
    StoredAs W (parseNavigationObservation W) StoredNavigationObservation.value where
  again {v x} h := by
    obtain ⟨value, -, -, h1, h2, h3, h4, h5, h6, h7, h8⟩ := parseNavigationObservation_eq_some.mp h
    refine parseNavigationObservation_eq_some.mpr ⟨_, rfl, rfl, ?_, ?_, ?_, ?_, ?_, ?_, ?_, h8⟩
    · exact storedAs_positive.again (W := W) h1
    · exact storedAs_opaqueId.again (W := W) h2
    · exact storedAs_opaqueId.again (W := W) h3
    · exact storedAs_kind.again (W := W) h4
    · exact storedAs_timestamp.again (W := W) h5
    · exact storedAs_pageUrl.again h6
    · exact storedAs_origin.again h7
  restored {v w x} hw h := by
    obtain ⟨value, rfl, hkeys, h1, h2, h3, h4, h5, h6, h7, h8⟩ :=
      parseNavigationObservation_eq_some.mp h
    obtain ⟨props, rfl, hprops⟩ := restored_object hw
    refine parseNavigationObservation_eq_some.mpr
      ⟨props, rfl, hprops.onlyKeys rfl hkeys, ?_, ?_, ?_, ?_, ?_, ?_, ?_, h8⟩
    · exact storedAs_positive.member hprops rfl h1
    · exact storedAs_opaqueId.member hprops rfl h2
    · exact storedAs_opaqueId.member hprops rfl h3
    · exact storedAs_kind.member hprops rfl h4
    · exact storedAs_timestamp.member hprops rfl h5
    · exact storedAs_pageUrl.member hprops rfl h6
    · exact storedAs_origin.member hprops rfl h7
  defined {v x} h := by
    obtain ⟨value, rfl, -⟩ := parseNavigationObservation_eq_some.mp h
    exact nofun

theorem parseObservations_cons {sequence : Nat} {seen : ObservationsSeen} {item : JsValue}
    {rest : List JsValue} {xs : List StoredNavigationObservation} :
    parseObservations W sequence seen (item :: rest) = some xs ↔ ∃ x xs',
      parseNavigationObservation W item = some x ∧ seen.admits sequence x = true ∧
        parseObservations W sequence (seen.push x) rest = some xs' ∧ xs = x :: xs' := by
  simp only [parseObservations, Option.bind_eq_bind, Option.bind_eq_some_iff, ensure_eq_some,
    Option.pure_def, Option.some.injEq]
  constructor
  · rintro ⟨x, hx, _, hadmits, xs', hxs, rfl⟩
    exact ⟨x, xs', hx, hadmits, hxs, rfl⟩
  · rintro ⟨x, xs', hx, hadmits, hxs, rfl⟩
    exact ⟨x, hx, (), hadmits, xs', hxs, rfl⟩

/-- The observations that were parsed are parsed again, as many as before. -/
theorem parseObservations_again {sequence : Nat} {seen : ObservationsSeen} {items : List JsValue}
    {xs : List StoredNavigationObservation}
    (h : parseObservations W sequence seen items = some xs) :
    parseObservations W sequence seen (xs.map (·.value)) = some xs ∧
      xs.length = items.length := by
  induction items generalizing seen xs with
  | nil =>
    obtain rfl := Option.some.inj h
    exact ⟨rfl, rfl⟩
  | cons item rest ih =>
    obtain ⟨x, xs', hx, hadmits, hxs, rfl⟩ := parseObservations_cons.mp h
    obtain ⟨hagain, hlength⟩ := ih hxs
    exact ⟨parseObservations_cons.mpr ⟨x, xs', storedAs_observation.again hx, hadmits, hagain, rfl⟩,
      congrArg (· + 1) hlength⟩

theorem parseObservations_restored {sequence : Nat} {seen : ObservationsSeen}
    {items items' : List JsValue} {xs : List StoredNavigationObservation}
    (hitems : List.Forall₂ (Restored W.toReceiptPlatform) items items')
    (h : parseObservations W sequence seen items = some xs) :
    parseObservations W sequence seen items' = some xs := by
  induction hitems generalizing seen xs with
  | nil => exact h
  | cons hfirst _ ih =>
    obtain ⟨x, xs', hx, hadmits, hxs, rfl⟩ := parseObservations_cons.mp h
    exact parseObservations_cons.mpr
      ⟨x, xs', storedAs_observation.restored hfirst hx, hadmits, ih hxs, rfl⟩

/-! ### Confirmation contexts -/

/-- A status stands in a text, or in an array of one item. -/
theorem readStatus_eq_some {v : JsValue} {stored : StoredStatus}
    (h : readStatus v = some stored) : v = stored.value := by
  induction hsize : stored.arrays generalizing v stored with
  | zero =>
    unfold readStatus at h
    split at h
    · obtain ⟨status, hstatus, rfl⟩ := Option.map_eq_some_iff.mp h
      exact ((parseEnum_eq_ok (injective_of_nodup CONFIRMATION_CONTEXT_STATUSES
        (by rintro (_ | _) <;> decide) (by decide))).mp (accept_eq_some.mp hstatus)).1
    · obtain ⟨inner, -, rfl⟩ := Option.map_eq_some_iff.mp h
      exact absurd hsize (Nat.succ_ne_zero _)
    · cases h
  | succ n ih =>
    unfold readStatus at h
    split at h
    · obtain ⟨status, -, rfl⟩ := Option.map_eq_some_iff.mp h
      exact absurd hsize.symm (Nat.succ_ne_zero _)
    · obtain ⟨inner, hinner, rfl⟩ := Option.map_eq_some_iff.mp h
      have hn : inner.arrays = n := Nat.succ.inj hsize
      rw [ih hinner hn]
      rfl
    · cases h

theorem readStatus_wrap (status : ConfirmationContextStatus) (n : Nat) :
    readStatus (StoredStatus.wrap status n) = some ⟨status, n⟩ := by
  induction n with
  | zero => cases status <;> rfl
  | succ n ih =>
    show readStatus (.array [StoredStatus.wrap status n]) = _
    rw [readStatus, ih]
    rfl

/-- Statuses are restored as they are. -/
theorem restored_wrap (status : ConfirmationContextStatus) (n : Nat) {w : JsValue}
    (hw : Restored W.toReceiptPlatform (StoredStatus.wrap status n) w) :
    w = StoredStatus.wrap status n := by
  induction n generalizing w with
  | zero => exact restored_visible (by cases status <;> rfl) hw
  | succ n ih =>
    obtain ⟨items, rfl, hitems⟩ := restored_array hw
    obtain ⟨item, rest, hitem, hrest, rfl⟩ := List.forall₂_cons_left_iff.mp hitems
    rw [ih hitem, List.forall₂_nil_left_iff.mp hrest]
    rfl

theorem storedAs_status : StoredAs W readStatus StoredStatus.value where
  again _ := readStatus_wrap _ _
  restored {v w stored} hw h := by
    obtain rfl := readStatus_eq_some h
    rw [restored_wrap stored.status stored.arrays hw]
    exact h
  defined {v stored} h := by
    rintro rfl
    cases h

/-- The texts of an attempt that other records repeat are normal. -/
structure ParsedAttemptBase.Normal (W : WebPlatform) (base : ParsedAttemptBase) : Prop where
  eventHash : normalizeText W.toTextPlatform base.event.envelope.eventHash =
    base.event.envelope.eventHash
  capturedAt : normalizeText W.toTextPlatform base.capturedAt = base.capturedAt
  pageUrl : normalizeText W.toTextPlatform base.event.body.origin.pageUrl =
    base.event.body.origin.pageUrl

theorem readArray_eq_some {v : JsValue} {items : List JsValue} :
    readArray v = some items ↔ v = .array items := by
  unfold readArray
  split
  · exact ⟨fun h => congrArg _ (Option.some.inj h), fun h => congrArg _ (JsValue.array.inj h)⟩
  · next hv => exact ⟨nofun, fun h => absurd h (hv items)⟩

theorem parseConfirmationContext_eq_some {v : JsValue} {base : ParsedAttemptBase}
    {x : StoredConfirmationContext} : parseConfirmationContext W v base = some x ↔
      (x.attemptEventHash = base.event.envelope.eventHash ∧ x.startedAt = base.capturedAt ∧
        x.originalOrigin = base.origin ∧ x.originalPageUrl = base.event.body.origin.pageUrl ∧
        isoAtMost x.expiresAt base.capturedAt = false ∧
        hasOrigin W x.currentPageUrl x.currentOrigin ∧ x.current = true) ∧
      ∃ value items, v = .object value ∧
      hasOnlyKeys value ["status", "tabId", "attemptEventHash", "documentInstanceId", "startedAt",
        "expiresAt", "originalOrigin", "originalPageUrl", "currentOrigin", "currentPageUrl",
        "sequence", "observations"] = true ∧
      readStatus (member (ascii "status") value) = some x.status ∧
      accept normalizeNonNegativeSafeInteger (member (ascii "tabId") value) = some x.tabId ∧
      readLiteral base.event.envelope.eventHash (member (ascii "attemptEventHash") value) =
        some () ∧
      readOpaqueId (member (ascii "documentInstanceId") value) = some x.documentInstanceId ∧
      readLiteral base.capturedAt (member (ascii "startedAt") value) = some () ∧
      readTimestamp (member (ascii "expiresAt") value) = some x.expiresAt ∧
      accept normalizeNonNegativeSafeInteger (member (ascii "sequence") value) = some x.sequence ∧
      readArray (member (ascii "observations") value) = some items ∧
      items.length ≤ MAX_NAVIGATION_HISTORY ∧
      readOrigin W (member (ascii "originalOrigin") value) = some x.originalOrigin ∧
      readOrigin W (member (ascii "currentOrigin") value) = some x.currentOrigin ∧
      readLiteral base.event.body.origin.pageUrl (member (ascii "originalPageUrl") value) =
        some () ∧
      readPageUrl W (member (ascii "currentPageUrl") value) = some x.currentPageUrl ∧
      parseObservations W x.sequence ⟨0, base.capturedAt, []⟩ items = some x.observations := by
  simp only [parseConfirmationContext, Option.bind_eq_bind, Option.bind_eq_some_iff,
    accept_asRecord, ensure_eq_some, Option.pure_def, Option.some.injEq]
  constructor
  · rintro ⟨value, hvalue, _, hkeys, status, h1, tabId, h2, _, h3, documentInstanceId, h4, _, h5,
      expiresAt, h6, _, hexpires, sequence, h7, items, h8, _, hlength, originalOrigin, h9,
      currentOrigin, h10, _, hsame, _, h11, currentPageUrl, h12, _, hcurrent, observations, h13, _,
      hlatest, rfl⟩
    exact ⟨⟨rfl, rfl, hsame, rfl, hexpires, hcurrent, hlatest⟩, value, items, hvalue, hkeys, h1, h2,
      h3, h4, h5, h6, h7, h8, hlength, h9, h10, h11, h12, h13⟩
  · rintro ⟨⟨heventHash, hstarted, hsame, hpage, hexpires, hcurrent, hlatest⟩, value, items, hvalue,
      hkeys, h1, h2, h3, h4, h5, h6, h7, h8, hlength, h9, h10, h11, h12, h13⟩
    refine ⟨value, hvalue, (), hkeys, _, h1, _, h2, (), h3, _, h4, (), h5, _, h6, (), hexpires, _,
      h7, _, h8, (), hlength, _, h9, _, h10, (), hsame, (), h11, _, h12, (), hcurrent, _, h13, ?_⟩
    rcases x with ⟨_, _, _, _, _, _, _, _, _, _, _, _⟩
    dsimp only at heventHash hstarted hpage
    subst heventHash hstarted hpage
    exact ⟨(), hlatest, rfl⟩

theorem storedAs_context {base : ParsedAttemptBase} (hbase : base.Normal W) :
    StoredAs W (parseConfirmationContext W · base) StoredConfirmationContext.value where
  again {v x} h := by
    obtain ⟨hchecks, value, items, -, -, h1, h2, -, h4, -, h6, h7, -, hlength, h9, h10, -, h12,
      h13⟩ := parseConfirmationContext_eq_some.mp h
    obtain ⟨hagain, hsame⟩ := parseObservations_again h13
    obtain ⟨heventHash, hstarted, -, hpage, -⟩ := id hchecks
    refine parseConfirmationContext_eq_some.mpr
      ⟨hchecks, _, _, rfl, rfl, ?_, ?_, ?_, ?_, ?_, ?_, ?_, rfl, ?_, ?_, ?_, ?_, ?_, hagain⟩
    · exact storedAs_status.again (W := W) h1
    · exact storedAs_nat.again (W := W) h2
    · exact readLiteral_eq_some.mpr (congrArg JsValue.string heventHash)
    · exact storedAs_opaqueId.again (W := W) h4
    · exact readLiteral_eq_some.mpr (congrArg JsValue.string hstarted)
    · exact storedAs_timestamp.again (W := W) h6
    · exact storedAs_nat.again (W := W) h7
    · rw [List.length_map, hsame]
      exact hlength
    · exact storedAs_origin.again h9
    · exact storedAs_origin.again h10
    · exact readLiteral_eq_some.mpr (congrArg JsValue.string hpage)
    · exact storedAs_pageUrl.again h12
  restored {v w x} hw h := by
    obtain ⟨hchecks, value, items, rfl, hkeys, h1, h2, h3, h4, h5, h6, h7, h8, hlength, h9, h10,
      h11, h12, h13⟩ := parseConfirmationContext_eq_some.mp h
    obtain ⟨props, rfl, hprops⟩ := restored_object hw
    have harray : JsValue.member (ascii "observations") value = .array items :=
      readArray_eq_some.mp h8
    obtain ⟨items', hitems', hrestored⟩ := restored_array
      (harray ▸ hprops.found (show isVisible (ascii "observations") = true from rfl)
        (harray ▸ nofun))
    refine parseConfirmationContext_eq_some.mpr ⟨hchecks, props, items', rfl,
      hprops.onlyKeys rfl hkeys, ?_, ?_, ?_, ?_, ?_, ?_, ?_, ?_, ?_, ?_, ?_, ?_, ?_,
      parseObservations_restored hrestored h13⟩
    · exact storedAs_status.member hprops rfl h1
    · exact storedAs_nat.member hprops rfl h2
    · exact (storedAs_literal hbase.eventHash).member hprops rfl h3
    · exact storedAs_opaqueId.member hprops rfl h4
    · exact (storedAs_literal hbase.capturedAt).member hprops rfl h5
    · exact storedAs_timestamp.member hprops rfl h6
    · exact storedAs_nat.member hprops rfl h7
    · exact readArray_eq_some.mpr hitems'
    · rw [← hrestored.length_eq]
      exact hlength
    · exact storedAs_origin.member hprops rfl h9
    · exact storedAs_origin.member hprops rfl h10
    · exact (storedAs_literal hbase.pageUrl).member hprops rfl h11
    · exact storedAs_pageUrl.member hprops rfl h12
  defined {v x} h := by
    obtain ⟨-, value, items, rfl, -⟩ := parseConfirmationContext_eq_some.mp h
    exact nofun

/-! ### Confirmations -/

theorem parseSiteConfirmationEvidence_eq_some {v : JsValue} {base : ParsedAttemptBase}
    {event : ConfirmedEvent} {context : Option StoredConfirmationContext}
    {x : StoredSiteConfirmationEvidence} :
    parseSiteConfirmationEvidence W v base event context = some x ↔
      (isoBefore event.envelope.core.occurredAt base.capturedAt = false ∧
        (∃ message, event.confirmation.message = some message ∧ trim message ≠ [] ∧
          x.displaySnippet = siteConfirmationSnippet W message event.confirmation.reference) ∧
        x.savedAt = event.envelope.core.occurredAt ∧
        ∃ current, context = some current ∧ x.Agrees W base current) ∧
      ∃ value, v = .object value ∧
      hasOnlyKeys value ["displaySnippet", "navigationSequence", "originChangeConfirmed",
        "pageOrigin", "pageTitle", "pageUrl", "saveId", "savedAt"] = true ∧
      accept normalizePositiveSafeInteger (member (ascii "navigationSequence") value) =
        some x.navigationSequence ∧
      accept parseBoolean (member (ascii "originChangeConfirmed") value) =
        some x.originChangeConfirmed ∧
      readPageTitle W (member (ascii "pageTitle") value) = some x.pageTitle ∧
      readOpaqueId (member (ascii "saveId") value) = some x.saveId ∧
      readLiteral event.envelope.core.occurredAt (member (ascii "savedAt") value) = some () ∧
      readLiteral event.confirmation.pageUrl (member (ascii "pageUrl") value) = some () ∧
      readPageUrl W (member (ascii "pageUrl") value) = some x.pageUrl ∧
      readLiteral x.displaySnippet (member (ascii "displaySnippet") value) = some () ∧
      readOrigin W (member (ascii "pageOrigin") value) = some x.pageOrigin := by
  simp only [parseSiteConfirmationEvidence, Option.bind_eq_bind, Option.bind_eq_some_iff,
    accept_asRecord, ensure_eq_some, Option.pure_def, Option.some.injEq]
  constructor
  · rintro ⟨value, hvalue, _, hkeys, navigationSequence, h1, originChangeConfirmed, h2, pageTitle,
      h3, saveId, h4, _, h5, _, hsaved, _, h6, pageUrl, h7, message, hmessage, _, htrim, _, h8,
      pageOrigin, h9, current, hcurrent, _, hagrees, rfl⟩
    exact ⟨⟨hsaved, ⟨message, hmessage, htrim, rfl⟩, rfl, current, hcurrent, hagrees⟩, value,
      hvalue, hkeys, h1, h2, h3, h4, h5, h6, h7, h8, h9⟩
  · rintro ⟨⟨hsaved, ⟨message, hmessage, htrim, hsnippet⟩, hsavedAt, current, hcurrent, hagrees⟩,
      value, hvalue, hkeys, h1, h2, h3, h4, h5, h6, h7, h8, h9⟩
    rcases x with ⟨_, _, _, _, _, _, _, _⟩
    dsimp only at hsnippet hsavedAt
    subst hsnippet hsavedAt
    exact ⟨value, hvalue, (), hkeys, _, h1, _, h2, _, h3, _, h4, (), h5, (), hsaved, (), h6, _, h7,
      message, hmessage, (), htrim, (), h8, _, h9, current, hcurrent, (), hagrees, rfl⟩

theorem storedAs_evidence {base : ParsedAttemptBase} {event : ConfirmedEvent}
    (hevent : normalizeText W.toTextPlatform event.envelope.core.occurredAt =
      event.envelope.core.occurredAt) {context : Option StoredConfirmationContext} :
    StoredAs W (parseSiteConfirmationEvidence W · base event context)
      StoredSiteConfirmationEvidence.value where
  again {v x} h := by
    obtain ⟨hchecks, value, -, -, h1, h2, h3, h4, -, h6, h7, -, h9⟩ :=
      parseSiteConfirmationEvidence_eq_some.mp h
    obtain ⟨-, -, hsavedAt, -⟩ := id hchecks
    have hpage : event.confirmation.pageUrl = x.pageUrl := by
      have hboth := (readLiteral_eq_some.mp h6).symm.trans (readPageUrl_eq_some.mp h7).1
      exact JsValue.string.inj hboth
    refine parseSiteConfirmationEvidence_eq_some.mpr
      ⟨hchecks, _, rfl, rfl, ?_, ?_, ?_, ?_, ?_, ?_, ?_, ?_, ?_⟩
    · exact storedAs_positive.again (W := W) h1
    · exact storedAs_boolean.again (W := W) h2
    · exact storedAs_pageTitle.again h3
    · exact storedAs_opaqueId.again (W := W) h4
    · exact readLiteral_eq_some.mpr (congrArg JsValue.string hsavedAt)
    · exact readLiteral_eq_some.mpr (congrArg JsValue.string hpage.symm)
    · exact storedAs_pageUrl.again h7
    · exact readLiteral_eq_some.mpr rfl
    · exact storedAs_origin.again h9
  restored {v w x} hw h := by
    obtain ⟨hchecks, value, rfl, hkeys, h1, h2, h3, h4, h5, h6, h7, h8, h9⟩ :=
      parseSiteConfirmationEvidence_eq_some.mp h
    obtain ⟨props, rfl, hprops⟩ := restored_object hw
    have hpage : normalizeText W.toTextPlatform event.confirmation.pageUrl =
        event.confirmation.pageUrl := by
      have hurl := (readPageUrl_eq_some.mp h7)
      rw [JsValue.string.inj ((readLiteral_eq_some.mp h6).symm.trans hurl.1)]
      exact privacySafePageUrl_normal hurl.2
    have hsnippet : normalizeText W.toTextPlatform x.displaySnippet = x.displaySnippet := by
      obtain ⟨-, ⟨message, -, -, hsnippet⟩, -⟩ := hchecks
      rw [hsnippet]
      exact siteConfirmationSnippet_normal message event.confirmation.reference
    refine parseSiteConfirmationEvidence_eq_some.mpr
      ⟨hchecks, props, rfl, hprops.onlyKeys rfl hkeys, ?_, ?_, ?_, ?_, ?_, ?_, ?_, ?_, ?_⟩
    · exact storedAs_positive.member hprops rfl h1
    · exact storedAs_boolean.member hprops rfl h2
    · exact storedAs_pageTitle.member hprops rfl h3
    · exact storedAs_opaqueId.member hprops rfl h4
    · exact (storedAs_literal hevent).member hprops rfl h5
    · exact (storedAs_literal hpage).member hprops rfl h6
    · exact storedAs_pageUrl.member hprops rfl h7
    · exact (storedAs_literal hsnippet).member hprops rfl h8
    · exact storedAs_origin.member hprops rfl h9
  defined {v x} h := by
    obtain ⟨-, value, rfl, -⟩ := parseSiteConfirmationEvidence_eq_some.mp h
    exact nofun

/-! ### Attempts -/

theorem asAttempted_eq_some {event : LifecycleEventEnvelope} {x : AttemptedEvent} :
    asAttempted event = some x ↔ x.envelope = event := by
  unfold asAttempted
  split
  · next body hbody =>
    constructor
    · intro h
      rw [← Option.some.inj h]
    · rintro rfl
      exact congrArg some
        (AttemptedEvent.ext rfl (EventBody.attempted.inj (hbody.symm.trans x.stage)))
  · next hother =>
    refine ⟨nofun, ?_⟩
    rintro rfl
    exact absurd x.stage (hother x.body)

theorem asConfirmed_eq_some {event : LifecycleEventEnvelope} {x : ConfirmedEvent} :
    asConfirmed event = some x ↔ x.envelope = event := by
  unfold asConfirmed
  split
  · next confirmation hbody =>
    constructor
    · intro h
      rw [← Option.some.inj h]
    · rintro rfl
      exact congrArg some
        (ConfirmedEvent.ext rfl (EventBody.siteConfirmed.inj (hbody.symm.trans x.stage)))
  · next hother =>
    refine ⟨nofun, ?_⟩
    rintro rfl
    exact absurd x.stage (hother x.confirmation)

/-- The hash and the time of a parsed event are normal. -/
theorem parseEventEnvelope_normal {v : JsValue} {p : Text} {event : LifecycleEventEnvelope}
    (h : parseEventEnvelope W.toReceiptPlatform v p = .ok event) :
    normalizeText W.toTextPlatform event.eventHash = event.eventHash ∧
      normalizeText W.toTextPlatform event.core.occurredAt = event.core.occurredAt := by
  obtain ⟨-, value, -, hfields⟩ := parseEventEnvelope_eq_ok.mp h
  obtain ⟨-, hcore, -, -, -, hhash⟩ := hfields p
  obtain ⟨core, -, hcore⟩ := parseEventCore_eq_ok.mp hcore
  obtain ⟨-, htime, -⟩ := hcore p
  exact ⟨normalizeText_visible (normalizeHash_eq_ok hhash).2.1,
    normalizeText_visible (normalizeTimestamp_visible htime)⟩

theorem parseAttemptBase_eq_some {value : List (Text × JsValue)} {x : ParsedAttemptBase} :
    parseAttemptBase W keccak256 value = some x ↔ x.Agrees W keccak256 ∧
      readOpaqueId (member (ascii "attemptId") value) = some x.attemptId ∧
      readOpaqueId (member (ascii "receiptNonce") value) = some x.receiptNonce ∧
      readTimestamp (member (ascii "capturedAt") value) = some x.capturedAt ∧
      readLiteral (ascii "PENDING_ACCEPTANCE") (member (ascii "derivedStatus") value) =
        some () ∧
      readNull (member (ascii "authorityEvent") value) = some () ∧
      readNull (member (ascii "extensionSignature") value) = some () ∧
      readNull (member (ascii "chainAnchor") value) = some () ∧
      readOrigin W (member (ascii "origin") value) = some x.origin ∧
      readOrigin W (member (ascii "actionOrigin") value) = some x.actionOrigin ∧
      normalizedHash (member (ascii "receiptId") value) = some x.receiptId ∧
      normalizedHash (member (ascii "pagePathHash") value) = some x.pagePathHash ∧
      normalizedHash (member (ascii "attemptFingerprint") value) = some x.attemptFingerprint ∧
      accept (parseEventEnvelope W.toReceiptPlatform) (member (ascii "event") value) =
        some x.event.envelope := by
  simp only [parseAttemptBase, Option.bind_eq_bind, Option.bind_eq_some_iff, ensure_eq_some,
    asAttempted_eq_some, Option.pure_def, Option.some.injEq]
  constructor
  · rintro ⟨_, h1, _, h2, _, h3, _, h4, _, h5, _, h6, _, h7, _, h8, _, h9, _, h10, _, h11, _, h12,
      _, h13, _, rfl, _, hagrees, rfl⟩
    exact ⟨hagrees, h1, h2, h3, h4, h5, h6, h7, h8, h9, h10, h11, h12, h13⟩
  · rintro ⟨hagrees, h1, h2, h3, h4, h5, h6, h7, h8, h9, h10, h11, h12, h13⟩
    exact ⟨_, h1, _, h2, _, h3, (), h4, (), h5, (), h6, (), h7, _, h8, _, h9, _, h10, _, h11, _,
      h12, _, h13, _, rfl, (), hagrees, rfl⟩

/-- **The texts of an attempt that other records repeat are normal.** -/
theorem parseAttemptBase_normal {value : List (Text × JsValue)} {x : ParsedAttemptBase}
    (h : parseAttemptBase W keccak256 value = some x) : x.Normal W := by
  obtain ⟨hagrees, -, -, htime, -, -, -, -, -, -, -, -, -, hevent⟩ := parseAttemptBase_eq_some.mp h
  obtain ⟨instant, hinstant⟩ :=
    Option.isSome_iff_exists.mp (readTimestamp_eq_some.mp htime).2
  exact ⟨(parseEventEnvelope_normal (accept_eq_some.mp hevent)).1,
    normalizeText_visible (isoTime_visible hinstant), privacySafePageUrl_normal hagrees.page⟩

/-- An attempt is read of its fields again, wherever they stand. -/
theorem parseAttemptBase_restored {value props : List (Text × JsValue)} {x : ParsedAttemptBase}
    (hprops : RestoredMembers W.toReceiptPlatform value props)
    (h : parseAttemptBase W keccak256 value = some x) :
    parseAttemptBase W keccak256 props = some x := by
  obtain ⟨hagrees, h1, h2, h3, h4, h5, h6, h7, h8, h9, h10, h11, h12, h13⟩ :=
    parseAttemptBase_eq_some.mp h
  refine parseAttemptBase_eq_some.mpr
    ⟨hagrees, ?_, ?_, ?_, ?_, ?_, ?_, ?_, ?_, ?_, ?_, ?_, ?_, ?_⟩
  · exact storedAs_opaqueId.member hprops rfl h1
  · exact storedAs_opaqueId.member hprops rfl h2
  · exact storedAs_timestamp.member hprops rfl h3
  · exact (storedAs_literal (normalizeText_visible rfl)).member hprops rfl h4
  · exact storedAs_null.member hprops rfl h5
  · exact storedAs_null.member hprops rfl h6
  · exact storedAs_null.member hprops rfl h7
  · exact storedAs_origin.member hprops rfl h8
  · exact storedAs_origin.member hprops rfl h9
  · exact storedAs_hash.member hprops rfl h10
  · exact storedAs_hash.member hprops rfl h11
  · exact storedAs_hash.member hprops rfl h12
  · exact storedAs_event.member hprops rfl h13

/-! ### Receipts -/

theorem storedAs_nullable {α : Type} {read : JsValue → Option α} {write : α → JsValue}
    (h : StoredAs W read write) (hnull : read .null = none) :
    StoredAs W (readNullable read) (writeNullable write) where
  again {v x} hv := by
    rcases x with - | a
    · rfl
    · unfold readNullable at hv
      split at hv
      · cases hv
      · obtain ⟨b, hb, hsame⟩ := Option.map_eq_some_iff.mp hv
        obtain rfl := Option.some.inj hsame
        have hagain := h.again hb
        show readNullable read (write b) = some (some b)
        unfold readNullable
        split
        · next hwritten =>
          rw [hwritten, hnull] at hagain
          cases hagain
        · rw [hagain]
          rfl
  restored {v w x} hw hv := by
    unfold readNullable at hv
    split at hv
    · rw [restored_null.mp hw]
      exact hv
    · obtain ⟨b, hb, rfl⟩ := Option.map_eq_some_iff.mp hv
      have hagain := h.restored hw hb
      unfold readNullable
      split
      · rw [hnull] at hagain
        cases hagain
      · rw [hagain]
        rfl
  defined {v x} hv := by
    rintro rfl
    obtain ⟨b, hb, -⟩ := Option.map_eq_some_iff.mp hv
    exact h.defined hb rfl

theorem readConfirmedEvent_eq_some {v : JsValue} {x : ConfirmedEvent} :
    readConfirmedEvent W v = some x ↔ x.envelope.bare = true ∧
      accept (parseEventEnvelope W.toReceiptPlatform) v = some x.envelope := by
  simp only [readConfirmedEvent, Option.bind_eq_bind, Option.bind_eq_some_iff, asConfirmed_eq_some,
    ensure_eq_some, Option.pure_def, Option.some.injEq]
  constructor
  · rintro ⟨_, h, _, rfl, _, hbare, rfl⟩
    exact ⟨hbare, h⟩
  · rintro ⟨hbare, h⟩
    exact ⟨_, h, _, rfl, (), hbare, rfl⟩

theorem storedAs_confirmedEvent :
    StoredAs W (readConfirmedEvent W) fun event => event.envelope.value where
  again {v x} h := by
    obtain ⟨hbare, hevent⟩ := readConfirmedEvent_eq_some.mp h
    exact readConfirmedEvent_eq_some.mpr ⟨hbare, storedAs_event.again hevent⟩
  restored {v w x} hw h := by
    obtain ⟨hbare, hevent⟩ := readConfirmedEvent_eq_some.mp h
    exact readConfirmedEvent_eq_some.mpr ⟨hbare, storedAs_event.restored hw hevent⟩
  defined {v x} h := storedAs_event.defined (W := W) (readConfirmedEvent_eq_some.mp h).2

theorem parseSiteConfirmed_eq_some {base : ParsedAttemptBase}
    {context : Option StoredConfirmationContext} {value : List (Text × JsValue)}
    {event : ConfirmedEvent} {evidence : StoredSiteConfirmationEvidence} :
    parseSiteConfirmed W keccak256 base context value = some (event, evidence) ↔
      isEventChain W keccak256 [base.event.envelope, event.envelope] = true ∧
      readConfirmedEvent W (member (ascii "siteConfirmationEvent") value) = some event ∧
      parseSiteConfirmationEvidence W (member (ascii "siteConfirmationEvidence") value) base event
        context = some evidence := by
  simp only [parseSiteConfirmed, Option.bind_eq_bind, Option.bind_eq_some_iff, ensure_eq_some,
    Option.pure_def, Option.some.injEq, Prod.mk.injEq]
  constructor
  · rintro ⟨_, hevent, _, hchain, _, hevidence, rfl, rfl⟩
    exact ⟨hchain, hevent, hevidence⟩
  · rintro ⟨hchain, hevent, hevidence⟩
    exact ⟨_, hevent, (), hchain, _, hevidence, rfl, rfl⟩

theorem storedAs_currentStage :
    StoredAs W (accept (parseEnum [EventStage.attempted, .siteConfirmed] eventStageText))
      (writeEnum eventStageText) :=
  storedAs_enum _ eventStageText_injective (by rintro (_ | _) <;> rfl)

/-- What is read of the confirmation of a receipt: none, or an event with its
evidence. -/
def Confirms (W : WebPlatform) (keccak256 : List UInt8 → HashHex) (receipt : StoredAttemptReceipt)
    (value : List (Text × JsValue)) : Prop :=
  match receipt.siteConfirmation with
  | none => member (ascii "siteConfirmationEvent") value = .null ∧
      readNull (member (ascii "siteConfirmationEvidence") value) = some () ∧
      receipt.confirmationContext.any (·.hasStatus .completed) = false
  | some confirmation =>
      parseSiteConfirmed W keccak256 receipt.toParsedAttemptBase receipt.confirmationContext value =
        some confirmation

theorem validateStoredAttemptReceipt_eq_some {v : JsValue} {x : StoredAttemptReceipt} :
    validateStoredAttemptReceipt W keccak256 v = some x ↔ ∃ value, v = .object value ∧
      hasOnlyKeys value ATTEMPT_RECEIPT_KEYS = true ∧
      accept normalizeNonNegativeSafeInteger (member (ascii "storageVersion") value) = some 2 ∧
      accept (parseEnum [EventStage.attempted, .siteConfirmed] eventStageText)
        (member (ascii "currentStage") value) = some x.currentStage ∧
      parseAttemptBase W keccak256 value = some x.toParsedAttemptBase ∧
      readNullable (parseConfirmationContext W · x.toParsedAttemptBase)
        (member (ascii "confirmationContext") value) = some x.confirmationContext ∧
      Confirms W keccak256 x value := by
  simp only [validateStoredAttemptReceipt, Option.bind_eq_bind, Option.bind_eq_some_iff,
    accept_asRecord, ensure_eq_some]
  constructor
  · rintro ⟨value, hvalue, _, hkeys, _, hversion, _, rfl, stage, hstage, base, hbase, context,
      hcontext, h⟩
    refine ⟨value, hvalue, hkeys, hversion, ?_⟩
    split at h
    · next hnull =>
      simp only [Option.bind_eq_some_iff, ensure_eq_some, Option.pure_def, Option.some.injEq] at h
      obtain ⟨_, rfl, _, hevidence, _, hopen, rfl⟩ := h
      exact ⟨hstage, hbase, hcontext, hnull, hevidence, hopen⟩
    · simp only [Option.bind_eq_some_iff, ensure_eq_some, Option.pure_def, Option.some.injEq] at h
      obtain ⟨_, rfl, confirmation, hconfirmation, rfl⟩ := h
      exact ⟨hstage, hbase, hcontext, hconfirmation⟩
  · rintro ⟨value, hvalue, hkeys, hversion, hstage, hbase, hcontext, hconfirms⟩
    refine ⟨value, hvalue, (), hkeys, 2, hversion, (), rfl, _, hstage, _, hbase, _, hcontext, ?_⟩
    rcases x with ⟨base, context, - | ⟨event, evidence⟩⟩
    · obtain ⟨hnull, hevidence, hopen⟩ := hconfirms
      rw [hnull]
      simp only [Option.bind_eq_some_iff, ensure_eq_some, Option.pure_def]
      exact ⟨(), rfl, (), hevidence, (), hopen, trivial⟩
    · obtain ⟨-, hevent, -⟩ := parseSiteConfirmed_eq_some.mp hconfirms
      split
      · next hnull =>
        rw [hnull] at hevent
        cases hevent
      · simp only [Option.bind_eq_some_iff, ensure_eq_some, Option.pure_def, Option.some.injEq]
        exact ⟨(), rfl, _, hconfirms, rfl⟩

/-- **Stored receipts are read again** of what is written of them, and of what
their canonical texts are parsed to. -/
theorem validateStoredAttemptReceipt_stored :
    StoredAs W (validateStoredAttemptReceipt W keccak256) StoredAttemptReceipt.value where
  again {v x} h := by
    obtain ⟨value, -, -, hversion, hstage, hbase, hcontext, hconfirms⟩ :=
      validateStoredAttemptReceipt_eq_some.mp h
    have hnormal := parseAttemptBase_normal hbase
    obtain ⟨hagrees, h1, h2, h3, -, -, -, -, h8, h9, h10, h11, h12, h13⟩ :=
      parseAttemptBase_eq_some.mp hbase
    refine validateStoredAttemptReceipt_eq_some.mpr ⟨_, rfl, rfl, ?_, ?_, ?_, ?_, ?_⟩
    · exact storedAs_nat.again (W := W) hversion
    · exact storedAs_currentStage.again (W := W) hstage
    · refine parseAttemptBase_eq_some.mpr
        ⟨hagrees, ?_, ?_, ?_, rfl, rfl, rfl, rfl, ?_, ?_, ?_, ?_, ?_, ?_⟩
      · exact storedAs_opaqueId.again (W := W) h1
      · exact storedAs_opaqueId.again (W := W) h2
      · exact storedAs_timestamp.again (W := W) h3
      · exact storedAs_origin.again h8
      · exact storedAs_origin.again h9
      · exact storedAs_hash.again (W := W) h10
      · exact storedAs_hash.again (W := W) h11
      · exact storedAs_hash.again (W := W) h12
      · exact storedAs_event.again h13
    · exact (storedAs_nullable (storedAs_context hnormal) rfl).again hcontext
    · rcases x with ⟨base, context, - | ⟨event, evidence⟩⟩
      · exact ⟨rfl, rfl, hconfirms.2.2⟩
      · obtain ⟨hchain, hevent, hevidence⟩ := parseSiteConfirmed_eq_some.mp hconfirms
        have hparsed := accept_eq_some.mp (readConfirmedEvent_eq_some.mp hevent).2
        refine parseSiteConfirmed_eq_some.mpr ⟨hchain, ?_, ?_⟩
        · exact storedAs_confirmedEvent.again hevent
        · exact (storedAs_evidence (parseEventEnvelope_normal hparsed).2).again hevidence
  restored {v w x} hw h := by
    obtain ⟨value, rfl, hkeys, hversion, hstage, hbase, hcontext, hconfirms⟩ :=
      validateStoredAttemptReceipt_eq_some.mp h
    obtain ⟨props, rfl, hprops⟩ := restored_object hw
    have hnormal := parseAttemptBase_normal hbase
    refine validateStoredAttemptReceipt_eq_some.mpr
      ⟨props, rfl, hprops.onlyKeys rfl hkeys, ?_, ?_, ?_, ?_, ?_⟩
    · exact storedAs_nat.member hprops rfl hversion
    · exact storedAs_currentStage.member hprops rfl hstage
    · exact parseAttemptBase_restored hprops hbase
    · exact (storedAs_nullable (storedAs_context hnormal) rfl).member hprops rfl hcontext
    · rcases x with ⟨base, context, - | ⟨event, evidence⟩⟩
      · obtain ⟨hnull, hevidence, hopen⟩ := hconfirms
        have hread : readNull (member (ascii "siteConfirmationEvent") value) = some () :=
          readNull_eq_some.mpr hnull
        exact ⟨readNull_eq_some.mp (storedAs_null.member hprops rfl hread),
          storedAs_null.member hprops rfl hevidence, hopen⟩
      · obtain ⟨hchain, hevent, hevidence⟩ := parseSiteConfirmed_eq_some.mp hconfirms
        have hparsed := accept_eq_some.mp (readConfirmedEvent_eq_some.mp hevent).2
        refine parseSiteConfirmed_eq_some.mpr ⟨hchain, ?_, ?_⟩
        · exact storedAs_confirmedEvent.member hprops rfl hevent
        · exact (storedAs_evidence (parseEventEnvelope_normal hparsed).2).member hprops rfl
            hevidence
  defined {v x} h := by
    obtain ⟨value, rfl, -⟩ := validateStoredAttemptReceipt_eq_some.mp h
    exact nofun

end laws

end SubmittedIt.Protocol
