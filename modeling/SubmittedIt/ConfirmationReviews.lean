/-
SubmittedIt/ConfirmationReviews.lean

Reviews of visible evidence (apps/extension/entrypoints, background.ts).

A site confirmation is saved in two requests.  The first reads the selection of
the bound tab, and keeps it in a session of the service worker; the second
saves what the user left of it.  Neither is atomic: a handler is cut here where
it waits, and each part is a function of what it finds.

`prepareReview_cases` and `storeConfirmation_cases` say once what the two parts
that write do.
-/
import SubmittedIt.NavigationObservations
import SubmittedIt.SitePermissions
import SubmittedIt.SiteConfirmation

namespace SubmittedIt.Extension

open ReceiptCore Transaction Utf8
open Protocol (ReceiptPlatform boundedOptionalText boundedReference isDeletionOnlyRedaction
  SITE_CONFIRMATION_EVIDENCE_TYPES MAX_SITE_CONFIRMATION_MESSAGE_LENGTH
  MAX_SITE_CONFIRMATION_REFERENCE_LENGTH)

/-! ### Failures -/

/-- What a handler throws: a `RuntimeFailure`, or what it did not catch. -/
inductive BackgroundError
  | failure (code message : String) (recoverable : Bool)
  | storage (error : StorageError)
  | core (error : ProtocolError)
  | extension (error : Protocol.ExtensionError)
  deriving DecidableEq

/-- What another function throws is thrown on. -/
def rethrowAs {ε α : Type} (wrap : ε → BackgroundError) : Except ε α → Except BackgroundError α
  | .ok x => .ok x
  | .error e => .error (wrap e)

@[simp] theorem rethrowAs_eq_ok {ε α : Type} {wrap : ε → BackgroundError} {x : Except ε α} {a : α} :
    rethrowAs wrap x = .ok a ↔ x = .ok a := by
  rcases x with e | b
  · simp [rethrowAs]
  · simp [rethrowAs]

/-- `CONFIRMATION_CONTEXT_STALE`. -/
def contextStale (message : String) : BackgroundError :=
  .failure "CONFIRMATION_CONTEXT_STALE" message true

/-- `UNRELATED_TAB`. -/
def unrelatedTab (message : String) : BackgroundError := .failure "UNRELATED_TAB" message true

/-- `CONFIRMATION_ALREADY_EXISTS`. -/
def confirmationAlreadyExists : BackgroundError :=
  .failure "CONFIRMATION_ALREADY_EXISTS" "This receipt already has its one Site confirmed event."
    false

/-! ### Requests and sessions -/

/-- `SITE_CONFIRMATION_REVIEW_WINDOW_MS`. -/
def SITE_CONFIRMATION_REVIEW_WINDOW_MS : Int := 5 * 60 * 1000

/-- `MAX_CONFIRMATION_REVIEW_SESSIONS`. -/
def MAX_CONFIRMATION_REVIEW_SESSIONS : Nat := 20

/-- `PageContextCandidate`: the page belongs to its origin, and its URL has no
query. -/
@[ext] structure PageContextCandidate where
  documentInstanceId : OpaqueId
  origin : Origin
  pageUrl : Url
  page_origin : pageUrl.origin = origin
  page_safe : isPrivacySafeUrl pageUrl = true

instance : DecidableEq PageContextCandidate :=
  fun _ _ => decidable_of_iff' _ PageContextCandidate.ext_iff

/-- `PageEvidenceCandidate`: a page, and a selection that is not blank. -/
structure PageEvidenceCandidate extends PageContextCandidate where
  pageTitle : PageTitle
  selectedText : Text
  title_normalized : pageTitle.isNormalized = true
  title_short : pageTitle.text.length ≤ MAX_SITE_CONFIRMATION_TITLE_LENGTH
  selection_short : selectedText.length ≤ MAX_SITE_CONFIRMATION_MESSAGE_LENGTH
  selection_visible : trim selectedText ≠ []
  deriving DecidableEq

/-- `SiteConfirmationReview`. -/
structure SiteConfirmationReview where
  attemptedEventHash : HashHex
  currentOrigin : Origin
  expiresAt : Timestamp
  navigationSequence : Nat
  originChanged : Bool
  originalOrigin : Origin
  pageTitle : PageTitle
  pageUrl : Url
  receiptId : ReceiptId
  reviewId : OpaqueId
  selectedText : Text
  deriving DecidableEq

/-- `ConfirmationReviewSession`. -/
structure ConfirmationReviewSession where
  candidate : PageEvidenceCandidate
  review : SiteConfirmationReview
  tabId : Nat
  deriving DecidableEq

/-- A `SAVE_SITE_CONFIRMATION` request, its identifiers parsed. -/
structure SaveSiteConfirmationRequest where
  confirmOriginChange : Bool
  evidenceType : ConfirmationEvidenceType
  message : Text
  receiptId : ReceiptId
  reference : Option Text
  reviewId : OpaqueId
  saveId : OpaqueId
  deriving DecidableEq

/-- What is known of the active tab when it is asked for: its `url` or
`pendingUrl`, where it has one, and whether that is an HTTP or HTTPS URL. -/
structure ActiveTab where
  tabId : Nat
  url : Option (Option Url)
  deriving DecidableEq

/-- A `SiteContext` of kind `supported`. -/
structure SupportedSite where
  tabId : Nat
  origin : Origin
  pageUrl : Url
  permissionGranted : Bool
  deriving DecidableEq

/-! ### Beginning a review -/

/-- `ConfirmationOpportunity["kind"]`. -/
inductive OpportunityKind
  | awaitingNavigation | expired | permissionRequired | ready
  deriving DecidableEq

/-- `ConfirmationOpportunity`, its receipt given by its identifier. -/
structure ConfirmationOpportunity where
  kind : OpportunityKind
  receiptId : ReceiptId
  currentOrigin : Origin
  pageUrl : Url
  deriving DecidableEq

/-- `deriveConfirmationOpportunity`, of a supported site. -/
def deriveConfirmationOpportunity (state : ExtensionLocalState) (site : SupportedSite) :
    Option ConfirmationOpportunity := do
  let receipt ← state.receiptIndex.find? fun candidate =>
    candidate.currentStage = .attempted && candidate.confirmationContext.any fun context =>
      context.tabId = site.tabId && (context.status = .active || context.status = .expired)
  let context ← receipt.confirmationContext
  let kind : OpportunityKind :=
    if context.status = .expired then .expired
    else if context.sequence = 0 then .awaitingNavigation
    else if site.permissionGranted = false then .permissionRequired
    else .ready
  return ⟨kind, receipt.receiptId, context.currentOrigin, context.currentPageUrl⟩

/-- The first checks of `beginSiteConfirmationReview`, on the snapshot; the site
is `none` where it is unavailable. -/
def checkOpportunity (receiptId : ReceiptId) (opportunity : Option ConfirmationOpportunity) :
    Except BackgroundError ConfirmationOpportunity := do
  let some opportunity := opportunity
    | .error (unrelatedTab "This tab is not bound to the selected submission attempt.")
  revertIf (opportunity.receiptId ≠ receiptId)
    (unrelatedTab "This tab is not bound to the selected submission attempt.")
  revertIf (opportunity.kind = .expired) (contextStale
    "The active confirmation-capture window expired. Create a new intentional attempt if needed.")
  revertIf (opportunity.kind = .awaitingNavigation)
    (contextStale "No later page or document change is tied to this attempt yet.")
  revertIf (opportunity.kind = .permissionRequired)
    (.failure "CONFIRMATION_PERMISSION_REQUIRED"
      "Grant explicit access to the redirected origin before reviewing visible evidence." true)
  return opportunity

/-- `CONFIRMATION_SELECTION_MISSING`. -/
def selectionMissing : BackgroundError :=
  .failure "CONFIRMATION_SELECTION_MISSING"
    "Select a short visible confirmation message on the page, then try again." true

/-- A review that waits for the page. -/
structure OpenedReview where
  receiptId : ReceiptId
  site : SupportedSite
  opportunity : ConfirmationOpportunity
  deriving DecidableEq

/-- `beginSiteConfirmationReview`, up to where the page is asked. -/
def openReview (receiptId : ReceiptId) (state : ExtensionLocalState) (site : Option SupportedSite) :
    Except BackgroundError OpenedReview := do
  let opportunity ← checkOpportunity receiptId (site.bind (deriveConfirmationOpportunity state))
  let some site := site
    | .error (unrelatedTab "Open the bound confirmation tab and try again.")
  return ⟨receiptId, site, opportunity⟩

/-- What the browser and the page answer: the candidate is `none` where no
message arrives, or one that does not parse. -/
def checkCandidate (opened : OpenedReview) (tab : Option ActiveTab)
    (candidate : Option PageEvidenceCandidate) : Except BackgroundError PageEvidenceCandidate := do
  revertIf (tab.map (·.tabId) ≠ some opened.site.tabId)
    (unrelatedTab "The active tab changed before review began.")
  let some candidate := candidate | .error selectionMissing
  revertIf (candidate.origin ≠ opened.opportunity.currentOrigin ∨
      candidate.pageUrl ≠ opened.opportunity.pageUrl)
    (.failure "TAB_NAVIGATED"
      "The confirmation page changed while SubmittedIt was reading the selected evidence." true)
  return candidate

/-- The receipt of an identifier, with its context. -/
def boundReceipt (state : ExtensionLocalState) (receiptId : ReceiptId) :
    Option (StoredAttemptReceipt × StoredConfirmationContext) := do
  let receipt ← receiptById state receiptId
  let context ← receipt.confirmationContext
  return (receipt, context)

section platform

variable (P : StoragePlatform) (Q : ReceiptPlatform)

/-- `saveState`, at the time of the write; it fails where the store does, or where
the state is refused. -/
def saveState (written : Bool) (now : Timestamp) (state : ExtensionLocalState) :
    Except BackgroundError ExtensionLocalState := do
  revertIf (written = false ∨ validateExtensionState P state = false)
    (.failure "CRYPTO_WRITE_FAILED"
      ("SubmittedIt could not sign and encrypt its local data. " ++
        "Existing receipts were left unchanged.") true)
  return { state with updatedAt := now }

/-- A state is saved where the update was no duplicate. -/
def saveIfNew {ρ : Type} (written : Bool) (now : Timestamp) (update : ReceiptUpdate ρ) :
    Except BackgroundError (Option ExtensionLocalState) :=
  if update.deduplicated = true then .ok none
  else (saveState P written now update.state).map some

/-- A review whose context has been read. -/
structure PreparedReview where
  candidate : PageEvidenceCandidate
  tabId : Nat
  receipt : StoredAttemptReceipt
  context : StoredConfirmationContext
  deriving DecidableEq

/-- The document that was read, as an observation. -/
def PageEvidenceCandidate.observation (candidate : PageEvidenceCandidate)
    (observationId : OpaqueId) (observedAt : Timestamp) : NavigationObservation where
  observationId
  documentInstanceId := candidate.documentInstanceId
  kind := .document
  observedAt
  origin := candidate.origin
  pageUrl := candidate.pageUrl

/-- A document that the context does not know is recorded. -/
def observeDocument (context : StoredConfirmationContext) (tabId : Nat)
    (candidate : PageEvidenceCandidate) (observationId : OpaqueId) (observedAt : Timestamp)
    (written : Bool) (now : Timestamp) (state : ExtensionLocalState) :
    Except BackgroundError (Option ExtensionLocalState) :=
  if context.documentInstanceId ≠ candidate.documentInstanceId ∨
      context.currentPageUrl ≠ candidate.pageUrl then do
    let recorded ← rethrowAs .storage (recordNavigationObservation P state tabId
      (candidate.observation observationId observedAt))
    saveIfNew P written now recorded
  else .ok none

/-- The queued operation of `beginSiteConfirmationReview`, with the state that it
saved. -/
def prepareReview (receiptId : ReceiptId) (tabId : Nat) (candidate : PageEvidenceCandidate)
    (observationId : OpaqueId) (observedAt : Timestamp) (written : Bool) (now : Timestamp)
    (state : ExtensionLocalState) :
    Except BackgroundError (Option ExtensionLocalState × PreparedReview) := do
  let some (receipt, context) := boundReceipt state receiptId
    | .error (contextStale "The originating submission context is no longer active.")
  revertIf (receipt.currentStage ≠ .attempted ∨ context.status ≠ .active ∨ context.tabId ≠ tabId)
    (contextStale "The originating submission context is no longer active.")
  let saved ← observeDocument P context tabId candidate observationId observedAt written now state
  let some (receipt, context) := boundReceipt (saved.getD state) receiptId
    | .error (contextStale "No reviewed navigation sequence is available for this attempt.")
  revertIf (context.sequence < 1)
    (contextStale "No reviewed navigation sequence is available for this attempt.")
  return (saved, ⟨candidate, tabId, receipt, context⟩)

/-- The session of a prepared review. -/
def PreparedReview.session (prepared : PreparedReview) (timestamp : Timestamp)
    (reviewId : OpaqueId) : ConfirmationReviewSession where
  candidate := prepared.candidate
  tabId := prepared.tabId
  review := {
    attemptedEventHash := prepared.receipt.event.eventHash
    currentOrigin := prepared.context.currentOrigin
    expiresAt := min prepared.context.expiresAt (timestamp + SITE_CONFIRMATION_REVIEW_WINDOW_MS)
    navigationSequence := prepared.context.sequence
    originChanged := prepared.context.currentOrigin ≠ prepared.context.originalOrigin
    originalOrigin := prepared.context.originalOrigin
    pageTitle := prepared.candidate.pageTitle
    pageUrl := prepared.candidate.pageUrl
    receiptId := prepared.receipt.receiptId
    reviewId
    selectedText := prepared.candidate.selectedText }

/-! ### The sessions -/

/-- `confirmationReviewSessions`, the oldest first. -/
abbrev Sessions := List ConfirmationReviewSession

/-- `purgeExpiredReviewSessions`. -/
def purgeExpiredReviewSessions (timestamp : Timestamp) (sessions : Sessions) : Sessions :=
  sessions.filter fun session => timestamp < session.review.expiresAt

/-- The loop of `storeReviewSession`. -/
def evictOldest : Sessions → Sessions
  | [] => []
  | oldest :: rest =>
    if MAX_CONFIRMATION_REVIEW_SESSIONS ≤ (oldest :: rest).length then evictOldest rest
    else oldest :: rest

/-- `Map.prototype.set`: a key that is there keeps its place. -/
def setSession (session : ConfirmationReviewSession) (sessions : Sessions) : Sessions :=
  if (sessions.any fun other => other.review.reviewId = session.review.reviewId) = true then
    sessions.map fun other =>
      if other.review.reviewId = session.review.reviewId then session else other
  else sessions ++ [session]

/-- `storeReviewSession`, its timer apart. -/
def storeReviewSession (session : ConfirmationReviewSession) (sessions : Sessions) : Sessions :=
  setSession session (evictOldest sessions)

/-- `Map.prototype.get`. -/
def getSession (reviewId : OpaqueId) (sessions : Sessions) : Option ConfirmationReviewSession :=
  sessions.find? fun session => session.review.reviewId = reviewId

/-- `Map.prototype.delete`. -/
def deleteSession (reviewId : OpaqueId) (sessions : Sessions) : Sessions :=
  sessions.filter fun session => session.review.reviewId ≠ reviewId

/-- The timer of a session. -/
def expireSession (session : ConfirmationReviewSession) (sessions : Sessions) : Sessions :=
  if getSession session.review.reviewId sessions = some session then
    deleteSession session.review.reviewId sessions
  else sessions

/-- `cancelSiteConfirmationReview`. -/
def cancelSiteConfirmationReview (receiptId : ReceiptId) (reviewId : OpaqueId)
    (sessions : Sessions) : Sessions :=
  if (getSession reviewId sessions).map (·.review.receiptId) = some receiptId then
    deleteSession reviewId sessions
  else sessions

/-- `closeConfirmationContextForTab`, on the sessions. -/
def closeSessionsForTab (tabId : Nat) (sessions : Sessions) : Sessions :=
  sessions.filter fun session => session.tabId ≠ tabId

/-! ### Saving what was reviewed -/

/-- A save that waits for the page. -/
structure PendingSave where
  request : SaveSiteConfirmationRequest
  session : ConfirmationReviewSession
  timestamp : Timestamp
  deriving DecidableEq

/-- `saveSiteConfirmation`, up to where it waits, with the sessions that are
left; `none` where the confirmation has been saved before. -/
def beginSave (request : SaveSiteConfirmationRequest) (timestamp : Timestamp)
    (initialState : ExtensionLocalState) (sessions : Sessions) :
    Sessions × Except BackgroundError (Option PendingSave) :=
  match receiptById initialState request.receiptId with
  | some existing =>
    if existing.siteConfirmationEvent.isSome = true then
      (sessions, do
        revertIf (existing.siteConfirmationEvidence.map (·.saveId) ≠ some request.saveId)
          confirmationAlreadyExists
        return none)
    else lookUp
  | none => lookUp
where
  /-- The session of the request. -/
  lookUp : Sessions × Except BackgroundError (Option PendingSave) :=
    let sessions := purgeExpiredReviewSessions timestamp sessions
    (sessions,
      match (getSession request.reviewId sessions).filter fun session =>
          session.review.receiptId = request.receiptId with
      | some session => .ok (some ⟨request, session, timestamp⟩)
      | none => .error (.failure "CONFIRMATION_REVIEW_EXPIRED"
          "This evidence review expired. Select the visible message again." true))

/-- What the browser and the page answer before a save: the page's message is
`none` where none arrives, and holds no page where it does not parse. -/
structure PageAnswers where
  tab : Option ActiveTab
  permissionGranted : Bool
  message : Option (Option PageContextCandidate)
  deriving DecidableEq

/-- The checks of `saveSiteConfirmation` on what they answer. -/
def checkReviewedPage (session : ConfirmationReviewSession)
    (request : SaveSiteConfirmationRequest) (answers : PageAnswers) :
    Except BackgroundError Unit := do
  let some tab := answers.tab.filter fun tab => tab.tabId = session.tabId
    | .error (unrelatedTab "Return to the tab bound to this submission before saving evidence.")
  revertIf ((tab.url.any fun url => url.map privacySafePageUrl ≠ some session.candidate.pageUrl)
      = true)
    (contextStale "The confirmation page changed after the evidence review began.")
  revertIf ((inspectNormalizedOrigin session.candidate.origin && answers.permissionGranted) = false)
    (.failure "CONFIRMATION_PERMISSION_REQUIRED"
      "Site access was removed before this evidence could be saved." true)
  revertIf (answers.message = none)
    (contextStale "SubmittedIt could not verify the reviewed page before saving.")
  revertIf (answers.message ≠ some (some session.candidate.toPageContextCandidate))
    (contextStale "The page document changed after the evidence review began.")
  revertIf (session.review.originChanged = true ∧ request.confirmOriginChange = false)
    (.failure "CONFIRMATION_ORIGIN_NOT_CONFIRMED"
      "Confirm the displayed origin change before saving this evidence." true)

/-- `canonicalSaveSiteConfirmationInput`, of identifiers that are parsed. -/
def canonicalSaveRequest (request : SaveSiteConfirmationRequest) (selectedText : Text) :
    Except Protocol.ExtensionError SaveSiteConfirmationRequest := do
  let message ← boundedOptionalText Q (.string request.message) "$.message"
    MAX_SITE_CONFIRMATION_MESSAGE_LENGTH
  Protocol.throwIf (isDeletionOnlyRedaction Q selectedText message = false)
    "Confirmation text may only remove content from the visible selection."
  let reference ← boundedReference Q request.reference
  Protocol.throwIf
    ((reference.any fun text => text ≠ [] && (indexOf text selectedText).isNone) = true)
    "The optional reference must appear in the selected visible evidence."
  Protocol.throwIf (request.evidenceType ∉ SITE_CONFIRMATION_EVIDENCE_TYPES)
    "Unsupported site-confirmation evidence type."
  return { request with message, reference := reference.filter (· ≠ []) }

/-- `createSiteConfirmationEvent`. -/
def createSiteConfirmationEvent (attemptedEvent : LifecycleEventEnvelope)
    (evidenceType : ConfirmationEvidenceType) (message : Text) (occurredAt : Timestamp)
    (pageUrl : Url) (reference : Option Text) : Except BackgroundError LifecycleEventEnvelope := do
  let _ ← rethrowAs .core (validateEventChain (Except.ok : Decoder LifecycleEventEnvelope) P.keccak
    [attemptedEvent])
  revertIf (evidenceType ∉ SITE_CONFIRMATION_EVIDENCE_TYPES)
    (.extension (.message "Unsupported site-confirmation evidence type."))
  let message ← rethrowAs .extension
    (Protocol.rethrow (Protocol.normalizeNonEmptyText Q (.string message) (ascii "$.message")))
  revertIf (isPrivacySafeUrl pageUrl = false)
    (.extension (.message "$.pageUrl must omit query strings and fragments."))
  let reference ← rethrowAs .extension (boundedReference Q reference)
  let core : LifecycleEventCore := {
    occurredAt
    previousEventHash := attemptedEvent.eventHash
    receiptId := attemptedEvent.core.receiptId
    schemaVersion := attemptedEvent.core.schemaVersion
    body := .siteConfirmed { evidenceType, message := some message, pageUrl, reference } }
  let event : LifecycleEventEnvelope := {
    authoritySignature := none
    chainAnchor := none
    core
    eventHash := hashEventCore P.keccak core
    extensionSignature := none
    authority_stage := fun h => Bool.noConfusion h }
  let _ ← rethrowAs .core (validateEventChain (Except.ok : Decoder LifecycleEventEnvelope) P.keccak
    [attemptedEvent, event])
  return event

/-- The evidence of a confirmation. -/
def confirmationEvidence (session : ConfirmationReviewSession)
    (canonical : SaveSiteConfirmationRequest) (context : StoredConfirmationContext)
    (timestamp : Timestamp) : StoredSiteConfirmationEvidence where
  displaySnippet := siteConfirmationSnippet canonical.message canonical.reference
  navigationSequence := context.sequence
  originChangeConfirmed := session.review.originChanged
  pageOrigin := session.candidate.origin
  pageTitle := session.candidate.pageTitle
  pageUrl := session.candidate.pageUrl
  saveId := canonical.saveId
  savedAt := timestamp

/-- The context that a confirmation needs: the one that was reviewed. -/
def StoredAttemptReceipt.reviewedContext (receipt : StoredAttemptReceipt)
    (session : ConfirmationReviewSession) (timestamp : Timestamp) :
    Option StoredConfirmationContext :=
  receipt.confirmationContext.filter fun context =>
    receipt.currentStage = .attempted && context.status = .active
      && context.tabId = session.tabId
      && context.sequence = session.review.navigationSequence
      && context.currentOrigin = session.candidate.origin
      && context.currentPageUrl = session.candidate.pageUrl
      && !confirmationContextIsExpired context timestamp

/-- The queued operation of `saveSiteConfirmation`. -/
def storeConfirmation (session : ConfirmationReviewSession)
    (canonical : SaveSiteConfirmationRequest) (timestamp : Timestamp) (written : Bool)
    (now : Timestamp) (state : ExtensionLocalState) :
    Except BackgroundError (ReceiptUpdate StoredAttemptReceipt) := do
  match receiptById state canonical.receiptId with
  | none => .error stale
  | some receipt =>
    match receipt.siteConfirmationEvent with
    | some event =>
      match receipt.siteConfirmationEvidence.filter fun evidence =>
          evidence.saveId = canonical.saveId with
      | none => .error confirmationAlreadyExists
      | some evidence =>
        let appended ← rethrowAs .storage
          (appendSiteConfirmation P state ⟨canonical.receiptId, event, evidence⟩)
        return { appended with state }
    | none =>
      match receipt.reviewedContext session timestamp with
      | none => .error stale
      | some context => do
        let event ← createSiteConfirmationEvent P Q receipt.event canonical.evidenceType
          canonical.message timestamp session.candidate.pageUrl canonical.reference
        let appended ← rethrowAs .storage (appendSiteConfirmation P state
          ⟨canonical.receiptId, event, confirmationEvidence session canonical context timestamp⟩)
        let saved ← saveIfNew P written now appended
        return { appended with state := saved.getD state }
where
  stale : BackgroundError :=
    contextStale "The tab or navigation context changed during evidence review."

end platform

/-! ### What the parts do -/

section laws

variable {P : StoragePlatform} {Q : ReceiptPlatform} {state : ExtensionLocalState}

theorem saveState_eq_ok {written : Bool} {now : Timestamp} {saved : ExtensionLocalState} :
    saveState P written now state = .ok saved ↔
      (written = true ∧ validateExtensionState P state = true) ∧
        saved = { state with updatedAt := now } := by
  simp only [saveState, bind_eq_ok, revertIf_eq_ok, exists_const, not_or, Bool.not_eq_false]
  constructor
  · rintro ⟨hwritten, h⟩
    exact ⟨hwritten, (Except.ok.inj h).symm⟩
  · rintro ⟨hwritten, rfl⟩
    exact ⟨hwritten, rfl⟩

/-- **What adding a confirmation does.** -/
theorem appendSiteConfirmation_cases {input : SiteConfirmationInput}
    {appended : ReceiptUpdate StoredAttemptReceipt}
    (h : appendSiteConfirmation P state input = .ok appended) :
    ∃ existing, receiptById state input.receiptId = some existing ∧
      ((existing.siteConfirmationEvent.isSome = true ∧ appended = ⟨state, existing, true⟩) ∨
        existing.siteConfirmationEvent = none ∧ existing.currentStage = .attempted ∧
          ∃ updated, updated = { existing.withContextStatus .completed with
              currentStage := .siteConfirmed
              siteConfirmationEvent := some input.event
              siteConfirmationEvidence := some input.evidence } ∧
            parseStoredAttemptReceipt P updated = true ∧
            appended = ⟨state.replace existing.receiptId updated, updated, false⟩) := by
  unfold appendSiteConfirmation at h
  split at h
  · cases h
  · next existing hexisting =>
    refine ⟨existing, hexisting, ?_⟩
    split_ifs at h with hsite hsave
    · exact .inl ⟨hsite, (Except.ok.inj h).symm⟩
    · obtain ⟨_, hattempted, h⟩ := bind_eq_ok.mp h
      obtain ⟨_, hparse, h⟩ := bind_eq_ok.mp h
      rw [revertIf_eq_ok, not_or, not_not] at hattempted
      rw [revertIf_eq_ok, Bool.not_eq_false] at hparse
      exact .inr ⟨by simpa using hsite, hattempted.1, _, rfl, hparse, (Except.ok.inj h).symm⟩

/-- **What adding an attempt does.** -/
theorem appendAttemptReceipt_cases {receipt : StoredAttemptReceipt}
    {appended : ReceiptUpdate StoredAttemptReceipt}
    (h : appendAttemptReceipt P state receipt = .ok appended) :
    parseStoredAttemptReceipt P receipt = true ∧ receipt.currentStage = .attempted ∧
      ((appended.deduplicated = true ∧ appended.receipt ∈ state.receiptIndex) ∨
        (∀ candidate ∈ state.receiptIndex, receipt.receiptId ≠ candidate.receiptId) ∧
        appended.receipt = receipt ∧ appended.deduplicated = false ∧
        appended.state.receiptIndex = receipt :: state.receiptIndex.map fun candidate =>
          if ∃ context ∈ receipt.confirmationContext, candidate.activeIn context.tabId = true then
            candidate.withContextStatus .superseded
          else candidate) := by
  unfold appendAttemptReceipt at h
  obtain ⟨_, hnew, h⟩ := bind_eq_ok.mp h
  rw [revertIf_eq_ok, not_or, not_or, Bool.not_eq_false, not_not] at hnew
  refine ⟨hnew.1, hnew.2.1, ?_⟩
  split at h
  · next existing hexisting =>
    obtain ⟨_, -, h⟩ := bind_eq_ok.mp h
    obtain rfl := Except.ok.inj h
    exact .inl ⟨rfl, List.mem_of_find?_eq_some hexisting⟩
  · obtain ⟨_, hcollision, h⟩ := bind_eq_ok.mp h
    obtain ⟨_, -, h⟩ := bind_eq_ok.mp h
    rw [revertIf_eq_ok] at hcollision
    obtain rfl := Except.ok.inj h
    refine .inr ⟨fun candidate hcandidate hsame => hcollision ?_, rfl, rfl, rfl⟩
    exact List.any_eq_true.mpr ⟨candidate, hcandidate, by simp [hsame]⟩

theorem saveIfNew_ok {ρ : Type} {written : Bool} {now : Timestamp} {update : ReceiptUpdate ρ}
    {saved : Option ExtensionLocalState} (h : saveIfNew P written now update = .ok saved) :
    (update.deduplicated = true ∧ saved = none) ∨
      update.deduplicated = false ∧ saved = some { update.state with updatedAt := now } := by
  unfold saveIfNew at h
  split_ifs at h with hdeduplicated
  · exact .inl ⟨hdeduplicated, (Except.ok.inj h).symm⟩
  · rcases hsave : saveState P written now update.state with e | next
    · rw [hsave] at h
      cases h
    · rw [hsave] at h
      obtain ⟨-, rfl⟩ := saveState_eq_ok.mp hsave
      exact .inr ⟨by simpa using hdeduplicated, (Except.ok.inj h).symm⟩

/-- **What beginning a review does**: it saves at most an observation. -/
theorem prepareReview_cases {receiptId : ReceiptId} {tabId : Nat}
    {candidate : PageEvidenceCandidate} {observationId : OpaqueId} {observedAt now : Timestamp}
    {written : Bool} {saved : Option ExtensionLocalState} {prepared : PreparedReview}
    (h : prepareReview P receiptId tabId candidate observationId observedAt written now state =
      .ok (saved, prepared)) :
    prepared.candidate = candidate ∧ ∀ next ∈ saved, ∃ recorded : RecordedObservation,
      recordNavigationObservation P state tabId (candidate.observation observationId observedAt) =
          .ok recorded ∧
        recorded.deduplicated = false ∧ next = { recorded.state with updatedAt := now } := by
  unfold prepareReview at h
  split at h
  · next receipt context _ =>
    obtain ⟨_, -, h⟩ := bind_eq_ok.mp h
    obtain ⟨saved', hsaved, h⟩ := bind_eq_ok.mp h
    split at h
    · obtain ⟨_, -, h⟩ := bind_eq_ok.mp h
      obtain ⟨rfl, rfl⟩ := Prod.ext_iff.mp (Except.ok.inj h)
      refine ⟨rfl, fun next hnext => ?_⟩
      unfold observeDocument at hsaved
      split_ifs at hsaved
      · obtain ⟨recorded, hrecorded, hsaved⟩ := bind_eq_ok.mp hsaved
        rw [rethrowAs_eq_ok] at hrecorded
        rcases saveIfNew_ok hsaved with ⟨-, rfl⟩ | ⟨hnew, rfl⟩
        · cases hnext
        · exact ⟨recorded, hrecorded, hnew, (Option.some.inj hnext).symm⟩
      · obtain rfl := Except.ok.inj hsaved
        cases hnext
    · cases h
  · cases h

/-- A reference that is normal and short stays as it is. -/
theorem boundedReference_again {given reference : Option Text}
    (h : boundedReference Q given = .ok reference) :
    boundedReference Q (reference.filter (· ≠ [])) = .ok (reference.filter (· ≠ [])) := by
  rcases given with - | given
  · obtain rfl := Except.ok.inj h
    rfl
  · change (boundedOptionalText Q (.string given) "$.reference"
      MAX_SITE_CONFIRMATION_REFERENCE_LENGTH).map some = .ok reference at h
    rcases hbounded : boundedOptionalText Q (.string given) "$.reference"
        MAX_SITE_CONFIRMATION_REFERENCE_LENGTH with e | text
    · rw [hbounded] at h
      cases h
    · rw [hbounded] at h
      obtain rfl := Except.ok.inj h
      obtain ⟨htext, hlength⟩ := Protocol.boundedOptionalText_eq_ok.mp hbounded
      by_cases hempty : text = []
      · rw [Option.filter_some_neg (by simp [hempty])]
        rfl
      · rw [Option.filter_some_pos (by simp [hempty])]
        have hagain : boundedOptionalText Q (.string text) "$.reference"
            MAX_SITE_CONFIRMATION_REFERENCE_LENGTH = .ok text := by
          refine Protocol.boundedOptionalText_eq_ok.mpr ⟨?_, hlength⟩
          rw [← Except.ok.inj htext]
          exact congrArg Except.ok (Protocol.normalizeText_normalizeText given)
        exact congrArg (Except.map some) hagain

/-- What a message and a reference are, of a request that is accepted. -/
theorem canonicalSaveRequest_ok {request canonical : SaveSiteConfirmationRequest}
    {selectedText : Text} (h : canonicalSaveRequest Q request selectedText = .ok canonical) :
    canonical.receiptId = request.receiptId ∧ canonical.saveId = request.saveId ∧
      canonical.evidenceType = request.evidenceType ∧
      canonical.message = Protocol.normalizeText Q.toTextPlatform request.message ∧
      isDeletionOnlyRedaction Q selectedText canonical.message = true ∧
      boundedReference Q canonical.reference = .ok canonical.reference ∧
      ∀ reference ∈ canonical.reference, (indexOf reference selectedText).isSome = true := by
  simp only [canonicalSaveRequest, bind_eq_ok, Protocol.throwIf_eq_ok,
    Protocol.boundedOptionalText_eq_ok] at h
  obtain ⟨message, ⟨hmessage, -⟩, _, hredaction, reference, hbounded, _, hreference, _, -, h⟩ := h
  obtain rfl := Except.ok.inj h
  refine ⟨rfl, rfl, rfl, (Except.ok.inj hmessage).symm, Bool.not_eq_false _ ▸ hredaction,
    boundedReference_again hbounded, ?_⟩
  intro text htext
  obtain ⟨htext, hne⟩ := Option.mem_filter_iff.mp htext
  rw [Option.mem_def.mp htext, Option.any_some, Bool.not_eq_true,
    Bool.and_eq_false_iff] at hreference
  rcases hreference with hempty | hnone
  · exact absurd hne (by simpa using hempty)
  · simpa using hnone

/-- **The event of a confirmation** follows the attempt. -/
theorem createSiteConfirmationEvent_ok {attemptedEvent event : LifecycleEventEnvelope}
    {evidenceType : ConfirmationEvidenceType} {message : Text} {occurredAt : Timestamp}
    {pageUrl : Url} {reference : Option Text}
    (h : createSiteConfirmationEvent P Q attemptedEvent evidenceType message occurredAt pageUrl
      reference = .ok event) :
    event.core.previousEventHash = attemptedEvent.eventHash ∧
      event.core.receiptId = attemptedEvent.core.receiptId ∧
      event.core.occurredAt = occurredAt ∧ event.eventHash = hashEventCore P.keccak event.core ∧
      ∃ reference', boundedReference Q reference = .ok reference' ∧
        event.core.body = .siteConfirmed ⟨evidenceType,
          some (Protocol.normalizeText Q.toTextPlatform message), pageUrl, reference'⟩ := by
  unfold createSiteConfirmationEvent at h
  simp only [bind_eq_ok, rethrowAs_eq_ok, revertIf_eq_ok, Protocol.rethrow_eq_ok] at h
  obtain ⟨_, -, _, -, normal, hnormal, _, -, reference', hreference, _, -, h⟩ := h
  obtain rfl := Except.ok.inj h
  refine ⟨rfl, rfl, rfl, rfl, reference', hreference, ?_⟩
  have hmessage : normal = Protocol.normalizeText Q.toTextPlatform message := by
    unfold Protocol.normalizeNonEmptyText at hnormal
    dsimp only at hnormal
    split_ifs at hnormal
    · cases hnormal
    · exact (Except.ok.inj hnormal).symm
  rw [hmessage]

/-- **What saving a confirmation does.** -/
theorem storeConfirmation_cases {session : ConfirmationReviewSession}
    {canonical : SaveSiteConfirmationRequest} {timestamp now : Timestamp} {written : Bool}
    {update : ReceiptUpdate StoredAttemptReceipt}
    (h : storeConfirmation P Q session canonical timestamp written now state = .ok update) :
    (update.deduplicated = true ∧ update.state = state ∧
        receiptById state canonical.receiptId = some update.receipt ∧
        update.receipt.siteConfirmationEvent.isSome = true) ∨
      ∃ existing context event, receiptById state canonical.receiptId = some existing ∧
        existing.siteConfirmationEvent = none ∧
        existing.reviewedContext session timestamp = some context ∧
        createSiteConfirmationEvent P Q existing.event canonical.evidenceType canonical.message
          timestamp session.candidate.pageUrl canonical.reference = .ok event ∧
        update.receipt = { existing.withContextStatus .completed with
          currentStage := .siteConfirmed
          siteConfirmationEvent := some event
          siteConfirmationEvidence :=
            some (confirmationEvidence session canonical context timestamp) } ∧
        parseStoredAttemptReceipt P update.receipt = true ∧ update.deduplicated = false ∧
        update.state =
          { state.replace existing.receiptId update.receipt with updatedAt := now } := by
  unfold storeConfirmation at h
  split at h
  · cases h
  · next receipt hreceipt =>
    split at h
    · next event hevent =>
      split at h
      · cases h
      · obtain ⟨appended, happended, h⟩ := bind_eq_ok.mp h
        rw [rethrowAs_eq_ok] at happended
        obtain rfl := Except.ok.inj h
        obtain ⟨existing, hexisting, ⟨hsome, rfl⟩ | ⟨hnone, -⟩⟩ :=
          appendSiteConfirmation_cases happended
        · exact .inl ⟨rfl, rfl, hexisting, hsome⟩
        · obtain rfl := Option.some.inj (hreceipt.symm.trans hexisting)
          rw [hevent] at hnone
          cases hnone
    · next hnone =>
      split at h
      · cases h
      · next context hcontext =>
        obtain ⟨event, hevent, h⟩ := bind_eq_ok.mp h
        obtain ⟨appended, happended, h⟩ := bind_eq_ok.mp h
        obtain ⟨saved, hsaved, h⟩ := bind_eq_ok.mp h
        rw [rethrowAs_eq_ok] at happended
        obtain rfl := Except.ok.inj h
        obtain ⟨existing, hexisting, ⟨hsome, -⟩ | ⟨-, -, updated, hupdated, hparse, rfl⟩⟩ :=
          appendSiteConfirmation_cases happended
        · obtain rfl := Option.some.inj (hreceipt.symm.trans hexisting)
          rw [hnone] at hsome
          cases hsome
        · obtain rfl := Option.some.inj (hreceipt.symm.trans hexisting)
          obtain ⟨hdeduplicated, -⟩ | ⟨-, rfl⟩ := saveIfNew_ok hsaved
          · cases hdeduplicated
          · exact .inr ⟨receipt, context, event, hreceipt, hnone, hcontext, hevent, hupdated,
              hparse, rfl, rfl⟩

end laws

end SubmittedIt.Extension
