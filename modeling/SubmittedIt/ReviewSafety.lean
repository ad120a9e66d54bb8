/-
SubmittedIt/ReviewSafety.lean

What holds of every run of the background worker.

Main results: `confirmations_reviewed` and `reported_receipts_stay`, of the
receipts that are loaded when the storage functions that the worker calls have
been run.
-/
import SubmittedIt.ReviewRuns

namespace SubmittedIt.Extension

open ReceiptCore Transaction Utf8
open Protocol (ReceiptPlatform isDeletionOnlyRedaction)

variable {P : StoragePlatform} {Q : ReceiptPlatform}

/-! ### What was reviewed -/

/-- The confirmation of the receipt is what a user saved of a review that was
shown. -/
structure Reviewed (P : StoragePlatform) (Q : ReceiptPlatform) (review : SiteConfirmationReview)
    (request : SaveSiteConfirmationRequest) (timestamp : Timestamp)
    (receipt : StoredAttemptReceipt) : Prop where
  named : request.receiptId = review.receiptId ∧ request.reviewId = review.reviewId
  receiptId : receipt.receiptId = review.receiptId
  inTime : timestamp < review.expiresAt
  /-- The page is where the attempt has led to by then. -/
  context : ∃ context ∈ receipt.confirmationContext, context.status = .completed ∧
    context.sequence = review.navigationSequence ∧ context.currentPageUrl = review.pageUrl ∧
      timestamp < context.expiresAt
  /-- A page of another origin was shown as such, and confirmed. -/
  originChange : review.pageUrl.origin ≠ receipt.origin →
    review.originChanged = true ∧ request.confirmOriginChange = true
  evidence : ∃ evidence ∈ receipt.siteConfirmationEvidence, evidence.pageUrl = review.pageUrl ∧
    evidence.pageTitle = review.pageTitle ∧ evidence.saveId = request.saveId ∧
      evidence.navigationSequence = review.navigationSequence ∧ evidence.savedAt = timestamp
  /-- The event says no more than the selection, and follows the attempt. -/
  event : ∃ event ∈ receipt.siteConfirmationEvent, ∃ confirmation message,
    event.core.body = .siteConfirmed confirmation ∧ confirmation.message = some message ∧
      isDeletionOnlyRedaction Q review.selectedText message = true ∧
      message = Protocol.normalizeText Q.toTextPlatform request.message ∧
      (∀ reference ∈ confirmation.reference,
        (indexOf reference review.selectedText).isSome = true) ∧
      confirmation.evidenceType = request.evidenceType ∧ confirmation.pageUrl = review.pageUrl ∧
      event.core.previousEventHash = receipt.event.eventHash ∧ event.core.occurredAt = timestamp ∧
      event.eventHash = hashEventCore P.keccak event.core

/-- A session shows what was read. -/
structure ConfirmationReviewSession.Coherent (session : ConfirmationReviewSession) : Prop where
  pageUrl : session.review.pageUrl = session.candidate.pageUrl
  pageTitle : session.review.pageTitle = session.candidate.pageTitle
  selectedText : session.review.selectedText = session.candidate.selectedText

theorem origin_of_parse {receipt : StoredAttemptReceipt} {event : LifecycleEventEnvelope}
    {evidence : StoredSiteConfirmationEvidence} (h : parseStoredAttemptReceipt P receipt = true)
    (hevent : receipt.siteConfirmationEvent = some event)
    (hevidence : receipt.siteConfirmationEvidence = some evidence) :
    evidence.originChangeConfirmed = decide (evidence.pageOrigin ≠ receipt.origin) := by
  unfold parseStoredAttemptReceipt at h
  rw [hevent] at h
  simp only [Bool.and_eq_true, hevidence, Option.any_some] at h
  obtain ⟨-, -, hevidence⟩ := h
  unfold parseSiteConfirmationEvidence at hevidence
  split at hevidence
  · simp only [Bool.and_eq_true, decide_eq_true_eq] at hevidence
    tauto
  · cases hevidence

theorem originConfirmed_of_checked {session : ConfirmationReviewSession}
    {request : SaveSiteConfirmationRequest} {answers : PageAnswers}
    (h : checkReviewedPage session request answers = .ok ()) :
    session.review.originChanged = true → request.confirmOriginChange = true := by
  unfold checkReviewedPage at h
  split at h
  · simp only [bind_eq_ok, revertIf_eq_ok, exists_const] at h
    obtain ⟨-, -, -, -, hconfirmed⟩ := h
    intro hchanged
    by_contra hnot
    exact hconfirmed ⟨hchanged, by simpa using hnot⟩
  · cases h

/-- **A confirmation that is stored was reviewed.** -/
theorem reviewed_of_stored {pending : PendingSave} {answers : PageAnswers} {written : Bool}
    {now : Timestamp} {stored : ExtensionLocalState} {update : ReceiptUpdate StoredAttemptReceipt}
    (hcoherent : pending.session.Coherent)
    (hnamed : pending.request.receiptId = pending.session.review.receiptId ∧
      pending.request.reviewId = pending.session.review.reviewId)
    (hinTime : pending.timestamp < pending.session.review.expiresAt)
    (hstored : Worker.step.reviewedSave P Q pending answers written now stored = .ok update)
    (hnew : update.deduplicated = false) :
    Reviewed P Q pending.session.review pending.request pending.timestamp update.receipt := by
  obtain ⟨hchecked, canonical, hcanonical, hstored⟩ := reviewedSave_ok hstored
  obtain ⟨hreceiptId, hsaveId, htype, hmessage, hredaction, hbounded, hfound⟩ :=
    canonicalSaveRequest_ok hcanonical
  obtain ⟨hold, -⟩ | ⟨existing, context, event, hexisting, -, hcontext, hevent, hreceipt, hparse,
    -⟩ := storeConfirmation_cases hstored
  · rw [hnew] at hold
    cases hold
  obtain ⟨hcontext, hreviewed⟩ := Option.filter_eq_some_iff.mp hcontext
  simp only [Bool.and_eq_true, decide_eq_true_eq, Bool.not_eq_true', confirmationContextIsExpired,
    decide_eq_false_iff_not, not_le] at hreviewed
  obtain ⟨⟨⟨⟨⟨⟨-, -⟩, -⟩, hsequence⟩, -⟩, hpage⟩, hunexpired⟩ := hreviewed
  obtain ⟨hprevious, -, hoccurred, hhash, reference, hreference, hbody⟩ :=
    createSiteConfirmationEvent_ok hevent
  obtain rfl := Except.ok.inj (hbounded.symm.trans hreference)
  have hid := List.find?_some hexisting
  rw [hreceipt] at hparse ⊢
  have horigin := origin_of_parse hparse rfl rfl
  constructor
  case named => exact hnamed
  case receiptId =>
    exact ((of_decide_eq_true hid).trans hreceiptId).trans hnamed.1
  case inTime => exact hinTime
  case context =>
    refine ⟨{ context with status := .completed }, ?_, rfl, hsequence, ?_, hunexpired⟩
    · exact Option.map_eq_some_iff.mpr ⟨context, hcontext, rfl⟩
    · exact hpage.trans hcoherent.pageUrl.symm
  case originChange =>
    intro hother
    have hchanged : pending.session.review.originChanged = true := by
      refine horigin.trans (decide_eq_true ?_)
      show pending.session.candidate.origin ≠ existing.origin
      rw [← pending.session.candidate.page_origin, ← hcoherent.pageUrl]
      exact hother
    exact ⟨hchanged, originConfirmed_of_checked hchecked hchanged⟩
  case evidence =>
    exact ⟨_, rfl, hcoherent.pageUrl.symm, hcoherent.pageTitle.symm, hsaveId, hsequence, rfl⟩
  case event =>
    have hnormal : Protocol.normalizeText Q.toTextPlatform canonical.message =
        canonical.message := by
      rw [hmessage]
      exact Protocol.normalizeText_normalizeText _
    refine ⟨event, rfl, _, canonical.message, hbody, congrArg some hnormal, ?_, hmessage, ?_, htype,
      hcoherent.pageUrl.symm, hprevious, hoccurred, hhash⟩
    · rw [hcoherent.selectedText]
      exact hredaction
    · rw [hcoherent.selectedText]
      exact hfound

/-! ### Runs -/

/-- What holds of the worker after the actions and the responses so far. -/
structure Worker.Sound (P : StoragePlatform) (Q : ReceiptPlatform) (actions : List Action)
    (responses : List Response) (worker : Worker) : Prop where
  orderly : worker.stored.Orderly
  bounded : Bounded worker.sessions
  sessions : ∀ session ∈ worker.sessions,
    session.Coherent ∧ Response.review session.review ∈ responses
  saving : ∀ pending ∈ worker.saving, (pending.session.Coherent ∧
      Response.review pending.session.review ∈ responses) ∧
    Action.beginSave pending.request pending.timestamp ∈ actions ∧
    pending.request.receiptId = pending.session.review.receiptId ∧
    pending.request.reviewId = pending.session.review.reviewId ∧
    pending.timestamp < pending.session.review.expiresAt
  confirmed : ∀ receipt ∈ worker.stored.receiptIndex, receipt.Confirmed →
    ∃ review request timestamp, Response.review review ∈ responses ∧
      Action.beginSave request timestamp ∈ actions ∧
      Reviewed P Q review request timestamp receipt

theorem Worker.Sound.mono {actions actions' : List Action} {responses responses' : List Response}
    {worker : Worker} (h : worker.Sound P Q actions responses)
    (hactions : actions ⊆ actions') (hresponses : responses ⊆ responses') :
    worker.Sound P Q actions' responses' where
  orderly := h.orderly
  bounded := h.bounded
  sessions session hsession := ⟨(h.sessions session hsession).1,
    hresponses (h.sessions session hsession).2⟩
  saving pending hpending := by
    obtain ⟨⟨hcoherent, hshown⟩, hasked, hnamed⟩ := h.saving pending hpending
    exact ⟨⟨hcoherent, hresponses hshown⟩, hactions hasked, hnamed⟩
  confirmed receipt hreceipt hconfirmed := by
    obtain ⟨review, request, timestamp, hshown, hasked, hreviewed⟩ :=
      h.confirmed receipt hreceipt hconfirmed
    exact ⟨review, request, timestamp, hresponses hshown, hactions hasked, hreviewed⟩

/-- **A step keeps the worker sound.** -/
theorem Worker.Sound.step {actions : List Action} {responses : List Response}
    {worker : Worker} (h : worker.Sound P Q actions responses) (action : Action) :
    (worker.step P Q action).next.Sound P Q (actions ++ [action])
      (responses ++ (worker.step P Q action).responses) := by
  have hlater := h.mono (List.subset_append_left actions [action])
    (List.subset_append_left responses (worker.step P Q action).responses)
  have hsessions : worker.Retains P Q action := Worker.step_sessions action
  have hcases := Worker.step_cases (P := P) (Q := Q) h.orderly action
  constructor
  case orderly =>
    rcases hcases with hpreserves | ⟨pending, -, _, _, _, update, hstored, hnew, hnext, -⟩
    · exact hpreserves.orderly
    · obtain ⟨-, canonical, -, hstored⟩ := reviewedSave_ok hstored
      rw [hnext]
      exact (storeConfirmation_orderly h.orderly hstored hnew).1
  case bounded =>
    rcases hsessions with hsub | ⟨prepared, timestamp, reviewId, -, hnext, -⟩
    · exact h.bounded.sublist hsub
    · rw [hnext]
      exact (h.bounded.sublist List.filter_sublist).store _
  case sessions =>
    intro session hsession
    rcases hsessions with hsub | ⟨prepared, timestamp, reviewId, -, hnext, hresponse⟩
    · exact hlater.sessions session (hsub.subset hsession)
    · rw [hnext] at hsession
      rcases mem_setSession hsession with rfl | hsession
      · refine ⟨⟨rfl, rfl, rfl⟩, List.mem_append_right _ ?_⟩
        rw [hresponse]
        exact List.mem_singleton_self _
      · exact hlater.sessions session
          (List.mem_of_mem_filter ((evictOldest_suffix _).subset hsession))
  case saving =>
    intro pending hpending
    rcases Worker.step_saving action pending hpending with hbefore | ⟨hsession, rfl, hnamed⟩
    · exact hlater.saving pending hbefore
    · refine ⟨hlater.sessions _ hsession, List.mem_append_right _ ?_, hnamed⟩
      exact List.mem_singleton_self _
  case confirmed =>
    intro receipt hreceipt hconfirmed
    rcases hcases with hpreserves | ⟨pending, hwaiting, answers, written, now, update, hstored,
      hnew, hnext, -⟩
    · exact hlater.confirmed receipt (hpreserves.old receipt hconfirmed hreceipt) hconfirmed
    · obtain ⟨-, canonical, -, hstore⟩ := reviewedSave_ok hstored
      obtain ⟨-, -, hsame, -⟩ := storeConfirmation_orderly h.orderly hstore hnew
      rw [hnext] at hreceipt
      rcases (hsame receipt hconfirmed).mp hreceipt with hbefore | rfl
      · exact hlater.confirmed receipt hbefore hconfirmed
      · obtain ⟨⟨hcoherent, hshown⟩, hasked, hreceiptId, hreviewId, hinTime⟩ :=
          hlater.saving pending hwaiting
        exact ⟨_, _, _, hshown, hasked,
          reviewed_of_stored hcoherent ⟨hreceiptId, hreviewId⟩ hinTime hstored hnew⟩

/-- **A run keeps the worker sound**, and calls the storage functions that leave
its receipts. -/
theorem Worker.Sound.run {actions : List Action} {responses : List Response}
    {worker : Worker} (h : worker.Sound P Q actions responses) (steps : List Action) :
    (worker.run P Q steps).next.Sound P Q (actions ++ steps)
        (responses ++ (worker.run P Q steps).responses) ∧
      (worker.run P Q steps).next.stored.receiptIndex =
        receiptsAfter (worker.run P Q steps).commands worker.stored.receiptIndex := by
  induction steps generalizing actions responses worker with
  | nil =>
    unfold Worker.run
    rw [List.append_nil, List.append_nil]
    exact ⟨h, rfl⟩
  | cons action rest ih =>
    obtain ⟨hrest, hreceipts⟩ := ih (h.step action)
    unfold Worker.run
    refine ⟨?_, ?_⟩
    · rw [List.append_assoc, List.append_assoc] at hrest
      exact hrest
    · refine hreceipts.trans ?_
      show _ = receiptsAfter (_ ++ _) _
      unfold receiptsAfter
      rw [List.foldl_append]
      refine congrArg (List.foldl _ · _) ?_
      rcases Worker.step_cases (P := P) (Q := Q) h.orderly action with
        hpreserves | ⟨pending, -, _, _, _, update, -, -, hnext, hcommands, -⟩
      · exact hpreserves.commands
      · rw [hnext, hcommands]
        rfl

theorem started_sound (P : StoragePlatform) (Q : ReceiptPlatform) (now : Timestamp) :
    (Worker.started (createInitialExtensionState now)).Sound P Q [] [] where
  orderly := ⟨.nil, fun _ hmem => absurd hmem List.not_mem_nil⟩
  bounded := ⟨Nat.zero_le _, .nil⟩
  sessions _ hmem := absurd hmem List.not_mem_nil
  saving _ hmem := absurd hmem List.not_mem_nil
  confirmed _ hmem := absurd hmem List.not_mem_nil

/-- After commands on an empty store, a load returns the receipts that they leave. -/
theorem loads_receipts {P : StoragePlatform} {commands : List StorageCommand} {w t : World P}
    (harea : w.area = .absent) (hvault : w.vault = .empty)
    (h : (runCommands commands).run (exec P) w = (.ok (), t)) (ensure : Option Bool)
    (now : Timestamp) :
    ∃ loaded s, (loadSecureExtensionState ensure now).run (exec P) t = (.ok loaded, s) ∧
      loaded.working.receiptIndex = receiptsAfter commands [] := by
  have hw : Stocked w [] [] := by
    refine ⟨fun id _ => ?_, .inr ⟨harea, hvault, rfl, rfl⟩⟩
    rw [hvault]
    exact ⟨rfl, rfl⟩
  obtain ⟨bundles, operations, ht, hreceipts⟩ := runCommands_stocked hw h
  obtain ⟨loaded, s, hload, hs, rfl, -⟩ := ht.load ensure now
  exact ⟨loaded, s, hload, hs.receipts.trans hreceipts⟩

/-- **A confirmation that is loaded was reviewed.**  The worker starts on an
empty store, and takes any steps; the storage functions that it calls are run. -/
theorem confirmations_reviewed (P : StoragePlatform) (Q : ReceiptPlatform) (start : Timestamp)
    (steps : List Action) {w t : World P} (harea : w.area = .absent) (hvault : w.vault = .empty)
    (h : (runCommands ((Worker.started (createInitialExtensionState start)).run P Q
      steps).commands).run (exec P) w = (.ok (), t)) :
    let outcome := (Worker.started (createInitialExtensionState start)).run P Q steps
    outcome.next.sessions.length ≤ MAX_CONFIRMATION_REVIEW_SESSIONS ∧
      ∀ ensure now, ∃ loaded s,
        (loadSecureExtensionState ensure now).run (exec P) t = (.ok loaded, s) ∧
          loaded.working.receiptIndex = outcome.next.stored.receiptIndex ∧
          ∀ receipt ∈ loaded.working.receiptIndex, receipt.siteConfirmationEvent.isSome = true →
            ∃ review request timestamp, Response.review review ∈ outcome.responses ∧
              Action.beginSave request timestamp ∈ steps ∧
              Reviewed P Q review request timestamp receipt := by
  intro outcome
  obtain ⟨hsound, hreceipts⟩ := (started_sound P Q start).run steps
  refine ⟨hsound.bounded.room, fun ensure now => ?_⟩
  obtain ⟨loaded, s, hload, hindex⟩ := loads_receipts harea hvault h ensure now
  have hsame : loaded.working.receiptIndex = outcome.next.stored.receiptIndex :=
    hindex.trans hreceipts.symm
  refine ⟨loaded, s, hload, hsame, fun receipt hreceipt hsome => ?_⟩
  rw [hsame] at hreceipt
  exact hsound.confirmed receipt hreceipt (hsound.orderly.confirmed receipt hreceipt hsome)

/-- A page of the site that the attempt led to. -/
def reviewedPage : PageEvidenceCandidate where
  documentInstanceId := 3
  origin := samplePage.origin
  pageUrl := { samplePage with pathname := ascii "/done" }
  page_origin := rfl
  page_safe := by decide
  pageTitle := .normalized (ascii "Done")
  selectedText := ascii "Your filing F-17 has been received."
  title_normalized := rfl
  title_short := by decide
  selection_short := by decide
  selection_visible := by decide

def reviewedSite : SupportedSite := ⟨1, samplePage.origin, reviewedPage.pageUrl, true⟩

/-- Most of the selection is left out. -/
def sampleRequest : SaveSiteConfirmationRequest :=
  ⟨false, .confirmationPage, ascii "filing received", 7, some (ascii "F-17"), 70, 8⟩

/-- An attempt is captured in a tab, a page is reviewed there, and the review is
saved while the session is cancelled. -/
def reviewSteps : List Action := [
  .captureAttempt (awaitedReceipt 7 1) true 5,
  .observePage 1 ⟨20, 3, .document, 6, samplePage.origin, reviewedPage.pageUrl⟩ true 6,
  .openReview 7 (some reviewedSite),
  .prepareReview 0 (some ⟨1, some (some reviewedPage.pageUrl)⟩) (some reviewedPage) 21 6 true 6,
  .keepReview 0 7 70,
  .beginSave sampleRequest 8,
  .cancelReview 7 70,
  .storeConfirmation 0 ⟨some ⟨1, some (some reviewedPage.pageUrl)⟩, true,
    some (some reviewedPage.toPageContextCandidate)⟩ true 9,
  .endSave 0]

def sampleWorker : Worker := .started (createInitialExtensionState 0)

theorem reviewSteps_run : ∃ t : World samplePlatform,
    (runCommands (sampleWorker.run samplePlatform Protocol.sampleReceiptPlatform
      reviewSteps).commands).run (exec samplePlatform) emptyWorld = (.ok (), t) := by
  obtain ⟨_, hok⟩ := exists_ok (x := ((runCommands (sampleWorker.run samplePlatform
    Protocol.sampleReceiptPlatform reviewSteps).commands).run (exec samplePlatform)
      emptyWorld).1) (by decide +kernel)
  exact ⟨_, Prod.ext hok rfl⟩

/-- The confirmation is loaded, and its review was shown. -/
theorem confirmations_reviewed_sample :
    ∃ (t : World samplePlatform) (loaded : _) (s : _) (receipt : _),
      (runCommands (sampleWorker.run samplePlatform Protocol.sampleReceiptPlatform
        reviewSteps).commands).run (exec samplePlatform) emptyWorld = (.ok (), t) ∧
      (loadSecureExtensionState none 15).run (exec samplePlatform) t = (.ok loaded, s) ∧
      receipt ∈ loaded.working.receiptIndex ∧
      ∃ review request timestamp, Action.beginSave request timestamp ∈ reviewSteps ∧
        Reviewed samplePlatform Protocol.sampleReceiptPlatform review request timestamp
          receipt := by
  obtain ⟨t, hrun⟩ := reviewSteps_run
  obtain ⟨-, hloads⟩ := confirmations_reviewed samplePlatform Protocol.sampleReceiptPlatform 0
    reviewSteps rfl rfl hrun
  obtain ⟨loaded, s, hload, hindex, hreviewed⟩ := hloads none 15
  have hsome : ((sampleWorker.run samplePlatform Protocol.sampleReceiptPlatform
      reviewSteps).next.stored.receiptIndex.any fun receipt =>
        receipt.siteConfirmationEvent.isSome) = true := by decide +kernel
  obtain ⟨receipt, hreceipt, hconfirmed⟩ := List.any_eq_true.mp hsome
  have hmem : receipt ∈ loaded.working.receiptIndex := hindex ▸ hreceipt
  obtain ⟨review, request, timestamp, -, hasked, hreview⟩ := hreviewed receipt hmem hconfirmed
  exact ⟨t, loaded, s, receipt, hrun, hload, hmem, review, request, timestamp, hasked, hreview⟩

end SubmittedIt.Extension
