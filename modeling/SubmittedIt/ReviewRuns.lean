/-
SubmittedIt/ReviewRuns.lean

The background worker while evidence is reviewed and saved.

The parts of the handlers follow one another in any order: tabs are closed,
sessions expire, are evicted or cancelled, attempts are captured, receipts are
imported and deleted, and the worker is restarted, while a review or a save
waits.  A step also tells which storage functions it called, and what it
answered.

`Worker.step_cases`, `step_sessions` and `step_saving` say once what a step does
to the receipts, to the sessions and to the saves that wait.
-/
import SubmittedIt.ConfirmationReviews
import SubmittedIt.ReceiptImports

namespace SubmittedIt.Extension

open ReceiptCore Transaction Utf8
open Protocol (ReceiptPlatform isDeletionOnlyRedaction)

/-! ### The worker -/

/-- What the worker stores, and what it keeps in memory. -/
structure Worker where
  stored : ExtensionLocalState
  sessions : Sessions
  opened : List OpenedReview
  prepared : List PreparedReview
  saving : List PendingSave
  /-- The reviews whose save has ended. -/
  ended : List OpaqueId

/-- A worker that has just been started. -/
def Worker.started (stored : ExtensionLocalState) : Worker := ⟨stored, [], [], [], [], []⟩

/-- What a handler does next, with what the browser and the store answer it. -/
inductive Action
  | openReview (receiptId : ReceiptId) (site : Option SupportedSite)
  | prepareReview (n : Nat) (tab : Option ActiveTab) (candidate : Option PageEvidenceCandidate)
      (observationId : OpaqueId) (observedAt : Timestamp) (written : Bool) (now : Timestamp)
  | keepReview (n : Nat) (timestamp : Timestamp) (reviewId : OpaqueId)
  | reviewTimer (session : ConfirmationReviewSession)
  | cancelReview (receiptId : ReceiptId) (reviewId : OpaqueId)
  | beginSave (request : SaveSiteConfirmationRequest) (timestamp : Timestamp)
  | storeConfirmation (n : Nat) (answers : PageAnswers) (written : Bool) (now : Timestamp)
  | endSave (n : Nat)
  | closeTab (tabId : Nat)
  | expireTab (tabId : Nat) (written : Bool) (now : Timestamp)
  | captureAttempt (receipt : StoredAttemptReceipt) (written : Bool) (now : Timestamp)
  | observePage (tabId : Nat) (request : NavigationObservation) (written : Bool) (now : Timestamp)
  | reconcilePage (site : SupportedSite) (timestamp : Timestamp) (observationId : OpaqueId)
      (written : Bool) (now : Timestamp)
  | updateSites (operation : SiteOperation) (relayNetworkOrigins : List Origin)
      (timestamp : Timestamp) (written : Bool) (now : Timestamp)
  | updateSettings (hasSeenWelcome : Bool) (settings : ExtensionSettings) (written : Bool)
      (now : Timestamp)
  | importReceipt (bundle : Option PrivateReceiptBundle) (publicKey : Option PublicKeyDescriptor)
      (replaceDuplicate : Bool) (now : Timestamp)
  | deleteReceipt (receiptId : ReceiptId) (now : Timestamp)
  | deleteAll (now : Timestamp)
  | clearSessions
  /-- A storage function that changes no receipt is called. -/
  | callStorage (command : StorageCommand) (keeps : ∀ stored, command.receipts stored = stored)
  | restart

/-- What a handler answers. -/
inductive Response
  | review (review : SiteConfirmationReview)
  | captured (receipt : StoredAttemptReceipt) (deduplicated : Bool)
  | saved (receipt : StoredAttemptReceipt) (deduplicated : Bool)
  | refused (error : BackgroundError)
  deriving DecidableEq

/-- The worker after a step, the storage functions that it called with success,
and what it answered. -/
structure Outcome where
  next : Worker
  commands : List StorageCommand
  responses : List Response

section machine

variable (P : StoragePlatform) (Q : ReceiptPlatform)

/-- The worker after a queued operation that saves at most once. -/
def Worker.save (worker : Worker) (now : Timestamp) :
    Except BackgroundError (Option ExtensionLocalState) → Outcome
  | .ok (some next) => ⟨{ worker with stored := next }, [.save next now], []⟩
  | .ok none => ⟨worker, [], []⟩
  | .error e => ⟨worker, [], [.refused e]⟩

/-- The worker after a storage function that replaces the receipts. -/
def Worker.replaceReceipts (worker : Worker) (now : Timestamp)
    (command : StorageCommand) : Except BackgroundError (List StoredAttemptReceipt) → Outcome
  | .ok receiptIndex =>
    ⟨{ worker with stored := { worker.stored with receiptIndex, updatedAt := now } },
      [command], []⟩
  | .error e => ⟨worker, [], [.refused e]⟩

/-- The queued operation of `handleCaptureAttempt`, with the state that it saved. -/
def captureAttempt (receipt : StoredAttemptReceipt) (written : Bool) (now : Timestamp)
    (state : ExtensionLocalState) :
    Except BackgroundError (Option ExtensionLocalState × ReceiptUpdate StoredAttemptReceipt) := do
  let appended ← rethrowAs (fun _ => .failure "CAPTURE_PERSIST_FAILED"
    "SubmittedIt could not safely persist this submission attempt. No receipt is claimed." true)
    (appendAttemptReceipt P state receipt)
  let saved ← saveIfNew P written now appended
  return (saved, appended)

/-- The context of a tab has expired, or an observation of it is recorded. -/
def observeContext (tabId : Nat) (timestamp : Timestamp) (request : NavigationObservation)
    (written : Bool) (now : Timestamp) (state : ExtensionLocalState) :
    Except BackgroundError (Option ExtensionLocalState) :=
  match activeReceiptForTab state tabId with
  | none => .ok none
  | some active =>
    match active.confirmationContext with
    | none => .ok none
    | some context =>
      if confirmationContextIsExpired context timestamp = true then
        (saveState P written now (expireConfirmationContext state active.receiptId)).map some
      else do
        let recorded ← rethrowAs .storage (recordNavigationObservation P state tabId request)
        saveIfNew P written now recorded

/-- `reconcileConfirmationContextForSite`. -/
def reconcileConfirmationContextForSite (site : SupportedSite) (timestamp : Timestamp)
    (observationId : OpaqueId) (written : Bool) (now : Timestamp) (state : ExtensionLocalState) :
    Except BackgroundError (Option ExtensionLocalState) :=
  match (activeReceiptForTab state site.tabId).bind (·.confirmationContext) with
  | none => .ok none
  | some context =>
    if confirmationContextIsExpired context timestamp = false ∧
        context.currentPageUrl = site.pageUrl then .ok none
    else
      observeContext P site.tabId timestamp ⟨observationId, context.documentInstanceId,
        .panelReconcile, timestamp, site.origin, site.pageUrl⟩ written now state

/-- The queued operation of `closeConfirmationContextForTab`. -/
def expireTab (tabId : Nat) (written : Bool) (now : Timestamp) (state : ExtensionLocalState) :
    Except BackgroundError (Option ExtensionLocalState) :=
  match activeReceiptForTab state tabId with
  | none => .ok none
  | some active =>
    (saveState P written now (expireConfirmationContext state active.receiptId)).map some

/-- The receipts after an import that succeeds. -/
def importReceipt (bundle : Option PrivateReceiptBundle) (publicKey : Option PublicKeyDescriptor)
    (replaceDuplicate : Bool) (state : ExtensionLocalState) :
    Except BackgroundError (List StoredAttemptReceipt) := do
  let imported ← rethrowAs (fun _ => importFailed) (importedPrivateReceiptBundle P bundle publicKey)
  revertIf ((state.receiptIndex.any fun receipt =>
      receipt.receiptId = imported.operational.receiptId) = true ∧ replaceDuplicate = false)
    (.failure "IMPORT_DUPLICATE"
      ("That receipt already exists in this profile. " ++
        "Confirm replacement to overwrite only that encrypted copy.") true)
  let receiptIndex := imported.operational :: state.receiptIndex.filter fun receipt =>
    receipt.receiptId ≠ imported.operational.receiptId
  revertIf (MAX_LOCAL_RECEIPTS < receiptIndex.length) importFailed
  return receiptIndex
where
  importFailed : BackgroundError := .failure "IMPORT_FAILED"
    ("SubmittedIt could not decrypt and verify that .submittedit package. " ++
      "Check the file and passphrase.") true

/-- The receipts after a deletion that succeeds. -/
def deleteReceipt (receiptId : ReceiptId) (state : ExtensionLocalState) :
    Except BackgroundError (List StoredAttemptReceipt) := do
  revertIf ((receiptById state receiptId).isNone = true)
    (.failure "DELETE_FAILED"
      "SubmittedIt could not delete that encrypted receipt and its local key." true)
  return state.receiptIndex.filter fun receipt => receipt.receiptId ≠ receiptId

/-- A step of the worker. -/
def Worker.step (worker : Worker) : Action → Outcome
  | .openReview receiptId site =>
    match Extension.openReview receiptId worker.stored site with
    | .ok opened => ⟨{ worker with opened := worker.opened ++ [opened] }, [], []⟩
    | .error e => ⟨worker, [], [.refused e]⟩
  | .prepareReview n tab candidate observationId observedAt written now =>
    match worker.opened[n]? with
    | none => ⟨worker, [], []⟩
    | some opened =>
      let worker := { worker with opened := worker.opened.eraseIdx n }
      match checkCandidate opened tab candidate with
      | .error e => ⟨worker, [], [.refused e]⟩
      | .ok candidate =>
        match Extension.prepareReview P opened.receiptId opened.site.tabId candidate observationId
            observedAt written now worker.stored with
        | .error e => ⟨worker, [], [.refused e]⟩
        | .ok (saved, prepared) =>
          { worker.save now (.ok saved) with
            next := { (worker.save now (.ok saved)).next with
              prepared := worker.prepared ++ [prepared] } }
  | .keepReview n timestamp reviewId =>
    match worker.prepared[n]? with
    | none => ⟨worker, [], []⟩
    | some prepared =>
      let session := prepared.session timestamp reviewId
      ⟨{ worker with
          prepared := worker.prepared.eraseIdx n
          sessions := storeReviewSession session
            (purgeExpiredReviewSessions timestamp worker.sessions) },
        [], [.review session.review]⟩
  | .reviewTimer session =>
    ⟨{ worker with sessions := expireSession session worker.sessions }, [], []⟩
  | .cancelReview receiptId reviewId =>
    ⟨{ worker with
        sessions := cancelSiteConfirmationReview receiptId reviewId worker.sessions }, [], []⟩
  | .beginSave request timestamp =>
    match Extension.beginSave request timestamp worker.stored worker.sessions with
    | (sessions, .error e) => ⟨{ worker with sessions }, [], [.refused e]⟩
    | (sessions, .ok none) =>
      ⟨{ worker with sessions }, [],
        ((receiptById worker.stored request.receiptId).map (Response.saved · true)).toList⟩
    | (sessions, .ok (some pending)) =>
      ⟨{ worker with sessions, saving := worker.saving ++ [pending] }, [], []⟩
  | .storeConfirmation n answers written now =>
    match worker.saving[n]? with
    | none => ⟨worker, [], []⟩
    | some pending =>
      let worker := { worker with saving := worker.saving.eraseIdx n }
      match reviewedSave pending answers written now worker.stored with
      | .error e => ⟨worker, [], [.refused e]⟩
      | .ok update =>
        ⟨{ worker with
            stored := update.state
            ended := worker.ended ++ [pending.request.reviewId] },
          if update.deduplicated then [] else [.save update.state now],
          [.saved update.receipt update.deduplicated]⟩
  | .endSave n =>
    match worker.ended[n]? with
    | none => ⟨worker, [], []⟩
    | some reviewId =>
      ⟨{ worker with
          ended := worker.ended.eraseIdx n
          sessions := deleteSession reviewId worker.sessions }, [], []⟩
  | .closeTab tabId =>
    ⟨{ worker with sessions := closeSessionsForTab tabId worker.sessions }, [], []⟩
  | .expireTab tabId written now =>
    worker.save now (Extension.expireTab P tabId written now worker.stored)
  | .captureAttempt receipt written now =>
    match Extension.captureAttempt P receipt written now worker.stored with
    | .error e => ⟨worker, [], [.refused e]⟩
    | .ok (saved, appended) =>
      { worker.save now (.ok saved) with
        responses := [.captured appended.receipt appended.deduplicated] }
  | .observePage tabId request written now =>
    worker.save now
      (observeContext P tabId request.observedAt request written now worker.stored)
  | .reconcilePage site timestamp observationId written now =>
    worker.save now (reconcileConfirmationContextForSite P site timestamp observationId written
      now worker.stored)
  | .updateSites operation relayNetworkOrigins timestamp written now =>
    worker.save now
      ((operation.attempt relayNetworkOrigins timestamp worker.stored).mapM
        (saveState P written now))
  | .updateSettings hasSeenWelcome settings written now =>
    worker.save now ((saveState P written now
      { worker.stored with hasSeenWelcome, settings }).map some)
  | .importReceipt bundle publicKey replaceDuplicate now =>
    worker.replaceReceipts now (.importBundle bundle replaceDuplicate now)
      (Extension.importReceipt P bundle publicKey replaceDuplicate worker.stored)
  | .deleteReceipt receiptId now =>
    worker.replaceReceipts now (.delete receiptId now)
      (Extension.deleteReceipt receiptId worker.stored)
  | .deleteAll now =>
    ⟨{ worker with stored := createInitialExtensionState now }, [.deleteAll now], []⟩
  | .clearSessions => ⟨{ worker with sessions := [] }, [], []⟩
  | .callStorage command _ => ⟨worker, [command], []⟩
  | .restart => ⟨.started worker.stored, [], []⟩
where
  /-- `saveSiteConfirmation`, from where it has waited. -/
  reviewedSave (pending : PendingSave) (answers : PageAnswers) (written : Bool) (now : Timestamp)
      (stored : ExtensionLocalState) :
      Except BackgroundError (ReceiptUpdate StoredAttemptReceipt) := do
    checkReviewedPage pending.session pending.request answers
    match canonicalSaveRequest Q pending.request pending.session.candidate.selectedText with
    | .error _ => .error (.failure "CONFIRMATION_REDACTION_INVALID"
        "Redaction may remove selected text but cannot add unobserved confirmation content." true)
    | .ok canonical =>
      Extension.storeConfirmation P Q pending.session canonical pending.timestamp written now stored

/-- A run of the worker. -/
def Worker.run (worker : Worker) : List Action → Outcome
  | [] => ⟨worker, [], []⟩
  | action :: actions =>
    let first := worker.step P Q action
    let rest := first.next.run actions
    ⟨rest.next, first.commands ++ rest.commands, first.responses ++ rest.responses⟩

end machine

variable {P : StoragePlatform} {Q : ReceiptPlatform}

/-! ### Confirmed receipts -/

/-- The receipt has its confirmation, and its context is completed. -/
structure StoredAttemptReceipt.Confirmed (receipt : StoredAttemptReceipt) : Prop where
  event : receipt.siteConfirmationEvent.isSome = true
  stage : receipt.currentStage = .siteConfirmed
  status : receipt.contextStatus = some .completed

/-- Each receipt is there once, and those with a confirmation are confirmed. -/
structure ExtensionLocalState.Orderly (state : ExtensionLocalState) : Prop where
  distinct : state.Distinct
  confirmed : ∀ receipt ∈ state.receiptIndex,
    receipt.siteConfirmationEvent.isSome = true → receipt.Confirmed

theorem ExtensionLocalState.Orderly.eq_of_receiptId {state : ExtensionLocalState}
    (h : state.Orderly) {first second : StoredAttemptReceipt} (hfirst : first ∈ state.receiptIndex)
    (hsecond : second ∈ state.receiptIndex) (hsame : first.receiptId = second.receiptId) :
    first = second :=
  List.inj_on_of_nodup_map (List.pairwise_map.mpr h.distinct) hfirst hsecond hsame

/-- An orderly state in which the confirmed receipts are the same, and every
attempt is still there. -/
structure ExtensionLocalState.Keeping (before after : ExtensionLocalState) : Prop where
  orderly : after.Orderly
  same : ∀ receipt : StoredAttemptReceipt, receipt.Confirmed →
    (receipt ∈ after.receiptIndex ↔ receipt ∈ before.receiptIndex)
  continued : ∀ receipt ∈ before.receiptIndex, ∃ later ∈ after.receiptIndex,
    later.toParsedAttemptBase = receipt.toParsedAttemptBase

theorem ExtensionLocalState.Orderly.keeping {state next : ExtensionLocalState} (h : state.Orderly)
    (hsame : next.receiptIndex = state.receiptIndex) : state.Keeping next := by
  refine ⟨⟨?_, ?_⟩, fun receipt _ => by rw [hsame], fun receipt hreceipt => ?_⟩
  · unfold ExtensionLocalState.Distinct
    rw [hsame]
    exact h.distinct
  · rw [hsame]
    exact h.confirmed
  · rw [hsame]
    exact ⟨receipt, hreceipt, rfl⟩

theorem StoredAttemptReceipt.Confirmed.not_activeIn {receipt : StoredAttemptReceipt}
    (h : receipt.Confirmed) (tabId : Nat) : receipt.activeIn tabId = false := by
  rw [Bool.eq_false_iff]
  intro hactive
  have hstatus := h.status.symm.trans (activeIn_status hactive)
  cases hstatus

/-- **Receipts without a confirmation may change**, as long as they get none. -/
theorem ExtensionLocalState.Orderly.map {state next : ExtensionLocalState} (h : state.Orderly)
    {f : StoredAttemptReceipt → StoredAttemptReceipt}
    (hnext : next.receiptIndex = state.receiptIndex.map f)
    (hbase : ∀ receipt ∈ state.receiptIndex,
      (f receipt).toParsedAttemptBase = receipt.toParsedAttemptBase)
    (hf : ∀ receipt ∈ state.receiptIndex, f receipt = receipt ∨
      receipt.siteConfirmationEvent = none ∧ (f receipt).siteConfirmationEvent = none) :
    state.Keeping next := by
  have hfixed : ∀ receipt ∈ state.receiptIndex, (f receipt).siteConfirmationEvent.isSome = true →
      f receipt = receipt := by
    intro receipt hreceipt hsome
    rcases hf receipt hreceipt with hsame | ⟨-, hnone⟩
    · exact hsame
    · rw [hnone] at hsome
      cases hsome
  refine ⟨⟨?_, ?_⟩, fun receipt hconfirmed => ?_, fun receipt hreceipt => ?_⟩
  · unfold ExtensionLocalState.Distinct
    rw [hnext, List.pairwise_map]
    refine List.Pairwise.imp_of_mem (fun hfirst hsecond hne => ?_) h.distinct
    rw [hbase _ hfirst, hbase _ hsecond]
    exact hne
  · intro receipt hreceipt hsome
    rw [hnext] at hreceipt
    obtain ⟨before, hbefore, rfl⟩ := List.mem_map.mp hreceipt
    have hfix := hfixed before hbefore hsome
    rw [hfix] at hsome ⊢
    exact h.confirmed before hbefore hsome
  · rw [hnext, List.mem_map]
    constructor
    · rintro ⟨before, hbefore, rfl⟩
      rw [hfixed before hbefore hconfirmed.event]
      exact hbefore
    · intro hreceipt
      refine ⟨receipt, hreceipt, ?_⟩
      rcases hf receipt hreceipt with hsame | ⟨hnone, -⟩
      · exact hsame
      · have hsome := hconfirmed.event
        rw [hnone] at hsome
        cases hsome
  · rw [hnext]
    exact ⟨f receipt, List.mem_map_of_mem hreceipt, hbase receipt hreceipt⟩

/-- A receipt without a confirmation is put in front. -/
theorem ExtensionLocalState.Keeping.cons {before state next : ExtensionLocalState}
    (h : before.Keeping state) {receipt : StoredAttemptReceipt}
    (hnext : next.receiptIndex = receipt :: state.receiptIndex)
    (hnew : ∀ other ∈ state.receiptIndex, receipt.receiptId ≠ other.receiptId)
    (hnone : receipt.siteConfirmationEvent = none) : before.Keeping next := by
  refine ⟨⟨?_, ?_⟩, fun other hconfirmed => ?_, fun other hother => ?_⟩
  · unfold ExtensionLocalState.Distinct
    rw [hnext]
    exact List.pairwise_cons.mpr ⟨hnew, h.orderly.distinct⟩
  · intro other hother hsome
    rw [hnext] at hother
    rcases List.mem_cons.mp hother with rfl | hother
    · rw [hnone] at hsome
      cases hsome
    · exact h.orderly.confirmed other hother hsome
  · rw [hnext, List.mem_cons, h.same other hconfirmed]
    refine or_iff_right fun hsame => ?_
    have hsome := hconfirmed.event
    rw [hsame, hnone] at hsome
    cases hsome
  · obtain ⟨later, hlater, hbase⟩ := h.continued other hother
    rw [hnext]
    exact ⟨later, List.mem_cons_of_mem _ hlater, hbase⟩

/-! ### What the operations keep -/

section operations

variable {state next : ExtensionLocalState} {written : Bool} {now : Timestamp}

theorem expire_keeping (h : state.Orderly) (receiptId : ReceiptId) :
    state.Keeping (expireConfirmationContext state receiptId) := by
  apply h.map (f := fun receipt =>
    if receipt.receiptId = receiptId ∧ receipt.contextStatus = some .active then
      receipt.withContextStatus .expired else receipt) rfl
  · intro receipt _
    split <;> rfl
  · intro receipt hreceipt
    split
    · next hactive =>
      refine .inr ?_
      rcases hsite : receipt.siteConfirmationEvent with - | event
      · exact ⟨rfl, hsite⟩
      · have hstatus := (h.confirmed receipt hreceipt (by rw [hsite]; rfl)).status
        rw [hactive.2] at hstatus
        cases hstatus
    · exact .inl rfl

theorem record_keeping (h : state.Orderly) {tabId : Nat} {request : NavigationObservation}
    {recorded : RecordedObservation}
    (hrecorded : recordNavigationObservation P state tabId request = .ok recorded) :
    state.Keeping recorded.state := by
  obtain ⟨-, hsame⟩ | ⟨active, context, hactive, hcontext, rfl⟩ :=
    recordNavigationObservation_cases hrecorded
  · rw [hsame]
    exact h.keeping rfl
  · have hmem : active ∈ state.receiptIndex := List.mem_of_find?_eq_some hactive
    have hnone : active.siteConfirmationEvent = none := by
      rcases hsite : active.siteConfirmationEvent with - | event
      · rfl
      · have hin := isActiveFor_of_active hactive
        unfold StoredAttemptReceipt.isActiveFor at hin
        rw [(h.confirmed active hmem (by rw [hsite]; rfl)).not_activeIn, Bool.and_false] at hin
        cases hin
    apply h.map (f := fun receipt => if receipt.receiptId = active.receiptId then
      { active with confirmationContext := some (context.observe request) } else receipt) rfl
    · intro receipt hreceipt
      split
      · next hsame => rw [h.eq_of_receiptId hreceipt hmem hsame]
      · rfl
    · intro receipt hreceipt
      split
      · next hsame =>
        rw [h.eq_of_receiptId hreceipt hmem hsame]
        exact .inr ⟨hnone, hnone⟩
      · exact .inl rfl

theorem append_keeping (h : state.Orderly) {receipt : StoredAttemptReceipt}
    {appended : ReceiptUpdate StoredAttemptReceipt}
    (happended : appendAttemptReceipt P state receipt = .ok appended)
    (hnew : appended.deduplicated = false) : state.Keeping appended.state := by
  obtain ⟨hparse, hattempted, ⟨hdeduplicated, -⟩ | ⟨hunknown, -, -, hindex⟩⟩ :=
    appendAttemptReceipt_cases happended
  · rw [hnew] at hdeduplicated
    cases hdeduplicated
  have hnone := (validReceipt_of_parse hparse).attempted hattempted
  have hbase : ∀ candidate : StoredAttemptReceipt,
      (if ∃ context ∈ receipt.confirmationContext, candidate.activeIn context.tabId = true then
        candidate.withContextStatus .superseded else candidate).toParsedAttemptBase =
      candidate.toParsedAttemptBase := by
    intro candidate
    split <;> rfl
  have hsuperseded : state.Keeping { state with receiptIndex := state.receiptIndex.map _ } :=
    h.map rfl (fun candidate _ => hbase candidate) ?_
  · refine hsuperseded.cons hindex (fun other hother => ?_) hnone
    obtain ⟨candidate, hcandidate, rfl⟩ := List.mem_map.mp hother
    rw [hbase]
    exact hunknown candidate hcandidate
  · intro candidate hcandidate
    split
    · next hactive =>
      obtain ⟨context, -, hactive⟩ := hactive
      refine .inr ?_
      rcases hsite : candidate.siteConfirmationEvent with - | event
      · exact ⟨rfl, hsite⟩
      · have hconfirmed := h.confirmed candidate hcandidate (by rw [hsite]; rfl)
        rw [hconfirmed.not_activeIn] at hactive
        cases hactive
    · exact .inl rfl

theorem ExtensionLocalState.Keeping.updatedAt {before after : ExtensionLocalState}
    (h : before.Keeping after) (now : Timestamp) :
    before.Keeping { after with updatedAt := now } :=
  ⟨⟨h.orderly.distinct, h.orderly.confirmed⟩, h.same, h.continued⟩

/-- **Each operation that saves at most once** keeps the confirmed receipts. -/
theorem saveIfNew_keeping {ρ : Type} {x : Except StorageError (ReceiptUpdate ρ)}
    (h : ∀ update, x = .ok update → update.deduplicated = false → state.Keeping update.state)
    (hsaved : (do saveIfNew P written now (← rethrowAs .storage x)) = .ok (some next)) :
    state.Keeping next := by
  obtain ⟨update, hupdate, hsaved⟩ := bind_eq_ok.mp hsaved
  rw [rethrowAs_eq_ok] at hupdate
  obtain ⟨-, hnone⟩ | ⟨hnew, hsome⟩ := saveIfNew_ok hsaved
  · cases hnone
  · rw [Option.some.inj hsome]
    exact (h update hupdate hnew).updatedAt now

theorem saveState_keeping {after : ExtensionLocalState} (h : state.Keeping after)
    (hsaved : (saveState P written now after).map some = .ok (some next)) :
    state.Keeping next := by
  rcases hsave : saveState P written now after with e | saved
  · rw [hsave] at hsaved
    cases hsaved
  · rw [hsave] at hsaved
    obtain rfl := Option.some.inj (Except.ok.inj hsaved)
    obtain ⟨-, rfl⟩ := saveState_eq_ok.mp hsave
    exact h.updatedAt now

/-- **A capture** that is reported is stored. -/
theorem captureAttempt_keeping (h : state.Orderly) {receipt : StoredAttemptReceipt}
    {saved : Option ExtensionLocalState} {appended : ReceiptUpdate StoredAttemptReceipt}
    (hcaptured : captureAttempt P receipt written now state = .ok (saved, appended)) :
    state.Keeping (saved.getD state) ∧ appended.receipt ∈ (saved.getD state).receiptIndex := by
  obtain ⟨appended', happended, hcaptured⟩ := bind_eq_ok.mp hcaptured
  obtain ⟨saved', hsaved, hcaptured⟩ := bind_eq_ok.mp hcaptured
  obtain ⟨rfl, rfl⟩ := Prod.ext_iff.mp (Except.ok.inj hcaptured)
  rw [rethrowAs_eq_ok] at happended
  obtain ⟨-, -, ⟨hold, hmem⟩ | ⟨-, hreceipt, hnew, hindex⟩⟩ := appendAttemptReceipt_cases happended
  · obtain ⟨-, rfl⟩ | ⟨hnew, -⟩ := saveIfNew_ok hsaved
    · exact ⟨h.keeping rfl, hmem⟩
    · rw [hold] at hnew
      cases hnew
  · obtain ⟨hold, -⟩ | ⟨-, rfl⟩ := saveIfNew_ok hsaved
    · rw [hnew] at hold
      cases hold
    · refine ⟨(append_keeping h happended hnew).updatedAt now, ?_⟩
      show appended'.receipt ∈ appended'.state.receiptIndex
      rw [hindex, hreceipt]
      exact List.mem_cons_self

theorem observeContext_keeping (h : state.Orderly) {tabId : Nat} {timestamp : Timestamp}
    {request : NavigationObservation}
    (hsaved : observeContext P tabId timestamp request written now state = .ok (some next)) :
    state.Keeping next := by
  unfold observeContext at hsaved
  split at hsaved
  · cases hsaved
  · split at hsaved
    · cases hsaved
    · split_ifs at hsaved
      · exact saveState_keeping (expire_keeping h _) hsaved
      · exact saveIfNew_keeping (fun _ hupdate _ => record_keeping h hupdate) hsaved

theorem reconcile_keeping (h : state.Orderly) {site : SupportedSite} {timestamp : Timestamp}
    {observationId : OpaqueId}
    (hsaved : reconcileConfirmationContextForSite P site timestamp observationId written now state =
      .ok (some next)) : state.Keeping next := by
  unfold reconcileConfirmationContextForSite at hsaved
  split at hsaved
  · cases hsaved
  · split_ifs at hsaved
    · cases hsaved
    · exact observeContext_keeping h hsaved

theorem expireTab_keeping (h : state.Orderly) {tabId : Nat}
    (hsaved : expireTab P tabId written now state = .ok (some next)) : state.Keeping next := by
  unfold expireTab at hsaved
  split at hsaved
  · cases hsaved
  · exact saveState_keeping (expire_keeping h _) hsaved

/-- **A confirmation** is added to one receipt; the confirmed ones stay. -/
theorem storeConfirmation_orderly (h : state.Orderly) {session : ConfirmationReviewSession}
    {canonical : SaveSiteConfirmationRequest} {timestamp : Timestamp}
    {update : ReceiptUpdate StoredAttemptReceipt}
    (hstored : storeConfirmation P Q session canonical timestamp written now state = .ok update)
    (hnew : update.deduplicated = false) :
    update.state.Orderly ∧ update.receipt.Confirmed ∧
      (∀ receipt : StoredAttemptReceipt, receipt.Confirmed →
        (receipt ∈ update.state.receiptIndex ↔
          receipt ∈ state.receiptIndex ∨ receipt = update.receipt)) ∧
      ∀ receipt ∈ state.receiptIndex, ∃ later ∈ update.state.receiptIndex,
        later.toParsedAttemptBase = receipt.toParsedAttemptBase := by
  obtain ⟨hdeduplicated, -⟩ | ⟨existing, context, event, hexisting, hnone, hcontext, -, hreceipt, -,
    -, hstate⟩ := storeConfirmation_cases hstored
  · rw [hnew] at hdeduplicated
    cases hdeduplicated
  have hmem : existing ∈ state.receiptIndex := List.mem_of_find?_eq_some hexisting
  have hcontext := (Option.filter_eq_some_iff.mp hcontext).1
  have hconfirmed : update.receipt.Confirmed := by
    rw [hreceipt]
    refine ⟨rfl, rfl, ?_⟩
    simp [StoredAttemptReceipt.contextStatus, StoredAttemptReceipt.withContextStatus, hcontext]
  have hbase : update.receipt.toParsedAttemptBase = existing.toParsedAttemptBase := by
    rw [hreceipt]
    rfl
  have hid : update.receipt.receiptId = existing.receiptId :=
    congrArg ParsedAttemptBase.receiptId hbase
  have hindex : update.state.receiptIndex = state.receiptIndex.map fun candidate =>
      if candidate.receiptId = existing.receiptId then update.receipt else candidate := by
    rw [hstate]
    rfl
  refine ⟨⟨?_, ?_⟩, hconfirmed, fun receipt hreceipt' => ?_, fun receipt hmem' => ?_⟩
  · have hdistinct := replace_distinct h.distinct update.receipt
    unfold ExtensionLocalState.Distinct at hdistinct ⊢
    rw [hindex, ← hid]
    exact hdistinct
  · intro receipt hreceipt' hsome
    rw [hindex] at hreceipt'
    obtain ⟨before, hbefore, rfl⟩ := List.mem_map.mp hreceipt'
    split_ifs at hsome ⊢
    · exact hconfirmed
    · exact h.confirmed before hbefore hsome
  · rw [hindex, List.mem_map]
    constructor
    · rintro ⟨before, hbefore, rfl⟩
      split_ifs
      · exact .inr rfl
      · exact .inl hbefore
    · rintro (hbefore | rfl)
      · refine ⟨receipt, hbefore, if_neg fun hsame => ?_⟩
        have hsome := hreceipt'.event
        rw [h.eq_of_receiptId hbefore hmem hsame, hnone] at hsome
        cases hsome
      · exact ⟨existing, hmem, if_pos rfl⟩
  · rw [hindex]
    refine ⟨_, List.mem_map_of_mem hmem', ?_⟩
    split
    · next hsame =>
      rw [h.eq_of_receiptId hmem' hmem hsame]
      exact hbase
    · rfl

/-- Receipts are left out. -/
theorem ExtensionLocalState.Orderly.filter (h : state.Orderly) (p : StoredAttemptReceipt → Bool) :
    ({ state with receiptIndex := state.receiptIndex.filter p } : ExtensionLocalState).Orderly :=
  ⟨h.distinct.filter p, fun receipt hreceipt =>
    h.confirmed receipt (List.mem_of_mem_filter hreceipt)⟩

theorem importReceipt_ok {bundle : Option PrivateReceiptBundle}
    {publicKey : Option PublicKeyDescriptor} {replaceDuplicate : Bool}
    {receiptIndex : List StoredAttemptReceipt}
    (h : importReceipt P bundle publicKey replaceDuplicate state = .ok receiptIndex) :
    ∃ given, bundle = some given ∧
      (supersedeContext given.operational).siteConfirmationEvent = none ∧
      receiptIndex = supersedeContext given.operational :: state.receiptIndex.filter fun receipt =>
        receipt.receiptId ≠ given.operational.receiptId := by
  unfold importReceipt at h
  simp only [bind_eq_ok, rethrowAs_eq_ok, revertIf_eq_ok] at h
  obtain ⟨imported, himported, _, -, _, -, h⟩ := h
  obtain rfl := Except.ok.inj h
  obtain ⟨hverified, hattempted⟩ := imported_attempted himported
  obtain ⟨given, rfl, -, -, -, rfl⟩ := imported_eq_ok.mp himported
  exact ⟨given, rfl, (validReceipt_of_parse hverified.operational).attempted hattempted, rfl⟩

end operations

/-! ### Steps -/

/-- A save that waits has found its session, before the session's end. -/
theorem beginSave_found {request : SaveSiteConfirmationRequest} {timestamp : Timestamp}
    {state : ExtensionLocalState} {sessions sessions' : Sessions} {pending : PendingSave}
    (h : beginSave request timestamp state sessions = (sessions', .ok (some pending))) :
    pending.session ∈ sessions ∧
      Action.beginSave request timestamp = .beginSave pending.request pending.timestamp ∧
      pending.request.receiptId = pending.session.review.receiptId ∧
      pending.request.reviewId = pending.session.review.reviewId ∧
      pending.timestamp < pending.session.review.expiresAt := by
  have hlook : beginSave.lookUp request timestamp sessions = (sessions', .ok (some pending)) := by
    unfold beginSave at h
    split at h
    · split at h
      · obtain ⟨_, -, h⟩ := bind_eq_ok.mp (Prod.ext_iff.mp h).2
        cases Except.ok.inj h
      · exact h
    · exact h
  unfold beginSave.lookUp at hlook
  have hfound := (Prod.ext_iff.mp hlook).2
  dsimp only at hfound
  split at hfound
  · next session hsession =>
    obtain rfl := Option.some.inj (Except.ok.inj hfound)
    obtain ⟨hget, hreceipt⟩ := Option.filter_eq_some_iff.mp hsession
    obtain ⟨hmem, hexpires⟩ := List.mem_filter.mp (List.mem_of_find?_eq_some hget)
    have hid := List.find?_some hget
    exact ⟨hmem, rfl, (of_decide_eq_true hreceipt).symm, (of_decide_eq_true hid).symm,
      of_decide_eq_true hexpires⟩
  · cases hfound

/-- A save that is stored has passed the checks. -/
theorem reviewedSave_ok {pending : PendingSave} {answers : PageAnswers} {written : Bool}
    {now : Timestamp} {stored : ExtensionLocalState} {update : ReceiptUpdate StoredAttemptReceipt}
    (h : Worker.step.reviewedSave P Q pending answers written now stored = .ok update) :
    checkReviewedPage pending.session pending.request answers = .ok () ∧
      ∃ canonical, canonicalSaveRequest Q pending.request pending.session.candidate.selectedText =
          .ok canonical ∧
        storeConfirmation P Q pending.session canonical pending.timestamp written now stored =
          .ok update := by
  obtain ⟨_, hchecked, h⟩ := bind_eq_ok.mp h
  split at h
  · cases h
  · next canonical hcanonical => exact ⟨hchecked, canonical, hcanonical, h⟩

theorem withSites_receipts {state after : ExtensionLocalState} {sites : Sites}
    (h : state.withSites sites = some after) : after.receiptIndex = state.receiptIndex := by
  unfold ExtensionLocalState.withSites at h
  split_ifs at h
  rw [← Option.some.inj h]

/-- The receipts that an action may take away. -/
def Action.drops : Action → ReceiptId → Prop
  | .importReceipt bundle _ _ _, receiptId =>
    ∃ given ∈ bundle, given.operational.receiptId = receiptId
  | .deleteReceipt deleted _, receiptId => deleted = receiptId
  | .deleteAll _, _ => True
  | _, _ => False

/-- What the steps that confirm nothing leave as it is. -/
structure Worker.Preserves (worker : Worker) (drops : ReceiptId → Prop)
    (outcome : Outcome) : Prop where
  orderly : outcome.next.stored.Orderly
  old : ∀ receipt : StoredAttemptReceipt, receipt.Confirmed →
    receipt ∈ outcome.next.stored.receiptIndex → receipt ∈ worker.stored.receiptIndex
  kept : ∀ receipt : StoredAttemptReceipt, receipt.Confirmed →
    receipt ∈ worker.stored.receiptIndex → ¬drops receipt.receiptId →
      receipt ∈ outcome.next.stored.receiptIndex
  continued : ∀ receipt ∈ worker.stored.receiptIndex, ¬drops receipt.receiptId →
    ∃ later ∈ outcome.next.stored.receiptIndex,
      later.toParsedAttemptBase = receipt.toParsedAttemptBase
  commands : outcome.next.stored.receiptIndex =
    receiptsAfter outcome.commands worker.stored.receiptIndex

/-- What the step that confirms a receipt does. -/
structure Worker.Confirms (P : StoragePlatform) (Q : ReceiptPlatform) (worker : Worker)
    (pending : PendingSave) (outcome : Outcome) : Prop where
  waiting : pending ∈ worker.saving
  stored : ∃ answers written now update, Worker.step.reviewedSave P Q pending answers written now
      worker.stored = .ok update ∧ update.deduplicated = false ∧
    outcome.next.stored = update.state ∧ outcome.commands = [.save update.state now] ∧
    outcome.responses = [.saved update.receipt false]

section steps

variable {worker : Worker}

theorem Worker.preserves_of_keeping {outcome : Outcome} {drops : ReceiptId → Prop}
    (h : worker.stored.Keeping outcome.next.stored)
    (hcommands : outcome.next.stored.receiptIndex =
      receiptsAfter outcome.commands worker.stored.receiptIndex) :
    worker.Preserves drops outcome :=
  ⟨h.orderly, fun receipt hconfirmed => (h.same receipt hconfirmed).mp,
    fun receipt hconfirmed hmem _ => (h.same receipt hconfirmed).mpr hmem,
    fun receipt hmem _ => h.continued receipt hmem, hcommands⟩

/-- Nothing is stored. -/
theorem Worker.preserves_of_stored (h : worker.stored.Orderly) {outcome : Outcome}
    {drops : ReceiptId → Prop} (hstored : outcome.next.stored = worker.stored)
    (hcommands : outcome.commands = []) : worker.Preserves drops outcome := by
  apply Worker.preserves_of_keeping
  · exact h.keeping (by rw [hstored])
  · rw [hstored, hcommands]
    rfl

theorem Worker.preserves_save (h : worker.stored.Orderly) {drops : ReceiptId → Prop}
    {now : Timestamp} {result : Except BackgroundError (Option ExtensionLocalState)}
    (hresult : ∀ next, result = .ok (some next) → worker.stored.Keeping next) :
    worker.Preserves drops (worker.save now result) := by
  rcases result with e | next
  · exact Worker.preserves_of_stored h rfl rfl
  · rcases next with - | next
    · exact Worker.preserves_of_stored h rfl rfl
    · exact Worker.preserves_of_keeping (hresult next rfl) rfl

/-- **What a step does to the receipts**: it confirms one, or it confirms none
and leaves the confirmed ones, as far as it does not drop them. -/
theorem Worker.step_cases (h : worker.stored.Orderly) (action : Action) :
    worker.Preserves action.drops (worker.step P Q action) ∨
      ∃ pending, worker.Confirms P Q pending (worker.step P Q action) := by
  cases action with
  | openReview receiptId site =>
    refine .inl (Worker.preserves_of_stored h ?_ ?_)
    all_goals
      unfold Worker.step
      dsimp only
      split <;> rfl
  | prepareReview n tab candidate observationId observedAt written now =>
    refine .inl ?_
    unfold Worker.step
    dsimp only
    split
    · exact Worker.preserves_of_stored h rfl rfl
    · split
      · exact Worker.preserves_of_stored h rfl rfl
      · split
        · exact Worker.preserves_of_stored h rfl rfl
        · next saved prepared hprepared =>
          obtain ⟨-, hsaved⟩ := prepareReview_cases hprepared
          rcases saved with - | next
          · exact Worker.preserves_of_stored h rfl rfl
          · obtain ⟨recorded, hrecorded, -, rfl⟩ := hsaved next rfl
            exact Worker.preserves_of_keeping ((record_keeping h hrecorded).updatedAt now) rfl
  | keepReview n timestamp reviewId =>
    refine .inl (Worker.preserves_of_stored h ?_ ?_)
    all_goals
      unfold Worker.step
      dsimp only
      split <;> rfl
  | reviewTimer session => exact .inl (Worker.preserves_of_stored h rfl rfl)
  | cancelReview receiptId reviewId => exact .inl (Worker.preserves_of_stored h rfl rfl)
  | beginSave request timestamp =>
    refine .inl (Worker.preserves_of_stored h ?_ ?_)
    all_goals
      unfold Worker.step
      dsimp only
      split <;> rfl
  | storeConfirmation n answers written now =>
    unfold Worker.step
    dsimp only
    split
    · exact .inl (Worker.preserves_of_stored h rfl rfl)
    · next pending hpending =>
      split
      · exact .inl (Worker.preserves_of_stored h rfl rfl)
      · next update hupdate =>
        rcases hnew : update.deduplicated with - | -
        · exact .inr ⟨pending, List.mem_of_getElem? hpending, answers, written, now, update,
            hupdate, hnew, rfl, by simp, by simp⟩
        · obtain ⟨-, canonical, -, hstored⟩ := reviewedSave_ok hupdate
          obtain ⟨-, hsame, -⟩ | ⟨_, _, _, -, -, -, -, -, -, hold, -⟩ :=
            storeConfirmation_cases hstored
          · exact .inl (Worker.preserves_of_stored h hsame (by simp))
          · rw [hnew] at hold
            cases hold
  | endSave n =>
    refine .inl (Worker.preserves_of_stored h ?_ ?_)
    all_goals
      unfold Worker.step
      dsimp only
      split <;> rfl
  | closeTab tabId => exact .inl (Worker.preserves_of_stored h rfl rfl)
  | expireTab tabId written now =>
    exact .inl (Worker.preserves_save h fun _ => expireTab_keeping h)
  | captureAttempt receipt written now =>
    refine .inl ?_
    unfold Worker.step
    dsimp only
    split
    · exact Worker.preserves_of_stored h rfl rfl
    · next saved appended hcaptured =>
      have hkeeping := (captureAttempt_keeping h hcaptured).1
      rcases saved with - | next
      · exact Worker.preserves_of_stored h rfl rfl
      · exact Worker.preserves_of_keeping hkeeping rfl
  | observePage tabId request written now =>
    exact .inl (Worker.preserves_save h fun _ => observeContext_keeping h)
  | reconcilePage site timestamp observationId written now =>
    exact .inl (Worker.preserves_save h fun _ => reconcile_keeping h)
  | updateSites operation relayNetworkOrigins timestamp written now =>
    refine .inl (Worker.preserves_save h fun next hnext => ?_)
    rcases hattempt : operation.attempt relayNetworkOrigins timestamp worker.stored with - | after
    · rw [hattempt] at hnext
      cases hnext
    · rw [hattempt] at hnext
      refine saveState_keeping (h.keeping ?_) hnext
      exact withSites_receipts hattempt
  | updateSettings hasSeenWelcome settings written now =>
    exact .inl (Worker.preserves_save h fun _ => saveState_keeping (h.keeping rfl))
  | importReceipt bundle publicKey replaceDuplicate now =>
    refine .inl ?_
    unfold Worker.step Worker.replaceReceipts
    dsimp only
    split
    · next receiptIndex hindex =>
      obtain ⟨given, rfl, hnone, rfl⟩ := importReceipt_ok hindex
      have hkept := h.filter fun receipt => receipt.receiptId ≠ given.operational.receiptId
      have himported : ExtensionLocalState.Keeping _ { worker.stored with
          receiptIndex := supersedeContext given.operational ::
            worker.stored.receiptIndex.filter fun receipt =>
              receipt.receiptId ≠ given.operational.receiptId
          updatedAt := now } :=
        (hkept.keeping rfl).cons rfl
          (fun other hother hsame => of_decide_eq_true (List.mem_filter.mp hother).2 hsame.symm)
          hnone
      have hleft : ∀ receipt ∈ worker.stored.receiptIndex,
          ¬Action.drops (.importReceipt (some given) publicKey replaceDuplicate now)
            receipt.receiptId →
          receipt ∈ worker.stored.receiptIndex.filter fun receipt =>
            receipt.receiptId ≠ given.operational.receiptId := by
        intro receipt hmem hdrops
        exact List.mem_filter.mpr
          ⟨hmem, decide_eq_true fun hsame => hdrops ⟨given, rfl, hsame.symm⟩⟩
      refine ⟨himported.orderly, fun receipt hconfirmed hmem => ?_,
        fun receipt hconfirmed hmem hdrops => ?_, fun receipt hmem hdrops => ?_, rfl⟩
      · exact List.mem_of_mem_filter ((himported.same receipt hconfirmed).mp hmem)
      · exact (himported.same receipt hconfirmed).mpr (hleft receipt hmem hdrops)
      · exact ⟨receipt, List.mem_cons_of_mem _ (hleft receipt hmem hdrops), rfl⟩
    · exact Worker.preserves_of_stored h rfl rfl
  | deleteReceipt receiptId now =>
    refine .inl ?_
    unfold Worker.step Worker.replaceReceipts deleteReceipt
    dsimp only
    split
    · next receiptIndex hindex =>
      obtain ⟨_, -, hindex⟩ := bind_eq_ok.mp hindex
      obtain rfl := Except.ok.inj hindex
      have hkept := h.filter fun receipt => receipt.receiptId ≠ receiptId
      have hleft : ∀ receipt ∈ worker.stored.receiptIndex, receiptId ≠ receipt.receiptId →
          receipt ∈ worker.stored.receiptIndex.filter fun receipt =>
            receipt.receiptId ≠ receiptId := fun receipt hmem hne =>
        List.mem_filter.mpr ⟨hmem, decide_eq_true (Ne.symm hne)⟩
      exact ⟨⟨hkept.distinct, hkept.confirmed⟩, fun receipt _ => List.mem_of_mem_filter,
        fun receipt _ hmem hdrops => hleft receipt hmem hdrops,
        fun receipt hmem hdrops => ⟨receipt, hleft receipt hmem hdrops, rfl⟩, rfl⟩
    · exact Worker.preserves_of_stored h rfl rfl
  | deleteAll now =>
    refine .inl ⟨⟨.nil, fun _ hmem => absurd hmem List.not_mem_nil⟩,
      fun _ _ hmem => absurd hmem List.not_mem_nil, fun _ _ _ hdrops => absurd trivial hdrops,
      fun _ _ hdrops => absurd trivial hdrops, rfl⟩
  | clearSessions => exact .inl (Worker.preserves_of_stored h rfl rfl)
  | callStorage command keeps =>
    exact .inl (Worker.preserves_of_keeping (h.keeping rfl) (keeps _).symm)
  | restart => exact .inl (Worker.preserves_of_stored h rfl rfl)

/-! ### Sessions -/

/-- What is in memory stays as it is in an operation on the store. -/
theorem Worker.save_memory (now : Timestamp)
    (result : Except BackgroundError (Option ExtensionLocalState)) :
    (worker.save now result).next.sessions = worker.sessions ∧
      (worker.save now result).next.saving = worker.saving := by
  rcases result with e | next
  · exact ⟨rfl, rfl⟩
  · cases next <;> exact ⟨rfl, rfl⟩

theorem Worker.replaceReceipts_memory (now : Timestamp) (command : StorageCommand)
    (result : Except BackgroundError (List StoredAttemptReceipt)) :
    (worker.replaceReceipts now command result).next.sessions = worker.sessions ∧
      (worker.replaceReceipts now command result).next.saving = worker.saving := by
  cases result <;> exact ⟨rfl, rfl⟩

theorem Worker.sublist_of_eq {sessions : Sessions} (h : sessions = worker.sessions) :
    sessions.Sublist worker.sessions := h ▸ List.Sublist.refl _

theorem evictOldest_suffix (sessions : Sessions) : evictOldest sessions <:+ sessions := by
  induction sessions with
  | nil => exact List.suffix_refl _
  | cons oldest rest ih =>
    unfold evictOldest
    split
    · exact ih.trans (List.suffix_cons _ _)
    · exact List.suffix_refl _

theorem evictOldest_length (sessions : Sessions) :
    (evictOldest sessions).length < MAX_CONFIRMATION_REVIEW_SESSIONS := by
  induction sessions with
  | nil => exact Nat.zero_lt_succ _
  | cons oldest rest ih =>
    unfold evictOldest
    split
    · exact ih
    · next h => exact not_le.mp h

/-- The keys of the sessions. -/
def reviewIds (sessions : Sessions) : List OpaqueId :=
  sessions.map fun session => session.review.reviewId

theorem reviewIds_setSession (session : ConfirmationReviewSession) (sessions : Sessions) :
    reviewIds (setSession session sessions) =
      if session.review.reviewId ∈ reviewIds sessions then reviewIds sessions
      else reviewIds sessions ++ [session.review.reviewId] := by
  unfold setSession reviewIds
  have hiff : (sessions.any fun other => other.review.reviewId = session.review.reviewId) = true ↔
      session.review.reviewId ∈ sessions.map fun session => session.review.reviewId := by
    simp only [List.any_eq_true, List.mem_map, decide_eq_true_eq]
  by_cases hany : session.review.reviewId ∈ sessions.map fun session => session.review.reviewId
  · rw [if_pos (hiff.mpr hany), if_pos hany, List.map_map]
    apply List.map_congr_left
    intro other _
    show (if _ then session else other).review.reviewId = _
    split
    · next hsame => exact hsame.symm
    · rfl
  · rw [if_neg (fun h => hany (hiff.mp h)), if_neg hany, List.map_append]
    rfl

theorem mem_setSession {session other : ConfirmationReviewSession} {sessions : Sessions}
    (h : other ∈ setSession session sessions) : other = session ∨ other ∈ sessions := by
  unfold setSession at h
  split_ifs at h
  · obtain ⟨before, hbefore, rfl⟩ := List.mem_map.mp h
    split
    · exact .inl rfl
    · exact .inr hbefore
  · rcases List.mem_append.mp h with h | h
    · exact .inr h
    · exact .inl (List.mem_singleton.mp h)

/-- There is room for the sessions, and each has its own key. -/
structure Bounded (sessions : Sessions) : Prop where
  room : sessions.length ≤ MAX_CONFIRMATION_REVIEW_SESSIONS
  distinct : (reviewIds sessions).Nodup

theorem Bounded.sublist {sessions sessions' : Sessions} (h : Bounded sessions)
    (hsub : sessions'.Sublist sessions) : Bounded sessions' :=
  ⟨hsub.length_le.trans h.room, h.distinct.sublist (hsub.map _)⟩

theorem Bounded.store {sessions : Sessions} (h : Bounded sessions)
    (session : ConfirmationReviewSession) : Bounded (storeReviewSession session sessions) := by
  have hevicted := h.sublist (evictOldest_suffix sessions).sublist
  have hids := reviewIds_setSession session (evictOldest sessions)
  have hroom := evictOldest_length sessions
  have hlength : ∀ sessions : Sessions, (reviewIds sessions).length = sessions.length := fun _ =>
    List.length_map _
  unfold storeReviewSession
  split_ifs at hids with hmem
  · exact ⟨by rw [← hlength, hids, hlength]; exact hroom.le, hids ▸ hevicted.distinct⟩
  · refine ⟨?_, ?_⟩
    · rw [← hlength, hids, List.length_append, hlength]
      exact hroom
    · rw [hids]
      exact List.nodup_append_comm.mp (List.nodup_cons.mpr ⟨hmem, hevicted.distinct⟩)

/-- An action only leaves sessions out, or it keeps a review that it shows. -/
def Worker.Retains (P : StoragePlatform) (Q : ReceiptPlatform) (worker : Worker)
    (action : Action) : Prop :=
  (worker.step P Q action).next.sessions.Sublist worker.sessions ∨
    ∃ prepared timestamp reviewId, prepared ∈ worker.prepared ∧
      (worker.step P Q action).next.sessions =
        storeReviewSession (PreparedReview.session prepared timestamp reviewId)
          (purgeExpiredReviewSessions timestamp worker.sessions) ∧
      (worker.step P Q action).responses =
        [.review (PreparedReview.session prepared timestamp reviewId).review]

/-- **What a step does to the sessions.** -/
theorem Worker.step_sessions (action : Action) : worker.Retains P Q action := by
  unfold Worker.Retains
  cases action with
  | openReview receiptId site =>
    refine .inl ?_
    unfold Worker.step
    dsimp only
    split <;> exact List.Sublist.refl _
  | prepareReview n tab candidate observationId observedAt written now =>
    refine .inl ?_
    unfold Worker.step
    dsimp only
    split
    · exact List.Sublist.refl _
    · split
      · exact List.Sublist.refl _
      · split
        · exact List.Sublist.refl _
        · exact Worker.sublist_of_eq (Worker.save_memory now _).1
  | keepReview n timestamp reviewId =>
    unfold Worker.step
    dsimp only
    split
    · exact .inl (List.Sublist.refl _)
    · next prepared hprepared =>
      exact .inr ⟨prepared, timestamp, reviewId, List.mem_of_getElem? hprepared, rfl, rfl⟩
  | reviewTimer session =>
    refine .inl ?_
    show (expireSession session worker.sessions).Sublist _
    unfold expireSession
    split
    · exact List.filter_sublist
    · exact List.Sublist.refl _
  | cancelReview receiptId reviewId =>
    refine .inl ?_
    show (cancelSiteConfirmationReview receiptId reviewId worker.sessions).Sublist _
    unfold cancelSiteConfirmationReview
    split
    · exact List.filter_sublist
    · exact List.Sublist.refl _
  | beginSave request timestamp =>
    have hsub : (Extension.beginSave request timestamp worker.stored
        worker.sessions).1.Sublist worker.sessions := by
      have hlook : (beginSave.lookUp request timestamp worker.sessions).1.Sublist
          worker.sessions := List.filter_sublist
      unfold Extension.beginSave
      split
      · split
        · exact List.Sublist.refl _
        · exact hlook
      · exact hlook
    refine .inl ?_
    unfold Worker.step
    dsimp only
    split
    all_goals
      next heq =>
        rw [heq] at hsub
        exact hsub
  | storeConfirmation n answers written now =>
    refine .inl ?_
    unfold Worker.step
    dsimp only
    split
    · exact List.Sublist.refl _
    · split <;> exact List.Sublist.refl _
  | endSave n =>
    refine .inl ?_
    unfold Worker.step
    dsimp only
    split
    · exact List.Sublist.refl _
    · exact List.filter_sublist
  | captureAttempt receipt written now =>
    refine .inl ?_
    unfold Worker.step
    dsimp only
    split
    · exact List.Sublist.refl _
    · exact Worker.sublist_of_eq (Worker.save_memory now _).1
  | expireTab tabId written now =>
    exact .inl (Worker.sublist_of_eq (Worker.save_memory now _).1)
  | observePage tabId request written now =>
    exact .inl (Worker.sublist_of_eq (Worker.save_memory now _).1)
  | reconcilePage site timestamp observationId written now =>
    exact .inl (Worker.sublist_of_eq (Worker.save_memory now _).1)
  | updateSites operation relayNetworkOrigins timestamp written now =>
    exact .inl (Worker.sublist_of_eq (Worker.save_memory now _).1)
  | updateSettings hasSeenWelcome settings written now =>
    exact .inl (Worker.sublist_of_eq (Worker.save_memory now _).1)
  | importReceipt bundle publicKey replaceDuplicate now =>
    exact .inl (Worker.sublist_of_eq (Worker.replaceReceipts_memory now _ _).1)
  | deleteReceipt receiptId now =>
    exact .inl (Worker.sublist_of_eq (Worker.replaceReceipts_memory now _ _).1)
  | closeTab tabId => exact .inl List.filter_sublist
  | clearSessions => exact .inl (List.nil_sublist _)
  | restart => exact .inl (List.nil_sublist _)
  | callStorage command keeps => exact .inl (List.Sublist.refl _)
  | deleteAll now => exact .inl (List.Sublist.refl _)

/-- **What a step does to the saves that wait**: one is added, of a session that
has not expired. -/
theorem Worker.step_saving (action : Action) :
    ∀ pending ∈ (worker.step P Q action).next.saving, pending ∈ worker.saving ∨
      pending.session ∈ worker.sessions ∧
        action = .beginSave pending.request pending.timestamp ∧
        pending.request.receiptId = pending.session.review.receiptId ∧
        pending.request.reviewId = pending.session.review.reviewId ∧
        pending.timestamp < pending.session.review.expiresAt := by
  cases action with
  | openReview receiptId site =>
    unfold Worker.step
    dsimp only
    split <;> exact fun _ => .inl
  | prepareReview n tab candidate observationId observedAt written now =>
    unfold Worker.step
    dsimp only
    split
    · exact fun _ => .inl
    · split
      · exact fun _ => .inl
      · split
        · exact fun _ => .inl
        · intro pending hpending
          dsimp only at hpending
          rw [(Worker.save_memory now _).2] at hpending
          exact .inl hpending
  | keepReview n timestamp reviewId =>
    unfold Worker.step
    dsimp only
    split <;> exact fun _ => .inl
  | beginSave request timestamp =>
    unfold Worker.step
    dsimp only
    split
    · exact fun _ => .inl
    · exact fun _ => .inl
    · next sessions found hbegun =>
      intro pending hpending
      rcases List.mem_append.mp hpending with hpending | hpending
      · exact .inl hpending
      · obtain rfl := List.mem_singleton.mp hpending
        exact .inr (beginSave_found hbegun)
  | storeConfirmation n answers written now =>
    unfold Worker.step
    dsimp only
    split
    · exact fun _ => .inl
    · split <;> exact fun _ hpending => .inl (List.mem_of_mem_eraseIdx hpending)
  | endSave n =>
    unfold Worker.step
    dsimp only
    split <;> exact fun _ => .inl
  | captureAttempt receipt written now =>
    unfold Worker.step
    dsimp only
    split
    · exact fun _ => .inl
    · exact fun _ hpending => .inl ((Worker.save_memory now _).2 ▸ hpending)
  | restart => exact fun _ hpending => absurd hpending List.not_mem_nil
  | reviewTimer session => exact fun _ => .inl
  | cancelReview receiptId reviewId => exact fun _ => .inl
  | closeTab tabId => exact fun _ => .inl
  | clearSessions => exact fun _ => .inl
  | callStorage command keeps => exact fun _ => .inl
  | deleteAll now => exact fun _ => .inl
  | expireTab tabId written now =>
    exact fun _ hpending => .inl ((Worker.save_memory now _).2 ▸ hpending)
  | observePage tabId request written now =>
    exact fun _ hpending => .inl ((Worker.save_memory now _).2 ▸ hpending)
  | reconcilePage site timestamp observationId written now =>
    exact fun _ hpending => .inl ((Worker.save_memory now _).2 ▸ hpending)
  | updateSites operation relayNetworkOrigins timestamp written now =>
    exact fun _ hpending => .inl ((Worker.save_memory now _).2 ▸ hpending)
  | updateSettings hasSeenWelcome settings written now =>
    exact fun _ hpending => .inl ((Worker.save_memory now _).2 ▸ hpending)
  | importReceipt bundle publicKey replaceDuplicate now =>
    exact fun _ hpending => .inl ((Worker.replaceReceipts_memory now _ _).2 ▸ hpending)
  | deleteReceipt receiptId now =>
    exact fun _ hpending => .inl ((Worker.replaceReceipts_memory now _ _).2 ▸ hpending)

end steps

end SubmittedIt.Extension
