/-
SubmittedIt/AnchorResumption.lean

Resuming an anchor workflow that was discarded
(apps/extension/lib/anchor-workflow.ts, anchor-state.ts).

A run of `runAnchorWorkflow` reaches a decision, chain evidence or a final
failure; it might have been discarded at any of the points where it stored an
operation.  Wakes go on from the stored operation, against the relay and the
chain that the run met: requests are answered as they were, the status reads in
the order of those that were still to come.

Main result: `resumes_iff`.  From an operation of a run that reaches evidence, a
wake is due and reaches it exactly if the operation is not a final failure, its
counters have room, and the relay did not answer the request with a reverted
row.  The operation is a final failure where the relay's answer was that the
event is anchored already, although the run itself goes on from there to the
discovery (`discarded_after_anchored_answer`).
-/
import SubmittedIt.AnchorWakes
import SubmittedIt.SaveAtomicity

namespace SubmittedIt.Extension

open ReceiptCore Prog

variable {P : StoragePlatform} {configuration : ExtensionRelayConfiguration}

/-! ### Resuming -/

section resuming

variable {service : Service P} {receiptId : ReceiptId} {eventHash : HashHex} {s : Station}
  {operation : AnchorOperation} {decision : AnchorOperationState}

/-- An event is selected for recovery as long as its operation is neither. -/
theorem selected_iff {store : AnchorOperations} (hstored : store.get eventHash = some operation) :
    anchorEventsNeedRecovery [eventHash] store = true ↔
      operation.state ≠ .chainEvidenceConfirmed ∧ operation.state ≠ .finalFailure := by
  have hfind : (store.find? fun candidate => candidate.eventHash = eventHash) = some operation :=
    hstored
  simp [anchorEventsNeedRecovery, hfind, anchorOperationNeedsRecovery]

/-- Nothing more happens to an operation that is decided. -/
theorem wake_decided (hstored : s.1.get eventHash = some operation)
    (hdecided : operation.state.decided) :
    wake service configuration receiptId eventHash s = s := by
  have hselected := mt (selected_iff hstored).mp (show ¬ (_ ∧ _) from fun h =>
    hdecided.elim h.1 h.2)
  rw [wake, if_neg hselected]

/-- Wakes that settle after the first one. -/
theorem reaches_iff {state : AnchorOperationState}
    (hsettles : wake service configuration receiptId eventHash
        (wake service configuration receiptId eventHash s) =
      wake service configuration receiptId eventHash s) :
    Reaches service configuration receiptId eventHash s state ↔
      (∃ operation, s.1.get eventHash = some operation ∧ operation.state = state) ∨
      ∃ operation, (wake service configuration receiptId eventHash s).1.get eventHash
        = some operation ∧ operation.state = state := by
  constructor
  · rintro ⟨k, operation, hstored, hstate⟩
    cases k with
    | zero => exact .inl ⟨operation, hstored, hstate⟩
    | succ k =>
      rw [Function.iterate_succ_apply, Function.iterate_fixed hsettles] at hstored
      exact .inr ⟨operation, hstored, hstate⟩
  · rintro (⟨operation, hstored, hstate⟩ | ⟨operation, hstored, hstate⟩)
    · exact ⟨0, operation, hstored, hstate⟩
    · exact ⟨1, operation, hstored, hstate⟩

/-- A wake that decides: the decision is the only one that wakes reach. -/
theorem reaches_of_decides {state : AnchorOperationState}
    (hstored : s.1.get eventHash = some operation) (hundecided : ¬ operation.state.decided)
    (hdecision : decision.decided) (hstate : state.decided)
    (hdecides : Decides service configuration eventHash decision
      (runAnchorWorkflow receiptId eventHash) s) :
    Reaches service configuration receiptId eventHash s state ↔ state = decision := by
  obtain ⟨final, t, hrun, hfinal, hget⟩ := hdecides
  have hselected := (selected_iff hstored).mpr (not_or.mp hundecided)
  have hwake : wake service configuration receiptId eventHash s = t := by
    rw [wake, if_pos hselected, hrun]
  have hsettled : wake service configuration receiptId eventHash t = t :=
    wake_decided hget (hfinal ▸ hdecision)
  rw [reaches_iff (by rw [hwake, hsettled]), hwake]
  constructor
  · rintro (⟨other, hother, rfl⟩ | ⟨other, hother, rfl⟩)
    · rw [hstored] at hother
      cases hother
      exact absurd hstate hundecided
    · rw [hget] at hother
      cases hother
      exact hfinal
  · rintro rfl
    exact .inr ⟨final, hget, hfinal⟩

/-- A wake that ends where no wake goes any further reaches no decision. -/
theorem not_reaches_of_stuck {stuck : AnchorOperation} {state : AnchorOperationState}
    (hlive : Live configuration receiptId eventHash s operation)
    (hfinal : operation.state ≠ .finalFailure)
    (hstuck : Live configuration receiptId eventHash
      ((runAnchorWorkflow receiptId eventHash).run (service.exec configuration) s).2 stuck)
    (hstuckFinal : stuck.state ≠ .finalFailure) (haffords : stuck.affords 0 = false)
    (hstate : state.decided) : ¬ Reaches service configuration receiptId eventHash s state := by
  have hselected := (selected_iff hlive.stored).mpr ⟨hlive.pending, hfinal⟩
  have hwake : wake service configuration receiptId eventHash s =
      ((runAnchorWorkflow receiptId eventHash).run (service.exec configuration) s).2 := by
    rw [wake, if_pos hselected]
  rw [reaches_iff, hwake]
  · rintro (⟨other, hother, rfl⟩ | ⟨other, hother, rfl⟩)
    · rw [hlive.stored] at hother
      cases hother
      exact hstate.elim hlive.pending hfinal
    · rw [hstuck.stored] at hother
      cases hother
      exact hstate.elim hstuck.pending hstuckFinal
  · rw [hwake, wake]
    split
    · exact run_exhausted hstuck hstuckFinal haffords
    · rfl

/-- An operation whose counters have no room reaches no decision. -/
theorem not_reaches_of_not_affords {reads : Nat} {rest : List (Option RelayResponse)}
    {state : AnchorOperationState} (honward : Onward service decision operation rest)
    (hlive : Live configuration receiptId eventHash s operation)
    (hfinal : operation.state ≠ .finalFailure) (haffords : operation.affords reads = false)
    (hreads : reads ≤ rest.length) (hanswers : rest ≠ [] → s.2 = rest) (hstate : state.decided) :
    ¬ Reaches service configuration receiptId eventHash s state := by
  rcases hfirst : operation.affords 0 with - | -
  · refine not_reaches_of_stuck hlive hfinal ?_ hfinal hfirst hstate
    rwa [run_exhausted hlive hfinal hfirst]
  -- the first count is there, so that it is the status reads that come to lack one
  unfold AnchorOperation.affords at haffords hfirst
  cases honward with
  | verifies hdirect =>
    rw [if_pos hdirect] at haffords hfirst
    rw [hfirst] at haffords
    cases haffords
  | uploads hnot hblob =>
    rw [if_neg (by simp [hnot]), if_pos hblob] at haffords hfirst
    rw [hfirst] at haffords
    cases haffords
  | requests hnot hblob htoken =>
    rw [if_neg (by simp [hnot]), if_neg hblob, if_pos htoken] at haffords hfirst
    rw [hfirst] at haffords
    cases haffords
  | asks hnot hblob htoken hcourse =>
    rw [if_neg (by simp [hnot]), if_neg hblob, if_neg htoken] at haffords hfirst
    rw [Bool.or_eq_false_iff] at haffords
    obtain ⟨hfresh, hroom⟩ := haffords
    rw [hfresh, Bool.false_or] at hfirst
    have hone := of_decide_eq_true hfirst
    have hshort := of_decide_eq_false hroom
    obtain ⟨stuck, hstuck, hstuckFinal, hexhausted⟩ := exists_stuck service.artifacts true
      MAX_POLLS_PER_WAKE hcourse hlive hnot hblob htoken (by omega) hanswers
    rw [← run_asks hlive hfinal hnot hblob htoken] at hstuck
    exact not_reaches_of_stuck hlive hfinal hstuck hstuckFinal hexhausted hstate

variable {before after : List (WorkflowEvent P)} {rest : List (Option RelayResponse)}

theorem NextReads.le (h : NextReads before after rest) :
    (statusAnswers after).length ≤ rest.length ∧
      rest.length ≤ max (statusAnswers after).length 1 := by
  rcases h with rfl | ⟨hsilent, hlength, -⟩
  · exact ⟨le_rfl, le_max_left _ _⟩
  · rw [hsilent, hlength]
    exact ⟨Nat.zero_le _, le_max_right _ _⟩

theorem NextReads.answers (h : NextReads before after rest) (hrest : rest ≠ []) :
    nextStatuses before after = rest := by
  rcases h with rfl | ⟨-, -, hnext⟩
  · exact if_neg hrest
  · exact hnext.symm

/-- What wakes from an operation reach, that a run stored on the way to its
decision. -/
theorem reaches_of_resumable {store : AnchorOperations}
    (hresumable : Resumable service configuration receiptId eventHash decision operation before
      after)
    (hstored : store.get eventHash = some operation) (hfinal : operation.state ≠ .finalFailure)
    (hdecision : decision.decided) :
    Reaches service configuration receiptId eventHash (store, nextStatuses before after) decision ↔
      operation.affords (statusAnswers after).length = true ∧
        ¬ (decision = .chainEvidenceConfirmed ∧ RevertedOnSubmit operation before) := by
  obtain ⟨hbound, hparsed, hpending, outcome, rest, houtcome, hreads, honward⟩ := hresumable
  have hlive : Live configuration receiptId eventHash (store, nextStatuses before after) operation :=
    ⟨hbound, hparsed, hpending, hstored⟩
  rcases haffords : operation.affords (statusAnswers after).length with - | -
  · simp [not_reaches_of_not_affords honward hlive hfinal haffords hreads.le.1 hreads.answers
      hdecision]
  have hdecides := decides_wake honward hlive hfinal haffords hreads.le.2 hreads.answers
  have houtcome' : outcome.decided := by
    rcases houtcome with ⟨rfl, -⟩ | ⟨rfl, -⟩
    · exact hdecision
    · exact .inr rfl
  rw [reaches_of_decides hstored (fun h => h.elim hpending hfinal) houtcome' hdecision hdecides]
  rcases houtcome with ⟨rfl, hnot⟩ | ⟨rfl, hconfirmed, hreverted⟩
  · simpa using hnot
  · simp [hconfirmed, hreverted]

/-- **Resuming a discarded run.**  The operation was stored by a run that goes
on to a decision; the relay and the chain are those that the run left. -/
theorem resumes_iff {store store' : AnchorOperations} {log : List (WorkflowEvent P)}
    {final : AnchorOperation} {e : WorkflowEvent P}
    (hrun : (runAnchorWorkflow receiptId eventHash).Executes (executeWorkflow configuration) store
      log (.ok final) store')
    (hleft : service.LeftBy log) (hfits : ∀ e ∈ log, DiscoveryFits e)
    (hlog : log = before ++ e :: after) (hpersists : Persists configuration e operation) :
    (final.state = .chainEvidenceConfirmed →
      (anchorEventsNeedRecovery [operation.eventHash] (leaves configuration e) = true ∧
        Reaches service configuration operation.receiptId operation.eventHash
          (leaves configuration e, nextStatuses before after) .chainEvidenceConfirmed ↔
      operation.state ≠ .finalFailure ∧ operation.affords (statusAnswers after).length = true ∧
        ¬ RevertedOnSubmit operation before)) ∧
    (final.state = .finalFailure →
      (Reaches service configuration operation.receiptId operation.eventHash
          (leaves configuration e, nextStatuses before after) .finalFailure ↔
      operation.state = .finalFailure ∨
        operation.affords (statusAnswers after).length = true)) := by
  have hstored : (leaves configuration e).get operation.eventHash = some operation := hpersists.1
  have hresumable (hdecided : final.state.decided) (hfinal : operation.state ≠ .finalFailure) :
      Resumable service configuration operation.receiptId operation.eventHash final.state operation
        before after := by
    have hcovered := covered_of_executes hrun hdecided hleft hfits
    rw [hlog] at hcovered
    have hready := hcovered.get hpersists hfinal
    rw [hready.bound.receipt, hready.bound.event]
    exact hready
  constructor
  · intro hconfirmed
    have hdecided : final.state.decided := .inl hconfirmed
    rw [selected_iff hstored]
    by_cases hfinal : operation.state = .finalFailure
    · simp [hfinal]
    · have hready := hresumable hdecided hfinal
      have hreaches := reaches_of_resumable hready hstored hfinal hdecided
      rw [hconfirmed] at hreaches
      rw [hreaches]
      simp [hfinal, hready.pending]
  · intro hfailed
    have hdecided : final.state.decided := .inr hfailed
    by_cases hfinal : operation.state = .finalFailure
    · exact iff_of_true ⟨0, operation, hstored, hfinal⟩ (.inl hfinal)
    · have hreaches := reaches_of_resumable (hresumable hdecided hfinal) hstored hfinal hdecided
      rw [hfailed] at hreaches
      rw [hreaches]
      simp [hfinal]

end resuming

/-! ### Runs that meet a settled row -/

/-- The operation that an event saves. -/
def savedOperation (e : WorkflowEvent P) : Option AnchorOperation :=
  match e.op with
  | .save operation => some operation
  | _ => none

def sampleRelay : ExtensionRelayConfiguration :=
  ⟨10143, .hex 1 0, .canonical (ascii "https://relay.example")⟩

/-- A row of the event. -/
def sampleView (state : Relay.RelayOperationState) (error : Option RelayViewError)
    (transactionHash : Option HashHex) : RelayOperationView where
  blockNumber := none
  chainId := 10143
  contractAddress := .hex 1 0
  createdAt := 3
  error
  eventHash := 14
  receiptId := 7
  stage := .attempted
  state
  statusToken := 5
  transactionHash
  updatedAt := 3

/-- The relay has accepted the event. -/
def readyView : RelayOperationView := sampleView .ready none none

/-- The relay sent the event, in transaction 9. -/
def submittedView : RelayOperationView := sampleView .submitted none (some 9)

/-- The relay confirmed the event, in transaction 9. -/
def confirmedView : RelayOperationView := sampleView .confirmed none (some 9)

/-- The event was anchored by another sender, in transaction 9. -/
def anchoredView : RelayOperationView :=
  sampleView .failedFinal (some ⟨"EVENT_ALREADY_ANCHORED",
    "The event was anchored by another sender before this relay broadcast."⟩) none

/-- The relay's transaction was reverted. -/
def revertedView : RelayOperationView :=
  sampleView .reverted (some ⟨"TRANSACTION_REVERTED", "The anchor transaction reverted."⟩) (some 9)

def sampleProofMetadata : EncryptedReceiptMetadata :=
  ⟨3, ascii "installation-key", 7, CURRENT_SCHEMA_VERSION⟩

/-- A relay that answers the request with a row, and a chain that holds
transaction 9. -/
def sampleService (view : RelayOperationView) : Service samplePlatform where
  now := 20
  artifacts := {
    envelope := ⟨sampleProofMetadata, (0, 0, sampleProofMetadata, {
      operational := sampleReceipt 7
      ownership := .«local»
      receipt := {
        createdAt := 5
        currentStage := .entered .attempted
        derivedStatus := .prepared
        events := [(sampleReceipt 7).event]
        extensionPublicKey := ⟨ascii "installation-key", ascii "public-key"⟩
        receiptId := 7
        schemaVersion := CURRENT_SCHEMA_VERSION
        verification := ⟨[], .notVerified, none⟩ } }), 0⟩
    event := (sampleReceipt 7).event
    blobId := 3
    publicKey := ⟨ascii "installation-key", ascii "public-key"⟩ }
  upload := some ⟨201, .blob ⟨4, 1024, 3, 7⟩ 4⟩
  request := some ⟨200, .accepted view view.statusToken⟩
  verifyAnchor _ := .ok ⟨8, 2, 6, 10143, 1, 9⟩
  discoverAnchor := .ok (some (.canonical 9))

/-- The service and a storage that holds the receipt; the status reads are
answered with the rows in their order. -/
def sampleAnswers (service : Service P) (rows : List RelayOperationView) :
    (o : WorkflowOp P) → AnchorOperations → o.Answer
  | .ensure .., _ => .ok (some (3, .attempted))
  | o, store =>
    let polls := (store.map fun operation => operation.counters.polls).sum
    service.answer ((rows.drop (polls - 1)).map fun view => some ⟨200, .operation view⟩) o

def sampleLog (service : Service P) (rows : List RelayOperationView) : List (WorkflowEvent P) :=
  (runAnchorWorkflow 7 14).logOf (executeWorkflow sampleRelay) (sampleAnswers service rows) []

/-- The service is what the run leaves. -/
theorem sampleLog_left (service : Service P) (rows : List RelayOperationView) :
    service.LeftBy (sampleLog service rows) := by
  rintro ⟨o, answer, before⟩ he
  have hanswer : answer = sampleAnswers service rows o before := logOf_answer he
  subst hanswer
  cases o with
  | fetch request => cases request <;> trivial
  | verifyAnchor event key transactionHash => rfl
  | discoverAnchor event => rfl
  | getArtifacts receiptId eventHash =>
    intro artifacts h
    cases h
    rfl
  | _ => trivial

theorem sampleLog_fits (view : RelayOperationView) (rows : List RelayOperationView) :
    ∀ e ∈ sampleLog (sampleService view) rows, DiscoveryFits e := by
  rintro ⟨o, answer, before⟩ he
  have hanswer : answer = sampleAnswers (sampleService view) rows o before := logOf_answer he
  subst hanswer
  cases o with
  | discoverAnchor event =>
    intro error h
    cases h
  | _ => trivial

/-- An operation that the run stores on the way. -/
theorem exists_persists (service : Service P) (rows : List RelayOperationView)
    (operation : AnchorOperation) (k : Nat)
    (h : (sampleLog service rows)[k]?.any (fun e => decide (savedOperation e = some operation) &&
      decide ((leaves sampleRelay e).get operation.eventHash = some operation)) = true) :
    ∃ e, sampleLog service rows =
        (sampleLog service rows).take k ++ e :: (sampleLog service rows).drop (k + 1) ∧
      Persists sampleRelay e operation := by
  obtain ⟨e, hget, h⟩ := (Option.any_eq_true _ _).mp h
  simp only [Bool.and_eq_true, decide_eq_true_eq] at h
  obtain ⟨hsaved, hstored⟩ := h
  obtain ⟨hk, rfl⟩ := List.getElem?_eq_some_iff.mp hget
  refine ⟨_, ?_, hstored, .inl ?_⟩
  · rw [List.cons_getElem_drop_succ, List.take_append_drop]
  · unfold savedOperation at hsaved
    split at hsaved
    · cases hsaved
      assumption
    · cases hsaved

/-- The operation as the run creates it. -/
def sampleOperation : AnchorOperation where
  anchoredAt := none
  anchoredBy := none
  blockNumber := none
  chainId := 10143
  contractAddress := .hex 1 0
  counters := ⟨0, 0, 0, 0⟩
  createdAt := 20
  eventCount := 1
  eventHash := 14
  idempotencyKey := 14
  lastError := none
  localBlobId := 3
  receiptId := 7
  relayBaseUrl := .canonical (ascii "https://relay.example")
  relayBlobId := none
  stage := .attempted
  state := .savedLocally
  statusToken := none
  transactionHash := none
  updatedAt := 20

/-- The operation that was stored before the request. -/
def requestedOperation : AnchorOperation :=
  requestingUpdate (uploadedUpdate (uploadingUpdate sampleOperation 3 20) 4 20) 20

/-- The operation that was stored with the relay's answer. -/
def answeredOperation (view : RelayOperationView) : AnchorOperation :=
  relayViewUpdate (submittedUpdate requestedOperation view 20) view 20

/-- The run ends in the state. -/
theorem sampleLog_executes (service : Service P) (rows : List RelayOperationView)
    (state : AnchorOperationState)
    (h : (((runAnchorWorkflow 7 14).run (fun o s => executeWorkflow sampleRelay o
      (sampleAnswers service rows o s) s) []).1.toOption.any fun final =>
        decide (final.state = state)) = true) :
    ∃ final store', (runAnchorWorkflow 7 14).Executes (executeWorkflow sampleRelay) []
      (sampleLog service rows) (.ok final) store' ∧ final.state = state := by
  have hrun : (runAnchorWorkflow 7 14).Executes (executeWorkflow sampleRelay) []
      (sampleLog service rows) _ _ :=
    executes_run (sampleAnswers service rows) (runAnchorWorkflow 7 14) []
  obtain ⟨final, hfinal, hstate⟩ := (Option.any_eq_true _ _).mp h
  rcases hresult : ((runAnchorWorkflow 7 14).run (fun o s => executeWorkflow sampleRelay o
    (sampleAnswers service rows o s) s) []).1 with error | result
  · rw [hresult] at hfinal
    cases hfinal
  · rw [hresult] at hfinal hrun
    cases hfinal
    exact ⟨final, _, hrun, of_decide_eq_true hstate⟩

/-- A run that is discarded before its request is resumed to its evidence, one
that is discarded before its first status read to its final failure. -/
theorem resumes_requested :
    (∃ (service : Service samplePlatform) (log before after : List (WorkflowEvent samplePlatform))
        (e : WorkflowEvent samplePlatform), log = before ++ e :: after ∧ service.LeftBy log ∧
      Persists sampleRelay e requestedOperation ∧
      anchorEventsNeedRecovery [14] (leaves sampleRelay e) = true ∧
      Reaches service sampleRelay 7 14 (leaves sampleRelay e, nextStatuses before after)
        .chainEvidenceConfirmed) ∧
    ∃ (service : Service samplePlatform) (log before after : List (WorkflowEvent samplePlatform))
        (e : WorkflowEvent samplePlatform), log = before ++ e :: after ∧ service.LeftBy log ∧
      Persists sampleRelay e (answeredOperation readyView) ∧
      Reaches service sampleRelay 7 14 (leaves sampleRelay e, nextStatuses before after)
        .finalFailure := by
  constructor
  · let rows := [submittedView, confirmedView]
    obtain ⟨e, hlog, hpersists⟩ := exists_persists (sampleService readyView) rows requestedOperation
      9 (by decide +kernel)
    obtain ⟨final, store', hrun, hfinal⟩ := sampleLog_executes (sampleService readyView) rows
      .chainEvidenceConfirmed (by decide +kernel)
    have hleft := sampleLog_left (sampleService readyView) rows
    refine ⟨_, _, _, _, e, hlog, hleft, hpersists, ?_⟩
    refine ((resumes_iff hrun hleft (sampleLog_fits _ _) hlog hpersists).1 hfinal).mpr
      ⟨by decide, by decide +kernel, fun h => ?_⟩
    cases h.1
  · let rows := [submittedView, revertedView]
    obtain ⟨e, hlog, hpersists⟩ := exists_persists (sampleService readyView) rows
      (answeredOperation readyView) 14 (by decide +kernel)
    obtain ⟨final, store', hrun, hfinal⟩ := sampleLog_executes (sampleService readyView) rows
      .finalFailure (by decide +kernel)
    have hleft := sampleLog_left (sampleService readyView) rows
    refine ⟨_, _, _, _, e, hlog, hleft, hpersists, ?_⟩
    exact ((resumes_iff hrun hleft (sampleLog_fits _ _) hlog hpersists).2 hfinal).mpr
      (.inr (by decide +kernel))

/-- The relay answers that the event is anchored already.  The run itself goes
on to the discovery, and to evidence; the operation stored with the answer is
not selected for recovery, and the workflow, run from it, ends as it is. -/
theorem discarded_after_anchored_answer :
    ∃ (service : Service samplePlatform) (log before after : List (WorkflowEvent samplePlatform))
        (e : WorkflowEvent samplePlatform) (final : AnchorOperation) (store' : AnchorOperations),
      (runAnchorWorkflow 7 14).Executes (executeWorkflow sampleRelay) [] log (.ok final) store' ∧
      final.state = .chainEvidenceConfirmed ∧ service.LeftBy log ∧ log = before ++ e :: after ∧
      Persists sampleRelay e (answeredOperation anchoredView) ∧
      (answeredOperation anchoredView).alreadyAnchored = true ∧
      anchorEventsNeedRecovery [14] (leaves sampleRelay e) = false ∧
      ((runAnchorWorkflow 7 14).run (service.exec sampleRelay)
        (leaves sampleRelay e, nextStatuses before after)).1 = .ok (answeredOperation anchoredView) ∧
      ¬ Reaches service sampleRelay 7 14 (leaves sampleRelay e, nextStatuses before after)
        .chainEvidenceConfirmed := by
  obtain ⟨e, hlog, hpersists⟩ := exists_persists (sampleService anchoredView) []
    (answeredOperation anchoredView) 14 (by decide +kernel)
  obtain ⟨final, store', hrun, hfinal⟩ := sampleLog_executes (sampleService anchoredView) []
    .chainEvidenceConfirmed (by decide +kernel)
  have hstored : (leaves sampleRelay e).get 14 = some (answeredOperation anchoredView) :=
    hpersists.1
  have hselected : anchorEventsNeedRecovery [14] (leaves sampleRelay e) = false := by
    apply Bool.eq_false_iff.mpr
    intro h
    exact ((selected_iff hstored).mp h).2 rfl
  refine ⟨_, _, _, _, e, final, store', hrun, hfinal, sampleLog_left _ _, hlog, hpersists,
    by decide, hselected, ?_, ?_⟩
  · have hbound : Bound sampleRelay 7 14 (answeredOperation anchoredView) :=
      ⟨rfl, rfl, rfl, rfl, rfl⟩
    exact congrArg Prod.fst (run_decided hbound hstored (.inr rfl))
  · have hfixed (statuses : List (Option RelayResponse)) :
        wake (sampleService anchoredView) sampleRelay 7 14 (leaves sampleRelay e, statuses) =
          (leaves sampleRelay e, statuses) := wake_decided hstored (.inr rfl)
    rw [reaches_iff (by rw [hfixed, hfixed]), hfixed, or_self]
    rintro ⟨operation, hother, hstate⟩
    have hsame : answeredOperation anchoredView = operation :=
      Option.some.inj (hstored.symm.trans hother)
    rw [← hsame] at hstate
    cases hstate

end SubmittedIt.Extension
