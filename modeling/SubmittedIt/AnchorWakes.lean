/-
SubmittedIt/AnchorWakes.lean

What a wake does with a stored anchor operation
(apps/extension/lib/anchor-workflow.ts, anchor-state.ts).

The workflow is executed forwards, against a service: `Decides` says that it ends
with a decision stored.  A verification, a discovery, the polling loop by
induction on its turns, a request and an upload each decide what their answers
lead to; an update that counts beyond its limit is refused, and leaves what was
stored.

Main results: `decides_wake`, `run_exhausted` and `exists_stuck`.
-/
import SubmittedIt.AnchorLookback

namespace SubmittedIt.Extension

open ReceiptCore Prog

variable {P : StoragePlatform} {configuration : ExtensionRelayConfiguration}

/-! ### Updates that can be stored -/

/-- The update keeps the operation's evidence and is well formed. -/
structure Extends (operation next : AnchorOperation) : Prop where
  fixed : (operation.chainId, operation.contractAddress, operation.createdAt,
      operation.eventCount, operation.eventHash, operation.idempotencyKey,
      operation.relayBaseUrl, operation.receiptId, operation.stage) =
    (next.chainId, next.contractAddress, next.createdAt, next.eventCount, next.eventHash,
      next.idempotencyKey, next.relayBaseUrl, next.receiptId, next.stage)
  blob : operation.relayBlobId = none ∨ operation.relayBlobId = next.relayBlobId
  token : operation.statusToken = none ∨ operation.statusToken = next.statusToken
  hash : operation.transactionHash = none ∨ operation.transactionHash = next.transactionHash
  counters : operation.counters.polls ≤ next.counters.polls ∧
    operation.counters.relayRequests ≤ next.counters.relayRequests ∧
    operation.counters.uploads ≤ next.counters.uploads ∧
    operation.counters.verifications ≤ next.counters.verifications
  bounded : parseCounters next.counters = true
  error : next.lastError.all parseError = true
  pending : next.state ≠ .chainEvidenceConfirmed
  open_ : next.transactionHash = none ∨ next.blockNumber = none ∨ next.anchoredAt = none ∨
    next.anchoredBy = none

/-- An update that is no confirmation is accepted. -/
theorem parse_of_open {operation next : AnchorOperation}
    (hparse : parseAnchorOperation operation = true)
    (hfixed : (operation.chainId, operation.contractAddress, operation.eventCount,
        operation.relayBaseUrl, operation.stage) =
      (next.chainId, next.contractAddress, next.eventCount, next.relayBaseUrl, next.stage))
    (hcounters : parseCounters next.counters = true)
    (herror : next.lastError.all parseError = true)
    (hpending : next.state ≠ .chainEvidenceConfirmed)
    (hopen : next.transactionHash = none ∨ next.blockNumber = none ∨ next.anchoredAt = none ∨
      next.anchoredBy = none) : parseAnchorOperation next = true := by
  simp only [Prod.mk.injEq] at hfixed
  obtain ⟨hchain, hcontract, hcount, hrelay, hstage⟩ := hfixed
  obtain ⟨⟨hcanonical, hrange, haddress, hevents⟩, -, -, -⟩ := (parse_iff _).mp hparse
  refine (parse_iff _).mpr ⟨⟨hrelay ▸ hcanonical, hchain ▸ hrange, hcontract ▸ haddress, ?_⟩,
    hcounters, herror, ?_⟩
  · rw [← hcount, ← hstage]
    exact hevents
  · constructor
    · exact fun h => absurd h hpending
    · rintro ⟨htx, hblock, hat, hby⟩
      rcases hopen with h | h | h | h
      · simp [h] at htx
      · simp [h] at hblock
      · simp [h] at hat
      · simp [h] at hby

theorem Extends.parse {operation next : AnchorOperation} (h : Extends operation next)
    (hparse : parseAnchorOperation operation = true) : parseAnchorOperation next = true := by
  have hfixed := h.fixed
  simp only [Prod.mk.injEq] at hfixed
  obtain ⟨hchain, hcontract, -, hcount, -, -, hrelay, -, hstage⟩ := hfixed
  exact parse_of_open hparse (by rw [hchain, hcontract, hcount, hrelay, hstage]) h.bounded
    h.error h.pending h.open_

theorem Extends.keeps {operation next : AnchorOperation} (h : Extends operation next)
    (hpending : operation.state ≠ .chainEvidenceConfirmed) :
    keepsEvidence operation next = true := by
  obtain ⟨hfixed, hblob, htoken, hhash, ⟨hpolls, hrequests, huploads, hverifications⟩, -⟩ := h
  simp only [Prod.mk.injEq] at hfixed
  obtain ⟨hchain, hcontract, hcreated, hcount, hevent, hkey, hrelay, hreceipt, hstage⟩ := hfixed
  simp [keepsEvidence, hchain, hcontract, hcreated, hcount, hevent, hkey, hrelay, hreceipt, hstage,
    hblob, htoken, hhash, hpolls, hrequests, huploads, hverifications, hpending]

theorem isCount_succ {n : Nat} (h : n < 10000) : isCount (n + 1) = true := by
  simp only [isCount, decide_eq_true_eq]
  omega

section forward

variable {service : Service P} {receiptId : ReceiptId} {eventHash hash : HashHex} {s : Station}
  {operation next : AnchorOperation} {decision : AnchorOperationState}
  {response : Option RelayResponse} {rest : List (Option RelayResponse)}

/-- The stored operation of the event, in a wake that is under way. -/
structure Live (configuration : ExtensionRelayConfiguration) (receiptId : ReceiptId)
    (eventHash : HashHex) (s : Station) (operation : AnchorOperation) : Prop where
  bound : Bound configuration receiptId eventHash operation
  parsed : parseAnchorOperation operation = true
  pending : operation.state ≠ .chainEvidenceConfirmed
  stored : s.1.get eventHash = some operation

/-- The program ends with the decision about the event stored. -/
def Decides (service : Service P) (configuration : ExtensionRelayConfiguration)
    (eventHash : HashHex) (decision : AnchorOperationState)
    (p : WorkflowProg P AnchorOperation) (s : Station) : Prop :=
  ∃ final t, p.run (service.exec configuration) s = (.ok final, t) ∧ final.state = decision ∧
    t.1.get eventHash = some final

theorem Decides.of_run {p q : WorkflowProg P AnchorOperation} {t : Station}
    (h : p.run (service.exec configuration) s = q.run (service.exec configuration) t)
    (hq : Decides service configuration eventHash decision q t) :
    Decides service configuration eventHash decision p s := by
  obtain ⟨final, stored, hrun, hfinal⟩ := hq
  exact ⟨final, stored, h.trans hrun, hfinal⟩

theorem Live.put (hlive : Live configuration receiptId eventHash s operation)
    (hnext : Extends operation next) (statuses : List (Option RelayResponse)) :
    Live configuration receiptId eventHash (s.1.put next, statuses) next := by
  obtain ⟨⟨hevent, hreceipt, hchain, hcontract, hrelay⟩, hparsed, -, -⟩ := hlive
  have hfixed := hnext.fixed
  simp only [Prod.mk.injEq] at hfixed
  obtain ⟨hchain', hcontract', -, -, hevent', -, hrelay', hreceipt', -⟩ := hfixed
  refine ⟨⟨hevent' ▸ hevent, hreceipt' ▸ hreceipt, hchain' ▸ hchain, hcontract' ▸ hcontract,
    hrelay' ▸ hrelay⟩, hnext.parse hparsed, hnext.pending, ?_⟩
  rw [← hevent, hevent']
  exact AnchorOperations.get_put _ _

/-- A reading of the clock, and what follows it. -/
theorem run_now {α : Type} {f : Timestamp → WorkflowProg P α} :
    ((await .now : WorkflowProg P Timestamp) >>= f).run (service.exec configuration) s =
      (f service.now).run (service.exec configuration) s := rfl

/-- **A step that saves an update.** -/
theorem run_saveUpdate (hlive : Live configuration receiptId eventHash s operation)
    (hnext : Extends operation next) :
    (saveUpdate next : WorkflowProg P _).run (service.exec configuration) s
      = (.ok next, s.1.put next, s.2) := by
  have hparse := hnext.parse hlive.parsed
  have hevent : next.eventHash = operation.eventHash := by
    have hfixed := hnext.fixed
    simp only [Prod.mk.injEq] at hfixed
    exact hfixed.2.2.2.2.1.symm
  have hsave : s.1.save next = .ok (s.1.put next) := by
    refine AnchorOperations.save_eq hparse ?_ (hnext.keeps hlive.pending)
    rw [hevent, hlive.bound.event]
    exact hlive.stored
  rw [saveUpdate, updateAnchorOperation, if_pos hparse]
  show service.exec configuration (.save next) s = _
  simp [Service.exec, Service.answer, Service.left, executeWorkflow, Bind.bind, Except.bind, hsave]

/-- A step that saves the decision. -/
theorem decides_save (hlive : Live configuration receiptId eventHash s operation)
    (hnext : Extends operation next) :
    Decides service configuration eventHash next.state (saveUpdate next) s :=
  ⟨next, _, run_saveUpdate hlive hnext, rfl, (hlive.put hnext s.2).stored⟩

/-- An update that is not well formed is refused before it is stored. -/
theorem run_saveUpdate_refused (h : parseAnchorOperation next = false) :
    (saveUpdate next : WorkflowProg P _).run (service.exec configuration) s =
      (.error (.storage
        (.failure "SubmittedIt refused an invalid durable anchor-operation update.")), s) := by
  rw [saveUpdate, updateAnchorOperation, if_neg (by simp [h])]
  rfl

/-- The error can be stored with the operation. -/
theorem extends_error {state : AnchorOperationState} {code message : String} (recoverable : Bool)
    (now : Timestamp) (hlive : Live configuration receiptId eventHash s operation)
    (hstate : state ≠ .chainEvidenceConfirmed) (herror : parseErrorBody code message = true) :
    Extends operation (operationError operation state code message recoverable now) := by
  have hopen := open_of_parse hlive.parsed hlive.pending
  have hcounters := ((parse_iff _).mp hlive.parsed).2.1
  refine ⟨rfl, .inr rfl, .inr rfl, .inr rfl, ⟨le_rfl, le_rfl, le_rfl, le_rfl⟩, hcounters, ?_,
    hstate, hopen⟩
  simpa [operationError, parseError, parseErrorBody] using herror

/-- The codes and the messages of the verifier are accepted. -/
theorem AnchorVerificationError.parse (error : AnchorVerificationError) :
    parseErrorBody error.code.text error.message = true := by
  have hcode : isErrorCode error.code.text = true := by
    cases error.code <;> decide
  simpa [parseErrorBody, hcode] using error.fits

/-- **A verification** of a transaction. -/
theorem decides_verify (artifacts : AnchorRelayArtifacts P)
    (hlive : Live configuration receiptId eventHash s operation)
    (hverifies : Verifies service decision operation hash) :
    Decides service configuration eventHash decision (verifyAndConfirm operation artifacts hash)
      s := by
  obtain ⟨hcount, hknown, hroom, houtcome⟩ := hverifies
  have hcounters := ((parse_iff _).mp hlive.parsed).2.1
  have hnext : Extends operation (verifyingUpdate operation hash service.now) := by
    refine ⟨rfl, .inr rfl, .inr rfl, hknown, ⟨le_rfl, le_rfl, le_rfl, Nat.le_succ _⟩, ?_, rfl,
      AnchorOperationState.noConfusion, .inr hroom⟩
    simp only [parseCounters, Bool.and_eq_true] at hcounters ⊢
    exact ⟨hcounters.1, isCount_succ hcount⟩
  have hlive' := hlive.put hnext s.2
  -- the verifier's answer
  have hrun : (await (.verifyAnchor artifacts.event artifacts.publicKey hash) :
      WorkflowProg P _).attempt.run (service.exec configuration)
      (s.1.put (verifyingUpdate operation hash service.now), s.2) =
      (.ok (service.verifyAnchor hash), s.1.put (verifyingUpdate operation hash service.now),
        s.2) := by
    rw [run_attempt]
    rfl
  refine Decides.of_run ((run_bind_ok (run_saveUpdate hlive hnext)).trans (run_bind_ok hrun)) ?_
  rcases houtcome with ⟨rfl, verified, hverified, hchain, hcontract⟩ |
    ⟨rfl, error, hverified, hcode⟩
  · obtain ⟨confirmed, stored, hconfirm, hstate, hget⟩ := AnchorOperations.confirm_eq verified
      service.now hlive'.stored hchain hcontract hlive'.parsed
    refine ⟨confirmed, (stored, s.2), ?_, hstate, hget⟩
    rw [hverified]
    have hevent : (verifyingUpdate operation hash service.now).eventHash = eventHash :=
      hlive.bound.event
    show service.exec configuration (.confirm (verifyingUpdate operation hash service.now) verified
      service.now) _ = _
    simp only [Service.exec, Service.answer, Service.left, executeWorkflow, Bind.bind, Except.bind,
      hevent, hconfirm]
  · rw [hverified]
    have hstate : verificationErrorState error.code = .finalFailure := by
      rw [hcode]
      rfl
    have hfailed : Decides service configuration eventHash (verificationErrorState error.code)
        (failForVerificationError (verifyingUpdate operation hash service.now)
          (.verification error) service.now)
        (s.1.put (verifyingUpdate operation hash service.now), s.2) :=
      decides_save hlive' (extends_error error.recoverable service.now hlive'
        (by simp [hstate]) error.parse)
    rw [hstate] at hfailed
    exact hfailed

/-- **A discovery** that finds the transaction. -/
theorem decides_discover (artifacts : AnchorRelayArtifacts P)
    (hlive : Live configuration receiptId eventHash s operation)
    (hdiscovers : Discovers service decision operation) :
    Decides service configuration eventHash decision (discoverAndVerify operation artifacts) s := by
  obtain ⟨hash, hdiscover, hverifies⟩ := hdiscovers
  have hfound : (await (.discoverAnchor artifacts.event) :
      WorkflowProg P (Option DiscoveredHash)).run (service.exec configuration) s
      = (.ok (some (.canonical hash)), s) := by
    show (service.discoverAnchor, s) = _
    rw [hdiscover]
  refine Decides.of_run ?_ (decides_verify artifacts hlive hverifies)
  rw [discoverAndVerify, run_now, run_bind, run_attempt, run_bind_ok hfound]
  rfl

/-- A failure of the relay part that is final. -/
theorem decides_failNow {error : RelayClientError}
    (hlive : Live configuration receiptId eventHash s operation) (hfails : Fails error) :
    Decides service configuration eventHash .finalFailure (failNow operation (.relay error)) s := by
  have hsaved : Decides service configuration eventHash (relayErrorState error)
      (failNow operation (.relay error)) s :=
    decides_save hlive (extends_error error.recoverable service.now hlive
      (by simp [hfails.state]) hfails.fits)
  rw [hfails.state] at hsaved
  exact hsaved

/-- One request of the relay. -/
theorem run_fetchRelay {α : Type} {request : RelayRequest P}
    {read : RelayBody → Except RelayClientError α} :
    (fetchRelay request read).run (service.exec configuration) s =
      ((relayFetch (service.answer s.2 (.fetch request)) >>= read).mapError .relay,
        s.1, Service.left s.2 (.fetch request)) := by
  show (Prog.ofExcept _ : WorkflowProg P α).run (service.exec configuration) _ = _
  rfl

/-- The stored operation is the one that a wake ensures. -/
theorem run_ensure (hbound : Bound configuration receiptId eventHash operation)
    (hstored : s.1.get eventHash = some operation) :
    (await (.ensure receiptId eventHash service.now) : WorkflowProg P _).run
      (service.exec configuration) s = (.ok operation, s) := by
  obtain ⟨-, hreceipt, hchain, hcontract, hrelay⟩ := hbound
  show service.exec configuration (.ensure receiptId eventHash service.now) s = _
  have hensure : s.1.ensure configuration receiptId eventHash service.now none
      = .ok (operation, s.1) := by
    simp [AnchorOperations.ensure, hstored, hreceipt, hchain, hcontract, hrelay]
  simp [Service.exec, Service.answer, Service.left, executeWorkflow, Bind.bind, Except.bind,
    hensure]

theorem run_getArtifacts : (await (.getArtifacts receiptId eventHash) : WorkflowProg P _).run
    (service.exec configuration) s = (.ok service.artifacts, s) := rfl

/-- The relay's view of the operation can be stored. -/
theorem extends_view {view : RelayOperationView} (now : Timestamp)
    (hlive : Live configuration receiptId eventHash s operation) (hfits : Fits operation view) :
    Extends operation (relayViewUpdate operation view now) := by
  obtain ⟨hbinding, herror, hknown, hroom⟩ := hfits
  refine ⟨rfl, .inr rfl, (assertRelayBinding_ok.mp hbinding).2.2.2.2.2, hknown,
    ⟨le_rfl, le_rfl, le_rfl, le_rfl⟩, ((parse_iff _).mp hlive.parsed).2.1, ?_,
    localStateForRelay_ne_confirmed view, hroom⟩
  rcases hview : view.error with - | error
  · simp [relayViewUpdate, hview]
  · simpa [relayViewUpdate, RelayOperationView.errorFits, parseError, hview] using herror

theorem run_saveRelayView {view : RelayOperationView}
    (hlive : Live configuration receiptId eventHash s operation) (hfits : Fits operation view) :
    (saveRelayView operation view).run (service.exec configuration) s =
      (.ok (relayViewUpdate operation view service.now),
        s.1.put (relayViewUpdate operation view service.now), s.2) := by
  rw [saveRelayView, run_now, hfits.binding]
  exact run_saveUpdate hlive (extends_view service.now hlive hfits)

/-- The answers that are left behind one read. -/
theorem advance_cons (hrest : rest ≠ []) : advance (response :: rest) = rest := by
  cases rest with
  | nil => exact absurd rfl hrest
  | cons next rest => rfl

/-- The read of a poll, and what it makes of the answer. -/
theorem run_readStatus (htoken : operation.statusToken ≠ none) :
    (readStatus operation.statusToken : WorkflowProg P _).run (service.exec configuration) s =
      ((readOf operation s.2.head?.join).mapError .relay, s.1, advance s.2) := by
  obtain ⟨statusToken, hsome⟩ := Option.ne_none_iff_exists'.mp htoken
  simp only [hsome, readStatus, readOf]
  exact run_fetchRelay

/-- What a poll goes on with after the relay's view. -/
def afterPoll (artifacts : AnchorRelayArtifacts P) (n : Nat) (view : RelayOperationView)
    (operation : AnchorOperation) : WorkflowProg P AnchorOperation :=
  match view.state, operation.transactionHash with
  | .confirmed, some transactionHash => verifyAndConfirm operation artifacts transactionHash
  | .failedFinal, _ =>
    if view.alreadyAnchored then discoverAndVerify operation artifacts else pure operation
  | .reverted, _ => pure operation
  | _, _ => pollRelay artifacts false n operation

/-- A view at which the loop goes on. -/
theorem afterPoll_goesOn (artifacts : AnchorRelayArtifacts P) (n : Nat) {view : RelayOperationView}
    (hunfailed : view.state ≠ .failedFinal) (hunreverted : view.state ≠ .reverted)
    (hhash : view.state = .confirmed → operation.transactionHash = none) :
    afterPoll artifacts n view operation = pollRelay artifacts false n operation := by
  unfold afterPoll
  split
  · rename_i tx hconfirmed htx
    rw [hhash hconfirmed] at htx
    cases htx
  · rename_i hfailed
    exact absurd hfailed hunfailed
  · rename_i hreverted
    exact absurd hreverted hunreverted
  · rfl

theorem run_pauseUnless {α : Type} {first : Bool} {f : Unit → WorkflowProg P α} :
    (pauseUnless first >>= f).run (service.exec configuration) s =
      (f ()).run (service.exec configuration) s := by
  cases first <;> rfl

/-- The poll can be stored. -/
theorem extends_poll (now : Timestamp)
    (hlive : Live configuration receiptId eventHash s operation)
    (hpolls : operation.counters.polls < 10000) : Extends operation (pollUpdate operation now) := by
  have hcounters := ((parse_iff _).mp hlive.parsed).2.1
  have hopen := open_of_parse hlive.parsed hlive.pending
  refine ⟨rfl, .inr rfl, .inr rfl, .inr rfl, ⟨Nat.le_succ _, le_rfl, le_rfl, le_rfl⟩, ?_,
    ((parse_iff _).mp hlive.parsed).2.2.1, ?_, hopen⟩
  · simp only [parseCounters, Bool.and_eq_true] at hcounters ⊢
    exact ⟨⟨⟨isCount_succ hpolls, hcounters.1.1.2⟩, hcounters.1.2⟩, hcounters.2⟩
  · simp only [pollUpdate]
    split_ifs <;> decide

/-- **A poll**, up to its status read. -/
theorem run_poll (artifacts : AnchorRelayArtifacts P) (first : Bool) (n : Nat)
    (hlive : Live configuration receiptId eventHash s operation) (hask : Asks operation)
    (hpolls : operation.counters.polls < 10000)
    (read : Except WorkflowError (RelayOperationView × AnchorOperation)) {t : Station}
    (hread : (readView (pollUpdate operation service.now) : WorkflowProg P _).run
      (service.exec configuration) (s.1.put (pollUpdate operation service.now), s.2) = (read, t)) :
    (pollRelay artifacts first (n + 1) operation).run (service.exec configuration) s =
      (match read with
      | .error error => failNow (pollUpdate operation service.now) error
      | .ok (relay, viewed) => afterPoll artifacts n relay viewed : WorkflowProg P _).run
        (service.exec configuration) t := by
  rw [pollRelay, if_neg hlive.pending, if_neg (fun h => hask.unfailed h.1),
    if_neg (by simp [hask.fresh])]
  split
  · rename_i tx htx hstate
    rw [hask.unverified hstate] at htx
    cases htx
  rw [run_pauseUnless, run_now,
    run_bind_ok (run_saveUpdate hlive (extends_poll service.now hlive hpolls))]
  have hattempt : (readView (pollUpdate operation service.now) : WorkflowProg P _).attempt.run
      (service.exec configuration) (s.1.put (pollUpdate operation service.now), s.2) =
      (.ok read, t) := by
    rw [run_attempt, hread]
  refine (run_bind_ok hattempt).trans ?_
  rcases read with error | ⟨relay, viewed⟩ <;> rfl

/-- A poll whose answer is refused. -/
theorem run_poll_error (artifacts : AnchorRelayArtifacts P) (first : Bool) (n : Nat)
    {error : RelayClientError} (hlive : Live configuration receiptId eventHash s operation)
    (hask : Asks operation) (htoken : operation.statusToken ≠ none)
    (hpolls : operation.counters.polls < 10000)
    (hread : readOf operation s.2.head?.join = .error error) :
    (pollRelay artifacts first (n + 1) operation).run (service.exec configuration) s =
      (failNow (pollUpdate operation service.now) (.relay error)).run (service.exec configuration)
        (s.1.put (pollUpdate operation service.now), advance s.2) := by
  have hread' : readOf (pollUpdate operation service.now) s.2.head?.join = .error error :=
    (readOf_congr rfl _).trans hread
  have htoken' : (pollUpdate operation service.now).statusToken ≠ none := htoken
  refine run_poll artifacts first n hlive hask hpolls (.error (.relay error)) ?_
  rw [readView]
  apply run_bind_error
  rw [run_readStatus htoken', hread']
  rfl

/-- **A poll** whose answer is stored. -/
theorem run_poll_ok (artifacts : AnchorRelayArtifacts P) (first : Bool) (n : Nat)
    {view : RelayOperationView} (hlive : Live configuration receiptId eventHash s operation)
    (hask : Asks operation) (htoken : operation.statusToken ≠ none)
    (hpolls : operation.counters.polls < 10000)
    (hread : readOf operation s.2.head?.join = .ok view) (hfits : Fits operation view) :
    ∃ viewed t, Live configuration receiptId eventHash t viewed ∧ t.2 = advance s.2 ∧
      viewed.terms = (operation.viewed view).terms ∧
      viewed.state = (operation.viewed view).state ∧
      viewed.alreadyAnchored = (operation.viewed view).alreadyAnchored ∧
      viewed.statusToken ≠ none ∧ viewed.relayBlobId = operation.relayBlobId ∧
      viewed.counters.polls = operation.counters.polls + 1 ∧
      (pollRelay artifacts first (n + 1) operation).run (service.exec configuration) s =
        (afterPoll artifacts n view viewed).run (service.exec configuration) t := by
  have hlive' := hlive.put (extends_poll service.now hlive hpolls) s.2
  have hfits' : Fits (pollUpdate operation service.now) view := hfits.congr rfl
  have hview := extends_view service.now hlive' hfits'
  have htoken' : (pollUpdate operation service.now).statusToken ≠ none := htoken
  have hread' : readOf (pollUpdate operation service.now) s.2.head?.join = .ok view :=
    (readOf_congr rfl _).trans hread
  refine ⟨relayViewUpdate (pollUpdate operation service.now) view service.now, _,
    hlive'.put hview (advance s.2), rfl, rfl, rfl, ?_, Option.some_ne_none _, rfl, rfl, ?_⟩
  · simp [AnchorOperation.viewed]
  refine run_poll artifacts first n hlive hask hpolls (.ok (view, _)) ?_
  have hstatus : (readStatus (pollUpdate operation service.now).statusToken :
      WorkflowProg P _).run (service.exec configuration)
      (s.1.put (pollUpdate operation service.now), s.2) =
      (.ok view, s.1.put (pollUpdate operation service.now), advance s.2) := by
    rw [run_readStatus htoken', hread']
    rfl
  have hlive'' : Live configuration receiptId eventHash
      (s.1.put (pollUpdate operation service.now), advance s.2)
      (pollUpdate operation service.now) := ⟨hlive'.bound, hlive'.parsed, hlive'.pending,
    hlive'.stored⟩
  rw [readView, run_bind_ok hstatus, run_bind_ok (run_saveRelayView hlive'' hfits')]
  rfl

/-- What is left of the answers after a read. -/
theorem advance_of_cons (hanswers : response :: rest ≠ [] → s.2 = response :: rest) :
    rest ≠ [] → advance s.2 = rest := by
  intro hrest
  rw [hanswers (List.cons_ne_nil _ _), advance_cons hrest]

theorem head_of_cons (hanswers : response :: rest ≠ [] → s.2 = response :: rest) :
    s.2.head?.join = response := by
  rw [hanswers (List.cons_ne_nil _ _)]
  rfl

/-- **The status reads lead to the decision.** -/
theorem decides_course (artifacts : AnchorRelayArtifacts P) (first : Bool) (n : Nat)
    (hcourse : Course service decision n operation rest)
    (hlive : Live configuration receiptId eventHash s operation)
    (htoken : operation.statusToken ≠ none)
    (hpolls : operation.counters.polls + rest.length ≤ 10000) (hanswers : rest ≠ [] → s.2 = rest) :
    Decides service configuration eventHash decision (pollRelay artifacts first n operation) s := by
  induction n generalizing first operation s rest with
  | zero => cases hcourse
  | succ n ih =>
    have hpending := hlive.pending
    cases hcourse with
    | stops hstopped hfresh hdecision =>
      rw [pollRelay, if_neg hpending, if_pos ⟨hstopped, hfresh⟩]
      exact ⟨operation, s, rfl, hstopped.trans hdecision.symm, hlive.stored⟩
    | discovers hknown hdiscovers =>
      rw [pollRelay, if_neg hpending, if_neg (by simp [hknown]), if_pos hknown]
      exact decides_discover artifacts hlive hdiscovers
    | verifies hfresh hverifying hhash hverifies =>
      rw [pollRelay, if_neg hpending, if_neg (by simp [hverifying]), if_neg (by simp [hfresh]),
        hhash, hverifying]
      exact decides_verify artifacts hlive hverifies
    | refused hask hread hfails hdecision =>
      rw [← head_of_cons hanswers] at hread
      have hpolls' : operation.counters.polls < 10000 := hpolls
      refine Decides.of_run (run_poll_error artifacts first n hlive hask htoken hpolls' hread) ?_
      rw [hdecision]
      exact decides_failNow (hlive.put (extends_poll service.now hlive hpolls') _) hfails
    | @confirmed _ _ _ _ hash hask hread hfits hview hhash hverifies =>
      rw [← head_of_cons hanswers] at hread
      obtain ⟨viewed, t, hlive', -, hterms, hstate, hanchored, -, -, -, hrun⟩ :=
        run_poll_ok artifacts first n hlive hask htoken hpolls hread hfits
      refine Decides.of_run hrun ?_
      have hhash' : viewed.transactionHash = some hash :=
        (transactionHash_of_terms hterms).trans hhash
      rw [afterPoll, hview, hhash']
      exact decides_verify artifacts hlive' (hverifies.congr hterms.symm)
    | anchored hask hread hfits hview hknown hdiscovers =>
      rw [← head_of_cons hanswers] at hread
      obtain ⟨viewed, t, hlive', -, hterms, -, -, -, -, -, hrun⟩ :=
        run_poll_ok artifacts first n hlive hask htoken hpolls hread hfits
      refine Decides.of_run hrun ?_
      rw [afterPoll, hview]
      dsimp only
      rw [if_pos hknown]
      exact decides_discover artifacts hlive' (hdiscovers.congr hterms.symm)
    | failed hask hread hfits hview hdecision =>
      rw [← head_of_cons hanswers] at hread
      obtain ⟨viewed, t, hlive', -, hterms, hstate, -, -, -, -, hrun⟩ :=
        run_poll_ok artifacts first n hlive hask htoken hpolls hread hfits
      refine Decides.of_run hrun ?_
      have hstopped : viewed.state = .finalFailure := by
        rw [hstate]
        rcases hview with ⟨hfailed, -⟩ | hreverted
        · simp [AnchorOperation.viewed, relayViewUpdate, localStateForRelay, hfailed]
        · simp [AnchorOperation.viewed, relayViewUpdate, localStateForRelay, hreverted]
      have hdone : Decides service configuration eventHash decision (pure viewed) t :=
        ⟨viewed, t, rfl, hstopped.trans hdecision.symm, hlive'.stored⟩
      rcases hview with ⟨hfailed, hfresh⟩ | hreverted
      · rw [afterPoll, hfailed]
        dsimp only
        rw [if_neg (by simp [hfresh])]
        exact hdone
      · rw [afterPoll, hreverted]
        exact hdone
    | @goesOn _ _ _ view _ hask hread hfits hunfailed hunreverted hhash hcourse =>
      rw [← head_of_cons hanswers] at hread
      rw [List.length_cons] at hpolls
      obtain ⟨viewed, t, hlive', hleft, hterms, hstate, hanchored, htoken', -, hcount, hrun⟩ :=
        run_poll_ok artifacts first n hlive hask htoken (by omega) hread hfits
      have hsame := transactionHash_of_terms hterms
      rw [afterPoll_goesOn artifacts n hunfailed hunreverted fun hconfirmed =>
        hsame.trans (hhash hconfirmed)] at hrun
      exact Decides.of_run hrun (ih false (hcourse.congr hterms.symm hstate.symm hanchored.symm)
        hlive' htoken' (by omega) fun hrest => hleft.trans (advance_of_cons hanswers hrest))

theorem run_requestAnchor_of_token (htoken : operation.statusToken ≠ none) :
    (requestAnchor operation service.artifacts).run (service.exec configuration) s =
      (.ok (.inl operation), s) := by
  rw [requestAnchor, if_pos (by simpa [Option.isSome_iff_ne_none] using htoken)]
  rfl

theorem run_uploadProof_of_blob (hblob : operation.relayBlobId ≠ none) :
    (uploadProof operation service.artifacts).run (service.exec configuration) s =
      (.ok (.inl operation), s) := by
  rw [uploadProof, if_pos (by simpa [Option.isSome_iff_ne_none] using hblob)]
  rfl

/-- The request can be stored. -/
theorem extends_request (now : Timestamp)
    (hlive : Live configuration receiptId eventHash s operation)
    (hcount : operation.counters.relayRequests < 10000) :
    Extends operation (requestingUpdate operation now) := by
  have hcounters := ((parse_iff _).mp hlive.parsed).2.1
  have hopen := open_of_parse hlive.parsed hlive.pending
  refine ⟨rfl, .inr rfl, .inr rfl, .inr rfl, ⟨le_rfl, Nat.le_succ _, le_rfl, le_rfl⟩, ?_, rfl,
    AnchorOperationState.noConfusion, hopen⟩
  simp only [parseCounters, Bool.and_eq_true] at hcounters ⊢
  exact ⟨⟨⟨hcounters.1.1.1, isCount_succ hcount⟩, hcounters.1.2⟩, hcounters.2⟩

/-- A request up to the relay's answer. -/
theorem run_requestAnchor (hlive : Live configuration receiptId eventHash s operation)
    (htoken : operation.statusToken = none) (hcount : operation.counters.relayRequests < 10000)
    {submitted : Except WorkflowError (RelayOperationView × AnchorOperation)} {t : Station}
    (hsubmit : (submit (requestingUpdate operation service.now) service.artifacts).run
      (service.exec configuration) (s.1.put (requestingUpdate operation service.now), s.2) =
      (submitted, t)) :
    (requestAnchor operation service.artifacts).run (service.exec configuration) s =
      (match submitted with
      | .ok (relay, submitted) => do
        match ← (saveRelayView submitted relay).attempt with
        | .ok operation => pure (.inl operation)
        | .error error => do
          let failed ← failNow submitted error
          pure (.inr failed)
      | .error error =>
        if error.alreadyAnchored then do
          let result ← discoverAndVerify (requestingUpdate operation service.now) service.artifacts
          pure (.inr result)
        else do
          let failed ← failNow (requestingUpdate operation service.now) error
          pure (.inr failed) : WorkflowProg P (AnchorOperation ⊕ AnchorOperation)).run
        (service.exec configuration) t := by
  rw [requestAnchor, if_neg (by simp [htoken]), run_now,
    run_bind_ok (run_saveUpdate hlive (extends_request service.now hlive hcount))]
  have hattempt : (submit (requestingUpdate operation service.now) service.artifacts).attempt.run
      (service.exec configuration) (s.1.put (requestingUpdate operation service.now), s.2) =
      (.ok submitted, t) := by
    rw [run_attempt, hsubmit]
  refine (run_bind_ok hattempt).trans ?_
  rcases submitted with error | ⟨relay, submitted⟩ <;> rfl

/-- A request that ends the run. -/
theorem Decides.request {result : WorkflowProg P AnchorOperation} {t : Station}
    (hrequest : (requestAnchor operation service.artifacts).run (service.exec configuration) s =
      (result >>= fun final => pure (.inr final)).run (service.exec configuration) t)
    (h : Decides service configuration eventHash decision result t) :
    Decides service configuration eventHash decision
      (requestAndPoll operation service.artifacts) s := by
  obtain ⟨final, t', hrun, hfinal⟩ := h
  refine ⟨final, t', ?_, hfinal⟩
  rw [requestAndPoll, run_bind_ok (hrequest.trans (run_bind_ok hrun))]
  rfl

/-- **The request leads to the decision.** -/
theorem decides_requests (hrequests : Requests service decision operation rest)
    (hlive : Live configuration receiptId eventHash s operation)
    (htoken : operation.statusToken = none) (hcount : operation.counters.relayRequests < 10000)
    (hanswers : rest ≠ [] → s.2 = rest) :
    Decides service configuration eventHash decision (requestAndPoll operation service.artifacts)
      s := by
  have hlive' := hlive.put (extends_request service.now hlive hcount) s.2
  -- what the request is answered
  have hfetch : ∀ request : RelayAnchorRequest,
      (fetchRelay (.events request) (requestRelayAnchor service.artifacts.event) :
        WorkflowProg P _).run (service.exec configuration)
        (s.1.put (requestingUpdate operation service.now), s.2) =
      (service.requested.mapError .relay, s.1.put (requestingUpdate operation service.now), s.2) :=
    fun request => run_fetchRelay
  have hrefused {error : RelayClientError} (herror : service.requested = .error error) :
      (submit (requestingUpdate operation service.now) service.artifacts).run
        (service.exec configuration) (s.1.put (requestingUpdate operation service.now), s.2) =
      (.error (.relay error), s.1.put (requestingUpdate operation service.now), s.2) := by
    rw [submit]
    apply run_bind_error
    rw [hfetch, herror]
    rfl
  cases hrequests with
  | refused hrequest hcode hfails hdecision =>
    rw [hdecision]
    refine Decides.request ((run_requestAnchor hlive htoken hcount (hrefused hrequest)).trans ?_)
      (decides_failNow hlive' hfails)
    dsimp only
    rw [if_neg (by simpa [WorkflowError.alreadyAnchored] using hcode)]
  | anchored hrequest hcode hdiscovers =>
    refine Decides.request ((run_requestAnchor hlive htoken hcount (hrefused hrequest)).trans ?_)
      (decides_discover service.artifacts hlive' (hdiscovers.congr rfl))
    dsimp only
    rw [if_pos (by simpa [WorkflowError.alreadyAnchored] using hcode)]
  | @accepted view _ hrequest hbinding herror hknown hroom hreads hcourse =>
    have hnext : Extends (requestingUpdate operation service.now)
        (submittedUpdate (requestingUpdate operation service.now) view service.now) :=
      ⟨rfl, .inr rfl, .inl htoken, hknown, ⟨le_rfl, le_rfl, le_rfl, le_rfl⟩,
        ((parse_iff _).mp hlive'.parsed).2.1, rfl, AnchorOperationState.noConfusion, hroom⟩
    have hlive'' := hlive'.put hnext s.2
    have hbinding' : assertRelayBinding
        (submittedUpdate (requestingUpdate operation service.now) view service.now) view
        = .ok () := by
      rw [assertRelayBinding_ok] at hbinding ⊢
      exact ⟨hbinding.1, hbinding.2.1, hbinding.2.2.1, hbinding.2.2.2.1, hbinding.2.2.2.2.1,
        .inr rfl⟩
    have hfits : Fits (submittedUpdate (requestingUpdate operation service.now) view service.now)
        view := by
      refine ⟨hbinding', herror, .inr ?_, ?_⟩
      · simp [submittedUpdate]
      · simpa [submittedUpdate, requestingUpdate] using hroom
    have hlive₃ := hlive''.put (extends_view service.now hlive'' hfits) s.2
    have hsubmit : (submit (requestingUpdate operation service.now) service.artifacts).run
        (service.exec configuration) (s.1.put (requestingUpdate operation service.now), s.2) =
        (.ok (view, submittedUpdate (requestingUpdate operation service.now) view service.now),
          (s.1.put (requestingUpdate operation service.now)).put
            (submittedUpdate (requestingUpdate operation service.now) view service.now),
          s.2) := by
      have hview := hfetch {
        blobId := operation.relayBlobId
        event := service.artifacts.event
        extensionPublicKey := service.artifacts.publicKey
        idempotencyKey := operation.idempotencyKey }
      rw [hrequest] at hview
      have hbound : assertRelayBinding (requestingUpdate operation service.now) view = .ok () :=
        hbinding
      refine (run_bind_ok hview).trans ?_
      rw [hbound]
      exact run_bind_ok (run_saveUpdate hlive' hnext)
    have hviewed : (saveRelayView (submittedUpdate (requestingUpdate operation service.now) view
        service.now) view).run (service.exec configuration)
        ((s.1.put (requestingUpdate operation service.now)).put
          (submittedUpdate (requestingUpdate operation service.now) view service.now), s.2) = _ :=
      run_saveRelayView hlive'' hfits
    have hcourse' : Course service decision MAX_POLLS_PER_WAKE (relayViewUpdate
        (submittedUpdate (requestingUpdate operation service.now) view service.now) view
        service.now) rest :=
      hcourse.congr rfl rfl (by simp [AnchorOperation.accepted, AnchorOperation.viewed])
    have hrequested : (requestAnchor operation service.artifacts).run (service.exec configuration) s
        = (.ok (.inl (relayViewUpdate (submittedUpdate (requestingUpdate operation service.now) view
          service.now) view service.now)),
          ((s.1.put (requestingUpdate operation service.now)).put
            (submittedUpdate (requestingUpdate operation service.now) view service.now)).put
            (relayViewUpdate (submittedUpdate (requestingUpdate operation service.now) view
              service.now) view service.now), s.2) := by
      refine (run_requestAnchor hlive htoken hcount hsubmit).trans ?_
      dsimp only
      rw [run_bind, run_attempt, hviewed]
      rfl
    exact Decides.of_run (run_bind_ok hrequested) (decides_course service.artifacts true
      MAX_POLLS_PER_WAKE hcourse' hlive₃ (Option.some_ne_none _) hreads hanswers)

/-- The upload can be stored. -/
theorem extends_uploading (blobId : OpaqueId) (now : Timestamp)
    (hlive : Live configuration receiptId eventHash s operation)
    (hcount : operation.counters.uploads < 10000) :
    Extends operation (uploadingUpdate operation blobId now) := by
  have hcounters := ((parse_iff _).mp hlive.parsed).2.1
  have hopen := open_of_parse hlive.parsed hlive.pending
  refine ⟨rfl, .inr rfl, .inr rfl, .inr rfl, ⟨le_rfl, le_rfl, Nat.le_succ _, le_rfl⟩, ?_, rfl,
    AnchorOperationState.noConfusion, hopen⟩
  simp only [parseCounters, Bool.and_eq_true] at hcounters ⊢
  exact ⟨⟨hcounters.1.1, isCount_succ hcount⟩, hcounters.2⟩

/-- An upload up to the relay's answer. -/
theorem run_uploadProof (hlive : Live configuration receiptId eventHash s operation)
    (hblob : operation.relayBlobId = none) (hcount : operation.counters.uploads < 10000)
    (uploaded : Except WorkflowError AnchorOperation) {t : Station}
    (hupload : (upload (uploadingUpdate operation service.artifacts.blobId service.now)
      service.artifacts).run (service.exec configuration)
      (s.1.put (uploadingUpdate operation service.artifacts.blobId service.now), s.2) =
      (uploaded, t)) :
    (uploadProof operation service.artifacts).run (service.exec configuration) s =
      (match uploaded with
      | .ok operation => pure (.inl operation)
      | .error error => do
        let failed ← failNow (uploadingUpdate operation service.artifacts.blobId service.now) error
        pure (.inr failed) : WorkflowProg P (AnchorOperation ⊕ AnchorOperation)).run
        (service.exec configuration) t := by
  rw [uploadProof, if_neg (by simp [hblob]), run_now,
    run_bind_ok (run_saveUpdate hlive (extends_uploading _ service.now hlive hcount))]
  have hattempt : (upload (uploadingUpdate operation service.artifacts.blobId service.now)
      service.artifacts).attempt.run (service.exec configuration)
      (s.1.put (uploadingUpdate operation service.artifacts.blobId service.now), s.2) =
      (.ok uploaded, t) := by
    rw [run_attempt, hupload]
  refine (run_bind_ok hattempt).trans ?_
  rcases uploaded with error | uploaded <;> rfl

/-- The workflow from the upload on. -/
def uploadAndRequest (operation : AnchorOperation) (artifacts : AnchorRelayArtifacts P) :
    WorkflowProg P AnchorOperation := do
  match ← uploadProof operation artifacts with
  | .inr result => pure result
  | .inl operation => requestAndPoll operation artifacts

/-- **The upload leads to the decision.** -/
theorem decides_uploads (huploads : Uploads service decision operation rest)
    (hlive : Live configuration receiptId eventHash s operation)
    (hblob : operation.relayBlobId = none) (hcount : operation.counters.uploads < 10000)
    (hanswers : rest ≠ [] → s.2 = rest) :
    Decides service configuration eventHash decision (uploadAndRequest operation service.artifacts)
      s := by
  have hnext := extends_uploading service.artifacts.blobId service.now hlive hcount
  have hlive' := hlive.put hnext s.2
  -- what the upload is answered
  have hfetch : (fetchRelay (.blobs service.artifacts.envelope)
      (uploadEncryptedReceipt service.artifacts.envelope.authenticatedMetadata.receiptId) :
      WorkflowProg P _).run (service.exec configuration)
      (s.1.put (uploadingUpdate operation service.artifacts.blobId service.now), s.2) =
      (service.uploaded.mapError .relay,
        s.1.put (uploadingUpdate operation service.artifacts.blobId service.now), s.2) :=
    run_fetchRelay
  have haccepted {blob : UploadedRelayBlob} (hblob' : service.uploaded = .ok blob) :
      ∃ t, Live configuration receiptId eventHash t (uploadedUpdate (uploadingUpdate operation
          service.artifacts.blobId service.now) blob.blobId service.now) ∧ t.2 = s.2 ∧
        (uploadAndRequest operation service.artifacts).run (service.exec configuration) s =
          (requestAndPoll (uploadedUpdate (uploadingUpdate operation service.artifacts.blobId
            service.now) blob.blobId service.now) service.artifacts).run
            (service.exec configuration) t := by
    rw [hblob'] at hfetch
    have hopen := open_of_parse hlive.parsed hlive.pending
    have hstored : Extends (uploadingUpdate operation service.artifacts.blobId service.now)
        (uploadedUpdate (uploadingUpdate operation service.artifacts.blobId service.now)
          blob.blobId service.now) :=
      ⟨rfl, .inl hblob, .inr rfl, .inr rfl, ⟨le_rfl, le_rfl, le_rfl, le_rfl⟩, hnext.bounded, rfl,
        AnchorOperationState.noConfusion, hopen⟩
    exact ⟨_, hlive'.put hstored s.2, rfl, run_bind_ok (run_uploadProof hlive hblob hcount (.ok _)
      ((run_bind_ok hfetch).trans (run_saveUpdate hlive' hstored)))⟩
  cases huploads with
  | refused hupload hfails hdecision =>
    rw [hupload] at hfetch
    rw [hdecision]
    obtain ⟨final, t, hrun, hfinal⟩ : Decides service configuration eventHash .finalFailure _ _ :=
      decides_failNow hlive' hfails
    refine ⟨final, t, ?_, hfinal⟩
    have hproof : (uploadProof operation service.artifacts).run (service.exec configuration) s =
        (.ok (.inr final), t) := by
      refine (run_uploadProof hlive hblob hcount (.error (.relay _)) (run_bind_error hfetch)).trans ?_
      exact run_bind_ok hrun
    rw [uploadAndRequest, run_bind_ok hproof]
    rfl
  | requests hupload htoken hrequested hrequests =>
    obtain ⟨t, hlive'', hleft, hrun⟩ := haccepted hupload
    exact Decides.of_run hrun (decides_requests (hrequests.congr rfl rfl) hlive'' htoken hrequested
      fun hrest => hleft.trans (hanswers hrest))
  | asks hupload htoken hreads hcourse =>
    obtain ⟨t, hlive'', hleft, hrun⟩ := haccepted hupload
    exact Decides.of_run (hrun.trans (run_bind_ok (run_requestAnchor_of_token htoken)))
      (decides_course service.artifacts true MAX_POLLS_PER_WAKE (hcourse.congr rfl rfl rfl) hlive''
        htoken hreads fun hrest => hleft.trans (hanswers hrest))

/-! ### Wakes -/

/-- The workflow ends where it is, from an operation that is decided. -/
theorem run_decided (hbound : Bound configuration receiptId eventHash operation)
    (hstored : s.1.get eventHash = some operation) (hdecided : operation.state.decided) :
    (runAnchorWorkflow receiptId eventHash).run (service.exec configuration) s =
      (.ok operation, s) := by
  rw [runAnchorWorkflow, run_now, run_bind_ok (run_ensure hbound hstored),
    if_pos (show _ ∨ _ from hdecided)]
  rfl

/-- A wake finds the stored operation, and goes straight to its verification. -/
theorem run_direct (hlive : Live configuration receiptId eventHash s operation)
    (hfinal : operation.state ≠ .finalFailure) (hdirect : operation.direct = true)
    (hhash : operation.transactionHash = some hash) :
    (runAnchorWorkflow receiptId eventHash).run (service.exec configuration) s =
      (verifyAndConfirm operation service.artifacts hash).run (service.exec configuration) s := by
  simp only [AnchorOperation.direct, Bool.and_eq_true] at hdirect
  rw [runAnchorWorkflow, run_now, run_bind_ok (run_ensure hlive.bound hlive.stored),
    if_neg (by simp [hlive.pending, hfinal]), run_bind_ok run_getArtifacts, hhash, hdirect.2]

/-- A wake finds the stored operation, and goes on from its upload. -/
theorem run_indirect (hlive : Live configuration receiptId eventHash s operation)
    (hfinal : operation.state ≠ .finalFailure) (hnot : operation.direct = false) :
    (runAnchorWorkflow receiptId eventHash).run (service.exec configuration) s =
      (uploadAndRequest operation service.artifacts).run (service.exec configuration) s := by
  rw [runAnchorWorkflow, run_now, run_bind_ok (run_ensure hlive.bound hlive.stored),
    if_neg (by simp [hlive.pending, hfinal]), run_bind_ok run_getArtifacts]
  split
  · rename_i transactionHash hhash hreverify
    simp [AnchorOperation.direct, hhash, hreverify] at hnot
  · rfl

/-- A wake goes on from the request. -/
theorem run_requests (hlive : Live configuration receiptId eventHash s operation)
    (hfinal : operation.state ≠ .finalFailure) (hnot : operation.direct = false)
    (hblob : operation.relayBlobId ≠ none) :
    (runAnchorWorkflow receiptId eventHash).run (service.exec configuration) s =
      (requestAndPoll operation service.artifacts).run (service.exec configuration) s :=
  (run_indirect hlive hfinal hnot).trans (run_bind_ok (run_uploadProof_of_blob hblob))

/-- A wake goes on from the status reads. -/
theorem run_asks (hlive : Live configuration receiptId eventHash s operation)
    (hfinal : operation.state ≠ .finalFailure) (hnot : operation.direct = false)
    (hblob : operation.relayBlobId ≠ none) (htoken : operation.statusToken ≠ none) :
    (runAnchorWorkflow receiptId eventHash).run (service.exec configuration) s =
      (pollRelay service.artifacts true MAX_POLLS_PER_WAKE operation).run
        (service.exec configuration) s :=
  (run_requests hlive hfinal hnot hblob).trans (run_bind_ok (run_requestAnchor_of_token htoken))

/-- An operation that is known to be anchored takes no status read. -/
theorem Course.eq_nil {n : Nat} (hcourse : Course service decision n operation rest)
    (hanchored : operation.alreadyAnchored = true) : rest = [] := by
  by_contra hrest
  have hfresh := (hcourse.asks hrest).fresh
  rw [hanchored] at hfresh
  cases hfresh

/-- **A wake** from a stored operation whose counters have room. -/
theorem decides_wake {reads : Nat} (honward : Onward service decision operation rest)
    (hlive : Live configuration receiptId eventHash s operation)
    (hfinal : operation.state ≠ .finalFailure) (haffords : operation.affords reads = true)
    (hreads : rest.length ≤ max reads 1) (hanswers : rest ≠ [] → s.2 = rest) :
    Decides service configuration eventHash decision (runAnchorWorkflow receiptId eventHash) s := by
  unfold AnchorOperation.affords at haffords
  cases honward with
  | verifies hdirect hhash hsettles =>
    rw [if_pos hdirect] at haffords
    exact Decides.of_run (run_direct hlive hfinal hdirect hhash) (decides_verify service.artifacts
      hlive ⟨of_decide_eq_true haffords, hsettles⟩)
  | uploads hnot hblob huploads =>
    rw [if_neg (by simp [hnot]), if_pos hblob] at haffords
    exact Decides.of_run (run_indirect hlive hfinal hnot) (decides_uploads huploads hlive hblob
      (of_decide_eq_true haffords) hanswers)
  | requests hnot hblob htoken hrequests =>
    rw [if_neg (by simp [hnot]), if_neg hblob, if_pos htoken] at haffords
    exact Decides.of_run (run_requests hlive hfinal hnot hblob) (decides_requests hrequests hlive
      htoken (of_decide_eq_true haffords) hanswers)
  | asks hnot hblob htoken hcourse =>
    rw [if_neg (by simp [hnot]), if_neg hblob, if_neg htoken, Bool.or_eq_true] at haffords
    refine Decides.of_run (run_asks hlive hfinal hnot hblob htoken) (decides_course
      service.artifacts true MAX_POLLS_PER_WAKE hcourse hlive htoken ?_ hanswers)
    rcases haffords with hanchored | hroom
    · rw [hcourse.eq_nil hanchored]
      exact (counters_of_parse hlive.parsed).1
    · exact (Nat.add_le_add_left hreads _).trans (of_decide_eq_true hroom)

/-! ### An exhausted counter -/

theorem parse_exhausted (h : parseCounters next.counters = false) :
    parseAnchorOperation next = false := by
  apply Bool.eq_false_iff.mpr
  intro hparse
  rw [((parse_iff _).mp hparse).2.1] at h
  cases h

/-- A poll beyond the last count is refused. -/
theorem run_poll_exhausted (artifacts : AnchorRelayArtifacts P) (first : Bool) (n : Nat)
    (hlive : Live configuration receiptId eventHash s operation) (hask : Asks operation)
    (hpolls : 10000 ≤ operation.counters.polls) :
    ((pollRelay artifacts first (n + 1) operation).run (service.exec configuration) s).2 = s := by
  have hrefused : parseAnchorOperation (pollUpdate operation service.now) = false := by
    apply parse_exhausted
    simp [pollUpdate, parseCounters, isCount, hpolls]
  rw [pollRelay, if_neg hlive.pending, if_neg (fun h => hask.unfailed h.1),
    if_neg (by simp [hask.fresh])]
  split
  · rename_i tx htx hstate
    rw [hask.unverified hstate] at htx
    cases htx
  · rw [run_pauseUnless, run_now, run_bind_error (run_saveUpdate_refused hrefused)]

/-- **A wake stores nothing** where the counter that it increments first is
exhausted. -/
theorem run_exhausted (hlive : Live configuration receiptId eventHash s operation)
    (hfinal : operation.state ≠ .finalFailure) (hcount : operation.affords 0 = false) :
    ((runAnchorWorkflow receiptId eventHash).run (service.exec configuration) s).2 = s := by
  unfold AnchorOperation.affords at hcount
  by_cases hdirect : operation.direct = true
  · rw [if_pos hdirect] at hcount
    have hcount := not_lt.mp (of_decide_eq_false hcount)
    have hhash := hdirect
    simp only [AnchorOperation.direct, Bool.and_eq_true, Option.isSome_iff_exists] at hhash
    obtain ⟨⟨transactionHash, hhash⟩, -⟩ := hhash
    have hrefused : parseAnchorOperation (verifyingUpdate operation transactionHash service.now)
        = false := by
      apply parse_exhausted
      simp [verifyingUpdate, parseCounters, isCount, hcount]
    rw [run_direct hlive hfinal hdirect hhash, verifyAndConfirm, run_now,
      run_bind_error (run_saveUpdate_refused hrefused)]
  rw [if_neg hdirect] at hcount
  have hnot : operation.direct = false := Bool.eq_false_iff.mpr hdirect
  by_cases hblob : operation.relayBlobId = none
  · rw [if_pos hblob] at hcount
    have hcount := not_lt.mp (of_decide_eq_false hcount)
    have hrefused : parseAnchorOperation (uploadingUpdate operation service.artifacts.blobId
        service.now) = false := by
      apply parse_exhausted
      simp [uploadingUpdate, parseCounters, isCount, hcount]
    rw [run_indirect hlive hfinal hnot, uploadAndRequest, run_bind, uploadProof,
      if_neg (by simp [hblob]), run_now, run_bind_error (run_saveUpdate_refused hrefused)]
  rw [if_neg hblob] at hcount
  by_cases htoken : operation.statusToken = none
  · rw [if_pos htoken] at hcount
    have hcount := not_lt.mp (of_decide_eq_false hcount)
    have hrefused : parseAnchorOperation (requestingUpdate operation service.now) = false := by
      apply parse_exhausted
      simp [requestingUpdate, parseCounters, isCount, hcount]
    rw [run_requests hlive hfinal hnot hblob, requestAndPoll, run_bind, requestAnchor,
      if_neg (by simp [htoken]), run_now, run_bind_error (run_saveUpdate_refused hrefused)]
  · rw [if_neg htoken, Bool.or_eq_false_iff] at hcount
    obtain ⟨hfresh, hpolls⟩ := hcount
    have hpolls := not_le.mp (of_decide_eq_false hpolls)
    rw [run_asks hlive hfinal hnot hblob htoken]
    refine run_poll_exhausted service.artifacts true 5 hlive ⟨hfinal, hfresh, fun hstate => ?_⟩
      (Nat.le_of_lt_succ hpolls)
    simpa [AnchorOperation.direct, hstate, directReverify] using hnot

/-- **Status reads that the counter has no room for** leave an operation that
no wake takes any further. -/
theorem exists_stuck (artifacts : AnchorRelayArtifacts P) (first : Bool) (n : Nat)
    (hcourse : Course service decision n operation rest)
    (hlive : Live configuration receiptId eventHash s operation)
    (hnot : operation.direct = false) (hblob : operation.relayBlobId ≠ none)
    (htoken : operation.statusToken ≠ none)
    (hshort : 10000 < operation.counters.polls + rest.length) (hanswers : rest ≠ [] → s.2 = rest) :
    ∃ stuck, Live configuration receiptId eventHash
        ((pollRelay artifacts first n operation).run (service.exec configuration) s).2 stuck ∧
      stuck.state ≠ .finalFailure ∧ stuck.affords 0 = false := by
  induction n generalizing first operation s rest with
  | zero => cases hcourse
  | succ n ih =>
    have hcount := (counters_of_parse hlive.parsed).1
    have hask : Asks operation := by
      apply hcourse.asks
      rintro rfl
      exact absurd hshort (not_lt.mpr hcount)
    by_cases hpolls : operation.counters.polls < 10000
    · -- one read more, and at least another one to come
      cases hcourse with
      | stops | discovers | verifies | refused | confirmed | anchored | failed =>
        exfalso
        simp only [List.length_nil, List.length_cons] at hshort
        omega
      | @goesOn _ _ _ view _ _ hread hfits hunfailed hunreverted hhash hcourse =>
        rw [← head_of_cons hanswers] at hread
        rw [List.length_cons] at hshort
        obtain ⟨viewed, t, hlive', hleft, hterms, hstate, hanchored, htoken', hblob', hcount',
            hrun⟩ :=
          run_poll_ok artifacts first n hlive hask htoken hpolls hread hfits
        have hsame := transactionHash_of_terms hterms
        have hnot' : viewed.direct = false := by
          apply Bool.eq_false_iff.mpr
          intro hdirect
          simp only [AnchorOperation.direct, Bool.and_eq_true] at hdirect
          rw [hstate] at hdirect
          rw [hsame, hhash (directReverify_localState hdirect.2)] at hdirect
          cases hdirect.1
        rw [hrun, afterPoll_goesOn artifacts n hunfailed hunreverted fun hconfirmed =>
          hsame.trans (hhash hconfirmed)]
        exact ih false (hcourse.congr hterms.symm hstate.symm hanchored.symm) hlive' hnot'
          (by rwa [hblob']) htoken' (by omega) fun hrest =>
            hleft.trans (advance_of_cons hanswers hrest)
    · -- the next read is refused
      rw [run_poll_exhausted artifacts first n hlive hask (not_lt.mp hpolls)]
      refine ⟨operation, hlive, hask.unfailed, ?_⟩
      simp only [AnchorOperation.affords, hnot, hblob, htoken, hask.fresh]
      simpa using hpolls

end forward

end SubmittedIt.Extension
