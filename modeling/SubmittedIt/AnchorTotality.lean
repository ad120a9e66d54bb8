/-
SubmittedIt/AnchorTotality.lean

How a run of the anchor workflow ends, whatever the relay and the chain answer
(apps/extension/lib/anchor-workflow.ts, anchor-state.ts).

An update that the validator refuses throws.  Where that happens inside a `try`
it is one more failure to record; elsewhere it ends the run.  What is recorded
of a failure always fits, so only two updates can be refused there: one that
counts beyond 10000, and one with a transaction hash that no operation can
store.

The step relation is indexed by `kept`, whether the environment keeps to the
assumptions of the totality.  One proof per function of the workflow then gives
both what every run stores (`kept` false) and that a run returns (`kept` true).

Main results: `Woken.clean` (what earlier runs leave stored) and
`runAnchorWorkflow_returns`.
-/
import SubmittedIt.AnchorResumption

namespace SubmittedIt.Extension

open ReceiptCore Prog

variable {P : StoragePlatform} {configuration : ExtensionRelayConfiguration}

/-! ### Runs and what they are given -/

/-- The persistence call is one with a valid operation. -/
def WorkflowOp.persists : WorkflowOp P → Bool
  | .ensure .. | .getArtifacts .. => true
  | .save operation | .confirm operation _ _ => parseAnchorOperation operation
  | .now | .pause _ | .fetch _ | .verifyAnchor .. | .discoverAnchor _ => false

/-- A persistence call with a valid operation succeeded. -/
def Persisted (configuration : ExtensionRelayConfiguration) (e : WorkflowEvent P) : Prop :=
  e.op.persists = true → (executeWorkflow configuration e.op e.answer e.before).1.isOk = true

/-- A discovery did not name a transaction by a text that is no hash. -/
def NamesByHash : WorkflowEvent P → Prop
  | ⟨.discoverAnchor _, answer, _⟩ => answer ≠ .ok (some .other)
  | _ => True

/-- The stores that any number of earlier wakes reach, whatever they were for
and wherever they were interrupted. -/
inductive Woken (P : StoragePlatform) : AnchorOperations → Prop
  | none : Woken P []
  | wake {store stored : AnchorOperations} (configuration : ExtensionRelayConfiguration)
      (receiptId : ReceiptId) (eventHash : HashHex) {log : List (WorkflowEvent P)}
      {result : Except WorkflowError AnchorOperation} {e : WorkflowEvent P} :
      Woken P store →
      (runAnchorWorkflow receiptId eventHash).Executes (executeWorkflow configuration) store log
        result stored →
      e ∈ log → Woken P (leaves configuration e)

/-- The counters that a wake may increment have room for it. -/
structure AnchorOperation.Room (operation : AnchorOperation) : Prop where
  verifications : operation.counters.verifications < 10000
  uploads : operation.direct = false → operation.relayBlobId = none →
    operation.counters.uploads < 10000
  requests : operation.direct = false → operation.statusToken = none →
    operation.counters.relayRequests < 10000
  polls : operation.direct = false →
    operation.counters.polls + MAX_POLLS_PER_WAKE ≤ 10000 ∨
      operation.relayBlobId ≠ none ∧ operation.statusToken ≠ none ∧
        operation.alreadyAnchored = true

/-! ### Operations that can be stored -/

/-- An operation as the workflow stores it: before its confirmation it has no
time of anchoring. -/
structure Clean (operation : AnchorOperation) : Prop where
  parsed : parseAnchorOperation operation = true
  unanchored : operation.state ≠ .chainEvidenceConfirmed → operation.anchoredAt = none

/-- Every stored operation is one that the workflow stores. -/
def AllClean (store : AnchorOperations) : Prop := ∀ operation ∈ store, Clean operation

section operations

variable {operation next : AnchorOperation} {store : AnchorOperations}

theorem AllClean.put (h : AllClean store) (hclean : Clean operation) :
    AllClean (store.put operation) := by
  intro candidate hmem
  rcases List.mem_cons.mp hmem with rfl | hmem
  · exact hclean
  · exact h candidate (List.mem_filter.mp hmem).1

theorem AllClean.get {eventHash : HashHex} (h : AllClean store)
    (hget : store.get eventHash = some operation) : Clean operation :=
  h operation (List.mem_of_find?_eq_some hget)

/-- An update of an operation that is not confirmed. -/
theorem Clean.update (h : Clean operation) (hopen : operation.state ≠ .chainEvidenceConfirmed)
    (hfixed : (operation.chainId, operation.contractAddress, operation.eventCount,
        operation.relayBaseUrl, operation.stage, operation.anchoredAt) =
      (next.chainId, next.contractAddress, next.eventCount, next.relayBaseUrl, next.stage,
        next.anchoredAt))
    (hpending : next.state ≠ .chainEvidenceConfirmed)
    (hcounters : parseCounters next.counters = true)
    (herror : next.lastError.all parseError = true) : parseAnchorOperation next = true := by
  have hat := h.unanchored hopen
  simp only [Prod.mk.injEq] at hfixed
  obtain ⟨hchain, hcontract, hcount, hrelay, hstage, hsame⟩ := hfixed
  exact parse_of_open h.parsed (by rw [hchain, hcontract, hcount, hrelay, hstage]) hcounters
    herror hpending (.inr (.inr (.inl (hsame ▸ hat))))

theorem AllClean.confirm {stored : AnchorOperations} {eventHash : HashHex}
    {verified : VerifiedSubmissionReceiptAnchor} {now : Timestamp} (h : AllClean store)
    (hconfirm : store.confirm eventHash verified now = .ok (operation, stored)) :
    Clean operation ∧ AllClean stored := by
  obtain ⟨hparse, hstate, hstored⟩ := AnchorOperations.confirm_stored hconfirm
  have hclean : Clean operation := ⟨hparse, fun hpending => absurd hstate hpending⟩
  refine ⟨hclean, fun candidate hmem => ?_⟩
  rcases hstored candidate hmem with rfl | hmem
  · exact hclean
  · exact h candidate hmem

theorem parseCounters_iff (counters : AnchorOperationCounters) :
    parseCounters counters = true ↔ counters.polls ≤ 10000 ∧ counters.relayRequests ≤ 10000 ∧
      counters.uploads ≤ 10000 ∧ counters.verifications ≤ 10000 := by
  simp [parseCounters, isCount, and_assoc]

end operations

/-! ### What is recorded of a failure -/

/-- The error can be recorded. -/
def WorkflowError.fits : WorkflowError → Bool
  | .relay error => parseErrorBody error.code error.message
  | .verification _ | .storage _ | .other => true

theorem relayFetch_fits {outcome : Option RelayResponse} {error : RelayClientError}
    (h : relayFetch outcome = .error error) :
    parseErrorBody error.code error.message = true := by
  unfold relayFetch at h
  split at h
  · cases h
    dsimp only
    decide
  split at h
  · cases h
    dsimp only
    decide
  · cases h
    dsimp only
    decide
  · split_ifs at h with hok hparse
    · cases h
      exact hparse
    · cases h
      dsimp only
      decide
  · split_ifs at h
    cases h
    dsimp only
    decide

theorem uploadEncryptedReceipt_fits {receiptId : ReceiptId} {body : RelayBody}
    {error : RelayClientError} (h : uploadEncryptedReceipt receiptId body = .error error) :
    parseErrorBody error.code error.message = true := by
  unfold uploadEncryptedReceipt at h
  split at h
  · split_ifs at h
    cases h
    dsimp only
    decide
  · cases h
    dsimp only
    decide

theorem requestRelayAnchor_fits {event : LifecycleEventEnvelope} {body : RelayBody}
    {error : RelayClientError} (h : requestRelayAnchor event body = .error error) :
    parseErrorBody error.code error.message = true := by
  unfold requestRelayAnchor at h
  split at h
  · split_ifs at h
    cases h
    dsimp only
    decide
  · cases h
    dsimp only
    decide

theorem readRelayOperation_fits {statusToken : OpaqueId} {body : RelayBody}
    {error : RelayClientError} (h : readRelayOperation statusToken body = .error error) :
    parseErrorBody error.code error.message = true := by
  unfold readRelayOperation at h
  split at h
  · split_ifs at h
    cases h
    dsimp only
    decide
  · cases h
    dsimp only
    decide

theorem assertRelayBinding_fits {operation : AnchorOperation} {relay : RelayOperationView}
    {error : WorkflowError} (h : assertRelayBinding operation relay = .error error) :
    error.fits = true := by
  unfold assertRelayBinding at h
  split_ifs at h
  cases h
  decide

theorem isErrorCode_text (code : AnchorVerificationErrorCode) : isErrorCode code.text = true := by
  cases code <;> decide

/-! ### Steps -/

/-- One awaited operation.  Where `kept`, the environment keeps to the
assumptions. -/
def Awaits (configuration : ExtensionRelayConfiguration) (kept : Prop) (o : WorkflowOp P)
    (store : AnchorOperations) (r : Except WorkflowError o.Result) (stored : AnchorOperations) :
    Prop :=
  ∃ answer, executeWorkflow configuration o answer store = (r, stored) ∧
    (kept → Persisted configuration ⟨o, answer, store⟩ ∧ NamesByHash ⟨o, answer, store⟩)

/-- The end of a run. -/
def Ends (kept : Prop) : Except WorkflowError AnchorOperation → AnchorOperations → Prop
  | .ok operation, _ => Clean operation
  | .error _, _ => ¬ kept

/-- What a run has in hand: an operation without its evidence. -/
structure Held (operation : AnchorOperation) (store : AnchorOperations) : Prop where
  stored : AllClean store
  clean : Clean operation
  pending : operation.state ≠ .chainEvidenceConfirmed

/-- The operation can be polled `n` times more, or needs no poll. -/
def PollRoom (n : Nat) (operation : AnchorOperation) : Prop :=
  operation.counters.polls + n ≤ 10000 ∨ operation.alreadyAnchored = true

section steps

variable {kept : Prop} {store : AnchorOperations} {operation next : AnchorOperation}
  {artifacts : AnchorRelayArtifacts P}

theorem Held.counters (h : Held operation store) :
    parseCounters operation.counters = true := ((parse_iff _).mp h.clean.parsed).2.1

theorem Held.unanchored (h : Held operation store) : operation.anchoredAt = none :=
  h.clean.unanchored h.pending

/-- An update of the operation in hand. -/
theorem Held.update (h : Held operation store)
    (hfixed : (operation.chainId, operation.contractAddress, operation.eventCount,
        operation.relayBaseUrl, operation.stage, operation.anchoredAt) =
      (next.chainId, next.contractAddress, next.eventCount, next.relayBaseUrl, next.stage,
        next.anchoredAt))
    (hpending : next.state ≠ .chainEvidenceConfirmed)
    (hcounters : parseCounters next.counters = true)
    (herror : next.lastError.all parseError = true) : parseAnchorOperation next = true :=
  h.clean.update h.pending hfixed hpending hcounters herror

/-- An error is recorded. -/
theorem Held.operationError (h : Held operation store) {state : AnchorOperationState}
    {code message : String} {recoverable : Bool} {now : Timestamp}
    (hstate : state ≠ .chainEvidenceConfirmed) (hfits : parseErrorBody code message = true) :
    parseAnchorOperation (operationError operation state code message recoverable now) = true :=
  h.update rfl hstate h.counters (by
    simpa [Extension.operationError, parseError, parseErrorBody] using hfits)

theorem meets_now {β : Type} {f : Timestamp → WorkflowProg P β}
    {Q : Except WorkflowError β → AnchorOperations → Prop} (hstore : AllClean store)
    (h : ∀ now, (f now).Meets (Awaits configuration kept) AllClean Q store) :
    ((await .now : WorkflowProg P Timestamp) >>= f).Meets (Awaits configuration kept) AllClean Q
      store := by
  rw [meets_bind]
  rintro r stored ⟨now, hexecute, -⟩
  cases hexecute
  exact ⟨hstore, h now⟩

theorem meets_pauseUnless {β : Type} {first : Bool} {f : Unit → WorkflowProg P β}
    {Q : Except WorkflowError β → AnchorOperations → Prop} (hstore : AllClean store)
    (h : (f ()).Meets (Awaits configuration kept) AllClean Q store) :
    (pauseUnless first >>= f).Meets (Awaits configuration kept) AllClean Q store := by
  cases first with
  | true => exact h
  | false =>
    rw [meets_bind]
    rintro r stored ⟨⟨⟩, hexecute, -⟩
    cases hexecute
    exact ⟨hstore, h⟩

theorem meets_save {Q : Except WorkflowError AnchorOperation → AnchorOperations → Prop}
    (hstore : AllClean store) (hclean : Clean next)
    (hok : ∀ stored, AllClean stored → Q (.ok next) stored)
    (herror : ¬ kept → ∀ e, Q (.error (.storage e)) store) :
    (await (.save next) : WorkflowProg P _).Meets (Awaits configuration kept) AllClean Q store := by
  rintro r stored ⟨answer, hexecute, hkept⟩
  rcases r with e | result
  · obtain ⟨e, rfl⟩ := executeWorkflow_save_error hexecute
    obtain rfl := executeWorkflow_error hexecute
    refine ⟨hstore, herror (fun hk => ?_) e⟩
    have hsucceeds := (hkept hk).1 hclean.parsed
    rw [hexecute] at hsucceeds
    cases hsucceeds
  · obtain ⟨-, hsame, hsave⟩ := executeWorkflow_save hexecute
    obtain ⟨-, rfl, -⟩ := AnchorOperations.save_ok hsave
    rw [hsame]
    exact ⟨hstore.put hclean, hok _ (hstore.put hclean)⟩

/-- **A save of an update**: it stores the update, or stores nothing.  Where
the environment keeps to the assumptions, only the validator refuses. -/
theorem meets_saveUpdate {Q : Except WorkflowError AnchorOperation → AnchorOperations → Prop}
    (hstore : AllClean store) (hat : next.anchoredAt = none)
    (hok : ∀ stored, AllClean stored → Clean next → Q (.ok next) stored)
    (herror : (kept → parseAnchorOperation next = false) → ∀ e, Q (.error (.storage e)) store) :
    (saveUpdate next : WorkflowProg P _).Meets (Awaits configuration kept) AllClean Q store := by
  rw [saveUpdate, meets_bind, meets_ofExcept]
  cases hparse : parseAnchorOperation next with
  | false =>
    have hupdate : updateAnchorOperation next = .error
        (.failure "SubmittedIt refused an invalid durable anchor-operation update.") := by
      simp [updateAnchorOperation, hparse]
    rw [hupdate]
    exact herror (fun _ => hparse) _
  | true =>
    rw [updateAnchorOperation_eq_ok.mpr ⟨rfl, hparse⟩]
    have hclean : Clean next := ⟨hparse, fun _ => hat⟩
    exact meets_save hstore hclean (fun stored hstored => hok stored hstored hclean)
      fun hk => herror fun h => absurd h hk

/-- A save of an update outside of every `try`, and what follows it. -/
theorem meets_saveUpdate_bind {β : Type} {f : AnchorOperation → WorkflowProg P β}
    {Q : Except WorkflowError β → AnchorOperations → Prop} (hstore : AllClean store)
    (hat : next.anchoredAt = none) (hparse : kept → parseAnchorOperation next = true)
    (hok : ∀ stored, AllClean stored → Clean next →
      (f next).Meets (Awaits configuration kept) AllClean Q stored)
    (herror : ¬ kept → ∀ e, Q (.error e) store) :
    (saveUpdate next >>= f).Meets (Awaits configuration kept) AllClean Q store := by
  rw [meets_bind]
  refine meets_saveUpdate hstore hat hok ?_
  intro hrefused e
  apply herror
  intro hk
  have haccepted := hparse hk
  rw [hrefused hk] at haccepted
  cases haccepted

/-- A save that ends the run. -/
theorem meets_saveUpdate_ends (hstore : AllClean store) (hat : next.anchoredAt = none)
    (hparse : parseAnchorOperation next = true) :
    (saveUpdate next : WorkflowProg P _).Meets (Awaits configuration kept) AllClean (Ends kept)
      store := by
  refine meets_saveUpdate hstore hat ?_ ?_
  · exact fun _ _ hclean => hclean
  · intro hrefused _ hkept
    rw [hrefused hkept] at hparse
    cases hparse

theorem meets_failForRelayError (h : Held operation store) {error : WorkflowError}
    (hfits : error.fits = true) (now : Timestamp) :
    (failForRelayError operation error now : WorkflowProg P _).Meets (Awaits configuration kept)
      AllClean (Ends kept) store := by
  unfold failForRelayError
  split
  · rename_i error
    refine meets_saveUpdate_ends h.stored h.unanchored (h.operationError ?_ hfits)
    unfold relayErrorState
    split_ifs <;> decide
  · exact meets_saveUpdate_ends h.stored h.unanchored (h.operationError (by decide) (by decide))

theorem meets_failNow (h : Held operation store) {error : WorkflowError}
    (hfits : error.fits = true) :
    (failNow operation error : WorkflowProg P _).Meets (Awaits configuration kept) AllClean
      (Ends kept) store := by
  apply meets_now h.stored
  intro now
  exact meets_failForRelayError h hfits now

theorem meets_failForVerificationError (h : Held operation store) (error : WorkflowError)
    (now : Timestamp) :
    (failForVerificationError operation error now : WorkflowProg P _).Meets
      (Awaits configuration kept) AllClean (Ends kept) store := by
  unfold failForVerificationError
  split
  · rename_i error
    refine meets_saveUpdate_ends h.stored h.unanchored (h.operationError ?_ ?_)
    · cases error.code <;> decide
    · simp [parseErrorBody, isErrorCode_text, error.fits]
  · exact meets_saveUpdate_ends h.stored h.unanchored (h.operationError (by decide) (by decide))

/-- **A verification** ends the run. -/
theorem meets_verifyAndConfirm (h : Held operation store)
    (hroom : kept → operation.counters.verifications < 10000) (transactionHash : HashHex) :
    (verifyAndConfirm operation artifacts transactionHash : WorkflowProg P _).Meets
      (Awaits configuration kept) AllClean (Ends kept) store := by
  apply meets_now h.stored
  intro now
  refine meets_saveUpdate_bind h.stored h.unanchored ?_ ?_ fun hk _ => hk
  · intro hk
    have hcounters := (parseCounters_iff _).mp h.counters
    refine h.update rfl (by simp [verifyingUpdate]) ((parseCounters_iff _).mpr ?_) rfl
    exact ⟨hcounters.1, hcounters.2.1, hcounters.2.2.1, hroom hk⟩
  · intro stored hstored hclean
    rw [meets_bind, meets_attempt]
    rintro r _ ⟨answer, hexecute, -⟩
    cases hexecute
    refine ⟨hstored, ?_⟩
    rcases r with error | verified
    · exact meets_failForVerificationError ⟨hstored, hclean, by simp [verifyingUpdate]⟩ error now
    · rintro r stored' ⟨answer, hexecute, hkept⟩
      rcases r with error | confirmed
      · obtain rfl := executeWorkflow_error hexecute
        refine ⟨hstored, fun hk => ?_⟩
        have hsucceeds := (hkept hk).1 hclean.parsed
        rw [hexecute] at hsucceeds
        cases hsucceeds
      · obtain ⟨hconfirmed, hstored'⟩ := hstored.confirm (executeWorkflow_confirm hexecute)
        exact ⟨hstored', hconfirmed⟩

/-- **A discovery** ends the run. -/
theorem meets_discoverAndVerify (h : Held operation store)
    (hroom : kept → operation.counters.verifications < 10000) :
    (discoverAndVerify operation artifacts : WorkflowProg P _).Meets
      (Awaits configuration kept) AllClean (Ends kept) store := by
  apply meets_now h.stored
  intro now
  have hparse : parseAnchorOperation (notDiscovered operation now) = true :=
    h.operationError (by decide) (by decide)
  rw [meets_bind, meets_attempt, meets_bind]
  rintro r _ ⟨answer, hexecute, hkept⟩
  cases hexecute
  refine ⟨h.stored, ?_⟩
  rcases r with error | - | (transactionHash | -)
  · exact meets_failForVerificationError h error now
  · -- not found, which is recorded
    have hclean : Clean (notDiscovered operation now) := ⟨hparse, fun _ => h.unanchored⟩
    simp only [updateAnchorOperation_eq_ok.mpr ⟨rfl, hparse⟩]
    exact meets_save h.stored hclean (fun _ _ => hclean) fun hk _ => hk
  · exact meets_verifyAndConfirm h hroom transactionHash
  · -- no operation can store the hash
    apply meets_now h.stored
    intro now'
    exact fun hk => (hkept hk).2 rfl

/-! ### The parts of the workflow -/

/-- One request of the relay: what comes back, or a failure that can be
recorded. -/
theorem meets_fetchRelay {α : Type} {request : RelayRequest P}
    {read : RelayBody → Except RelayClientError α}
    {Q : Except WorkflowError α → AnchorOperations → Prop} (hstore : AllClean store)
    (hread : ∀ body e, read body = .error e → parseErrorBody e.code e.message = true)
    (hok : ∀ a, Q (.ok a) store) (herror : ∀ e : WorkflowError, e.fits = true → Q (.error e) store) :
    (fetchRelay request read).Meets (Awaits configuration kept) AllClean Q store := by
  rw [fetchRelay, meets_bind]
  rintro r _ ⟨response, hexecute, -⟩
  cases hexecute
  refine ⟨hstore, ?_⟩
  show Q ((relayFetch response >>= read).mapError .relay) store
  rcases hfetch : relayFetch response with e | body
  · exact herror _ (relayFetch_fits hfetch)
  · show Q ((read body).mapError .relay) store
    rcases hbody : read body with e | a
    · exact herror _ (hread body e hbody)
    · exact hok a

theorem meets_readStatus {statusToken : Option OpaqueId}
    {Q : Except WorkflowError RelayOperationView → AnchorOperations → Prop}
    (hstore : AllClean store) (hok : ∀ relay, Q (.ok relay) store)
    (herror : ∀ e : WorkflowError, e.fits = true → Q (.error e) store) :
    (readStatus statusToken : WorkflowProg P _).Meets (Awaits configuration kept) AllClean Q
      store := by
  cases statusToken with
  | none => exact herror _ (by decide)
  | some statusToken => exact meets_fetchRelay hstore (fun _ _ => readRelayOperation_fits) hok herror

/-- A view of the relay is stored, or its failure can be recorded. -/
theorem meets_saveRelayView (h : Held operation store) {relay : RelayOperationView}
    {Q : Except WorkflowError AnchorOperation → AnchorOperations → Prop}
    (hok : ∀ now stored, Held (relayViewUpdate operation relay now) stored →
      Q (.ok (relayViewUpdate operation relay now)) stored)
    (herror : ∀ e : WorkflowError, e.fits = true → Q (.error e) store) :
    (saveRelayView operation relay : WorkflowProg P _).Meets (Awaits configuration kept) AllClean Q
      store := by
  apply meets_now h.stored
  intro now
  rw [meets_bind, meets_ofExcept]
  rcases hbinding : assertRelayBinding operation relay with e | ⟨⟩
  · exact herror e (assertRelayBinding_fits hbinding)
  · refine meets_saveUpdate h.stored h.unanchored ?_ ?_
    · exact fun stored hstored hclean =>
        hok now stored ⟨hstored, hclean, localStateForRelay_ne_confirmed relay⟩
    · exact fun _ e => herror _ rfl

theorem meets_readView (h : Held operation store)
    {Q : Except WorkflowError (RelayOperationView × AnchorOperation) → AnchorOperations → Prop}
    (hok : ∀ relay now stored, Held (relayViewUpdate operation relay now) stored →
      Q (.ok (relay, relayViewUpdate operation relay now)) stored)
    (herror : ∀ e : WorkflowError, e.fits = true → Q (.error e) store) :
    (readView operation : WorkflowProg P _).Meets (Awaits configuration kept) AllClean Q store := by
  rw [readView, meets_bind]
  apply meets_readStatus h.stored
  · intro relay
    dsimp only
    rw [meets_bind]
    exact meets_saveRelayView h (fun now stored hview => hok relay now stored hview) herror
  · exact herror

/-- **The polling loop** ends the run. -/
theorem meets_pollRelay (n : Nat) {first : Bool} (h : Held operation store)
    (hverifications : kept → operation.counters.verifications < 10000)
    (hpolls : kept → PollRoom n operation) :
    (pollRelay artifacts first n operation : WorkflowProg P _).Meets (Awaits configuration kept)
      AllClean (Ends kept) store := by
  induction n generalizing first operation store with
  | zero =>
    apply meets_now h.stored
    intro now
    exact meets_saveUpdate_ends h.stored h.unanchored (h.operationError (by decide) (by decide))
  | succ n ih =>
    rw [pollRelay]
    split_ifs with hconfirmed hfinal hanchored
    · exact h.clean
    · exact h.clean
    · exact meets_discoverAndVerify h hverifications
    split
    · exact meets_verifyAndConfirm h hverifications _
    apply meets_pauseUnless h.stored
    apply meets_now h.stored
    intro now
    have hroom (hk : kept) : operation.counters.polls + (n + 1) ≤ 10000 :=
      (hpolls hk).resolve_right hanchored
    have hpolling : (pollUpdate operation now).state ≠ .chainEvidenceConfirmed := by
      unfold pollUpdate
      dsimp only
      split <;> decide
    refine meets_saveUpdate_bind h.stored h.unanchored ?_ ?_ fun hk _ => hk
    · intro hk
      have hcounters := (parseCounters_iff _).mp h.counters
      have hcount := hroom hk
      refine h.update rfl hpolling ((parseCounters_iff _).mpr ⟨?_, hcounters.2⟩)
        ((parse_iff _).mp h.clean.parsed).2.2.1
      show operation.counters.polls + 1 ≤ 10000
      omega
    · -- the poll itself is guarded
      intro stored hstored hclean
      have h' : Held (pollUpdate operation now) stored := ⟨hstored, hclean, hpolling⟩
      rw [meets_bind, meets_attempt]
      apply meets_readView h'
      · intro relay now' stored' hview
        dsimp only
        split
        · exact meets_verifyAndConfirm hview hverifications _
        · split_ifs
          · exact meets_discoverAndVerify hview hverifications
          · exact hview.clean
        · exact hview.clean
        · apply ih hview hverifications
          intro hk
          have hcount := hroom hk
          exact .inl (show operation.counters.polls + 1 + n ≤ 10000 by omega)
      · exact fun e he => meets_failNow h' he

/-- What a part of the workflow hands on: an operation to go on with, or the
end of the run. -/
def Goes (kept : Prop) (Room : AnchorOperation → Prop) :
    Except WorkflowError (AnchorOperation ⊕ AnchorOperation) → AnchorOperations → Prop
  | .ok (.inl operation), store => Held operation store ∧ (kept → Room operation)
  | .ok (.inr operation), _ => Clean operation
  | .error _, _ => ¬ kept

theorem meets_inr {p : WorkflowProg P AnchorOperation} {Room : AnchorOperation → Prop}
    (h : p.Meets (Awaits configuration kept) AllClean (Ends kept) store) :
    (do let result ← p; pure (Sum.inr result) :
      WorkflowProg P (AnchorOperation ⊕ AnchorOperation)).Meets (Awaits configuration kept)
      AllClean (Goes kept Room) store := by
  rw [meets_bind]
  apply h.imp
  rintro (e | result) stored hend
  · exact hend
  · exact hend

/-- The counters have room for a request and the polls after it. -/
structure RequestRoom (operation : AnchorOperation) : Prop where
  verifications : operation.counters.verifications < 10000
  requests : operation.statusToken = none → operation.counters.relayRequests < 10000
  polls : operation.counters.polls + MAX_POLLS_PER_WAKE ≤ 10000 ∨
    operation.statusToken ≠ none ∧ operation.alreadyAnchored = true

/-- The counters have room for the polls. -/
structure PollingRoom (operation : AnchorOperation) : Prop where
  verifications : operation.counters.verifications < 10000
  polls : PollRoom MAX_POLLS_PER_WAKE operation

theorem meets_upload (h : Held operation store)
    {Q : Except WorkflowError AnchorOperation → AnchorOperations → Prop}
    (hok : ∀ blobId now stored, Held (uploadedUpdate operation blobId now) stored →
      Q (.ok (uploadedUpdate operation blobId now)) stored)
    (herror : ∀ e : WorkflowError, e.fits = true → Q (.error e) store) :
    (upload operation artifacts).Meets (Awaits configuration kept) AllClean Q store := by
  rw [upload, meets_bind]
  apply meets_fetchRelay h.stored fun _ _ => uploadEncryptedReceipt_fits
  · intro uploaded
    apply meets_now h.stored
    intro now
    refine meets_saveUpdate h.stored h.unanchored ?_ ?_
    · exact fun stored hstored hclean =>
        hok uploaded.blobId now stored ⟨hstored, hclean, by simp [uploadedUpdate]⟩
    · exact fun _ e => herror _ rfl
  · exact herror

/-- **The upload.** -/
theorem meets_uploadProof (h : Held operation store)
    (hroom : kept → operation.direct = false ∧ operation.Room) :
    (uploadProof operation artifacts).Meets (Awaits configuration kept) AllClean
      (Goes kept RequestRoom) store := by
  rw [uploadProof]
  split_ifs with hblob
  · -- an earlier run uploaded it
    refine ⟨h, fun hk => ?_⟩
    obtain ⟨hdirect, hroom⟩ := hroom hk
    exact ⟨hroom.verifications, hroom.requests hdirect, (hroom.polls hdirect).imp_right And.right⟩
  have hnone : operation.relayBlobId = none := by simpa using hblob
  apply meets_now h.stored
  intro now
  refine meets_saveUpdate_bind h.stored h.unanchored ?_ ?_ fun hk _ => hk
  · intro hk
    obtain ⟨hdirect, hroom⟩ := hroom hk
    have hcounters := (parseCounters_iff _).mp h.counters
    refine h.update rfl (by simp [uploadingUpdate]) ((parseCounters_iff _).mpr ?_) rfl
    exact ⟨hcounters.1, hcounters.2.1, hroom.uploads hdirect hnone, hcounters.2.2.2⟩
  · intro stored hstored hclean
    have h' : Held (uploadingUpdate operation artifacts.blobId now) stored :=
      ⟨hstored, hclean, by simp [uploadingUpdate]⟩
    rw [meets_bind, meets_attempt]
    apply meets_upload h'
    · intro blobId now' stored' h''
      refine ⟨h'', fun hk => ?_⟩
      obtain ⟨hdirect, hroom⟩ := hroom hk
      exact ⟨hroom.verifications, hroom.requests hdirect,
        .inl ((hroom.polls hdirect).resolve_right fun hnot => hnot.1 hnone)⟩
    · exact fun e he => meets_inr (meets_failNow h' he)

theorem meets_submit (h : Held operation store)
    {Q : Except WorkflowError (RelayOperationView × AnchorOperation) → AnchorOperations → Prop}
    (hok : ∀ relay now stored, Held (submittedUpdate operation relay now) stored →
      Q (.ok (relay, submittedUpdate operation relay now)) stored)
    (herror : ∀ e : WorkflowError, e.fits = true → Q (.error e) store) :
    (submit operation artifacts).Meets (Awaits configuration kept) AllClean Q store := by
  rw [submit, meets_bind]
  apply meets_fetchRelay h.stored fun _ _ => requestRelayAnchor_fits
  · intro relay
    dsimp only
    rw [meets_bind, meets_ofExcept]
    rcases hbinding : assertRelayBinding operation relay with e | ⟨⟩
    · exact herror e (assertRelayBinding_fits hbinding)
    apply meets_now h.stored
    intro now
    rw [meets_bind]
    refine meets_saveUpdate h.stored h.unanchored ?_ ?_
    · exact fun stored hstored hclean =>
        hok relay now stored ⟨hstored, hclean, by simp [submittedUpdate]⟩
    · exact fun _ e => herror _ rfl
  · exact herror

/-- **The request.** -/
theorem meets_requestAnchor (h : Held operation store) (hroom : kept → RequestRoom operation) :
    (requestAnchor operation artifacts).Meets (Awaits configuration kept) AllClean
      (Goes kept PollingRoom) store := by
  rw [requestAnchor]
  split_ifs with htoken
  · -- an earlier run requested it
    exact ⟨h, fun hk => ⟨(hroom hk).verifications, (hroom hk).polls.imp_right And.right⟩⟩
  have hnone : operation.statusToken = none := by simpa using htoken
  apply meets_now h.stored
  intro now
  refine meets_saveUpdate_bind h.stored h.unanchored ?_ ?_ fun hk _ => hk
  · intro hk
    have hcounters := (parseCounters_iff _).mp h.counters
    refine h.update rfl (by simp [requestingUpdate]) ((parseCounters_iff _).mpr ?_) rfl
    exact ⟨hcounters.1, (hroom hk).requests hnone, hcounters.2.2⟩
  · intro stored hstored hclean
    have h' : Held (requestingUpdate operation now) stored :=
      ⟨hstored, hclean, by simp [requestingUpdate]⟩
    rw [meets_bind, meets_attempt]
    apply meets_submit h'
    · intro relay now' stored' h''
      dsimp only
      rw [meets_bind, meets_attempt]
      apply meets_saveRelayView h''
      · intro now'' stored'' hview
        refine ⟨hview, fun hk => ⟨(hroom hk).verifications, ?_⟩⟩
        exact .inl ((hroom hk).polls.resolve_right fun hnot => hnot.1 hnone)
      · exact fun e he => meets_inr (meets_failNow h'' he)
    · intro e he
      dsimp only
      split_ifs with hanchored
      · exact meets_inr (meets_discoverAndVerify h' fun hk => (hroom hk).verifications)
      · exact meets_inr (meets_failNow h' he)

/-- **The whole workflow.**  What it stores is always clean. -/
theorem meets_runAnchorWorkflow {receiptId : ReceiptId} {eventHash : HashHex}
    (hstore : AllClean store)
    (hroom : kept → ∀ operation, store.get eventHash = some operation →
      anchorOperationNeedsRecovery operation = true → operation.Room) :
    (runAnchorWorkflow receiptId eventHash : WorkflowProg P _).Meets (Awaits configuration kept)
      AllClean (Ends kept) store := by
  apply meets_now hstore
  intro now
  rw [meets_bind]
  rintro r stored ⟨answer, hexecute, hkept⟩
  rcases r with e | operation
  · obtain rfl := executeWorkflow_error hexecute
    refine ⟨hstore, fun hk => ?_⟩
    have hsucceeds := (hkept hk).1 rfl
    rw [hexecute] at hsucceeds
    cases hsucceeds
  -- the operation is stored already, or new
  have hensured : AllClean stored ∧ Clean operation ∧
      (kept → anchorOperationNeedsRecovery operation = true → operation.Room) := by
    rcases executeWorkflow_ensure hexecute with ⟨hget, rfl, -⟩ | ⟨-, rfl, hparse, hcreated⟩
    · exact ⟨hstore, hstore.get hget, fun hk => hroom hk operation hget⟩
    · have hclean : Clean operation := ⟨hparse, fun _ => hcreated.unanchored⟩
      refine ⟨hstore.put hclean, hclean, fun _ _ => ?_⟩
      have hcounters := hcreated.counters
      exact ⟨by simp [hcounters], by simp [hcounters], by simp [hcounters],
        by simp [hcounters, MAX_POLLS_PER_WAKE]⟩
  obtain ⟨hstored, hclean, hroom⟩ := hensured
  refine ⟨hstored, ?_⟩
  rw [meets_ret]
  dsimp only
  split_ifs with hsettled
  · exact hclean
  rw [not_or] at hsettled
  have h : Held operation stored := ⟨hstored, hclean, hsettled.1⟩
  have hneeds : anchorOperationNeedsRecovery operation = true := by
    simpa [anchorOperationNeedsRecovery] using hsettled
  rw [meets_bind]
  rintro r _ ⟨artifacts, hartifacts, hkept'⟩
  rcases r with e | artifacts
  · obtain rfl := executeWorkflow_error hartifacts
    refine ⟨hstored, fun hk => ?_⟩
    have hsucceeds := (hkept' hk).1 rfl
    rw [hartifacts] at hsucceeds
    cases hsucceeds
  obtain rfl : stored = _ := (congrArg Prod.snd hartifacts)
  refine ⟨hstored, ?_⟩
  rw [meets_ret]
  dsimp only
  split
  · exact meets_verifyAndConfirm h (fun hk => (hroom hk hneeds).verifications) _
  · next hindirect =>
    have hdirect : operation.direct = false := by
      unfold AnchorOperation.direct
      cases htransaction : operation.transactionHash with
      | none => rfl
      | some transactionHash =>
        simpa [htransaction] using hindirect transactionHash htransaction
    rw [meets_bind]
    apply (meets_uploadProof h fun hk => ⟨hdirect, hroom hk hneeds⟩).imp
    rintro (e | uploaded | result) stored' huploaded
    · exact huploaded
    · obtain ⟨huploaded, hrequest⟩ := huploaded
      dsimp only
      rw [requestAndPoll, meets_bind]
      apply (meets_requestAnchor huploaded hrequest).imp
      rintro (e | requested | result) stored'' hrequested
      · exact hrequested
      · obtain ⟨hrequested, hpolls⟩ := hrequested
        exact meets_pollRelay _ hrequested (fun hk => (hpolls hk).verifications)
          fun hk => (hpolls hk).polls
      · exact hrequested
    · exact huploaded

end steps

/-! ### Runs -/

section runs

variable {store stored : AnchorOperations} {receiptId : ReceiptId} {eventHash : HashHex}
  {log : List (WorkflowEvent P)} {result : Except WorkflowError AnchorOperation}

theorem Woken.run (h : Woken P store)
    (hrun : (runAnchorWorkflow receiptId eventHash).Executes (executeWorkflow configuration) store
      log result stored) : Woken P stored := by
  rcases executes_last hrun with ⟨-, rfl⟩ | ⟨e, he, rfl⟩
  · exact h
  · exact h.wake configuration receiptId eventHash hrun he

/-- **What earlier wakes leave stored**, interrupted or not. -/
theorem Woken.clean (h : Woken P store) : AllClean store := by
  induction h with
  | none => exact fun operation hmem => absurd hmem List.not_mem_nil
  | wake configuration receiptId eventHash _ hrun he ih =>
    have hmeets : (runAnchorWorkflow receiptId eventHash : WorkflowProg P _).Meets
        (Awaits configuration False) AllClean (Ends False) _ :=
      meets_runAnchorWorkflow ih fun hk => hk.elim
    exact (hmeets.executes hrun fun e _ => ⟨e.answer, rfl, fun hk => hk.elim⟩).2 _ he

/-- **A run returns** an operation that the validator accepts, whatever the
relay and the chain answer, from every store that earlier wakes reach.  It
needs room in the counters that it may increment, and discoveries that name
transactions by their hashes. -/
theorem runAnchorWorkflow_returns (hwoken : Woken P store)
    (hroom : ∀ operation, store.get eventHash = some operation →
      anchorOperationNeedsRecovery operation = true → operation.Room)
    (hrun : (runAnchorWorkflow receiptId eventHash).Executes (executeWorkflow configuration) store
      log result stored)
    (hpersisted : ∀ e ∈ log, Persisted configuration e) (hhashes : ∀ e ∈ log, NamesByHash e) :
    ∃ operation, result = .ok operation ∧ parseAnchorOperation operation = true := by
  have hmeets : (runAnchorWorkflow receiptId eventHash : WorkflowProg P _).Meets
      (Awaits configuration True) AllClean (Ends True) store :=
    meets_runAnchorWorkflow hwoken.clean fun _ => hroom
  obtain ⟨hends, -⟩ := hmeets.executes hrun fun e he =>
    ⟨e.answer, rfl, fun _ => ⟨hpersisted e he, hhashes e he⟩⟩
  rcases result with e | operation
  · exact absurd trivial hends
  · exact ⟨operation, rfl, hends.parsed⟩

end runs

/-! ### Wakes while the relay is out of reach -/

/-- The answers while no request reaches the relay. -/
def offlineAnswers : (o : WorkflowOp samplePlatform) → AnchorOperations → o.Answer
  | .fetch _, _ => none
  | o, store => sampleAnswers (sampleService confirmedView) [] o store

def executeOffline (o : WorkflowOp samplePlatform) (store : AnchorOperations) :
    Except WorkflowError o.Result × AnchorOperations :=
  executeWorkflow sampleRelay o (offlineAnswers o store) store

/-- The operation after so many wakes. -/
def offlineOperation (wakes : Nat) : AnchorOperation :=
  { sampleOperation with
    counters := ⟨0, 0, wakes, 0⟩
    lastError := some ⟨20, "RELAY_UNAVAILABLE",
      "The relay could not be reached and no chain result is claimed.", true⟩
    state := .relayUnavailable }

theorem parse_offlineOperation {wakes : Nat} (h : wakes ≤ 10000) :
    parseAnchorOperation (offlineOperation wakes) = true := by
  have hsample : parseAnchorOperation sampleOperation = true := by decide
  have herror : (offlineOperation 0).lastError.all parseError = true := by decide
  have hpending : (offlineOperation 0).state ≠ .chainEvidenceConfirmed := by decide
  refine parse_of_open hsample rfl ((parseCounters_iff _).mpr ?_) herror hpending (.inl rfl)
  exact ⟨Nat.zero_le _, Nat.zero_le _, h, Nat.zero_le _⟩

/-- A save over the only operation that is stored. -/
theorem run_offline_save {operation next : AnchorOperation}
    (hparse : parseAnchorOperation next = true) (hkeeps : keepsEvidence operation next = true)
    (hsame : operation.eventHash = next.eventHash) :
    (saveUpdate next).run executeOffline [operation] = (.ok next, [next]) := by
  have hsave : AnchorOperations.save [operation] next = .ok [next] := by
    rw [AnchorOperations.save_eq hparse (by simp [AnchorOperations.get, hsame]) hkeeps]
    simp [AnchorOperations.put, hsame]
  rw [saveUpdate, updateAnchorOperation_eq_ok.mpr ⟨rfl, hparse⟩]
  show executeWorkflow sampleRelay (.save next) (.ok ()) [operation] = _
  simp [executeWorkflow, Bind.bind, Except.bind, hsave]

/-- The operation while its upload is under way. -/
def offlineUpload (wakes : Nat) : AnchorOperation :=
  uploadingUpdate (offlineOperation wakes) 3 20

/-- **A wake while the relay is out of reach** counts one more upload. -/
theorem run_offline {wakes : Nat} (h : wakes < 10000) :
    (runAnchorWorkflow 7 14).run executeOffline [offlineOperation wakes] =
      (.ok (offlineOperation (wakes + 1)), [offlineOperation (wakes + 1)]) := by
  have hparse := parse_offlineOperation (Nat.succ_le_of_lt h)
  have huploading : (saveUpdate (offlineUpload wakes)).run executeOffline
      [offlineOperation wakes] = (.ok (offlineUpload wakes), [offlineUpload wakes]) := by
    refine run_offline_save ?_ ?_ rfl
    · have hpending : (offlineUpload 0).state ≠ .chainEvidenceConfirmed := by decide
      refine parse_of_open hparse rfl ((parseCounters_iff _).mpr ?_) rfl hpending (.inl rfl)
      exact ⟨Nat.zero_le _, Nat.zero_le _, h, Nat.zero_le _⟩
    · simp [keepsEvidence, offlineUpload, uploadingUpdate, offlineOperation, sampleOperation]
  have hfailed : (saveUpdate (offlineOperation (wakes + 1))).run executeOffline
      [offlineUpload wakes] =
        (.ok (offlineOperation (wakes + 1)), [offlineOperation (wakes + 1)]) := by
    refine run_offline_save hparse ?_ rfl
    simp [keepsEvidence, offlineUpload, uploadingUpdate, offlineOperation, sampleOperation]
  have hupload : (uploadProof (offlineOperation wakes) (sampleService confirmedView).artifacts).run
      executeOffline [offlineOperation wakes] = (.ok (.inr (offlineOperation (wakes + 1))),
        [offlineOperation (wakes + 1)]) := by
    exact (run_bind_ok huploading).trans (run_bind_ok hfailed)
  exact run_bind_ok hupload

/-- The log of a wake while the relay is out of reach. -/
def offlineLog (store : AnchorOperations) : List (WorkflowEvent samplePlatform) :=
  (runAnchorWorkflow 7 14).logOf (executeWorkflow sampleRelay) offlineAnswers store

theorem executes_offline (store : AnchorOperations) :
    (runAnchorWorkflow 7 14).Executes (executeWorkflow sampleRelay) store (offlineLog store)
      ((runAnchorWorkflow 7 14).run executeOffline store).1
      ((runAnchorWorkflow 7 14).run executeOffline store).2 :=
  executes_run offlineAnswers (runAnchorWorkflow 7 14) store

/-- The storage works, which a check of the log shows. -/
theorem persisted_offline {store : AnchorOperations}
    (h : ((offlineLog store).all fun e => !e.op.persists ||
      (executeWorkflow sampleRelay e.op e.answer e.before).1.isOk) = true) :
    ∀ e ∈ offlineLog store, Persisted sampleRelay e := by
  intro e he hpersists
  have hchecked := List.all_eq_true.mp h e he
  rw [hpersists] at hchecked
  exact hchecked

theorem namesByHash_offline {store : AnchorOperations} : ∀ e ∈ offlineLog store, NamesByHash e := by
  rintro ⟨o, answer, before⟩ he
  have hanswer : answer = offlineAnswers o before := logOf_answer he
  subst hanswer
  cases o with
  | discoverAnchor event => exact fun h => nomatch h
  | _ => trivial

/-- Up to 10000 wakes are possible. -/
theorem woken_offline {wakes : Nat} (h : wakes < 10000) :
    Woken samplePlatform [offlineOperation (wakes + 1)] := by
  induction wakes with
  | zero => exact Woken.none.run (executes_offline [])
  | succ wakes ih =>
    have hrun := (ih (by omega)).run (executes_offline [offlineOperation (wakes + 1)])
    rwa [run_offline h] at hrun

theorem runAnchorWorkflow_returns_offline :
    ∃ operation, ((runAnchorWorkflow 7 14).run executeOffline [offlineOperation 1]).1 =
      .ok operation ∧ parseAnchorOperation operation = true := by
  refine runAnchorWorkflow_returns (woken_offline (by decide)) ?_ (executes_offline _)
    (persisted_offline (by decide +kernel)) namesByHash_offline
  rintro operation hstored -
  obtain rfl : offlineOperation 1 = operation := Option.some.inj hstored
  exact ⟨by decide, by decide, by decide, by decide⟩

/-- **After 10000 wakes the next one throws**, although the storage works: its
count of the uploads is refused, outside of every `try`. -/
theorem exhausted_wake_throws :
    Woken samplePlatform [offlineOperation 10000] ∧
      (runAnchorWorkflow 7 14).Executes (executeWorkflow sampleRelay) [offlineOperation 10000]
        (offlineLog [offlineOperation 10000])
        (.error (.storage
          (.failure "SubmittedIt refused an invalid durable anchor-operation update.")))
        [offlineOperation 10000] ∧
      (∀ e ∈ offlineLog [offlineOperation 10000], Persisted sampleRelay e) ∧
      ∀ e ∈ offlineLog [offlineOperation 10000], NamesByHash e := by
  refine ⟨woken_offline (by decide), ?_, persisted_offline (by decide +kernel), namesByHash_offline⟩
  have hrun := executes_offline [offlineOperation 10000]
  exact hrun

end SubmittedIt.Extension
