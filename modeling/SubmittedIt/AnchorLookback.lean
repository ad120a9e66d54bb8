/-
SubmittedIt/AnchorLookback.lean

What a run of the anchor workflow that ends in a decision stored on the way
(apps/extension/lib/anchor-workflow.ts).

The functions of the workflow are taken apart from the decision backwards: the
verification (`verifies_of_executes`), the discovery (`discovers_of_executes`),
the polling loop by induction on its turns (`course_of_executes`), the request
(`requests_of_executes`), the upload (`uploads_of_executes`).  Each says how the
answers led its operation to the decision, and that all it stored is covered.

Main result: `covered_of_executes`.
-/
import SubmittedIt.AnchorExecutions

namespace SubmittedIt.Extension

open ReceiptCore Prog

variable {P : StoragePlatform} {configuration : ExtensionRelayConfiguration}

/-! ### Which operations an execution stores -/

section covered

variable {service : Service P} {receiptId : ReceiptId} {eventHash hash : HashHex}
  {store : AnchorOperations} {log : List (WorkflowEvent P)} {next : AnchorOperation}

/-- The operation leaves what is stored alone. -/
def WorkflowOp.reads : WorkflowOp P → Bool
  | .ensure .. | .save _ | .confirm .. => false
  | _ => true

theorem executeWorkflow_reads {o : WorkflowOp P} (h : o.reads = true) (answer : o.Answer)
    (store : AnchorOperations) : (executeWorkflow configuration o answer store).2 = store := by
  cases o with
  | ensure | save | confirm => cases h
  | now | pause | getArtifacts | fetch | verifyAnchor | discoverAnchor => rfl

/-- An event that only reads stores nothing. -/
theorem not_persists_of_reads {e : WorkflowEvent P} {operation : AnchorOperation}
    (h : e.op.reads = true) : ¬ Persists configuration e operation := by
  rintro ⟨hafter, hsave | hnew⟩
  · rw [hsave] at h
    cases h
  · rw [executeWorkflow_reads h, hnew] at hafter
    cases hafter

/-- A save stores its operation. -/
theorem persists_save {answer : Except StorageError Unit} {operation : AnchorOperation}
    (h : Persists configuration (⟨.save next, answer, store⟩ : WorkflowEvent P) operation) :
    operation = next := by
  obtain ⟨hafter, hsave | hnew⟩ := h
  · exact (WorkflowOp.save.inj hsave).symm
  dsimp only at hafter hnew
  rcases executeWorkflow_save_stored (P := P) configuration store next answer with hsame | hput
  · rw [hsame, hnew] at hafter
    cases hafter
  -- the operation is new, so it is the one that was put in front
  rw [hput] at hafter
  by_cases hhash : next.eventHash = operation.eventHash
  · rw [← hhash, AnchorOperations.get_put] at hafter
    exact (Option.some.inj hafter).symm
  · rw [AnchorOperations.get_put_of_ne hhash, hnew] at hafter
    cases hafter

/-- A confirmation stores nothing on the way. -/
theorem not_persists_confirm {answer : Except StorageError Unit} {operation : AnchorOperation}
    {verified : VerifiedSubmissionReceiptAnchor} {now : Timestamp} :
    ¬ Persists configuration (⟨.confirm next verified now, answer, store⟩ : WorkflowEvent P)
      operation := by
  rintro ⟨hafter, hsave | hnew⟩
  · cases hsave
  rcases answer with e | ⟨⟩
  · exact absurd (hafter.symm.trans hnew) (by simp)
  rcases hconfirm : store.confirm next.eventHash verified now with e | ⟨confirmed, stored⟩
  · have hsame : (executeWorkflow configuration (P := P) (.confirm next verified now) (.ok ())
        store).2 = store := by
      simp [executeWorkflow, Bind.bind, Except.bind, hconfirm]
    rw [hsame, hnew] at hafter
    cases hafter
  · have hstored : (executeWorkflow configuration (P := P) (.confirm next verified now) (.ok ())
        store).2 = stored := by
      simp [executeWorkflow, Bind.bind, Except.bind, hconfirm]
    rw [hstored, AnchorOperations.confirm_get_none hconfirm hnew] at hafter
    cases hafter

/-- An event that only reads. -/
theorem Covered.reads {e : WorkflowEvent P} {before : List (WorkflowEvent P)}
    (hreads : e.op.reads = true)
    (h : Covered service configuration receiptId eventHash decision (before ++ [e]) log) :
    Covered service configuration receiptId eventHash decision before (e :: log) :=
  ⟨fun _ hpersists => absurd hpersists (not_persists_of_reads hreads), h⟩

/-- A confirmation. -/
theorem Covered.confirm {answer : Except StorageError Unit} {before : List (WorkflowEvent P)}
    {verified : VerifiedSubmissionReceiptAnchor} {now : Timestamp}
    (h : ∀ before, Covered service configuration receiptId eventHash decision before log) :
    Covered service configuration receiptId eventHash decision before
      (⟨.confirm next verified now, answer, store⟩ :: log) :=
  ⟨fun _ hpersists => absurd hpersists not_persists_confirm, h _⟩

/-- A save. -/
theorem Covered.save {answer : Except StorageError Unit} {before : List (WorkflowEvent P)}
    (hnext : next.state ≠ .finalFailure →
      Resumable service configuration receiptId eventHash decision next before log)
    (h : Covered service configuration receiptId eventHash decision
      (before ++ [⟨.save next, answer, store⟩]) log) :
    Covered service configuration receiptId eventHash decision before
      (⟨.save next, answer, store⟩ :: log) := by
  refine ⟨fun operation hpersists => ?_, h⟩
  obtain rfl := persists_save hpersists
  exact hnext

/-- The operation of an event of the run. -/
theorem Covered.get {before after : List (WorkflowEvent P)} {e : WorkflowEvent P}
    {pre : List (WorkflowEvent P)}
    (h : Covered service configuration receiptId eventHash decision pre (before ++ e :: after))
    {operation : AnchorOperation} (hpersists : Persists configuration e operation)
    (hstate : operation.state ≠ .finalFailure) :
    Resumable service configuration receiptId eventHash decision operation (pre ++ before)
      after := by
  induction before generalizing pre with
  | nil =>
    rw [List.append_nil]
    exact h.1 operation hpersists hstate
  | cons first before ih =>
    have hrest := ih h.2
    rwa [List.append_assoc, List.singleton_append] at hrest

end covered

/-! ### Looking back from the decision -/

namespace Service.LeftBy

variable {service : Service P} {e : WorkflowEvent P} {log log' : List (WorkflowEvent P)}

theorem of_append (h : service.LeftBy (log ++ log')) : service.LeftBy log' :=
  fun e he => h e (List.mem_append_right _ he)

theorem of_append_left (h : service.LeftBy (log ++ log')) : service.LeftBy log :=
  fun e he => h e (List.mem_append_left _ he)

theorem tail (h : service.LeftBy (e :: log)) : service.LeftBy log :=
  fun e he => h e (List.mem_cons_of_mem _ he)

theorem head (h : service.LeftBy (e :: log)) : service.Agrees e := h e List.mem_cons_self

end Service.LeftBy

theorem localStateForRelay_ne_confirmed (relay : RelayOperationView) :
    localStateForRelay relay ≠ .chainEvidenceConfirmed := by
  unfold localStateForRelay
  cases relay.state <;> dsimp only <;> (try split_ifs) <;> decide

theorem localStateForRelay_ne_submitted (relay : RelayOperationView) :
    localStateForRelay relay ≠ .submittedToRelay := by
  unfold localStateForRelay
  cases relay.state <;> dsimp only <;> (try split_ifs) <;> decide

/-- A state that the relay's row maps to, and that is verified directly. -/
theorem directReverify_localState {relay : RelayOperationView}
    (h : directReverify (localStateForRelay relay) = true) : relay.state = .confirmed := by
  unfold localStateForRelay at h
  rcases hstate : relay.state with _ | _ | _ | _ | _ | _ | _ | _ <;> rw [hstate] at h
  all_goals (dsimp only at h; try split_ifs at h) <;> cases h

theorem localState_confirmed {relay : RelayOperationView} (h : relay.state = .confirmed) :
    localStateForRelay relay = .verifyingContractState := by
  simp [localStateForRelay, h]

/-- A row that the loop stops at. -/
theorem localState_failed {relay : RelayOperationView}
    (h : localStateForRelay relay = .finalFailure) :
    relay.state = .failedFinal ∨ relay.state = .reverted := by
  unfold localStateForRelay at h
  rcases hstate : relay.state with _ | _ | _ | _ | _ | _ | _ | _ <;> rw [hstate] at h
  all_goals first
    | exact .inl rfl
    | exact .inr rfl
    | (dsimp only at h; try split_ifs at h) <;> cases h

theorem keepsEvidence_hash {previous next : AnchorOperation}
    (h : keepsEvidence previous next = true) :
    previous.transactionHash = none ∨ previous.transactionHash = next.transactionHash := by
  simp only [keepsEvidence, Bool.and_eq_true, Bool.or_eq_true, decide_eq_true_eq] at h
  tauto

/-- An operation without evidence lacks a part of it. -/
theorem open_of_parse {operation : AnchorOperation}
    (hparse : parseAnchorOperation operation = true)
    (hpending : operation.state ≠ .chainEvidenceConfirmed) :
    operation.transactionHash = none ∨ operation.blockNumber = none ∨
      operation.anchoredAt = none ∨ operation.anchoredBy = none := by
  have hnot := mt ((parse_iff _).mp hparse).2.2.2.mpr hpending
  simpa [Option.isSome_iff_ne_none, ← not_and_or, imp_iff_not_or] using hnot

/-- The counters of a stored operation. -/
theorem counters_of_parse {operation : AnchorOperation}
    (h : parseAnchorOperation operation = true) : operation.counters.polls ≤ 10000 ∧
      operation.counters.relayRequests ≤ 10000 ∧ operation.counters.uploads ≤ 10000 ∧
      operation.counters.verifications ≤ 10000 := by
  have hcounters := ((parse_iff _).mp h).2.1
  simpa [parseCounters, isCount, and_assoc] using hcounters

/-- What storing the relay's view took. -/
theorem fits_of_save {operation : AnchorOperation} {relay : RelayOperationView} {now : Timestamp}
    (hbinding : assertRelayBinding operation relay = .ok ())
    (hparse : parseAnchorOperation (relayViewUpdate operation relay now) = true)
    (hkeeps : keepsEvidence operation (relayViewUpdate operation relay now) = true) :
    Fits operation relay := by
  refine ⟨hbinding, ?_, keepsEvidence_hash hkeeps,
    open_of_parse hparse (localStateForRelay_ne_confirmed relay)⟩
  have herror := ((parse_iff _).mp hparse).2.2.1
  rcases hview : relay.error with - | error
  · simp [RelayOperationView.errorFits, hview]
  · simpa [relayViewUpdate, RelayOperationView.errorFits, parseError, hview] using herror

section backward

variable {service : Service P} {receiptId : ReceiptId} {eventHash hash : HashHex}
  {store store' : AnchorOperations} {log : List (WorkflowEvent P)}
  {operation final : AnchorOperation} {artifacts : AnchorRelayArtifacts P}

theorem verifies_of_executes
    (h : (verifyAndConfirm operation artifacts hash : WorkflowProg P _).Executes
      (executeWorkflow configuration) store log (.ok final) store')
    (hdecided : final.state.decided)
    (hstored : store.get operation.eventHash = some operation)
    (hbound : Bound configuration receiptId eventHash operation) (hleft : service.LeftBy log) :
    Verifies service final.state operation hash ∧ statusAnswers log = [] ∧
      ∀ before, Covered service configuration receiptId eventHash final.state before log := by
  obtain ⟨now, log₁, h₁, rfl⟩ := executes_now_bind h
  obtain ⟨log₂, stored, hsave, h₂, rfl⟩ := executes_saveUpdate_bind h₁
  obtain ⟨log₃, log₄, verified, stored', hverify, h₃, rfl⟩ := executes_attempt_bind.mp h₂
  obtain ⟨answer, rfl, hanswer⟩ := executes_perform.mp hverify
  cases hanswer
  obtain ⟨hparse, rfl, hkeeps⟩ := AnchorOperations.save_ok hsave
  have hkept := hkeeps operation hstored
  have hagrees : service.verifyAnchor hash = verified := hleft.tail.tail.head
  have hpending : (verifyingUpdate operation hash now).state ≠ .chainEvidenceConfirmed :=
    AnchorOperationState.noConfusion
  have hroom : operation.blockNumber = none ∨ operation.anchoredAt = none ∨
      operation.anchoredBy = none := (open_of_parse hparse hpending).resolve_left (by
        simp [verifyingUpdate])
  have hcount : operation.counters.verifications < 10000 := (counters_of_parse hparse).2.2.2
  have hbound' : Bound configuration receiptId eventHash (verifyingUpdate operation hash now) :=
    ⟨hbound.event, hbound.receipt, hbound.chain, hbound.contract, hbound.relay⟩
  -- from here on, only the outcome of the verification is open
  have hreturn (houtcome : Settles service final.state operation hash)
      (hcovered : ∀ before, Covered service configuration receiptId eventHash final.state before
        log₄) (hsilent : statusAnswers log₄ = []) :
      Verifies service final.state operation hash ∧
        statusAnswers (⟨.now, now, store⟩ :: ⟨.save (verifyingUpdate operation hash now), .ok (),
          store⟩ :: ([⟨.verifyAnchor artifacts.event artifacts.publicKey hash, verified,
            store.put (verifyingUpdate operation hash now)⟩] ++ log₄)) = [] ∧
        ∀ before, Covered service configuration receiptId eventHash final.state before
          (⟨.now, now, store⟩ :: ⟨.save (verifyingUpdate operation hash now), .ok (), store⟩ ::
            ([⟨.verifyAnchor artifacts.event artifacts.publicKey hash, verified,
              store.put (verifyingUpdate operation hash now)⟩] ++ log₄)) := by
    refine ⟨⟨hcount, houtcome⟩, by simpa [statusAnswers, statusAnswer] using hsilent,
      fun before => .reads rfl (.save (fun _ => ?_) (.reads rfl (hcovered _)))⟩
    refine ⟨hbound', hparse, hpending, final.state, [], .inl ⟨rfl, ?_⟩, .inl ?_,
      .verifies rfl rfl ⟨.inr rfl, hroom, houtcome.outcome⟩⟩
    · rintro ⟨-, hsubmitted, -⟩
      cases hsubmitted
    · simpa [statusAnswers, statusAnswer] using hsilent.symm
  rcases verified with e | verified
  · obtain ⟨e, rfl, hcode, hfinal, rfl⟩ := executes_failForVerificationError h₃ hdecided
    refine hreturn ⟨keepsEvidence_hash hkept, hroom, .inr ⟨hfinal, e, hagrees, hcode⟩⟩
      (fun before => .save (fun hstate => absurd hfinal hstate) trivial) rfl
  · obtain ⟨answer, rfl, hconfirm⟩ := executes_perform.mp h₃
    obtain ⟨hchain, hcontract⟩ := AnchorOperations.confirm_ok
      (AnchorOperations.get_put store (verifyingUpdate operation hash now))
      (executeWorkflow_confirm hconfirm)
    obtain ⟨-, hfinal, -⟩ := AnchorOperations.confirm_stored (executeWorkflow_confirm hconfirm)
    exact hreturn ⟨keepsEvidence_hash hkept, hroom,
      .inl ⟨hfinal, verified, hagrees, hchain, hcontract⟩⟩ (fun before => .confirm fun _ => trivial)
      rfl

/-- A discovery that ends in a decision found the transaction. -/
theorem discovers_of_executes
    (h : (discoverAndVerify operation artifacts : WorkflowProg P _).Executes
      (executeWorkflow configuration) store log (.ok final) store')
    (hdecided : final.state.decided)
    (hstored : store.get operation.eventHash = some operation)
    (hbound : Bound configuration receiptId eventHash operation) (hleft : service.LeftBy log)
    (hfits : ∀ e ∈ log, DiscoveryFits e) :
    Discovers service final.state operation ∧ statusAnswers log = [] ∧
      ∀ before, Covered service configuration receiptId eventHash final.state before log := by
  obtain ⟨now, log₁, h₁, rfl⟩ := executes_now_bind h
  obtain ⟨log₂, log₃, discovered, stored, hdiscover, h₂, rfl⟩ := executes_attempt_bind.mp h₁
  rcases discovered with e | (transactionHash | -) | updated
  · -- the discovery failed, which decides nothing
    exfalso
    obtain ⟨e, rfl, hcode, -, -⟩ := executes_failForVerificationError h₂ hdecided
    obtain ⟨log₄, log₅, found, stored', hfound, h₃, rfl⟩ | ⟨e', hfound, hsame⟩ :=
      executes_bind.mp hdiscover
    · rcases found with - | found
      · obtain ⟨updated, hupdate, h₄⟩ | ⟨e', hupdate, hsame⟩ := executes_bind.mp h₃
        · obtain ⟨a, stored₄, -, h₅, -⟩ := h₄
          cases h₅.2.1
        · cases hsame
          obtain ⟨-, hsame, -⟩ := executes_ofExcept.mp hupdate
          rcases hupdated : updateAnchorOperation (notDiscovered operation now) with e' | result <;>
            rw [hupdated] at hsame <;> cases hsame
      · obtain ⟨-, hsame, -⟩ := executes_pure.mp h₃
        cases hsame
    · cases hsame
      obtain ⟨answer, rfl, hexecute⟩ := executes_perform.mp hfound
      obtain rfl : answer = .error (.verification e) := congrArg Prod.fst hexecute
      exact hfits ⟨.discoverAnchor artifacts.event, .error (.verification e), store⟩ (by simp)
        e rfl hcode
  · -- found: the verification goes on from there
    obtain ⟨answer, log₄, found, stored', hfound, h₃, rfl⟩ := executes_perform_bind.mp hdiscover
    cases hfound
    rcases found with - | found
    · obtain ⟨updated, -, h₄⟩ := executes_ofExcept_bind.mp h₃
      cases h₄.2.1
    · obtain ⟨rfl, hsame, rfl⟩ := executes_pure.mp h₃
      cases hsame
      obtain ⟨hverifies, hsilent, hcovered⟩ := verifies_of_executes h₂ hdecided hstored hbound
        (Service.LeftBy.of_append hleft.tail)
      refine ⟨⟨transactionHash, hleft.tail.head, hverifies⟩,
        by simpa [statusAnswers, statusAnswer] using hsilent,
        fun before => .reads rfl (.reads rfl (hcovered _))⟩
  · -- no operation can store such a hash
    obtain ⟨now', log₄, h₃, -⟩ := executes_now_bind h₂
    cases h₃.2.1
  · -- not found: what is saved is no decision
    obtain ⟨answer, log₄, found, stored', hfound, h₃, rfl⟩ := executes_perform_bind.mp hdiscover
    cases hfound
    rcases found with - | found
    · obtain ⟨updated', hupdate, h₄⟩ := executes_ofExcept_bind.mp h₃
      obtain ⟨-, hsame, -⟩ := executes_pure.mp h₄
      cases hsame
      obtain ⟨rfl, -, -⟩ := executes_save h₂
      obtain ⟨rfl, -⟩ := mapError_update_ok hupdate
      rcases hdecided with h | h <;> cases h
    · obtain ⟨-, hsame, -⟩ := executes_pure.mp h₃
      cases hsame

/-- **The polling loop, backwards.** -/
theorem course_of_executes (n : Nat) (hn : n ≤ MAX_POLLS_PER_WAKE) {first : Bool}
    (h : (pollRelay artifacts first n operation : WorkflowProg P _).Executes
      (executeWorkflow configuration) store log (.ok final) store')
    (hdecided : final.state.decided)
    (hstored : store.get operation.eventHash = some operation)
    (hbound : Bound configuration receiptId eventHash operation)
    (hpending : operation.state ≠ .chainEvidenceConfirmed)
    (hblob : operation.relayBlobId ≠ none) (hleft : service.LeftBy log)
    (hfits : ∀ e ∈ log, DiscoveryFits e) :
    Course service final.state n operation (statusAnswers log) ∧
      (operation.counters.polls ≤ 10000 →
        operation.counters.polls + (statusAnswers log).length ≤ 10000) ∧
      ∀ before, Covered service configuration receiptId eventHash final.state before log := by
  induction n generalizing operation first store log with
  | zero =>
    obtain ⟨now, rest, h₁, rfl⟩ := executes_now_bind h
    obtain ⟨rfl, -, -⟩ := executes_saveUpdate h₁
    rcases hdecided with h | h <;> cases h
  | succ n ih =>
    unfold pollRelay at h
    rw [if_neg hpending] at h
    split_ifs at h with hstop hanchored
    · obtain ⟨rfl, hsame, rfl⟩ := executes_pure.mp h
      cases hsame
      exact ⟨.stops hstop.1 hstop.2 hstop.1, id, fun _ => trivial⟩
    · obtain ⟨hdiscovers, hsilent, hcovered⟩ := discovers_of_executes h hdecided hstored hbound
        hleft hfits
      rw [hsilent]
      exact ⟨.discovers hanchored hdiscovers, id, hcovered⟩
    have hfresh : operation.alreadyAnchored = false := by simpa using hanchored
    split at h
    · rename_i hash htx hstate
      obtain ⟨hverifies, hsilent, hcovered⟩ := verifies_of_executes h hdecided hstored hbound hleft
      rw [hsilent]
      exact ⟨.verifies hfresh hstate htx hverifies, id, hcovered⟩
    rename_i hother
    have hask : Asks operation := by
      refine ⟨fun hfailed => hstop ⟨hfailed, hfresh⟩, hfresh, fun hstate => ?_⟩
      rcases htx : operation.transactionHash with - | tx
      · rfl
      · exact absurd hstate (hother tx htx)
    obtain ⟨log₀, h₁, hlog₀⟩ := executes_pauseUnless_bind h
    obtain ⟨now, log₁, h₂, rfl⟩ := executes_now_bind h₁
    obtain ⟨log₂, stored, hsave, h₃, rfl⟩ := executes_saveUpdate_bind h₂
    obtain ⟨log₃, log₄, read, stored', hread, h₄, rfl⟩ := executes_attempt_bind.mp h₃
    obtain ⟨hparse, rfl, -⟩ := AnchorOperations.save_ok hsave
    have hpolls : operation.counters.polls + 1 ≤ 10000 := (counters_of_parse hparse).1
    have hask' : Asks (pollUpdate operation now) := by
      refine ⟨?_, hfresh, ?_⟩
      · simp only [pollUpdate]
        split_ifs <;> exact AnchorOperationState.noConfusion
      · simp only [pollUpdate]
        split_ifs <;> simp
    have hwaiting : (pollUpdate operation now).direct = false ∧
        (pollUpdate operation now).state ≠ .chainEvidenceConfirmed ∧
        (pollUpdate operation now).state ≠ .submittedToRelay := by
      simp only [AnchorOperation.direct, pollUpdate]
      split_ifs <;> simp [directReverify]
    have hbound' : Bound configuration receiptId eventHash (pollUpdate operation now) :=
      ⟨hbound.event, hbound.receipt, hbound.chain, hbound.contract, hbound.relay⟩
    have hleft' : service.LeftBy (log₃ ++ log₄) := by
      rcases hlog₀ with rfl | rfl
      · exact hleft.tail.tail
      · exact hleft.tail.tail.tail
    have hfits' : ∀ e ∈ log₃ ++ log₄, DiscoveryFits e := by
      rcases hlog₀ with rfl | rfl
      · exact fun e he => hfits e (List.mem_cons_of_mem _ (List.mem_cons_of_mem _ he))
      · exact fun e he => hfits e
          (List.mem_cons_of_mem _ (List.mem_cons_of_mem _ (List.mem_cons_of_mem _ he)))
    -- it remains to look at the status read and at what follows it
    have hreturn (response : Option RelayResponse) (rest : List (Option RelayResponse))
        (hanswers : statusAnswers (log₃ ++ log₄) = response :: rest)
        (htoken : operation.statusToken ≠ none)
        (hcourse : Course service final.state (n + 1) (pollUpdate operation now)
          (response :: rest))
        (hreads : operation.counters.polls + (response :: rest).length ≤ 10000)
        (hcovered : ∀ before, Covered service configuration receiptId eventHash final.state before
          (log₃ ++ log₄)) :
        Course service final.state (n + 1) operation (statusAnswers log) ∧
          (operation.counters.polls ≤ 10000 →
            operation.counters.polls + (statusAnswers log).length ≤ 10000) ∧
          ∀ before, Covered service configuration receiptId eventHash final.state before log := by
      have hsaved : ∀ before, Covered service configuration receiptId eventHash final.state before
          (⟨.now, now, store⟩ :: ⟨.save (pollUpdate operation now), .ok (), store⟩ ::
            (log₃ ++ log₄)) := by
        refine fun before => .reads rfl (.save (fun _ => ?_) (hcovered _))
        refine ⟨hbound', hparse, hwaiting.2.1, final.state, response :: rest, .inl ⟨rfl, ?_⟩,
          .inl hanswers.symm, .asks hwaiting.1 hblob htoken (hcourse.mono hn)⟩
        exact fun h => hwaiting.2.2 h.2.1
      have hcourse' := hcourse.reask (List.cons_ne_nil _ _)
        (show (pollUpdate operation now).terms = operation.terms from rfl) hask
      rcases hlog₀ with rfl | rfl
      · have hall : statusAnswers (⟨.now, now, store⟩ ::
            ⟨.save (pollUpdate operation now), .ok (), store⟩ :: (log₃ ++ log₄)) =
            response :: rest := hanswers
        rw [hall]
        exact ⟨hcourse', fun _ => hreads, hsaved⟩
      · have hall : statusAnswers (⟨.pause POLL_DELAY_MS, (), store⟩ :: ⟨.now, now, store⟩ ::
            ⟨.save (pollUpdate operation now), .ok (), store⟩ :: (log₃ ++ log₄)) =
            response :: rest := hanswers
        rw [hall]
        exact ⟨hcourse', fun _ => hreads, fun before => .reads rfl (hsaved _)⟩
    rcases read with e | ⟨relay, viewed⟩
    · obtain ⟨e, now', rfl, hfails, hfinal, rfl⟩ := executes_failNow h₄ hdecided
      obtain ⟨statusToken, response, htoken, hfailed, rfl, rfl⟩ :=
        executes_readView_error hread (.inr hfails)
      have hsome : operation.statusToken ≠ none :=
        Option.ne_none_iff_exists'.mpr ⟨statusToken, htoken⟩
      exact hreturn response [] rfl hsome (.refused hask' hfailed hfails hfinal) hpolls
        fun before => .reads rfl (.reads rfl (.save (fun h => absurd hfinal h) trivial))
    obtain ⟨statusToken, response, now', htoken, hrelay, hbinding, rfl, hview, rfl⟩ :=
      executes_readView hread
    obtain ⟨hparseView, rfl, hkeeps⟩ := AnchorOperations.save_ok hview
    have htoken' : operation.statusToken ≠ none :=
      Option.ne_none_iff_exists'.mpr ⟨statusToken, htoken⟩
    have hfitsView := fits_of_save hbinding hparseView (hkeeps _ (AnchorOperations.get_put _ _))
    have hleft₄ : service.LeftBy log₄ := Service.LeftBy.of_append hleft'
    have hfits₄ : ∀ e ∈ log₄, DiscoveryFits e := fun e he => hfits' e (List.mem_append_right _ he)
    have hstored₄ := AnchorOperations.get_put (store.put (pollUpdate operation now))
      (relayViewUpdate (pollUpdate operation now) relay now')
    have hbound₄ : Bound configuration receiptId eventHash
        (relayViewUpdate (pollUpdate operation now) relay now') :=
      ⟨hbound.event, hbound.receipt, hbound.chain, hbound.contract, hbound.relay⟩
    have hpending₄ := localStateForRelay_ne_confirmed relay
    have hterms : (relayViewUpdate (pollUpdate operation now) relay now').terms =
        ((pollUpdate operation now).viewed relay).terms := rfl
    -- what the read and its view store
    have hviewed (hcovered : ∀ before, Covered service configuration receiptId eventHash
          final.state before log₄)
        (honward : localStateForRelay relay ≠ .finalFailure → Onward service final.state
          (relayViewUpdate (pollUpdate operation now) relay now') (statusAnswers log₄)) :
        ∀ before, Covered service configuration receiptId eventHash final.state before
          ([⟨.fetch (.operations statusToken), response, store.put (pollUpdate operation now)⟩,
            ⟨.now, now', store.put (pollUpdate operation now)⟩,
            ⟨.save (relayViewUpdate (pollUpdate operation now) relay now'), .ok (),
              store.put (pollUpdate operation now)⟩] ++ log₄) := by
      refine fun before => .reads rfl (.reads rfl (.save (fun hstate => ?_) (hcovered _)))
      refine ⟨hbound₄, hparseView, hpending₄, final.state, _, .inl ⟨rfl, ?_⟩, .inl rfl,
        honward hstate⟩
      rintro ⟨-, hsubmitted, -⟩
      exact localStateForRelay_ne_submitted relay hsubmitted
    dsimp only at h₄
    split at h₄
    · rename_i hash hstate hhash
      obtain ⟨hverifies, hsilent, hcovered⟩ := verifies_of_executes h₄ hdecided hstored₄ hbound₄
        hleft₄
      refine hreturn response [] (congrArg (response :: ·) hsilent) htoken'
        (.confirmed hask' hrelay hfitsView hstate hhash (hverifies.congr hterms)) hpolls
        (hviewed hcovered fun _ => .verifies ?_ hhash hverifies.settles)
      have hdirect : directReverify (localStateForRelay relay) = true := by
        rw [localState_confirmed hstate]
        rfl
      simp only [AnchorOperation.direct, hhash]
      simpa [relayViewUpdate] using hdirect
    · rename_i hstate
      have hfailed : localStateForRelay relay = .finalFailure := by
        simp [localStateForRelay, hstate]
      split_ifs at h₄ with hknown
      · obtain ⟨hdiscovers, hsilent, hcovered⟩ := discovers_of_executes h₄ hdecided hstored₄
          hbound₄ hleft₄ hfits₄
        exact hreturn response [] (congrArg (response :: ·) hsilent) htoken'
          (.anchored hask' hrelay hfitsView hstate hknown (hdiscovers.congr hterms)) hpolls
          (hviewed hcovered fun h => absurd hfailed h)
      · obtain ⟨rfl, hsame, rfl⟩ := executes_pure.mp h₄
        cases hsame
        exact hreturn response [] rfl htoken'
          (.failed hask' hrelay hfitsView (.inl ⟨hstate, by simpa using hknown⟩) hfailed) hpolls
          (hviewed (fun _ => trivial) fun h => absurd hfailed h)
    · rename_i hstate
      have hfailed : localStateForRelay relay = .finalFailure := by
        simp [localStateForRelay, hstate]
      obtain ⟨rfl, hsame, rfl⟩ := executes_pure.mp h₄
      cases hsame
      exact hreturn response [] rfl htoken'
        (.failed hask' hrelay hfitsView (.inr hstate) hfailed) hpolls
        (hviewed (fun _ => trivial) fun h => absurd hfailed h)
    · rename_i hunfailed hunreverted hconfirmed
      obtain ⟨hcourse, hreads, hcovered⟩ := ih (Nat.le_of_succ_le hn) h₄ hstored₄ hbound₄ hpending₄
        hblob hleft₄ hfits₄
      have hhash : relay.state = .confirmed →
          ((pollUpdate operation now).viewed relay).transactionHash = none := by
        intro hstate
        rcases htx : ((pollUpdate operation now).viewed relay).transactionHash with - | tx
        · rfl
        · exact absurd htx (hconfirmed tx hstate)
      refine hreturn response (statusAnswers log₄) rfl htoken'
        (.goesOn hask' hrelay hfitsView hunfailed hunreverted hhash
          (hcourse.congr hterms rfl (by simp [AnchorOperation.viewed]))) ?_
        (hviewed hcovered fun _ => .of_course hcourse (Nat.le_of_succ_le hn) hblob
          (Option.some_ne_none _) fun hdirect => ?_)
      · rw [List.length_cons, Nat.add_comm _ 1, ← Nat.add_assoc]
        exact hreads hpolls
      · simp only [AnchorOperation.direct, Bool.and_eq_true] at hdirect
        exact localState_confirmed (directReverify_localState hdirect.2)

/-- What a discovery leads to is a decision. -/
theorem Discovers.decided {decision : AnchorOperationState}
    (h : Discovers service decision operation) :
    decision = .chainEvidenceConfirmed ∨ decision = .finalFailure := by
  obtain ⟨hash, -, hverifies⟩ := h
  exact hverifies.settles.outcome.imp And.left And.left

/-- The row that the relay answered the request with, read again: it leads to
the same decision, but for a reverted row, at which the loop stops. -/
theorem exists_course_of_submitted {view : RelayOperationView} {response : Option RelayResponse}
    {decision : AnchorOperationState} {n m : Nat} (hask : Asks operation)
    (hread : readOf operation response = .ok view) (hfits : Fits operation view)
    (hcourse : Course service decision n (operation.viewed view) []) :
    ∃ outcome, (outcome = decision ∧
          ¬ (decision = .chainEvidenceConfirmed ∧ view.state = .reverted) ∨
        outcome = .finalFailure ∧ decision = .chainEvidenceConfirmed ∧ view.state = .reverted) ∧
      Course service outcome (m + 2) operation [response] := by
  cases hcourse with
  | stops hstopped hfresh hdecision =>
    subst hdecision
    refine ⟨.finalFailure, .inl ⟨rfl, fun h => AnchorOperationState.noConfusion h.1⟩,
      .failed hask hread hfits ?_ rfl⟩
    rcases localState_failed hstopped with hfailed | hreverted
    · exact .inl ⟨hfailed, by simpa [AnchorOperation.viewed] using hfresh⟩
    · exact .inr hreverted
  | discovers hknown hdiscovers =>
    by_cases hreverted : view.state = .reverted
    · refine ⟨.finalFailure, ?_, .failed hask hread hfits (.inr hreverted) rfl⟩
      rcases hdiscovers.decided with hconfirmed | hfailed
      · exact .inr ⟨rfl, hconfirmed, hreverted⟩
      · refine .inl ⟨hfailed.symm, fun h => ?_⟩
        rw [h.1] at hfailed
        cases hfailed
    refine ⟨decision, .inl ⟨rfl, fun h => hreverted h.2⟩, ?_⟩
    by_cases hfailed : view.state = .failedFinal
    · exact .anchored hask hread hfits hfailed (by simpa [AnchorOperation.viewed] using hknown)
        hdiscovers
    by_cases hconfirmed : view.state = .confirmed ∧
        (operation.viewed view).transactionHash ≠ none
    · obtain ⟨hstate, hsome⟩ := hconfirmed
      obtain ⟨hash, hhash⟩ := Option.ne_none_iff_exists'.mp hsome
      obtain ⟨hash', -, hverifies⟩ := hdiscovers
      exact .confirmed hask hread hfits hstate hhash
        ⟨hverifies.count, hverifies.settles_known hhash⟩
    · refine .goesOn hask hread hfits hfailed hreverted (fun hstate => ?_)
        (.discovers hknown hdiscovers)
      exact not_not.mp fun hsome => hconfirmed ⟨hstate, hsome⟩
  | verifies hfresh hverifying hhash hverifies =>
    have hdirect : directReverify (localStateForRelay view) = true := by
      have hstate : localStateForRelay view = .verifyingContractState := hverifying
      rw [hstate]
      rfl
    have hconfirmed := directReverify_localState hdirect
    refine ⟨decision, .inl ⟨rfl, fun h => ?_⟩,
      .confirmed hask hread hfits hconfirmed hhash hverifies⟩
    rw [hconfirmed] at h
    cases h.2

/-- The row that a request was answered with. -/
theorem view_of_requested {response : Option RelayResponse} {event : LifecycleEventEnvelope}
    {relay : RelayOperationView}
    (h : relayFetch response >>= requestRelayAnchor event = .ok relay) :
    (response.bind fun answered => answered.body.view) = some relay := by
  rcases hbody : relayFetch response with e | body
  · rw [hbody] at h
    cases h
  · rw [hbody] at h
    obtain ⟨rfl, -⟩ := requestRelayAnchor_ok h
    obtain ⟨status, rfl⟩ := relayFetch_ok hbody
    rfl

theorem lastRow_concat (before : List (WorkflowEvent P)) (e : WorkflowEvent P) :
    lastRow (before ++ [e]) = (answeredRow e <|> lastRow before) := by
  rcases hrow : answeredRow e with - | row
  · simp [lastRow, List.filterMap_append, hrow]
  · simp [lastRow, List.filterMap_append, hrow]

/-- **The request, and what follows it, backwards.** -/
theorem requests_of_executes
    (h : (requestAndPoll operation artifacts).Executes (executeWorkflow configuration) store log
      (.ok final) store')
    (hdecided : final.state.decided)
    (hbound : Bound configuration receiptId eventHash operation)
    (hblob : operation.relayBlobId ≠ none) (htoken : operation.statusToken = none)
    (hartifacts : service.artifacts = artifacts) (hleft : service.LeftBy log)
    (hfits : ∀ e ∈ log, DiscoveryFits e) :
    Requests service final.state operation (statusAnswers log) ∧
      operation.counters.relayRequests < 10000 ∧
      ∀ before, Covered service configuration receiptId eventHash final.state before log := by
  obtain ⟨log₁, log₂, requested, stored, hrequest, h₁, rfl⟩ := executes_bind_ok.mp h
  unfold requestAnchor at hrequest
  rw [if_neg (by simp [htoken])] at hrequest
  obtain ⟨now, log₃, h₂, rfl⟩ := executes_now_bind hrequest
  obtain ⟨log₄, stored₁, hsave, h₃, rfl⟩ := executes_saveUpdate_bind h₂
  obtain ⟨hparse, rfl, -⟩ := AnchorOperations.save_ok hsave
  have hpolls : operation.counters.polls ≤ 10000 := (counters_of_parse hparse).1
  have hcount : operation.counters.relayRequests < 10000 := (counters_of_parse hparse).2.1
  have hbound' : Bound configuration receiptId eventHash (requestingUpdate operation now) :=
    ⟨hbound.event, hbound.receipt, hbound.chain, hbound.contract, hbound.relay⟩
  simp only [List.cons_append] at hleft hfits ⊢
  have hleft' : service.LeftBy (log₄ ++ log₂) := hleft.tail.tail
  have hfits' : ∀ e ∈ log₄ ++ log₂, DiscoveryFits e := fun e he =>
    hfits e (List.mem_cons_of_mem _ (List.mem_cons_of_mem _ he))
  -- it remains to look at the answer, and at what follows it
  have hreturn (hrequests : Requests service final.state operation (statusAnswers (log₄ ++ log₂)))
      (hcovered : ∀ before, Covered service configuration receiptId eventHash final.state before
        (log₄ ++ log₂)) :
      Requests service final.state operation (statusAnswers (⟨.now, now, store⟩ ::
          ⟨.save (requestingUpdate operation now), .ok (), store⟩ :: (log₄ ++ log₂))) ∧
        operation.counters.relayRequests < 10000 ∧
        ∀ before, Covered service configuration receiptId eventHash final.state before
          (⟨.now, now, store⟩ :: ⟨.save (requestingUpdate operation now), .ok (), store⟩ ::
            (log₄ ++ log₂)) := by
    refine ⟨hrequests, hcount, fun before => .reads rfl (.save (fun _ => ?_) (hcovered _))⟩
    refine ⟨hbound', hparse, AnchorOperationState.noConfusion, final.state, _, .inl ⟨rfl, ?_⟩,
      .inl rfl, .requests ?_ hblob htoken (hrequests.congr rfl rfl)⟩
    · rintro ⟨-, hsubmitted, -⟩
      cases hsubmitted
    · simp [AnchorOperation.direct, requestingUpdate, directReverify]
  obtain ⟨log₅, log₆, submitted, stored₂, hsubmit, h₄, rfl⟩ := executes_attempt_bind.mp h₃
  rcases submitted with e | ⟨relay, submitted⟩
  · dsimp only at h₄
    split_ifs at h₄ with hanchored
    · -- refused, since the event was anchored already
      obtain ⟨log₇, log₈, result, stored₃, hdiscover, h₅, rfl⟩ := executes_bind_ok.mp h₄
      obtain ⟨rfl, hsame, rfl⟩ := executes_pure.mp h₅
      cases hsame
      obtain ⟨rfl, hsame, rfl⟩ := executes_pure.mp h₁
      cases hsame
      cases e with
      | verification | storage | other => cases hanchored
      | relay e =>
        have hcode : e.code = "EVENT_ALREADY_ANCHORED" := of_decide_eq_true hanchored
        obtain ⟨request, response, hrefused, rfl, rfl⟩ := executes_submit_error hsubmit (.inl hcode)
        simp only [List.append_nil, List.cons_append, List.nil_append] at hleft' hfits' hreturn ⊢
        obtain ⟨hdiscovers, hsilent, hcovered⟩ := discovers_of_executes hdiscover hdecided
          (AnchorOperations.get_put _ _) hbound' hleft'.tail
          fun e he => hfits' e (List.mem_cons_of_mem _ he)
        have hagrees : service.request = response := hleft'.head
        refine hreturn ?_ fun before => .reads rfl (hcovered _)
        rw [show statusAnswers (⟨.fetch (.events request), response, _⟩ :: log₇) = [] from hsilent]
        refine .anchored ?_ hcode (hdiscovers.congr rfl)
        rw [Service.requested, hagrees, hartifacts]
        exact hrefused
    · -- refused for good
      obtain ⟨log₇, log₈, failed, stored₃, hfailed, h₅, rfl⟩ := executes_bind_ok.mp h₄
      obtain ⟨rfl, hsame, rfl⟩ := executes_pure.mp h₅
      cases hsame
      obtain ⟨rfl, hsame, rfl⟩ := executes_pure.mp h₁
      cases hsame
      obtain ⟨e, now', rfl, hfails, hfinal, rfl⟩ := executes_failNow hfailed hdecided
      obtain ⟨request, response, hrefused, rfl, rfl⟩ := executes_submit_error hsubmit (.inr hfails)
      have hagrees : service.request = response := hleft'.head
      refine hreturn (.refused ?_ (fun hcode => hanchored (decide_eq_true hcode)) hfails hfinal)
        fun before => .reads rfl (.reads rfl (.save (fun h => absurd hfinal h) trivial))
      rw [Service.requested, hagrees, hartifacts]
      exact hrefused
  obtain ⟨request, response, now', hrequested, hbinding, rfl, hsubmitted, rfl⟩ :=
    executes_submit hsubmit
  obtain ⟨hparse', rfl, hkeeps'⟩ := AnchorOperations.save_ok hsubmitted
  have hkept := keepsEvidence_hash (hkeeps' (requestingUpdate operation now)
    (AnchorOperations.get_put _ _))
  dsimp only at h₄
  obtain ⟨log₇, log₈, viewed, stored₃, hview, h₅, rfl⟩ := executes_attempt_bind.mp h₄
  rcases viewed with e | viewed
  · exfalso
    obtain ⟨log₉, log₁₀, failed, stored₄, hfailed, h₆, rfl⟩ := executes_bind_ok.mp h₅
    obtain ⟨rfl, hsame, rfl⟩ := executes_pure.mp h₆
    cases hsame
    obtain ⟨rfl, hsame, rfl⟩ := executes_pure.mp h₁
    cases hsame
    obtain ⟨e, -, rfl, hfails, -, -⟩ := executes_failNow hfailed hdecided
    exact executes_saveRelayView_error hview (.inr hfails)
  obtain ⟨rfl, hsame, rfl⟩ := executes_pure.mp h₅
  cases hsame
  obtain ⟨now'', hbinding', rfl, hviewed, rfl⟩ := executes_saveRelayView hview
  obtain ⟨hparseView, rfl, hkeeps⟩ := AnchorOperations.save_ok hviewed
  simp only [List.append_nil, List.cons_append, List.nil_append] at hleft' hfits' hreturn ⊢
  have hagrees : service.request = response := hleft'.head
  have hbound₁ : Bound configuration receiptId eventHash
      (submittedUpdate (requestingUpdate operation now) relay now') :=
    ⟨hbound.event, hbound.receipt, hbound.chain, hbound.contract, hbound.relay⟩
  have hbound₂ : Bound configuration receiptId eventHash (relayViewUpdate
      (submittedUpdate (requestingUpdate operation now) relay now') relay now'') :=
    ⟨hbound.event, hbound.receipt, hbound.chain, hbound.contract, hbound.relay⟩
  have hpending := localStateForRelay_ne_confirmed relay
  have hfitsView := fits_of_save hbinding' hparseView (hkeeps _ (AnchorOperations.get_put _ _))
  have hask : Asks (submittedUpdate (requestingUpdate operation now) relay now') :=
    ⟨AnchorOperationState.noConfusion, rfl, AnchorOperationState.noConfusion⟩
  obtain ⟨hcourse, hreads, hcovered⟩ := course_of_executes _ le_rfl h₁ hdecided
    (AnchorOperations.get_put _ _) hbound₂ hpending hblob hleft'.tail.tail.tail.tail.tail
    fun e he => hfits' e (List.mem_cons_of_mem _ (List.mem_cons_of_mem _ (List.mem_cons_of_mem _
      (List.mem_cons_of_mem _ (List.mem_cons_of_mem _ he)))))
  refine hreturn (.accepted ?_ hbinding hfitsView.error hkept ?_ (hreads hpolls)
    (hcourse.congr rfl rfl ?_)) fun before => .reads rfl (.reads rfl (.save (fun _ => ?_)
      (.reads rfl (.save (fun hstate => ?_) (hcovered _)))))
  · rw [Service.requested, hagrees, hartifacts]
    exact hrequested
  · exact open_of_parse hparse' AnchorOperationState.noConfusion
  · simp [AnchorOperation.accepted, AnchorOperation.viewed]
  · -- the operation as it was submitted
    have hlast : lastRow (before ++
        [⟨.fetch (.events request), response, store.put (requestingUpdate operation now)⟩] ++
        [⟨.now, now', store.put (requestingUpdate operation now)⟩]) = some relay := by
      simp only [lastRow_concat, answeredRow, view_of_requested hrequested]
      rfl
    have hreverted : RevertedOnSubmit (submittedUpdate (requestingUpdate operation now) relay now')
        (before ++
          [⟨.fetch (.events request), response, store.put (requestingUpdate operation now)⟩] ++
          [⟨.now, now', store.put (requestingUpdate operation now)⟩]) ↔
        relay.state = .reverted := by
      rw [RevertedOnSubmit, hlast]
      simp [submittedUpdate]
    have hnot : (submittedUpdate (requestingUpdate operation now) relay now').direct = false := by
      simp [AnchorOperation.direct, submittedUpdate, directReverify]
    by_cases hsilent : statusAnswers log₂ = []
    · -- no status read was left: the row that it was submitted with answers the next ones
      rw [hsilent] at hcourse
      have hread : readOf (submittedUpdate (requestingUpdate operation now) relay now')
          (some ⟨200, .operation relay⟩) = .ok relay := by
        simp [readOf, relayFetch, RelayResponse.ok, readRelayOperation, submittedUpdate, Bind.bind,
          Except.bind]
      obtain ⟨outcome, houtcome, hcourse'⟩ := exists_course_of_submitted (m := 4) hask hread
        hfitsView (hcourse.congr rfl rfl (by simp [AnchorOperation.viewed]))
      refine ⟨hbound₁, hparse', AnchorOperationState.noConfusion, outcome, _, ?_, ?_,
        .asks hnot hblob (Option.some_ne_none _) hcourse'⟩
      · rwa [EndsAs, hreverted]
      · refine .inr ⟨hsilent, rfl, ?_⟩
        rw [nextStatuses, hlast]
        exact (if_pos hsilent).symm
    · refine ⟨hbound₁, hparse', AnchorOperationState.noConfusion, final.state, _,
        .inl ⟨rfl, ?_⟩, .inl rfl, .asks hnot hblob (Option.some_ne_none _)
          (hcourse.reask hsilent ?_ hask)⟩
      · rw [hreverted]
        rintro ⟨-, hstate⟩
        apply (hcourse.asks hsilent).unfailed
        simp [relayViewUpdate, localStateForRelay, hstate]
      · simp [AnchorOperation.terms, relayViewUpdate, submittedUpdate]
  · refine ⟨hbound₂, hparseView, hpending, final.state, _, .inl ⟨rfl, ?_⟩, .inl rfl,
      .of_course hcourse le_rfl hblob (Option.some_ne_none _) fun hdirect => ?_⟩
    · rintro ⟨-, hsubmitted, -⟩
      exact localStateForRelay_ne_submitted relay hsubmitted
    · simp only [AnchorOperation.direct, Bool.and_eq_true] at hdirect
      exact localState_confirmed (directReverify_localState hdirect.2)

/-- The workflow from the request on, backwards. -/
structure Proceeds (service : Service P) (configuration : ExtensionRelayConfiguration)
    (receiptId : ReceiptId) (eventHash : HashHex) (decision : AnchorOperationState)
    (operation : AnchorOperation) (log : List (WorkflowEvent P)) : Prop where
  requests : operation.statusToken = none → operation.counters.relayRequests < 10000 ∧
    Requests service decision operation (statusAnswers log)
  asks : operation.statusToken ≠ none →
    Course service decision MAX_POLLS_PER_WAKE operation (statusAnswers log) ∧
      (operation.counters.polls ≤ 10000 →
        operation.counters.polls + (statusAnswers log).length ≤ 10000)
  covered : ∀ before, Covered service configuration receiptId eventHash decision before log

theorem proceeds_of_executes
    (h : (requestAndPoll operation artifacts).Executes (executeWorkflow configuration) store log
      (.ok final) store')
    (hdecided : final.state.decided)
    (hstored : store.get operation.eventHash = some operation)
    (hbound : Bound configuration receiptId eventHash operation)
    (hpending : operation.state ≠ .chainEvidenceConfirmed)
    (hblob : operation.relayBlobId ≠ none) (hartifacts : service.artifacts = artifacts)
    (hleft : service.LeftBy log) (hfits : ∀ e ∈ log, DiscoveryFits e) :
    Proceeds service configuration receiptId eventHash final.state operation log := by
  by_cases htoken : operation.statusToken = none
  · obtain ⟨hrequests, hcount, hcovered⟩ := requests_of_executes h hdecided hbound hblob htoken
      hartifacts hleft hfits
    exact ⟨fun _ => ⟨hcount, hrequests⟩, absurd htoken, hcovered⟩
  · -- the operation has its token: the loop begins with it
    obtain ⟨log₁, log₂, requested, stored, hrequest, h₁, rfl⟩ := executes_bind_ok.mp h
    unfold requestAnchor at hrequest
    rw [if_pos (by simpa [Option.isSome_iff_ne_none] using htoken)] at hrequest
    obtain ⟨rfl, hsame, rfl⟩ := executes_pure.mp hrequest
    cases hsame
    obtain ⟨hcourse, hreads, hcovered⟩ := course_of_executes _ le_rfl h₁ hdecided hstored hbound
      hpending hblob hleft hfits
    exact ⟨fun hnone => absurd hnone htoken, fun _ => ⟨hcourse, hreads⟩, hcovered⟩

/-- **The workflow that does not go straight to the verification, backwards.**
Of an operation without a blob, also what a wake from it would find. -/
theorem uploads_of_executes {uploaded : AnchorOperation ⊕ AnchorOperation}
    {log' : List (WorkflowEvent P)} {stored : AnchorOperations}
    (h : (uploadProof operation artifacts).Executes (executeWorkflow configuration) store log
      (.ok uploaded) stored)
    (hrest : (match uploaded with
      | .inr result => pure result
      | .inl operation => requestAndPoll operation artifacts : WorkflowProg P _).Executes
      (executeWorkflow configuration) stored log' (.ok final) store')
    (hdecided : final.state.decided)
    (hstored : store.get operation.eventHash = some operation)
    (hbound : Bound configuration receiptId eventHash operation)
    (hpending : operation.state ≠ .chainEvidenceConfirmed)
    (hartifacts : service.artifacts = artifacts) (hleft : service.LeftBy (log ++ log'))
    (hfits : ∀ e ∈ log ++ log', DiscoveryFits e) :
    (operation.relayBlobId = none →
        Uploads service final.state operation (statusAnswers (log ++ log'))) ∧
      ∀ before, Covered service configuration receiptId eventHash final.state before
        (log ++ log') := by
  unfold uploadProof at h
  split_ifs at h with hblob
  · obtain ⟨rfl, hsame, rfl⟩ := executes_pure.mp h
    cases hsame
    have hsome : operation.relayBlobId ≠ none := Option.isSome_iff_ne_none.mp hblob
    have hproceeds := proceeds_of_executes hrest hdecided hstored hbound hpending hsome hartifacts
      hleft hfits
    exact ⟨fun hnone => absurd hnone hsome, hproceeds.covered⟩
  have hnone : operation.relayBlobId = none := by simpa using hblob
  obtain ⟨now, log₁, h₁, rfl⟩ := executes_now_bind h
  obtain ⟨log₂, stored₁, hsave, h₂, rfl⟩ := executes_saveUpdate_bind h₁
  obtain ⟨hparse, rfl, -⟩ := AnchorOperations.save_ok hsave
  have hpolls : operation.counters.polls ≤ 10000 := (counters_of_parse hparse).1
  have hbound' : Bound configuration receiptId eventHash
      (uploadingUpdate operation artifacts.blobId now) :=
    ⟨hbound.event, hbound.receipt, hbound.chain, hbound.contract, hbound.relay⟩
  simp only [List.cons_append] at hleft hfits ⊢
  have hleft' : service.LeftBy (log₂ ++ log') := hleft.tail.tail
  have hfits' : ∀ e ∈ log₂ ++ log', DiscoveryFits e := fun e he =>
    hfits e (List.mem_cons_of_mem _ (List.mem_cons_of_mem _ he))
  -- it remains to look at the answer, and at what follows it
  have hreturn (huploads : Uploads service final.state operation (statusAnswers (log₂ ++ log')))
      (hcovered : ∀ before, Covered service configuration receiptId eventHash final.state before
        (log₂ ++ log')) :
      (operation.relayBlobId = none → Uploads service final.state operation
          (statusAnswers (⟨.now, now, store⟩ ::
            ⟨.save (uploadingUpdate operation artifacts.blobId now), .ok (), store⟩ ::
              (log₂ ++ log')))) ∧
        ∀ before, Covered service configuration receiptId eventHash final.state before
          (⟨.now, now, store⟩ ::
            ⟨.save (uploadingUpdate operation artifacts.blobId now), .ok (), store⟩ ::
              (log₂ ++ log')) := by
    refine ⟨fun _ => huploads, fun before => .reads rfl (.save (fun _ => ?_) (hcovered _))⟩
    refine ⟨hbound', hparse, AnchorOperationState.noConfusion, final.state, _, .inl ⟨rfl, ?_⟩,
      .inl rfl, .uploads ?_ hnone (huploads.congr rfl rfl rfl)⟩
    · rintro ⟨-, hsubmitted, -⟩
      cases hsubmitted
    · simp [AnchorOperation.direct, uploadingUpdate, directReverify]
  obtain ⟨log₃, log₄, result, stored₂, hupload, h₃, rfl⟩ := executes_attempt_bind.mp h₂
  rcases result with e | viewed
  · obtain ⟨log₅, log₆, failed, stored₃, hfailed, h₄, rfl⟩ := executes_bind_ok.mp h₃
    obtain ⟨rfl, hsame, rfl⟩ := executes_pure.mp h₄
    cases hsame
    obtain ⟨rfl, hsame, rfl⟩ := executes_pure.mp hrest
    cases hsame
    obtain ⟨e, now', rfl, hfails, hfinal, rfl⟩ := executes_failNow hfailed hdecided
    obtain ⟨response, hrefused, rfl, rfl⟩ := executes_upload_error hupload
    have hagrees : service.upload = response := hleft'.head
    refine hreturn (.refused ?_ hfails hfinal)
      fun before => .reads rfl (.reads rfl (.save (fun h => absurd hfinal h) trivial))
    rw [Service.uploaded, hagrees, hartifacts]
    exact hrefused
  obtain ⟨rfl, hsame, rfl⟩ := executes_pure.mp h₃
  cases hsame
  obtain ⟨response, blob, now', hblob', rfl, hsaved, rfl⟩ := executes_upload hupload
  obtain ⟨hparse', rfl, -⟩ := AnchorOperations.save_ok hsaved
  simp only [List.append_nil, List.cons_append, List.nil_append] at hleft' hfits' hreturn ⊢
  have hagrees : service.upload = response := hleft'.head
  have huploaded : service.uploaded = .ok blob := by
    rw [Service.uploaded, hagrees, hartifacts]
    exact hblob'
  have hbound₁ : Bound configuration receiptId eventHash
      (uploadedUpdate (uploadingUpdate operation artifacts.blobId now) blob.blobId now') :=
    ⟨hbound.event, hbound.receipt, hbound.chain, hbound.contract, hbound.relay⟩
  have hnot : (uploadedUpdate (uploadingUpdate operation artifacts.blobId now) blob.blobId
      now').direct = false := by
    simp [AnchorOperation.direct, uploadedUpdate, directReverify]
  have hproceeds := proceeds_of_executes hrest hdecided (AnchorOperations.get_put _ _) hbound₁
    AnchorOperationState.noConfusion (Option.some_ne_none _) hartifacts hleft'.tail.tail.tail
    fun e he => hfits' e (List.mem_cons_of_mem _ (List.mem_cons_of_mem _
      (List.mem_cons_of_mem _ he)))
  -- the uploaded operation goes on as the run did
  have hstored' (honward : Onward service final.state
      (uploadedUpdate (uploadingUpdate operation artifacts.blobId now) blob.blobId now')
      (statusAnswers log')) : ∀ before, Covered service configuration receiptId eventHash
        final.state before (⟨.fetch (.blobs artifacts.envelope), response,
          store.put (uploadingUpdate operation artifacts.blobId now)⟩ ::
          ⟨.now, now', store.put (uploadingUpdate operation artifacts.blobId now)⟩ ::
          ⟨.save (uploadedUpdate (uploadingUpdate operation artifacts.blobId now) blob.blobId now'),
            .ok (), store.put (uploadingUpdate operation artifacts.blobId now)⟩ :: log') := by
    refine fun before => .reads rfl (.reads rfl (.save (fun _ => ?_) (hproceeds.covered _)))
    refine ⟨hbound₁, hparse', AnchorOperationState.noConfusion, final.state, _, .inl ⟨rfl, ?_⟩,
      .inl rfl, honward⟩
    rintro ⟨-, hsubmitted, -⟩
    cases hsubmitted
  by_cases htoken : operation.statusToken = none
  · obtain ⟨hcount, hrequests⟩ := hproceeds.requests htoken
    exact hreturn (.requests huploaded htoken hcount (hrequests.congr rfl rfl))
      (hstored' (.requests hnot (Option.some_ne_none _) htoken hrequests))
  · obtain ⟨hcourse, hreads⟩ := hproceeds.asks htoken
    exact hreturn (.asks huploaded htoken (hreads hpolls) (hcourse.congr rfl rfl rfl))
      (hstored' (.asks hnot (Option.some_ne_none _) htoken hcourse))

/-- Ensuring an operation stores it if it is new. -/
theorem persists_ensure {answer : Except StorageError (Option (OpaqueId × AnchorableStage))}
    {now : Timestamp} {stored : AnchorOperations} {result : AnchorOperation}
    (h : Persists configuration
      (⟨.ensure receiptId eventHash now, answer, store⟩ : WorkflowEvent P) operation)
    (hexecute : executeWorkflow configuration (P := P) (.ensure receiptId eventHash now) answer store
      = (.ok result, stored)) :
    operation = result ∧ store.get eventHash = none := by
  obtain ⟨hafter, hsave | hnew⟩ := h
  · cases hsave
  dsimp only at hafter hnew
  rw [hexecute] at hafter
  obtain ⟨-, rfl, -⟩ | ⟨hget, rfl, -⟩ := executeWorkflow_ensure hexecute
  · rw [hnew] at hafter
    cases hafter
  · refine ⟨?_, hget⟩
    by_cases hhash : result.eventHash = operation.eventHash
    · rw [← hhash, AnchorOperations.get_put] at hafter
      exact (Option.some.inj hafter).symm
    · rw [AnchorOperations.get_put_of_ne hhash, hnew] at hafter
      cases hafter

/-- **The workflow, backwards**: whatever a run that ends in a decision stored
on the way is a final failure, or an operation that a wake can resume. -/
theorem covered_of_executes
    (h : (runAnchorWorkflow receiptId eventHash : WorkflowProg P _).Executes
      (executeWorkflow configuration) store log (.ok final) store')
    (hdecided : final.state.decided) (hleft : service.LeftBy log)
    (hfits : ∀ e ∈ log, DiscoveryFits e) :
    Covered service configuration receiptId eventHash final.state [] log := by
  obtain ⟨now, log₁, h₁, rfl⟩ := executes_now_bind h
  obtain ⟨answer, log₂, operation, stored, hensure, h₂, rfl⟩ := executes_perform_bind.mp h₁
  have hbound : Bound configuration receiptId eventHash operation ∧
      stored.get eventHash = some operation := by
    obtain ⟨hget, rfl, hreceipt, hchain, hcontract, hrelay⟩ | ⟨-, rfl, -, hnew⟩ :=
      executeWorkflow_ensure hensure
    · exact ⟨⟨AnchorOperations.get_eventHash hget, hreceipt, hchain, hcontract, hrelay⟩, hget⟩
    · refine ⟨⟨hnew.event, hnew.receipt, hnew.chain, by rw [hnew.contract], hnew.relay⟩, ?_⟩
      rw [← hnew.event]
      exact AnchorOperations.get_put _ _
  have hnew (hnone : store.get eventHash = none) : parseAnchorOperation operation = true ∧
      Created configuration receiptId eventHash operation := by
    obtain ⟨hget, -⟩ | ⟨-, -, hparse, hnew⟩ := executeWorkflow_ensure hensure
    · rw [hnone] at hget
      cases hget
    · exact ⟨hparse, hnew⟩
  -- it remains to show what a wake does with the operation if it was created here
  have hreturn
      (honward : store.get eventHash = none → Onward service final.state operation
        (statusAnswers log₂))
      (hcovered : ∀ before, Covered service configuration receiptId eventHash final.state before
        log₂) :
      Covered service configuration receiptId eventHash final.state [] (⟨.now, now, store⟩ ::
        ⟨.ensure receiptId eventHash now, answer, store⟩ :: log₂) := by
    refine .reads rfl ⟨fun operation' hpersists hfinal => ?_, hcovered _⟩
    obtain ⟨rfl, hnone⟩ := persists_ensure hpersists hensure
    obtain ⟨hparse, hcreated⟩ := hnew hnone
    refine ⟨hbound.1, hparse, by simp [hcreated.state], final.state, _, .inl ⟨rfl, ?_⟩, .inl rfl,
      honward hnone⟩
    rintro ⟨-, hsubmitted, -⟩
    rw [hcreated.state] at hsubmitted
    cases hsubmitted
  split_ifs at h₂ with hdone
  · obtain ⟨rfl, hsame, rfl⟩ := executes_pure.mp h₂
    cases hsame
    refine hreturn (fun hnone => ?_) fun _ => trivial
    rw [(hnew hnone).2.state] at hdone
    simp at hdone
  have hpending : operation.state ≠ .chainEvidenceConfirmed := fun h => hdone (.inl h)
  obtain ⟨answer', log₃, artifacts, stored', hget, h₃, rfl⟩ := executes_perform_bind.mp h₂
  have hgot : answer' = .ok artifacts ∧ stored = stored' := by
    rcases answer' with e | artifacts'
    · cases hget
    · cases hget
      exact ⟨rfl, rfl⟩
  obtain ⟨rfl, rfl⟩ := hgot
  have hartifacts : service.artifacts = artifacts := hleft.tail.tail.head artifacts rfl
  have hfits₃ : ∀ e ∈ log₃, DiscoveryFits e := fun e he =>
    hfits e (List.mem_cons_of_mem _ (List.mem_cons_of_mem _ (List.mem_cons_of_mem _ he)))
  have hstored : stored.get operation.eventHash = some operation := by
    rw [hbound.1.event]
    exact hbound.2
  split at h₃
  · -- straight to the verification: the operation was stored with its transaction
    rename_i hash htx hdirect
    obtain ⟨-, -, hcovered⟩ := verifies_of_executes h₃ hdecided hstored hbound.1
      hleft.tail.tail.tail
    refine hreturn (fun hnone => ?_) fun before => .reads rfl (hcovered _)
    rw [(hnew hnone).2.hash] at htx
    cases htx
  · obtain ⟨log₄, log₅, uploaded, stored'', huploads, h₄, rfl⟩ := executes_bind_ok.mp h₃
    obtain ⟨hway, hcovered⟩ := uploads_of_executes huploads h₄ hdecided hstored hbound.1 hpending
      hartifacts hleft.tail.tail.tail hfits₃
    refine hreturn (fun hnone => ?_) fun before => .reads rfl (hcovered _)
    obtain ⟨-, hcreated⟩ := hnew hnone
    exact .uploads (by simp [AnchorOperation.direct, hcreated.hash]) hcreated.blob
      (hway hcreated.blob)

end backward

end SubmittedIt.Extension
