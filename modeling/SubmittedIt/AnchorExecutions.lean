/-
SubmittedIt/AnchorExecutions.lean

What the functions of the anchor workflow did where an execution of them ended
well, or failed with an error that tells something
(apps/extension/lib/anchor-workflow.ts).

Each function gets one lemma: the events it left in the log, the answers it was
given, and what it made of them.  An error is `Telling` if it decides, or says
that the event was anchored already; only the relay's own errors are.
-/
import SubmittedIt.AnchorService

namespace SubmittedIt.Extension

open ReceiptCore Prog

variable {P : StoragePlatform} {configuration : ExtensionRelayConfiguration}

/-! ### What the steps of an execution did -/

section executions

variable {store store' : AnchorOperations} {log : List (WorkflowEvent P)}
  {operation final : AnchorOperation} {now : Timestamp}

theorem executes_save {next : AnchorOperation}
    (h : (await (.save next) : WorkflowProg P _).Executes (executeWorkflow configuration) store log
      (.ok operation) store') :
    operation = next ∧ store.save next = .ok store' ∧ log = [⟨.save next, .ok (), store⟩] := by
  obtain ⟨answer, hlog, hexecute⟩ := executes_perform.mp h
  obtain ⟨rfl, rfl, hsave⟩ := executeWorkflow_save hexecute
  exact ⟨rfl, hsave, hlog⟩

theorem mapError_update_ok {next : AnchorOperation}
    (h : (updateAnchorOperation next).mapError WorkflowError.storage = .ok operation) :
    operation = next ∧ parseAnchorOperation next = true := by
  rcases hparse : updateAnchorOperation next with e | result
  · rw [hparse] at h
    cases h
  · rw [hparse] at h
    cases h
    exact updateAnchorOperation_eq_ok.mp hparse

theorem executes_saveUpdate {next : AnchorOperation}
    (h : (saveUpdate next : WorkflowProg P _).Executes (executeWorkflow configuration) store log
      (.ok operation) store') :
    operation = next ∧ store.save next = .ok store' ∧ log = [⟨.save next, .ok (), store⟩] := by
  obtain ⟨updated, hupdate, hsave⟩ := executes_ofExcept_bind.mp h
  obtain ⟨rfl, -⟩ := mapError_update_ok hupdate
  exact executes_save hsave

theorem executes_saveUpdate_error {next : AnchorOperation} {error : WorkflowError}
    (h : (saveUpdate next : WorkflowProg P _).Executes (executeWorkflow configuration) store log
      (.error error) store') : ∃ e, error = .storage e := by
  obtain ⟨log₁, log₂, updated, stored, -, hsave, -⟩ | ⟨e, hupdate, hsame⟩ := executes_bind.mp h
  · obtain ⟨answer, -, hexecute⟩ := executes_perform.mp hsave
    exact executeWorkflow_save_error hexecute
  · cases hsame
    obtain ⟨-, hsame, -⟩ := executes_ofExcept.mp hupdate
    rcases hparse : updateAnchorOperation next with e' | result
    · rw [hparse] at hsame
      cases hsame
      exact ⟨e', rfl⟩
    · rw [hparse] at hsame
      cases hsame

/-- A step that saves an update of the operation, and what follows it. -/
theorem executes_saveUpdate_bind {β : Type} {next : AnchorOperation}
    {f : AnchorOperation → WorkflowProg P β} {b : β}
    (h : (saveUpdate next >>= f).Executes (executeWorkflow configuration) store log (.ok b)
      store') :
    ∃ rest stored, store.save next = .ok stored ∧
      (f next).Executes (executeWorkflow configuration) stored rest (.ok b) store' ∧
      log = ⟨.save next, .ok (), store⟩ :: rest := by
  obtain ⟨log₁, log₂, a, stored, hsave, hrest, rfl⟩ := executes_bind_ok.mp h
  obtain ⟨rfl, hstored, rfl⟩ := executes_saveUpdate hsave
  exact ⟨log₂, stored, hstored, hrest, rfl⟩

/-- A reading of the clock, and what follows it. -/
theorem executes_now_bind {β : Type} {f : Timestamp → WorkflowProg P β} {b : β}
    (h : ((await .now : WorkflowProg P Timestamp) >>= f).Executes (executeWorkflow configuration)
      store log (.ok b) store') :
    ∃ now rest, (f now).Executes (executeWorkflow configuration) store rest (.ok b) store' ∧
      log = ⟨.now, now, store⟩ :: rest := by
  obtain ⟨now, rest, a, stored, hexecute, hrest, rfl⟩ := executes_perform_bind.mp h
  cases hexecute
  exact ⟨now, rest, hrest, rfl⟩

/-- One request of the relay, and what was made of its answer. -/
theorem executes_fetchRelay {α : Type} {request : RelayRequest P}
    {read : RelayBody → Except RelayClientError α} {r : Except WorkflowError α}
    (h : (fetchRelay request read).Executes (executeWorkflow configuration) store log r store') :
    ∃ response, r = (relayFetch response >>= read).mapError .relay ∧ store' = store ∧
      log = [⟨.fetch request, response, store⟩] := by
  obtain ⟨log₁, log₂, response, stored, hperform, hread, rfl⟩ | ⟨e, hperform, -⟩ :=
    executes_bind.mp h
  · obtain ⟨answer, rfl, hexecute⟩ := executes_perform.mp hperform
    cases hexecute
    obtain ⟨rfl, hresult, rfl⟩ := executes_ofExcept.mp hread
    exact ⟨response, hresult, rfl, rfl⟩
  · obtain ⟨answer, -, hexecute⟩ := executes_perform.mp hperform
    cases hexecute

theorem mapError_relay_ok {α : Type} {r : Except RelayClientError α} {a : α}
    (h : .ok a = r.mapError WorkflowError.relay) : r = .ok a := by
  rcases r with e | b
  · cases h
  · cases h
    rfl

theorem mapError_relay_error {α : Type} {r : Except RelayClientError α} {e : RelayClientError}
    (h : .error (.relay e) = r.mapError WorkflowError.relay) : r = .error e := by
  rcases r with e' | b
  · cases h
    rfl
  · cases h

/-- The error is one that decides, or says that the event was anchored. -/
def Telling (error : RelayClientError) : Prop :=
  error.code = "EVENT_ALREADY_ANCHORED" ∨ Fails error

/-- An error of a relay that was not read is not telling. -/
theorem Telling.status {error : RelayClientError} (h : Telling error)
    (hcode : error.code ≠ "EVENT_ALREADY_ANCHORED") : error.status ≠ none := by
  intro hnone
  have hstate := (h.resolve_left hcode).state
  unfold relayErrorState at hstate
  rw [if_pos (.inr hnone)] at hstate
  cases hstate

theorem assertRelayBinding_not_telling {relay : RelayOperationView} {e : RelayClientError}
    (h : assertRelayBinding operation relay = .error (.relay e)) : ¬ Telling e := by
  unfold assertRelayBinding at h
  split at h
  · cases h
    exact fun htelling => htelling.status (by decide) rfl
  · cases h

theorem executes_saveRelayView {relay : RelayOperationView}
    (h : (saveRelayView operation relay : WorkflowProg P _).Executes (executeWorkflow configuration)
      store log (.ok final) store') :
    ∃ now, assertRelayBinding operation relay = .ok () ∧
      final = relayViewUpdate operation relay now ∧ store.save final = .ok store' ∧
      log = [⟨.now, now, store⟩, ⟨.save final, .ok (), store⟩] := by
  obtain ⟨now, rest, h₁, rfl⟩ := executes_now_bind h
  obtain ⟨⟨⟩, hbinding, h₂⟩ := executes_ofExcept_bind.mp h₁
  obtain ⟨rfl, hsave, rfl⟩ := executes_saveUpdate h₂
  exact ⟨now, hbinding, rfl, hsave, rfl⟩

/-- A view that cannot be stored is no telling error. -/
theorem executes_saveRelayView_error {relay : RelayOperationView} {e : RelayClientError}
    (h : (saveRelayView operation relay : WorkflowProg P _).Executes (executeWorkflow configuration)
      store log (.error (.relay e)) store') : ¬ Telling e := by
  obtain ⟨log₁, log₂, now, stored, -, h₁, -⟩ | ⟨e', hnow, -⟩ := executes_bind.mp h
  · obtain ⟨log₃, log₄, ⟨⟩, stored', -, h₂, -⟩ | ⟨e', hbinding, hsame⟩ := executes_bind.mp h₁
    · obtain ⟨e', hsame⟩ := executes_saveUpdate_error h₂
      cases hsame
    · cases hsame
      obtain ⟨-, hsame, -⟩ := executes_ofExcept.mp hbinding
      exact assertRelayBinding_not_telling hsame.symm
  · obtain ⟨answer, -, hexecute⟩ := executes_perform.mp hnow
    cases hexecute

theorem executes_pauseUnless_bind {β : Type} {first : Bool} {f : Unit → WorkflowProg P β} {b : β}
    (h : (pauseUnless first >>= f).Executes (executeWorkflow configuration) store log (.ok b)
      store') :
    ∃ rest, (f ()).Executes (executeWorkflow configuration) store rest (.ok b) store' ∧
      (log = rest ∨ log = ⟨.pause POLL_DELAY_MS, (), store⟩ :: rest) := by
  cases first with
  | true => exact ⟨log, h, .inl rfl⟩
  | false =>
    obtain ⟨⟨⟩, rest, ⟨⟩, stored, hexecute, h₁, rfl⟩ := executes_perform_bind.mp h
    cases hexecute
    exact ⟨rest, h₁, .inr rfl⟩

/-- A status read, and what was made of its answer. -/
theorem executes_readStatus {r : Except WorkflowError RelayOperationView}
    (h : (readStatus operation.statusToken : WorkflowProg P _).Executes
      (executeWorkflow configuration) store log r store') :
    (operation.statusToken = none ∧ ∀ e, r = .error (.relay e) → ¬ Telling e) ∨
      ∃ statusToken response, operation.statusToken = some statusToken ∧
        r = (readOf operation response).mapError .relay ∧ store' = store ∧
        log = [⟨.fetch (.operations statusToken), response, store⟩] := by
  rcases htoken : operation.statusToken with - | statusToken
  · rw [htoken] at h
    obtain ⟨-, rfl, -⟩ := executes_throw.mp h
    refine .inl ⟨rfl, fun e he htelling => ?_⟩
    cases he
    exact htelling.status (by decide) rfl
  · rw [htoken] at h
    obtain ⟨response, hresult, hstore, hlog⟩ := executes_fetchRelay h
    refine .inr ⟨statusToken, response, rfl, ?_, hstore, hlog⟩
    simpa only [readOf, htoken] using hresult

theorem executes_readView {relay : RelayOperationView}
    (h : (readView operation : WorkflowProg P _).Executes (executeWorkflow configuration) store log
      (.ok (relay, final)) store') :
    ∃ statusToken response now, operation.statusToken = some statusToken ∧
      readOf operation response = .ok relay ∧ assertRelayBinding operation relay = .ok () ∧
      final = relayViewUpdate operation relay now ∧ store.save final = .ok store' ∧
      log = [⟨.fetch (.operations statusToken), response, store⟩, ⟨.now, now, store⟩,
        ⟨.save final, .ok (), store⟩] := by
  obtain ⟨log₁, log₂, view, stored, hread, h₁, rfl⟩ := executes_bind_ok.mp h
  obtain ⟨log₃, log₄, viewed, stored', hview, h₂, rfl⟩ := executes_bind_ok.mp h₁
  obtain ⟨rfl, hsame, rfl⟩ := executes_pure.mp h₂
  cases hsame
  rcases executes_readStatus hread with ⟨hnone, -⟩ | ⟨statusToken, response, htoken, hok, rfl, rfl⟩
  · rw [hnone] at hread
    cases hread.2.1
  obtain ⟨now, hbinding, hfinal, hsave, rfl⟩ := executes_saveRelayView hview
  exact ⟨statusToken, response, now, htoken, mapError_relay_ok hok, hbinding, hfinal, hsave, rfl⟩

theorem executes_readView_error {e : RelayClientError}
    (h : (readView operation : WorkflowProg P _).Executes (executeWorkflow configuration) store log
      (.error (.relay e)) store') (htelling : Telling e) :
    ∃ statusToken response, operation.statusToken = some statusToken ∧
      readOf operation response = .error e ∧ store' = store ∧
      log = [⟨.fetch (.operations statusToken), response, store⟩] := by
  obtain ⟨log₁, log₂, view, stored, -, h₁, -⟩ | ⟨e', hread, hsame⟩ := executes_bind.mp h
  · exfalso
    obtain ⟨log₃, log₄, viewed, stored', -, h₂, -⟩ | ⟨e', hview, hsame⟩ := executes_bind.mp h₁
    · cases h₂.2.1
    · cases hsame
      exact executes_saveRelayView_error hview htelling
  · cases hsame
    rcases executes_readStatus hread with
      ⟨-, hnot⟩ | ⟨statusToken, response, htoken, he, hstore, hlog⟩
    · exact absurd htelling (hnot e rfl)
    · exact ⟨statusToken, response, htoken, mapError_relay_error he, hstore, hlog⟩

theorem executes_submit {artifacts : AnchorRelayArtifacts P} {relay : RelayOperationView}
    (h : (submit operation artifacts).Executes (executeWorkflow configuration) store log
      (.ok (relay, final)) store') :
    ∃ request response now, relayFetch response >>= requestRelayAnchor artifacts.event = .ok relay ∧
      assertRelayBinding operation relay = .ok () ∧
      final = submittedUpdate operation relay now ∧ store.save final = .ok store' ∧
      log = [⟨.fetch (.events request), response, store⟩, ⟨.now, now, store⟩,
        ⟨.save final, .ok (), store⟩] := by
  obtain ⟨log₁, log₂, view, stored, hfetch, h₁, rfl⟩ := executes_bind_ok.mp h
  obtain ⟨response, hok, rfl, rfl⟩ := executes_fetchRelay hfetch
  obtain ⟨⟨⟩, hbinding, h₂⟩ := executes_ofExcept_bind.mp h₁
  obtain ⟨now, log₃, h₃, rfl⟩ := executes_now_bind h₂
  obtain ⟨log₄, stored', hsave, h₄, rfl⟩ := executes_saveUpdate_bind h₃
  obtain ⟨rfl, hsame, rfl⟩ := executes_pure.mp h₄
  cases hsame
  exact ⟨_, response, now, mapError_relay_ok hok, hbinding, rfl, hsave, rfl⟩

theorem executes_submit_error {artifacts : AnchorRelayArtifacts P} {e : RelayClientError}
    (h : (submit operation artifacts).Executes (executeWorkflow configuration) store log
      (.error (.relay e)) store') (htelling : Telling e) :
    ∃ request response, relayFetch response >>= requestRelayAnchor artifacts.event = .error e ∧
      store' = store ∧ log = [⟨.fetch (.events request), response, store⟩] := by
  obtain ⟨log₁, log₂, view, stored, -, h₁, -⟩ | ⟨e', hfetch, hsame⟩ := executes_bind.mp h
  · -- after the answer, only the binding and the storage can fail
    exfalso
    obtain ⟨log₃, log₄, ⟨⟩, stored', -, h₂, -⟩ | ⟨e', hbinding, hsame⟩ := executes_bind.mp h₁
    · obtain ⟨log₅, log₆, now, stored'', -, h₃, -⟩ | ⟨e', hnow, -⟩ := executes_bind.mp h₂
      · obtain ⟨log₇, log₈, saved, stored₃, -, h₄, -⟩ | ⟨e', hsave, hsame⟩ := executes_bind.mp h₃
        · cases h₄.2.1
        · cases hsame
          obtain ⟨e', hsame⟩ := executes_saveUpdate_error hsave
          cases hsame
      · obtain ⟨answer, -, hexecute⟩ := executes_perform.mp hnow
        cases hexecute
    · cases hsame
      obtain ⟨-, hsame, -⟩ := executes_ofExcept.mp hbinding
      exact assertRelayBinding_not_telling hsame.symm htelling
  · cases hsame
    obtain ⟨response, he, hstore, hlog⟩ := executes_fetchRelay hfetch
    exact ⟨_, response, mapError_relay_error he, hstore, hlog⟩

theorem executes_upload {artifacts : AnchorRelayArtifacts P}
    (h : (upload operation artifacts).Executes (executeWorkflow configuration) store log
      (.ok final) store') :
    ∃ response blob now, relayFetch response >>= uploadEncryptedReceipt
        artifacts.envelope.authenticatedMetadata.receiptId = .ok blob ∧
      final = uploadedUpdate operation blob.blobId now ∧ store.save final = .ok store' ∧
      log = [⟨.fetch (.blobs artifacts.envelope), response, store⟩, ⟨.now, now, store⟩,
        ⟨.save final, .ok (), store⟩] := by
  obtain ⟨log₁, log₂, blob, stored, hfetch, h₁, rfl⟩ := executes_bind_ok.mp h
  obtain ⟨response, hok, rfl, rfl⟩ := executes_fetchRelay hfetch
  obtain ⟨now, log₃, h₂, rfl⟩ := executes_now_bind h₁
  obtain ⟨rfl, hsave, rfl⟩ := executes_saveUpdate h₂
  exact ⟨response, blob, now, mapError_relay_ok hok, rfl, hsave, rfl⟩

theorem executes_upload_error {artifacts : AnchorRelayArtifacts P} {e : RelayClientError}
    (h : (upload operation artifacts).Executes (executeWorkflow configuration) store log
      (.error (.relay e)) store') :
    ∃ response, relayFetch response >>= uploadEncryptedReceipt
        artifacts.envelope.authenticatedMetadata.receiptId = .error e ∧ store' = store ∧
      log = [⟨.fetch (.blobs artifacts.envelope), response, store⟩] := by
  obtain ⟨log₁, log₂, blob, stored, -, h₁, -⟩ | ⟨e', hfetch, hsame⟩ := executes_bind.mp h
  · exfalso
    obtain ⟨log₃, log₄, now, stored', -, h₂, -⟩ | ⟨e', hnow, -⟩ := executes_bind.mp h₁
    · obtain ⟨e', hsame⟩ := executes_saveUpdate_error h₂
      cases hsame
    · obtain ⟨answer, -, hexecute⟩ := executes_perform.mp hnow
      cases hexecute
  · cases hsame
    obtain ⟨response, he, hstore, hlog⟩ := executes_fetchRelay hfetch
    exact ⟨response, mapError_relay_error he, hstore, hlog⟩

/-- A failure in the relay part decides only where it is final. -/
theorem executes_failNow {error : WorkflowError}
    (h : (failNow operation error : WorkflowProg P _).Executes (executeWorkflow configuration) store
      log (.ok final) store') (hdecided : final.state.decided) :
    ∃ e now, error = .relay e ∧ Fails e ∧ final.state = .finalFailure ∧
      log = [⟨.now, now, store⟩, ⟨.save final, .ok (), store⟩] := by
  obtain ⟨now, rest, h₁, rfl⟩ := executes_now_bind h
  cases error with
  | relay e =>
    obtain ⟨rfl, hsave, rfl⟩ := executes_saveUpdate h₁
    obtain ⟨hparse, -, -⟩ := AnchorOperations.save_ok hsave
    have herror : parseErrorBody e.code e.message = true := by
      simpa [operationError, parseError, parseErrorBody] using ((parse_iff _).mp hparse).2.2.1
    have hstate : relayErrorState e = .finalFailure := by
      have hd : (relayErrorState e).decided := hdecided
      unfold relayErrorState at hd ⊢
      split_ifs at hd ⊢
      · rcases hd with h | h <;> cases h
      · rcases hd with h | h <;> cases h
      · rfl
    exact ⟨e, now, rfl, ⟨hstate, herror⟩, hstate, rfl⟩
  | verification | storage | other =>
    obtain ⟨rfl, -, -⟩ := executes_saveUpdate h₁
    rcases hdecided with h | h <;> cases h

/-- A failure of the verifier decides only where the transaction failed. -/
theorem executes_failForVerificationError {error : WorkflowError}
    (h : (failForVerificationError operation error now : WorkflowProg P _).Executes
      (executeWorkflow configuration) store log (.ok final) store')
    (hdecided : final.state.decided) :
    ∃ e, error = .verification e ∧ e.code = .transactionFailed ∧ final.state = .finalFailure ∧
      log = [⟨.save final, .ok (), store⟩] := by
  cases error with
  | verification e =>
    obtain ⟨rfl, -, rfl⟩ := executes_saveUpdate h
    have hd : (verificationErrorState e.code).decided := hdecided
    have hcode : e.code = .transactionFailed := by
      rcases hcode : e.code <;> rw [hcode] at hd <;> rcases hd with h | h <;> first | rfl | cases h
    refine ⟨e, rfl, hcode, ?_, rfl⟩
    show verificationErrorState e.code = _
    rw [hcode]
    rfl
  | relay | storage | other =>
    obtain ⟨rfl, -, -⟩ := executes_saveUpdate h
    rcases hdecided with h | h <;> cases h

end executions

end SubmittedIt.Extension
