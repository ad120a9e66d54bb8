/-
SubmittedIt/RelayFinalization.lean

When reconciliation finalizes a row.

A call of `#reconcile` on a due row finds its transaction mined, with enough
confirmations, and can read the registry.  The four `UPDATE`s that finalize
the row and the trigger's transition table are two separate lists of allowed
moves: from `SUBMITTED` and `FAILED_RETRYABLE` they agree on every outcome;
from `SUBMITTING`, the state a crash between broadcasting and recording
leaves behind, the `UPDATE` to `REVERTED` is attempted and refused by the
trigger, and the other three match no row.

`settle_of_permitted`, `settle_of_unmatched` and `settle_of_refused` are the
three ways in which the last step of a finalization can end; `reconcile_run`
reduces a call to that step.

Main results: `reconcile_finalizes_iff`, and a run of the relay whose crash
leaves a row that is never finalized.
-/
import SubmittedIt.RelayInvariant

namespace SubmittedIt.Relay

open Transaction ReceiptCore ContractClient Prog

/-! ### Rows after an update -/

section rows

variable {db : RelayDb} {t : Timestamp}

theorem write_of_permitted {old new : RelayOperationRow} (hrow : db.row old.id = some old)
    (hid : new.id = old.id) (hpermitted : Permitted old new) :
    ∃ stored db', db.write old new t = (.ok stored, db') ∧ StoredAs new stored ∧
      db'.row old.id = some stored := by
  obtain ⟨stored, hstored⟩ := enforce_of_permitted hpermitted t
  obtain ⟨-, has⟩ := enforce_eq_ok hstored
  refine ⟨stored, db.replace old stored, ?_, has, row_replace hrow (has.id.trans hid)⟩
  unfold RelayDb.write
  rw [hstored]

theorem update_of_permitted {old : RelayOperationRow} {stmt : Statement}
    (hrow : db.row old.id = some old) (happlies : stmt.applies old = true)
    (hpermitted : Permitted old (stmt.set old)) :
    ∃ stored db', db.update old.id stmt t = (.ok (some stored), db') ∧
      StoredAs (stmt.set old) stored ∧ db'.row old.id = some stored := by
  obtain ⟨stored, db', hwrite, hstored, hrow'⟩ :=
    write_of_permitted (t := t) hrow (Edit.statement stmt happlies).id hpermitted
  refine ⟨stored, db', ?_, hstored, hrow'⟩
  simp only [RelayDb.update, hrow, happlies, if_true, hwrite]

theorem update_of_not_applies {old : RelayOperationRow} {stmt : Statement}
    (hrow : db.row old.id = some old) (hno : stmt.applies old = false) :
    db.update old.id stmt t = (.ok none, db) := by
  simp [RelayDb.update, hrow, hno]

/-- Recording the cost of a mined transaction keeps what finalization looks
at. -/
theorem recordMinedCost_of_live {row : RelayOperationRow} (blockNumber : Nat)
    (hrow : db.row row.id = some row) (hlive : row.state.isTerminal = false) :
    ∃ mined db', db.recordMinedCost row.id blockNumber t = (.ok (some mined), db') ∧
      db'.row row.id = some mined ∧ mined.id = row.id ∧ mined.state = row.state ∧
      mined.binding = row.binding ∧ mined.transaction = row.transaction := by
  by_cases hcharged : row.chargedFeeWei > 0
  · exact ⟨row, db, by simp [RelayDb.recordMinedCost, hrow, hcharged], hrow, rfl, rfl, rfl, rfl⟩
  · have hpermitted : Permitted row (minedRow row blockNumber) :=
      ⟨rfl, fun _ => rfl, fun h => absurd h (by simp [hlive]), .inl rfl⟩
    have hbudget : (db.updateBudget (RelayDb.budgetKey row)
        (RelayDb.charge row.reservedFeeWei)).row row.id = some row := hrow
    obtain ⟨mined, db', hwrite, hstored, hrow'⟩ :=
      @write_of_permitted _ t row (minedRow row blockNumber) hbudget rfl hpermitted
    refine ⟨mined, db', ?_, hrow', hstored.id, hstored.state, hstored.binding,
      hstored.transaction⟩
    unfold minedRow at hwrite
    simp only [RelayDb.recordMinedCost, hrow, hcharged, if_false, hwrite]

end rows

/-! ### Answers of a healthy environment -/

variable {P : RelayPlatform} {config : RelayConfiguration} {db : RelayDb} {n : Nat}

/-- The relay's environment: an answer to the `n`-th operation of a call. -/
abbrev RelayEnv := Nat → (o : RelayOp) → o.Answer

/-- The environment of the call: the row is due at every reading of the
clock, the gateway returns the receipt and the registry's state, and the
database acknowledges. -/
structure Healthy (env : RelayEnv) (row : RelayOperationRow) (receipt : RelayTransactionReceipt)
    (contractState : RelayContractState) : Prop where
  due : ∀ n next, row.nextReconcileAt = some next → next ≤ env n .now
  receipt : ∀ n, env n (.readTransactionReceipt receipt.transactionHash) = .ok (some receipt)
  contract : ∀ n, env n (.getReceiptState row.binding.receiptId row.binding.eventHash)
    = .ok contractState
  selects : ∀ n id, (env n (.selectById id)).outcome = .acknowledged
  updates : ∀ n id stmt, (env n (.update id stmt)).outcome = .acknowledged
  records : ∀ n id block, (env n (.recordMinedCost id block)).outcome = .acknowledged

section env

variable {env : RelayEnv} {row : RelayOperationRow} {receipt : RelayTransactionReceipt}
  {contractState : RelayContractState}

theorem run_call (o : RelayOp) :
    (call o).run (execEnv (execute P) env) (db, n) =
      ((execute P o (env n o) db).1, (execute P o (env n o) db).2, n + 1) := rfl

theorem run_now : now.run (execEnv (execute P) env) (db, n) = (.ok (env n .now), db, n + 1) := rfl

theorem Healthy.run_selectById (h : Healthy env row receipt contractState) (id : Nat) :
    (call (.selectById id)).run (execEnv (execute P) env) (db, n) = (.ok (db.row id), db, n + 1) := by
  rw [run_call]
  simp only [execute, DbAnswer.apply, h.selects, reads]

theorem Healthy.run_update (h : Healthy env row receipt contractState) (id : Nat)
    (stmt : Statement) :
    (update id stmt).run (execEnv (execute P) env) (db, n) =
      ((db.update id stmt (env n (.update id stmt)).now).1,
        (db.update id stmt (env n (.update id stmt)).now).2, n + 1) := by
  rw [update, run_call]
  simp only [execute, DbAnswer.apply, h.updates]

theorem Healthy.run_refresh (h : Healthy env row receipt contractState)
    {stored : RelayOperationRow} (hrow : db.row stored.id = some stored) :
    (refresh stored.id).run (execEnv (execute P) env) (db, n) = (.ok stored, db, n + 1) := by
  rw [refresh, run_bind_ok (h.run_selectById stored.id), hrow]
  rfl

theorem Healthy.run_recordMinedCost (h : Healthy env row receipt contractState)
    {stored : RelayOperationRow} (hrow : db.row stored.id = some stored)
    (hlive : stored.state.isTerminal = false) (blockNumber : Nat) :
    ∃ mined db', (recordMinedCost stored blockNumber).run (execEnv (execute P) env) (db, n) =
        (.ok mined, db', n + 1) ∧
      db'.row stored.id = some mined ∧ mined.id = stored.id ∧ mined.state = stored.state ∧
      mined.binding = stored.binding ∧ mined.transaction = stored.transaction := by
  obtain ⟨mined, db', hmined, hrest⟩ := recordMinedCost_of_live blockNumber
    (t := (env n (.recordMinedCost stored.id blockNumber)).now) hrow hlive
  refine ⟨mined, db', ?_, hrest⟩
  have hcall : (call (.recordMinedCost stored.id blockNumber)).run (execEnv (execute P) env) (db, n)
      = (.ok (some mined), db', n + 1) := by
    rw [run_call]
    simp only [execute, DbAnswer.apply, h.records, hmined]
  rw [recordMinedCost, run_bind_ok hcall]
  rfl

/-! ### The last step of a finalization -/

/-- How a call ended and what it left. -/
abbrev Outcome := Except RelayError RelayOperationRow × RelayDb × Nat

/-- The call returned the row it leaves stored, in the state `state`. -/
def EndsIn (id : Nat) (state : RelayOperationState) (outcome : Outcome) : Prop :=
  ∃ final, outcome.1 = .ok final ∧ outcome.2.1.row id = some final ∧ final.state = state

theorem EndsIn.unique {id : Nat} {a b : RelayOperationState} {outcome : Outcome}
    (ha : EndsIn id a outcome) (hb : EndsIn id b outcome) : a = b := by
  obtain ⟨final, h₁, -, rfl⟩ := ha
  obtain ⟨final', h₂, -, rfl⟩ := hb
  rw [Except.ok.inj (h₁.symm.trans h₂)]

theorem Healthy.settle_of_permitted (h : Healthy env row receipt contractState)
    {mined : RelayOperationRow} {stmt : Timestamp → Statement}
    (hrow : db.row mined.id = some mined) (happlies : ∀ t, (stmt t).applies mined = true)
    (hpermitted : ∀ t, Permitted mined ((stmt t).set mined)) {state : RelayOperationState}
    (hstate : ∀ t, ((stmt t).set mined).state = state) :
    EndsIn mined.id state ((settle row mined stmt).run (execEnv (execute P) env) (db, n)) := by
  obtain ⟨stored, db', hupdate, hstored, hrow'⟩ :=
    update_of_permitted (t := (env (n + 1) (.update mined.id (stmt (env n .now)))).now)
      hrow (happlies (env n .now)) (hpermitted (env n .now))
  have hrun : (update mined.id (stmt (env n .now))).run (execEnv (execute P) env) (db, n + 1) =
      (.ok (some stored), db', n + 1 + 1) := by
    rw [h.run_update, hupdate]
  rw [settle, run_bind_ok run_now, run_bind_ok hrun]
  exact ⟨stored, rfl, hrow', hstored.state.trans (hstate _)⟩

theorem Healthy.settle_of_unmatched (h : Healthy env row receipt contractState)
    {mined : RelayOperationRow} (stmt : Timestamp → Statement) (hid : row.id = mined.id)
    (hrow : db.row mined.id = some mined) (hno : ∀ t, (stmt t).applies mined = false) :
    EndsIn mined.id mined.state
      ((settle row mined stmt).run (execEnv (execute P) env) (db, n)) := by
  have hrun : (update mined.id (stmt (env n .now))).run (execEnv (execute P) env) (db, n + 1) =
      (.ok none, db, n + 1 + 1) := by
    rw [h.run_update, update_of_not_applies hrow (hno _)]
  rw [settle, run_bind_ok run_now, run_bind_ok hrun, hid]
  show EndsIn _ _ ((refresh mined.id).run _ _)
  rw [h.run_refresh hrow]
  exact ⟨mined, rfl, hrow, rfl⟩

theorem Healthy.settle_of_refused (h : Healthy env row receipt contractState)
    {mined : RelayOperationRow} {stmt : Timestamp → Statement}
    (hrow : db.row mined.id = some mined) (happlies : ∀ t, (stmt t).applies mined = true)
    (hrefused : ∀ t u, ∃ e, enforceRelayOperationUpdate mined ((stmt t).set mined) u = .error e) :
    ∃ e, ((settle row mined stmt).run (execEnv (execute P) env) (db, n)).1 = .error e := by
  obtain ⟨e, he⟩ := hrefused (env n .now)
    (env (n + 1) (.update mined.id (stmt (env n .now)))).now
  have hrun : (update mined.id (stmt (env n .now))).run (execEnv (execute P) env) (db, n + 1) =
      (.error e, db, n + 1 + 1) := by
    rw [h.run_update]
    simp [RelayDb.update, hrow, happlies, RelayDb.write, he]
  rw [settle, run_bind_ok run_now, run_bind_error hrun]
  exact ⟨e, rfl⟩

/-! ### Finalizing a receipt -/

/-- The terminal state a mined transaction leads to. -/
def outcomeOf (row : RelayOperationRow) (receipt : RelayTransactionReceipt)
    (contractState : RelayContractState) : RelayOperationState :=
  if receipt.reverted = true then .reverted
  else if receipt.contractEventFound = false then .failedFinal
  else if evidenceMatches row contractState = false then .failedFinal
  else .confirmed

/-- A call runs to the last step of the branch its receipt leads to. -/
theorem Healthy.finalizeReceipt_run (h : Healthy env row receipt contractState)
    (config : RelayConfiguration) (hrow : db.row row.id = some row) (hlive : row.state.isTerminal = false)
    (hhash : row.transaction.hash = some receipt.transactionHash) :
    ∃ mined db' m, db'.row row.id = some mined ∧ mined.id = row.id ∧ mined.state = row.state ∧
      (finalizeReceipt config row receipt).run (execEnv (execute P) env) (db, n) =
        (settle row mined (if receipt.reverted = true then .reverted receipt.blockNumber
          else if receipt.contractEventFound = false then .eventMissing receipt.blockNumber
          else if evidenceMatches row contractState = false then .stateMismatch receipt.blockNumber
          else .confirmed receipt.blockNumber)).run (execEnv (execute P) env) (db', m) := by
  obtain ⟨mined, db', hrun, hrow', hid, hstate, -, -⟩ :=
    h.run_recordMinedCost (n := n) hrow hlive receipt.blockNumber
  have hmatch : ¬ (row.transaction.hash = none ∨
      some receipt.transactionHash ≠ row.transaction.hash) := by simp [hhash]
  rw [finalizeReceipt, if_neg hmatch, run_bind_ok hrun]
  by_cases hreverted : receipt.reverted = true
  · exact ⟨mined, db', n + 1, hrow', hid, hstate, by simp [hreverted]⟩
  by_cases hfound : receipt.contractEventFound = false
  · exact ⟨mined, db', n + 1, hrow', hid, hstate, by simp [hreverted, hfound]⟩
  · -- the registry is read before the last step
    have hread : (call (.getReceiptState row.binding.receiptId row.binding.eventHash) :
        RelayProg RelayContractState).attempt.run (execEnv (execute P) env) (db', n + 1) =
        (.ok (.ok contractState), db', n + 1 + 1) := by
      rw [run_attempt, run_call]
      simp only [execute, h.contract]
    refine ⟨mined, db', n + 1 + 1, hrow', hid, hstate, ?_⟩
    rw [if_neg hreverted, if_neg hfound, run_bind_ok hread]
    by_cases hevidence : evidenceMatches row contractState = false
    · simp [hreverted, hfound, hevidence]
    · simp [hreverted, hfound, hevidence]

/-- From `SUBMITTED` or `FAILED_RETRYABLE` the statements and the trigger
agree on every outcome. -/
theorem Healthy.finalizeReceipt_ends (h : Healthy env row receipt contractState)
    {config : RelayConfiguration} (hrow : db.row row.id = some row)
    (hstate : row.state = .submitted ∨ row.state = .failedRetryable)
    (hhash : row.transaction.hash = some receipt.transactionHash) :
    EndsIn row.id (outcomeOf row receipt contractState)
      ((finalizeReceipt config row receipt).run (execEnv (execute P) env) (db, n)) := by
  have hlive : row.state.isTerminal = false := by
    rcases hstate with h | h <;> rw [h] <;> rfl
  obtain ⟨mined, db', m, hrow', hid, hmined, hrun⟩ := h.finalizeReceipt_run
    (P := P) (n := n) config hrow hlive hhash
  rw [hrun, ← hid]
  rw [← hid] at hrow'
  rw [← hmined] at hstate hlive
  have hterminal : ∀ new, mined.state.isTerminal = true → new = mined :=
    fun _ hterm => absurd hterm (by simp [hlive])
  unfold outcomeOf
  split
  · refine h.settle_of_permitted hrow' (fun _ => by simp [Statement.applies, hlive])
      (fun _ => ⟨rfl, fun _ => rfl, hterminal _, .inr ?_⟩) (fun _ => rfl)
    rcases hstate with hs | hs <;> rw [hs] <;> rfl
  split
  · refine h.settle_of_permitted hrow'
      (fun _ => by rcases hstate with hs | hs <;> simp [Statement.applies, hs])
      (fun _ => ⟨rfl, fun _ => rfl, hterminal _, .inr ?_⟩) (fun _ => rfl)
    rcases hstate with hs | hs <;> rw [hs] <;> rfl
  split
  · refine h.settle_of_permitted hrow'
      (fun _ => by rcases hstate with hs | hs <;> simp [Statement.applies, hs])
      (fun _ => ⟨rfl, fun _ => rfl, hterminal _, .inr ?_⟩) (fun _ => rfl)
    rcases hstate with hs | hs <;> rw [hs] <;> rfl
  · refine h.settle_of_permitted hrow'
      (fun _ => by rcases hstate with hs | hs <;> simp [Statement.applies, hs])
      (fun _ => ⟨rfl, fun _ => rfl, hterminal _, .inr ?_⟩) (fun _ => rfl)
    rcases hstate with hs | hs <;> rw [hs] <;> rfl

/-- From `SUBMITTING` a reverted transaction makes the trigger raise, and any
other outcome matches no row. -/
theorem Healthy.finalizeReceipt_stuck (h : Healthy env row receipt contractState)
    (config : RelayConfiguration) (hrow : db.row row.id = some row) (hstate : row.state = .submitting)
    (hhash : row.transaction.hash = some receipt.transactionHash) :
    (∃ e, ((finalizeReceipt config row receipt).run (execEnv (execute P) env) (db, n)).1
        = .error e) ∨
      EndsIn row.id .submitting
        ((finalizeReceipt config row receipt).run (execEnv (execute P) env) (db, n)) := by
  have hlive : row.state.isTerminal = false := by rw [hstate]; rfl
  obtain ⟨mined, db', m, hrow', hid, hmined, hrun⟩ := h.finalizeReceipt_run
    (P := P) (n := n) config hrow hlive hhash
  rw [hrun, ← hid]
  rw [← hid] at hrow'
  rw [hstate] at hmined
  split
  · left
    refine h.settle_of_refused hrow' (fun _ => by simp [Statement.applies, hmined,
      RelayOperationState.isTerminal]) (fun t u => ?_)
    have hstay : (Statement.set (.reverted receipt.blockNumber t) mined).state ≠ mined.state := by
      rw [hmined]
      exact RelayOperationState.noConfusion
    have hforbidden : allowedTransition mined.state
        (Statement.set (.reverted receipt.blockNumber t) mined).state = false := by
      rw [hmined]
      rfl
    exact ⟨_, @enforce_of_not_permitted mined (Statement.set (.reverted receipt.blockNumber t) mined)
      rfl rfl (by rw [hmined]; rfl) hstay hforbidden u⟩
  all_goals right
  split
  · have hends := h.settle_of_unmatched (P := P) (n := m) (.eventMissing receipt.blockNumber)
      hid.symm hrow' (fun _ => by simp [Statement.applies, hmined])
    rwa [hmined] at hends
  split
  · have hends := h.settle_of_unmatched (P := P) (n := m) (.stateMismatch receipt.blockNumber)
      hid.symm hrow' (fun _ => by simp [Statement.applies, hmined])
    rwa [hmined] at hends
  · have hends := h.settle_of_unmatched (P := P) (n := m) (.confirmed receipt.blockNumber)
      hid.symm hrow' (fun _ => by simp [Statement.applies, hmined])
    rwa [hmined] at hends

/-! ### A call of `#reconcile` -/

theorem Healthy.run_reconciliationDue (h : Healthy env row receipt contractState) :
    ∃ m, (reconciliationDue row).run (execEnv (execute P) env) (db, n) = (.ok true, db, m) := by
  unfold reconciliationDue
  rcases hnext : row.nextReconcileAt with - | next
  · exact ⟨n, rfl⟩
  · refine ⟨n + 1, ?_⟩
    dsimp only
    rw [run_bind_ok run_now]
    simp [h.due n next hnext]

/-- A call on a due row whose transaction is mined finalizes its receipt. -/
theorem Healthy.reconcile_run (h : Healthy env row receipt contractState)
    (hrow : db.row row.id = some row) (hlive : row.state.isTerminal = false)
    (hhash : row.transaction.hash = some receipt.transactionHash)
    (hconfirmed : config.confirmationTarget ≤ receipt.confirmations)
    {rowInput : RelayOperationRow} (hinput : rowInput.id = row.id) (allowBroadcast : Bool) :
    ∃ m, (reconcile P config rowInput allowBroadcast).run (execEnv (execute P) env) (db, n) =
      (finalizeReceipt config row receipt).run (execEnv (execute P) env) (db, m) := by
  obtain ⟨m, hdue⟩ := h.run_reconciliationDue (P := P) (n := n + 1)
  have hread : (call (.readTransactionReceipt receipt.transactionHash) :
      RelayProg (Option RelayTransactionReceipt)).attempt.run (execEnv (execute P) env) (db, m) =
      (.ok (.ok (some receipt)), db, m + 1) := by
    rw [run_attempt, run_call]
    simp only [execute, h.receipt]
  refine ⟨m + 1, ?_⟩
  rw [reconcile, hinput, run_bind_ok (h.run_refresh hrow)]
  simp only [hlive, Bool.false_eq_true, if_false, hhash]
  rw [run_bind_ok hdue]
  simp only [Bool.true_eq_false, if_false]
  rw [run_bind_ok hread]
  simp only [Nat.not_lt.mpr hconfirmed, if_false]

end env

theorem outcomeOf_isTerminal (row : RelayOperationRow) (receipt : RelayTransactionReceipt)
    (contractState : RelayContractState) :
    (outcomeOf row receipt contractState).isTerminal = true := by
  unfold outcomeOf
  split_ifs <;> rfl

/-! ### One request, stopped at each of its operations -/

def samplePlatform : RelayPlatform where
  keccak
    | .event _ => 7
    | .extensionSignature _ => 8
    | .authoritySignature _ => 9
  checksum := fun _ => 0
  verifyBytes := fun _ signature _ => signature = ascii "sig"
  keyFingerprint := fun _ => .ok 5
  fingerprintRequest := fun blobId _ _ => BitVec.ofNat 256 blobId
  sha256 := fun text => BitVec.ofNat 256 text.length
  scopeHash
    | .ip _ => 0
    | .publicKey _ => 1
    | .receipt _ => 2

def sampleConfiguration : RelayConfiguration where
  chainId := 31337
  confirmationPollIntervalMs := 1000
  confirmationTarget := 1
  confirmationTimeoutMs := 5000
  contractAddress := .hex 1 0
  dailyBudgetWei := 1000000
  maxAttemptsPerEvent := 3
  maxConfirmationPolls := 60
  minimumBalanceWei := 10
  publicKeyRequestsPerWindow := 20
  rateLimitWindowSeconds := 60
  receiptRequestsPerWindow := 10
  requestIpRequestsPerWindow := 60

def samplePage : Url := ⟨⟨true, ascii "a.example", none⟩, ascii "/", none⟩

def sampleCore : LifecycleEventCore where
  occurredAt := 0
  previousEventHash := ZERO_HASH
  receiptId := 1
  schemaVersion := CURRENT_SCHEMA_VERSION
  body := .attempted {
    capturedFields := []
    excludedFields := []
    formDescriptor := ⟨samplePage, .other, none, none, ascii "POST"⟩
    origin := ⟨samplePage.origin, samplePage, rfl⟩
    fileMetadataIncluded := false
    submissionAttempt := ⟨.other, ascii "POST", samplePage, .formSubmit⟩
    captured_nodup := List.nodup_nil
    excluded_nodup := List.nodup_nil
    consent := by simp
    disjoint := by simp }

def sampleRequest : RelayEventRequest where
  blobId := 4
  event := {
    authoritySignature := none
    chainAnchor := none
    core := sampleCore
    eventHash := 7
    extensionSignature := some ⟨ascii "key", 8, ascii "sig"⟩
    authority_stage := nofun }
  extensionPublicKey := ⟨ascii "key", ascii "value"⟩
  idempotencyKey := none

def sampleBlobs : List BlobBindingRow := [⟨1, 4, 1, ascii "key", true⟩]

/-- The environment at a time of the clock. -/
def sampleEnv (clock : Timestamp) (contractState : RelayContractState) (receipt : Option RelayTransactionReceipt) :
    RelayEnv := fun _ o =>
  let db : DbAnswer := ⟨.acknowledged, clock⟩
  match o with
  | .now => clock
  | .randomId => 6
  | .getChainId => .ok 31337
  | .getContractCode => .ok true
  | .getProtocolVersion => .ok 1
  | .getBalance => .ok 100000
  | .getPendingNonce => .ok 0
  | .getRelayerAddress => .ok 2
  | .getReceiptState .. => .ok contractState
  | .estimateAnchor _ => .ok ⟨100, 10, 1⟩
  | .prepareAnchor .. => .ok ⟨11, 0⟩
  | .broadcastTransaction _ => .ok 11
  | .waitForReceipt .. => .error (.chain true)
  | .readTransactionReceipt _ => .ok receipt
  | .prepareNewTransaction _ => (db, fun _ _ _ => .ok ⟨11, 0⟩)
  | .selectBlob _ => db
  | .selectByEventHash _ => db
  | .selectByIdempotencyKey _ => db
  | .selectById _ => db
  | .selectByStatusToken _ => db
  | .applyRateLimits _ => db
  | .acquireOperation _ => db
  | .countPoll _ => db
  | .update .. => db
  | .recordMinedCost .. => db
  | .markFinalWithoutTransaction _ => db
  | .markExternallyAnchored _ => db

def freshState : RelayContractState := ⟨0, 0, 0, false, 0⟩

/-- The database when the service stops after `k` operations of the request. -/
def sampleDb (k : Nat) : RelayDb :=
  ((relay samplePlatform sampleConfiguration (some sampleRequest) ⟨ascii "ip"⟩ >>=
    fun _ => pure ()).runFor
      (execEnv (execute samplePlatform) (sampleEnv 0 freshState none)) k
      (RelayDb.initial sampleBlobs, 0)).2.1

theorem sampleDb_reachable (k : Nat) :
    ReachableDb samplePlatform sampleConfiguration sampleBlobs (sampleDb k) :=
  Interleave.reachable_runFor ⟨[], .refl⟩ (.relay _ _) _ k 0

/-- The row the transaction of `sampleRequest` is prepared in. -/
def preparedSample : RelayOperationRow where
  id := 1
  binding := {
    publicStatusId := 6
    encryptedBlobId := 1
    eventHash := 7
    requestFingerprint := 4
    idempotencyKeyHash := none
    receiptId := 1
    stage := .attempted
    contractStage := 1
    previousEventHash := 0
    extensionKeyHash := 5
    extensionKeyId := ascii "key"
    authorityKeyHash := 0
    chainId := 31337
    contractAddress := 1
    budgetDate := 0
    confirmationTarget := 1
    createdAt := 0 }
  state := .submitting
  transaction := ⟨some 11, some 0, some 100, some 10, some 1⟩
  blockNumber := none
  reservedFeeWei := 1000
  chargedFeeWei := 0
  attemptCount := 1
  pollCount := 0
  lastError := none
  nextReconcileAt := some 5000
  submittedAt := none
  confirmedAt := none
  updatedAt := 0
  stateVersion := 3

/-- The same row once `SUBMITTED` is recorded. -/
def submittedSample : RelayOperationRow :=
  { preparedSample with
    state := .submitted, submittedAt := some 0, nextReconcileAt := some 1000, stateVersion := 4 }

def minedReceipt (reverted : Bool) : RelayTransactionReceipt := ⟨9, 1, true, reverted, 11⟩

def anchoredState : RelayContractState := ⟨1, 1, 5, true, 7⟩

/-- The environment of a reconciliation after the transaction is mined. -/
def minedEnv (reverted : Bool) : RelayEnv :=
  sampleEnv 10000 anchoredState (some (minedReceipt reverted))

theorem minedEnv_healthy {row : RelayOperationRow} {next : Timestamp}
    (hnext : row.nextReconcileAt = some next) (hdue : next ≤ 10000) (reverted : Bool) :
    Healthy (minedEnv reverted) row (minedReceipt reverted) anchoredState where
  due := by
    intro n t ht
    rw [hnext] at ht
    cases ht
    exact hdue
  receipt := fun _ => rfl
  contract := fun _ => rfl
  selects := fun _ _ => rfl
  updates := fun _ _ _ => rfl
  records := fun _ _ _ => rfl

/-! ### Main result -/

/-- **When a call of `#reconcile` finalizes a mined transaction**: in every
database the relay reaches, a due row with enough confirmations ends in the
terminal state its receipt and the registry lead to, without an exception,
exactly when it was not left `SUBMITTING`. -/
theorem reconcile_finalizes_iff {blobs : List BlobBindingRow}
    (hreach : ReachableDb P config blobs db) {row rowInput : RelayOperationRow}
    {receipt : RelayTransactionReceipt} {contractState : RelayContractState} {env : RelayEnv}
    (hrow : db.row row.id = some row) (hlive : row.state.isTerminal = false)
    (hhash : row.transaction.hash = some receipt.transactionHash)
    (hconfirmed : config.confirmationTarget ≤ receipt.confirmations)
    (hhealthy : Healthy env row receipt contractState) (hinput : rowInput.id = row.id)
    (allowBroadcast : Bool) :
    EndsIn row.id (outcomeOf row receipt contractState)
        ((reconcile P config rowInput allowBroadcast).run (execEnv (execute P) env) (db, n)) ↔
      row.state ≠ .submitting := by
  obtain ⟨m, hrun⟩ := hhealthy.reconcile_run (P := P) (n := n) hrow hlive hhash hconfirmed hinput
    allowBroadcast
  rw [hrun]
  constructor
  · intro hends hstate
    rcases hhealthy.finalizeReceipt_stuck (P := P) (n := m) config hrow hstate hhash with
      ⟨e, he⟩ | hstuck
    · obtain ⟨final, hfinal, -⟩ := hends
      rw [he] at hfinal
      cases hfinal
    · have hterminal := outcomeOf_isTerminal row receipt contractState
      rw [hends.unique hstuck] at hterminal
      cases hterminal
  · intro hstate
    obtain ⟨hvalidating, hready⟩ := (reachable_sound hreach).hash_state row (row_mem hrow)
      (by rw [hhash]; exact Option.some_ne_none _)
    refine hhealthy.finalizeReceipt_ends hrow ?_ hhash
    cases hs : row.state with
    | submitted => exact .inl rfl
    | failedRetryable => exact .inr rfl
    | validating => exact absurd hs hvalidating
    | ready => exact absurd hs hready
    | submitting => exact absurd hs hstate
    | confirmed => rw [hs] at hlive; cases hlive
    | reverted => rw [hs] at hlive; cases hlive
    | failedFinal => rw [hs] at hlive; cases hlive

theorem reconcile_finalizes_iff_submitted :
    EndsIn 1 .confirmed
        ((reconcile samplePlatform sampleConfiguration submittedSample false).run
          (execEnv (execute samplePlatform) (minedEnv false)) (sampleDb 22, 0)) ↔
      submittedSample.state ≠ .submitting := by
  have hrow : (sampleDb 22).row submittedSample.id = some submittedSample := by decide +kernel
  exact reconcile_finalizes_iff (sampleDb_reachable 22) hrow rfl rfl (by decide)
    (minedEnv_healthy rfl (by decide) false) rfl false

/-- The service stops between broadcasting and recording `SUBMITTED`: a
reverted transaction makes every reconciliation raise, a successful one
leaves the row `SUBMITTING`. -/
theorem crash_leaves_row_nonterminal :
    ReachableDb samplePlatform sampleConfiguration sampleBlobs (sampleDb 19) ∧
    (sampleDb 19).row 1 = some preparedSample ∧
    (∀ reverted, Healthy (minedEnv reverted) preparedSample (minedReceipt reverted)
      anchoredState) ∧
    ((reconcile samplePlatform sampleConfiguration preparedSample false).run
        (execEnv (execute samplePlatform) (minedEnv true)) (sampleDb 19, 0)).1 =
      .error (.guard "invalid relay operation transition from SUBMITTING to REVERTED") ∧
    EndsIn 1 .submitting ((reconcile samplePlatform sampleConfiguration preparedSample false).run
        (execEnv (execute samplePlatform) (minedEnv false)) (sampleDb 19, 0)) := by
  refine ⟨sampleDb_reachable 19, by decide +kernel, minedEnv_healthy rfl (by decide),
    by decide +kernel, ?_⟩
  exact ⟨{ preparedSample with
      reservedFeeWei := 0, chargedFeeWei := 1000, blockNumber := some 9,
      updatedAt := 10000, stateVersion := 4 }, by decide +kernel, by decide +kernel, rfl⟩

end SubmittedIt.Relay
