/-
SubmittedIt/RelayEffects.lean

What one operation of the relay does.

An operation leaves the tables alone (it may count a request), edits one row
under the trigger's guard (`Permitted`), with the budget or the nonce that
goes with the edit (`Change`), or inserts a fresh `READY` row: `Effect`.  This
is the only place where the operations are taken apart; invariants of the
database are proved by cases on `Effect`.

Main results: `execute_effect`, and `execute_returns` (a row that an operation
returns is stored after it).
-/
import SubmittedIt.RelayService

namespace SubmittedIt.Relay

open Transaction ReceiptCore ContractClient

/-! ### The trigger's guard -/

/-- What `enforce_relay_operation_update` demands of an update. -/
structure Permitted (old new : RelayOperationRow) : Prop where
  binding : new.binding = old.binding
  transaction : old.transaction.hash ≠ none → new.transaction = old.transaction
  terminal : old.state.isTerminal = true → new = old
  transition : new.state = old.state ∨ allowedTransition old.state new.state = true

/-- The row as the trigger stores it, its two bookkeeping columns apart. -/
structure StoredAs (new stored : RelayOperationRow) : Prop where
  row : stored = { new with updatedAt := stored.updatedAt, stateVersion := stored.stateVersion }

theorem enforce_eq_ok {old new stored : RelayOperationRow} {t : Timestamp}
    (h : enforceRelayOperationUpdate old new t = .ok stored) :
    Permitted old new ∧ StoredAs new stored := by
  unfold enforceRelayOperationUpdate at h
  split at h
  · cases h
  rename_i hbinding
  split at h
  · cases h
  rename_i htransaction
  split at h
  · cases h
  rename_i hterminal
  split at h
  · cases h
  rename_i htransition
  refine ⟨⟨by simpa using hbinding, ?_, ?_, ?_⟩, ?_⟩
  · intro hhash
    by_contra hne
    exact htransaction ⟨hhash, hne⟩
  · intro hterm
    by_contra hne
    exact hterminal ⟨hterm, hne⟩
  · by_contra hnot
    rw [not_or] at hnot
    exact htransition ⟨hnot.1, by simpa using hnot.2⟩
  · have hstored := Except.ok.inj h
    constructor
    rw [← hstored]
    split <;> rfl

theorem enforce_of_permitted {old new : RelayOperationRow} (h : Permitted old new)
    (t : Timestamp) : ∃ stored, enforceRelayOperationUpdate old new t = .ok stored := by
  unfold enforceRelayOperationUpdate
  have h₁ : ¬ (new.binding ≠ old.binding) := by simp [h.binding]
  have h₂ : ¬ (old.transaction.hash ≠ none ∧ new.transaction ≠ old.transaction) :=
    fun hnot => hnot.2 (h.transaction hnot.1)
  have h₃ : ¬ (old.state.isTerminal = true ∧ new ≠ old) :=
    fun hnot => hnot.2 (h.terminal hnot.1)
  have h₄ : ¬ (new.state ≠ old.state ∧ allowedTransition old.state new.state = false) := by
    rintro ⟨hne, hno⟩
    rcases h.transition with heq | hyes
    · exact hne heq
    · exact Bool.false_ne_true (hno.symm.trans hyes)
  rw [if_neg h₁, if_neg h₂, if_neg h₃, if_neg h₄]
  exact ⟨_, rfl⟩

theorem enforce_of_not_permitted {old new : RelayOperationRow} (hbinding : new.binding = old.binding)
    (htransaction : new.transaction = old.transaction) (hlive : old.state.isTerminal = false)
    (hne : new.state ≠ old.state) (hno : allowedTransition old.state new.state = false)
    (t : Timestamp) :
    enforceRelayOperationUpdate old new t =
      .error (.guard ("invalid relay operation transition from " ++ stateText old.state ++ " to " ++
        stateText new.state)) := by
  unfold enforceRelayOperationUpdate
  rw [if_neg (by simp [hbinding]), if_neg (by simp [htransaction]), if_neg (by simp [hlive]),
    if_pos ⟨hne, hno⟩]

namespace StoredAs

variable {new stored : RelayOperationRow} (h : StoredAs new stored)
include h

theorem id : stored.id = new.id := by rw [h.row]
theorem state : stored.state = new.state := by rw [h.row]
theorem transaction : stored.transaction = new.transaction := by rw [h.row]
theorem binding : stored.binding = new.binding := by rw [h.row]

end StoredAs

/-! ### The rows that operations write -/

/-- The row `#recordMinedCost` writes. -/
def minedRow (row : RelayOperationRow) (blockNumber : Nat) : RelayOperationRow :=
  { row with
    reservedFeeWei := 0, chargedFeeWei := row.reservedFeeWei, blockNumber := some blockNumber }

/-- The row `failWithoutTransaction` writes. -/
def failedRow (row : RelayOperationRow) (failure : RelayFailure) : RelayOperationRow :=
  { row with
    state := .failedFinal, reservedFeeWei := 0, lastError := some failure,
    nextReconcileAt := none }

/-- The row `#prepareNewTransaction` writes. -/
def preparedRow (row : RelayOperationRow) (prepared : PreparedRelayTransaction)
    (nextReconcileAt : Timestamp) : RelayOperationRow :=
  { row with
    state := .submitting
    transaction := { row.transaction with
      hash := some prepared.hash, nonce := some prepared.nonce }
    attemptCount := row.attemptCount + 1
    lastError := none
    nextReconcileAt := some nextReconcileAt }

/-! ### Changes of a row -/

/-- The `UPDATE` an operation issues, and the row it is for. -/
inductive RelayOp.Issues : RelayOp → Nat → Statement → Prop
  | update (id : Nat) (stmt : Statement) : Issues (.update id stmt) id stmt
  | countPoll (statusToken : OpaqueId) (id : Nat) : Issues (.countPoll statusToken) id .countPoll

/-- The nonce a preparation asks the gateway for. -/
def Preparation.nonce (p : Preparation) (db : RelayDb) : Nat :=
  max ((db.nonces p.nonceKey).getD p.pendingNonce) p.pendingNonce

/-- What the gateway is asked when an operation prepares a transaction. -/
abbrev PrepareAnchor :=
  AnchorRequest → RelayFeeQuote → Nat → Except RelayError PreparedRelayTransaction

/-- The row an operation writes in the place of `old`, and the database with
what else it changes. -/
inductive Change (checksum : Address → BitVec 40) (db : RelayDb) (old : RelayOperationRow) :
    (o : RelayOp) → o.Answer → RelayOperationRow → RelayDb → Prop
  | statement {o : RelayOp} {answer : o.Answer} (stmt : Statement) :
      o.Issues old.id stmt → stmt.applies old = true →
      Change checksum db old o answer (stmt.set old) db
  | mined (blockNumber : Nat) (answer : DbAnswer) : old.chargedFeeWei = 0 →
      Change checksum db old (.recordMinedCost old.id blockNumber) answer
        (minedRow old blockNumber)
        (db.updateBudget (RelayDb.budgetKey old) (RelayDb.charge old.reservedFeeWei))
  | exhausted (failure : RelayFailure) (answer : DbAnswer) : old.transaction.hash = none →
      Change checksum db old (.markFinalWithoutTransaction old.id) answer (failedRow old failure)
        (db.updateBudget (RelayDb.budgetKey old) (RelayDb.release old.reservedFeeWei))
  | anchored (failure : RelayFailure) (answer : DbAnswer) : old.transaction.hash = none →
      old.state.isTerminal = false →
      Change checksum db old (.markExternallyAnchored old.id) answer (failedRow old failure)
        (db.updateBudget (RelayDb.budgetKey old) (RelayDb.release old.reservedFeeWei))
  | prepared (p : Preparation) (answer : DbAnswer) (prepareAnchor : PrepareAnchor)
      (request : AnchorRequest) (fee : RelayFeeQuote) (prepared : PreparedRelayTransaction) :
      p.id = old.id → old.transaction.hash = none → old.state.isTerminal = false →
      requestFromRow checksum old = .ok request → feeFromRow old = some fee →
      prepareAnchor request fee (p.nonce db) = .ok prepared →
      (∀ r ∈ db.operations, r.transaction.hash ≠ some prepared.hash) →
      Change checksum db old (.prepareNewTransaction p) (answer, prepareAnchor)
        (preparedRow old prepared p.nextReconcileAt)
        { db with nonces := Function.update db.nonces p.nonceKey (some (p.nonce db + 1)) }

section change

variable {checksum : Address → BitVec 40} {db base : RelayDb} {old new : RelayOperationRow}
  {o : RelayOp} {answer : o.Answer}

theorem Change.id (h : Change checksum db old o answer new base) : new.id = old.id := by
  cases h with
  | statement stmt _ _ => cases stmt <;> rfl
  | mined _ _ _ => rfl
  | exhausted _ _ _ => rfl
  | anchored _ _ _ _ => rfl
  | prepared _ _ _ _ _ _ _ _ _ _ _ _ _ => rfl

theorem Change.operations (h : Change checksum db old o answer new base) :
    base.operations = db.operations := by
  cases h <;> rfl

theorem Change.history (h : Change checksum db old o answer new base) :
    base.history = db.history := by
  cases h <;> rfl

end change

/-! ### Insertions -/

/-- The row an acquisition inserts, before its second statement. -/
def Acquisition.validating (a : Acquisition) (id blobRow : Nat) (t : Timestamp) :
    RelayOperationRow :=
  { a.ready id blobRow t with state := .validating, updatedAt := a.now, stateVersion := 1 }

/-- The budget an acquisition reserves from. -/
def Acquisition.budgetKey (a : Acquisition) : BudgetKey := ⟨budgetDate a.now, a.chainId, a.address⟩

/-- A budget row, which an acquisition creates where there is none. -/
def RelayDb.budget (db : RelayDb) (key : BudgetKey) : RelayBudget := (db.budgets key).getD ⟨0, 0, 0⟩

/-- The database after an acquisition has inserted its row. -/
def RelayDb.insertOperation (db : RelayDb) (a : Acquisition) (blobRow : Nat) (t : Timestamp) :
    RelayDb :=
  { db with
    operations := db.operations ++ [a.ready db.nextId blobRow t]
    history := recordRelayOperationHistory
      (recordRelayOperationHistory db.history none (a.validating db.nextId blobRow t))
      (some .validating) (a.ready db.nextId blobRow t)
    budgets := Function.update db.budgets a.budgetKey (some { db.budget a.budgetKey with
      reservedFeeWei := (db.budget a.budgetKey).reservedFeeWei + a.reservation }) }

/-- What an acquisition has checked when it inserts a row. -/
structure Insertable (db : RelayDb) (a : Acquisition) : Prop where
  event : ∀ r ∈ db.operations, r.binding.eventHash ≠ a.event.eventHash
  key : ∀ r ∈ db.operations, ∀ k, a.idempotencyKeyHash = some k →
    r.binding.idempotencyKeyHash ≠ some k
  token : ∀ r ∈ db.operations, r.binding.publicStatusId ≠ a.publicStatusId
  budget : (db.budget a.budgetKey).reservedFeeWei + (db.budget a.budgetKey).spentFeeWei
    + a.reservation ≤ a.dailyBudgetWei
  checks : a.checks = true

/-- What an operation does to the database for an answer of the
environment. -/
inductive Effect (checksum : Address → BitVec 40) (db : RelayDb) :
    (o : RelayOp) → o.Answer → RelayDb → Prop
  | same {o : RelayOp} {answer : o.Answer} (counters : CounterKey → Nat) :
      Effect checksum db o answer { db with counters }
  | edit {o : RelayOp} {answer : o.Answer} (old new stored : RelayOperationRow) (base : RelayDb) :
      db.row old.id = some old → Change checksum db old o answer new base → Permitted old new →
      StoredAs new stored → Effect checksum db o answer (base.replace old stored)
  | insert (a : Acquisition) (answer : DbAnswer) (blobRow : Nat) (t : Timestamp) :
      Insertable db a → Effect checksum db (.acquireOperation a) answer
        (db.insertOperation a blobRow t)

/-! ### The statements, one by one -/

section statements

variable {P : RelayPlatform} {db : RelayDb} {t : Timestamp}

theorem row_id {id : Nat} {row : RelayOperationRow} (h : db.row id = some row) : row.id = id := by
  simpa using List.find?_some h

theorem row_mem {id : Nat} {row : RelayOperationRow} (h : db.row id = some row) :
    row ∈ db.operations := List.mem_of_find?_eq_some h

theorem Effect.refl {o : RelayOp} {answer : o.Answer} : Effect P.checksum db o answer db :=
  .same db.counters

theorem find?_replace {rows : List RelayOperationRow} {old stored : RelayOperationRow}
    (hmem : rows.find? (fun r => r.id = old.id) = some old) (hid : stored.id = old.id) :
    (rows.map fun r => if r.id = old.id then stored else r).find? (fun r => r.id = old.id)
      = some stored := by
  induction rows with
  | nil => cases hmem
  | cons r rows ih =>
    by_cases h : r.id = old.id
    · simp [h, hid]
    · rw [List.find?_cons_of_neg (by simpa using h)] at hmem
      simpa [h] using ih hmem

theorem row_replace {old stored : RelayOperationRow} (hrow : db.row old.id = some old)
    (hid : stored.id = old.id) : (db.replace old stored).row old.id = some stored :=
  find?_replace hrow hid

theorem row_replace_of_ne {old stored : RelayOperationRow} {id : Nat}
    (hid : stored.id = old.id) (hne : id ≠ old.id) : (db.replace old stored).row id = db.row id := by
  show (db.operations.map fun r => if r.id = old.id then stored else r).find? _ = _
  unfold RelayDb.row
  induction db.operations with
  | nil => rfl
  | cons r rows ih =>
    rw [List.map_cons, List.find?_cons, List.find?_cons, ih]
    by_cases h : r.id = old.id
    · rw [if_pos h, hid, h, decide_eq_false (Ne.symm hne)]
    · rw [if_neg h]

/-- A write stores the row under the guard, or leaves the database. -/
theorem write_cases {old new : RelayOperationRow} {base : RelayDb}
    (hrow : base.row old.id = some old) (hid : new.id = old.id) :
    (∃ stored, base.write old new t = (.ok stored, base.replace old stored) ∧ Permitted old new ∧
        StoredAs new stored ∧ (base.replace old stored).row old.id = some stored) ∨
      ∃ e, base.write old new t = (.error e, base) := by
  unfold RelayDb.write
  rcases h : enforceRelayOperationUpdate old new t with e | stored
  · exact .inr ⟨e, rfl⟩
  · obtain ⟨hpermitted, hstored⟩ := enforce_eq_ok h
    exact .inl ⟨stored, rfl, hpermitted, hstored, row_replace hrow (hstored.id.trans hid)⟩

/-- A written change is an effect, and its row is stored; or it was
rejected. -/
theorem write_effect {o : RelayOp} {answer : o.Answer} {old new : RelayOperationRow}
    {base : RelayDb} (hrow : db.row old.id = some old)
    (hchange : Change P.checksum db old o answer new base) :
    (∃ stored, base.write old new t = (.ok stored, base.replace old stored) ∧
        Effect P.checksum db o answer (base.replace old stored) ∧
        (base.replace old stored).row old.id = some stored) ∨
      ∃ e, base.write old new t = (.error e, base) := by
  have hbase : base.row old.id = some old := by
    rw [RelayDb.row, hchange.operations]
    exact hrow
  rcases write_cases (t := t) hbase hchange.id with
    ⟨stored, hwrite, hpermitted, hstored, hrow'⟩ | ⟨e, hwrite⟩
  · exact .inl ⟨stored, hwrite, .edit old new stored base hrow hchange hpermitted hstored, hrow'⟩
  · exact .inr ⟨e, hwrite⟩

theorem update_effect {o : RelayOp} {answer : o.Answer} {id : Nat} {stmt : Statement}
    (hissues : o.Issues id stmt) : Effect P.checksum db o answer (db.update id stmt t).2 := by
  unfold RelayDb.update
  rcases hrow : db.row id with - | old
  · exact .refl
  dsimp only
  split
  · rename_i happlies
    have hid := row_id hrow
    subst hid
    rcases write_effect (t := t) hrow (.statement stmt hissues happlies) with
      ⟨stored, hwrite, heffect, -⟩ | ⟨e, hwrite⟩
    · rw [hwrite]
      exact heffect
    · rw [hwrite]
      exact .refl
  · exact .refl

theorem countPoll_effect (statusToken : OpaqueId) (answer : DbAnswer) :
    Effect P.checksum db (.countPoll statusToken) answer (db.countPoll statusToken t).2 := by
  unfold RelayDb.countPoll
  split
  · exact .refl
  · exact update_effect (.countPoll statusToken _)

theorem recordMinedCost_effect (id blockNumber : Nat) (answer : DbAnswer) :
    Effect P.checksum db (.recordMinedCost id blockNumber) answer
      (db.recordMinedCost id blockNumber t).2 := by
  unfold RelayDb.recordMinedCost
  rcases hrow : db.row id with - | locked
  · exact .refl
  dsimp only
  split
  · exact .refl
  · rename_i huncharged
    have hid := row_id hrow
    subst hid
    rcases write_effect (P := P) (t := t) hrow
      (.mined blockNumber answer (Nat.eq_zero_of_not_pos huncharged)) with
      ⟨stored, hwrite, heffect, -⟩ | ⟨e, hwrite⟩
    · rw [minedRow] at hwrite
      rw [hwrite]
      exact heffect
    · rw [minedRow] at hwrite
      rw [hwrite]
      exact .refl

/-- What the two ways to fail an operation without a transaction have in
common. -/
theorem failWithoutTransaction_effect {o : RelayOp} {answer : o.Answer}
    {locked : RelayOperationRow} {failure : RelayFailure} (hrow : db.row locked.id = some locked)
    (hchange : Change P.checksum db locked o answer (failedRow locked failure)
      (db.updateBudget (RelayDb.budgetKey locked) (RelayDb.release locked.reservedFeeWei))) :
    Effect P.checksum db o answer (db.failWithoutTransaction locked failure t).2 := by
  unfold RelayDb.failWithoutTransaction
  dsimp only
  rcases write_effect (t := t) hrow hchange with ⟨stored, hwrite, heffect, -⟩ | ⟨e, hwrite⟩
  · rw [failedRow] at hwrite
    rw [hwrite]
    exact heffect
  · rw [failedRow] at hwrite
    rw [hwrite]
    exact .refl

theorem markFinalWithoutTransaction_effect (id : Nat) (answer : DbAnswer) :
    Effect P.checksum db (.markFinalWithoutTransaction id) answer
      (db.markFinalWithoutTransaction id t).2 := by
  unfold RelayDb.markFinalWithoutTransaction
  rcases hrow : db.row id with - | locked
  · exact .refl
  have hid := row_id hrow
  subst hid
  dsimp only
  split
  · exact .refl
  · rename_i hhash
    exact failWithoutTransaction_effect hrow (.exhausted _ answer (by simpa using hhash))

theorem markExternallyAnchored_effect (id : Nat) (answer : DbAnswer) :
    Effect P.checksum db (.markExternallyAnchored id) answer
      (db.markExternallyAnchored id t).2 := by
  unfold RelayDb.markExternallyAnchored
  rcases hrow : db.row id with - | locked
  · exact .refl
  have hid := row_id hrow
  subst hid
  dsimp only
  split
  · exact .refl
  · rename_i hopen
    rw [not_or] at hopen
    exact failWithoutTransaction_effect hrow
      (.anchored _ answer (by simpa using hopen.1) (by simpa using hopen.2))

theorem applyRateLimits_eq (db : RelayDb) (limits : List RelayDb.RateLimit) :
    ∃ counters, (db.applyRateLimits limits).2 = { db with counters } := by
  induction limits generalizing db with
  | nil => exact ⟨db.counters, rfl⟩
  | cons limit limits ih =>
    obtain ⟨counters, h⟩ := ih { db with
      counters := Function.update db.counters limit.key (db.counters limit.key + 1) }
    exact ⟨counters, h⟩

theorem acquireOperation_effect (a : Acquisition) (answer : DbAnswer) :
    Effect P.checksum db (.acquireOperation a) answer (db.acquireOperation a t).2 := by
  unfold RelayDb.acquireOperation
  dsimp only
  split
  · exact .refl
  rename_i hkeyed
  split
  · split <;> exact .refl
  rename_i hevent
  split
  · exact .refl
  split
  · exact .refl
  rename_i hbudget
  split
  · exact .refl
  split
  · exact .refl
  rename_i blob _ hchecks
  rw [not_or] at hchecks
  have hfresh : ∀ r ∈ db.operations, r.binding.eventHash ≠ a.event.eventHash := by
    intro r hr
    simpa using List.find?_eq_none.mp hevent r hr
  have hinsertable : Insertable db a := by
    refine ⟨hfresh, ?_, ?_, Nat.le_of_not_gt hbudget, by simpa using hchecks.1⟩
    · -- the row a key is bound to would be the row of the event
      intro r hr k hk hrk
      rcases hfind : db.keyedRow a.idempotencyKeyHash with - | keyed
      · rw [hk] at hfind
        have hno := List.find?_eq_none.mp hfind r hr
        exact hno (by simpa using hrk)
      · rw [hfind] at hkeyed
        rw [hk] at hfind
        have hmem : keyed ∈ db.operations := List.mem_of_find?_eq_some hfind
        apply hfresh keyed hmem
        by_contra hne
        exact hkeyed (by simp [hne])
    · intro r hr htoken
      exact hchecks.2 (List.any_eq_true.mpr ⟨r, hr, by simpa using htoken⟩)
  exact .insert a answer blob.id t hinsertable

theorem prepareNewTransaction_effect (p : Preparation) (answer : DbAnswer)
    (prepareAnchor : PrepareAnchor) :
    Effect P.checksum db (.prepareNewTransaction p) (answer, prepareAnchor)
      (db.prepareNewTransaction P.checksum p prepareAnchor t).2 := by
  unfold RelayDb.prepareNewTransaction
  rcases hrow : db.row p.id with - | locked
  · exact .refl
  have hid := row_id hrow
  dsimp only
  split
  · exact .refl
  rename_i hopen
  rw [not_or] at hopen
  split
  · rename_i request fee hrequest hfee
    split
    · exact .refl
    rename_i prepared hprepared
    split
    · exact .refl
    rename_i hunique
    have hchange : Change P.checksum db locked (.prepareNewTransaction p) (answer, prepareAnchor)
        _ _ :=
      .prepared p answer prepareAnchor request fee prepared hid.symm (by simpa using hopen.1)
        (by simpa using hopen.2) hrequest hfee hprepared fun r hr hhash =>
          hunique (List.any_eq_true.mpr ⟨r, hr, by simpa using hhash⟩)
    rw [← hid] at hrow
    rcases write_effect (t := t) hrow hchange with ⟨stored, hwrite, heffect, -⟩ | ⟨e, hwrite⟩
    · rw [preparedRow, Preparation.nonce] at hwrite
      rw [hwrite]
      exact heffect
    · rw [preparedRow, Preparation.nonce] at hwrite
      rw [hwrite]
      exact .refl
  · exact .refl

theorem apply_effect {α : Type} {o : RelayOp} {oAnswer : o.Answer} (answer : DbAnswer)
    {statement : RelayDb → Timestamp → Except RelayError α × RelayDb}
    (h : ∀ t, Effect P.checksum db o oAnswer (statement db t).2) :
    Effect P.checksum db o oAnswer (answer.apply statement db).2 := by
  unfold DbAnswer.apply
  rcases answer.outcome with - | - | -
  · exact h answer.now
  · exact .refl
  · exact h answer.now

end statements

/-- **What an operation of the relay does to its database.** -/
theorem execute_effect (P : RelayPlatform) (o : RelayOp) (answer : o.Answer) (db : RelayDb) :
    Effect P.checksum db o answer (execute P o answer db).2 := by
  cases o with
  | now => exact .refl
  | randomId => exact .refl
  | getChainId => exact .refl
  | getContractCode => exact .refl
  | getProtocolVersion => exact .refl
  | getBalance => exact .refl
  | getPendingNonce => exact .refl
  | getRelayerAddress => exact .refl
  | getReceiptState => exact .refl
  | estimateAnchor => exact .refl
  | prepareAnchor => exact .refl
  | broadcastTransaction => exact .refl
  | waitForReceipt => exact .refl
  | readTransactionReceipt => exact .refl
  | selectBlob => exact apply_effect answer fun _ => .refl
  | selectByEventHash => exact apply_effect answer fun _ => .refl
  | selectByIdempotencyKey => exact apply_effect answer fun _ => .refl
  | selectById => exact apply_effect answer fun _ => .refl
  | selectByStatusToken => exact apply_effect answer fun _ => .refl
  | applyRateLimits limits =>
    refine apply_effect answer fun _ => ?_
    obtain ⟨counters, h⟩ := applyRateLimits_eq db limits
    show Effect P.checksum db _ _ (db.applyRateLimits limits).2
    rw [h]
    exact .same counters
  | acquireOperation a => exact apply_effect answer fun _ => acquireOperation_effect a answer
  | countPoll statusToken =>
    exact apply_effect answer fun _ => countPoll_effect statusToken answer
  | update id stmt => exact apply_effect answer fun _ => update_effect (.update id stmt)
  | prepareNewTransaction p =>
    obtain ⟨dbAnswer, prepareAnchor⟩ := answer
    exact apply_effect dbAnswer fun _ => prepareNewTransaction_effect p dbAnswer prepareAnchor
  | recordMinedCost id blockNumber =>
    exact apply_effect answer fun _ => recordMinedCost_effect id blockNumber answer
  | markFinalWithoutTransaction id =>
    exact apply_effect answer fun _ => markFinalWithoutTransaction_effect id answer
  | markExternallyAnchored id =>
    exact apply_effect answer fun _ => markExternallyAnchored_effect id answer

/-! ### The row of an identifier -/

section row

variable {checksum : Address → BitVec 40} {db db' : RelayDb} {o : RelayOp} {answer : o.Answer}
  {id : Nat} {row : RelayOperationRow}

theorem Change.row_eq {base : RelayDb} {old new : RelayOperationRow}
    (h : Change checksum db old o answer new base) (id : Nat) : base.row id = db.row id := by
  unfold RelayDb.row
  rw [h.operations]

theorem row_insertOperation {a : Acquisition} {blobRow : Nat} {t : Timestamp}
    (hrow : db.row id = some row) : (db.insertOperation a blobRow t).row id = some row := by
  show (db.operations ++ _).find? _ = _
  rw [List.find?_append]
  unfold RelayDb.row at hrow
  rw [hrow]
  rfl

/-- **A stored row stays, or is changed by the operation.** -/
theorem Effect.row_cases (heffect : Effect checksum db o answer db') (hrow : db.row id = some row) :
    db'.row id = some row ∨ ∃ new stored base, Change checksum db row o answer new base ∧
      Permitted row new ∧ StoredAs new stored ∧ db' = base.replace row stored ∧
      db'.row id = some stored := by
  cases heffect with
  | same counters => exact .inl hrow
  | edit old new stored base hold hchange hpermitted hstored =>
    have hid : stored.id = old.id := hstored.id.trans hchange.id
    by_cases hsame : id = old.id
    · subst hsame
      obtain rfl := Option.some.inj (hold.symm.trans hrow)
      exact .inr ⟨new, stored, base, hchange, hpermitted, hstored, rfl,
        row_replace ((hchange.row_eq _).trans hold) hid⟩
    · left
      rw [row_replace_of_ne hid hsame, hchange.row_eq]
      exact hrow
  | insert a answer blobRow t _ => exact .inl (row_insertOperation hrow)

/-- A row of a new identifier was inserted. -/
theorem Effect.row_new (heffect : Effect checksum db o answer db') (hnone : db.row id = none)
    (hrow : db'.row id = some row) : ∃ (a : Acquisition) (blobRow : Nat) (t : Timestamp),
      row = a.ready db.nextId blobRow t := by
  cases heffect with
  | same counters => cases hnone.symm.trans hrow
  | edit old new stored base hold hchange hpermitted hstored =>
    have hid : stored.id = old.id := hstored.id.trans hchange.id
    have hne : id ≠ old.id := by
      rintro rfl
      cases hnone.symm.trans hold
    rw [row_replace_of_ne hid hne, hchange.row_eq, hnone] at hrow
    cases hrow
  | insert a answer blobRow t _ =>
    refine ⟨a, blobRow, t, ?_⟩
    have hmem : row ∈ db.operations ++ [a.ready db.nextId blobRow t] := row_mem hrow
    rcases List.mem_append.mp hmem with hmem | hready
    · have hno := List.find?_eq_none.mp hnone row hmem
      rw [row_id hrow] at hno
      simp at hno
    · exact List.mem_singleton.mp hready

end row

/-! ### Returned rows -/

/-- The row in an operation's result. -/
def RelayOp.returned : (o : RelayOp) → o.Result → Option RelayOperationRow
  | .selectByEventHash _, row => row
  | .selectByIdempotencyKey _, row => row
  | .selectById _, row => row
  | .selectByStatusToken _, row => row
  | .acquireOperation _, acquired => some acquired.2
  | .countPoll _, row => row
  | .update _ _, row => row
  | .prepareNewTransaction _, prepared => prepared.1
  | .recordMinedCost _ _, row => row
  | .markFinalWithoutTransaction _, row => row
  | .markExternallyAnchored _, row => row
  | _, _ => none

/-- The identifier of the row an operation is for. -/
def RelayOp.names : RelayOp → Option Nat
  | .selectById id => some id
  | .update id _ => some id
  | .prepareNewTransaction p => some p.id
  | .recordMinedCost id _ => some id
  | .markFinalWithoutTransaction id => some id
  | .markExternallyAnchored id => some id
  | _ => none

section returned

variable {P : RelayPlatform} {db base : RelayDb} {t : Timestamp}

/-- The row a statement returns is stored under the identifier the statement
names. -/
def Stores (id : Nat) (outcome : Except RelayError (Option RelayOperationRow) × RelayDb) : Prop :=
  ∀ row, outcome.1 = .ok (some row) → outcome.2.row id = some row

/-- What an `UPDATE` returns: the row it stored in the place of one that it
applies to. -/
theorem update_returns {id : Nat} {stmt : Statement} {row : RelayOperationRow}
    (h : (db.update id stmt t).1 = .ok (some row)) : ∃ old, db.row id = some old ∧
      stmt.applies old = true ∧ StoredAs (stmt.set old) row ∧
      (db.update id stmt t).2.row id = some row := by
  unfold RelayDb.update at h ⊢
  rcases hrow : db.row id with - | old
  · simp [hrow] at h
  have hid := row_id hrow
  subst hid
  simp only [hrow] at h ⊢
  split at h
  · rename_i happlies
    rw [if_pos happlies]
    rcases write_cases (t := t) hrow (show (stmt.set old).id = old.id by cases stmt <;> rfl) with
      ⟨stored, hwrite, -, hstored, hrow'⟩ | ⟨e, hwrite⟩
    · rw [hwrite] at h ⊢
      cases h
      exact ⟨old, rfl, happlies, hstored, hrow'⟩
    · rw [hwrite] at h
      cases h
  · cases h

theorem stores_update (id : Nat) (stmt : Statement) : Stores id (db.update id stmt t) := by
  intro row h
  obtain ⟨old, -, -, -, hrow⟩ := update_returns h
  exact hrow

theorem stores_recordMinedCost (id blockNumber : Nat) :
    Stores id (db.recordMinedCost id blockNumber t) := by
  intro row h
  unfold RelayDb.recordMinedCost at h ⊢
  rcases hrow : db.row id with - | locked
  · simp [hrow] at h
  have hid := row_id hrow
  subst hid
  simp only [hrow] at h ⊢
  split at h
  · rename_i hcharged
    rw [if_pos hcharged]
    cases h
    exact hrow
  · rename_i hcharged
    rw [if_neg hcharged]
    have hbase : (db.updateBudget (RelayDb.budgetKey locked)
        (RelayDb.charge locked.reservedFeeWei)).row locked.id = some locked := hrow
    rcases write_cases (t := t) hbase (show (minedRow locked blockNumber).id = locked.id from rfl)
      with ⟨stored, hwrite, -, -, hrow'⟩ | ⟨e, hwrite⟩
    · rw [minedRow] at hwrite
      rw [hwrite] at h ⊢
      cases h
      exact hrow'
    · rw [minedRow] at hwrite
      rw [hwrite] at h
      cases h

theorem stores_failWithoutTransaction {locked : RelayOperationRow} {failure : RelayFailure}
    (hrow : db.row locked.id = some locked) :
    Stores locked.id (db.failWithoutTransaction locked failure t) := by
  intro row h
  unfold RelayDb.failWithoutTransaction at h ⊢
  dsimp only at h ⊢
  have hbase : (db.updateBudget (RelayDb.budgetKey locked)
      (RelayDb.release locked.reservedFeeWei)).row locked.id = some locked := hrow
  rcases write_cases (t := t) hbase (show (failedRow locked failure).id = locked.id from rfl)
    with ⟨stored, hwrite, -, -, hrow'⟩ | ⟨e, hwrite⟩
  · rw [failedRow] at hwrite
    rw [hwrite] at h ⊢
    cases h
    exact hrow'
  · rw [failedRow] at hwrite
    rw [hwrite] at h
    cases h

theorem stores_markFinalWithoutTransaction (id : Nat) :
    Stores id (db.markFinalWithoutTransaction id t) := by
  intro row h
  unfold RelayDb.markFinalWithoutTransaction at h ⊢
  rcases hrow : db.row id with - | locked
  · simp [hrow] at h
  have hid := row_id hrow
  subst hid
  simp only [hrow] at h ⊢
  split at h
  · rename_i hhash
    rw [if_pos hhash]
    cases h
    exact hrow
  · rename_i hhash
    rw [if_neg hhash]
    exact stores_failWithoutTransaction hrow row h

theorem stores_markExternallyAnchored (id : Nat) :
    Stores id (db.markExternallyAnchored id t) := by
  intro row h
  unfold RelayDb.markExternallyAnchored at h ⊢
  rcases hrow : db.row id with - | locked
  · simp [hrow] at h
  have hid := row_id hrow
  subst hid
  simp only [hrow] at h ⊢
  split at h
  · rename_i hclosed
    rw [if_pos hclosed]
    cases h
    exact hrow
  · rename_i hclosed
    rw [if_neg hclosed]
    exact stores_failWithoutTransaction hrow row h

/-- What a preparation returns: the stored row, and the transaction that was
recorded on it. -/
theorem prepareNewTransaction_returns {checksum : Address → BitVec 40} {p : Preparation}
    {prepareAnchor : PrepareAnchor} {returned : Option RelayOperationRow}
    {transaction : Option PreparedRelayTransaction}
    (h : (db.prepareNewTransaction checksum p prepareAnchor t).1 = .ok (returned, transaction)) :
    (∀ row, returned = some row →
      (db.prepareNewTransaction checksum p prepareAnchor t).2.row p.id = some row) ∧
      ∀ prepared, transaction = some prepared → ∃ row old request fee, returned = some row ∧
        db.row p.id = some old ∧ requestFromRow checksum old = .ok request ∧ feeFromRow old = some fee ∧
        prepareAnchor request fee (p.nonce db) = .ok prepared ∧ Permitted old row ∧
        StoredAs (preparedRow old prepared p.nextReconcileAt) row := by
  unfold RelayDb.prepareNewTransaction at h ⊢
  rcases hrow : db.row p.id with - | locked
  · simp only [hrow, Except.ok.injEq, Prod.mk.injEq] at h
    obtain ⟨rfl, rfl⟩ := h
    exact ⟨(fun row hno => nomatch hno), (fun prepared hno => nomatch hno)⟩
  have hid := row_id hrow
  simp only [hrow] at h ⊢
  split at h
  · rename_i hclosed
    rw [if_pos hclosed]
    cases h
    exact ⟨fun row hsome => hrow.trans hsome, fun prepared hno => nomatch hno⟩
  rename_i hopen
  rw [if_neg hopen]
  split at h
  · rename_i request fee hrequest hfee
    split at h
    · cases h
    rename_i prepared hprepared
    split at h
    · cases h
    rename_i hunique
    rw [if_neg hunique]
    have hbase : RelayDb.row { db with
        nonces := Function.update db.nonces p.nonceKey (some (p.nonce db + 1)) } locked.id
        = some locked := by
      rw [hid]
      exact hrow
    rcases write_cases (t := t) hbase
      (show (preparedRow locked prepared p.nextReconcileAt).id = locked.id from rfl) with
      ⟨stored, hwrite, hpermitted, hstored, hrow'⟩ | ⟨e, hwrite⟩
    · have hstored' := hstored
      have hguard : Permitted locked stored := by
        refine ⟨hstored.binding.trans hpermitted.binding, ?_, ?_, ?_⟩
        · intro hhash
          exact hstored.transaction.trans (hpermitted.transaction hhash)
        · intro hterminal
          exact absurd hterminal (not_or.mp hopen).2
        · rw [hstored.state]
          exact hpermitted.transition
      rw [preparedRow, Preparation.nonce] at hwrite
      rw [hwrite] at h ⊢
      cases h
      refine ⟨?_, ?_⟩
      · intro row hsome
        cases hsome
        rw [← hid]
        exact hrow'
      · intro prepared' heq
        cases heq
        exact ⟨stored, locked, request, fee, rfl, rfl, hrequest, hfee, hprepared, hguard, hstored'⟩
    · rw [preparedRow, Preparation.nonce] at hwrite
      rw [hwrite] at h
      cases h
  · cases h

theorem countPoll_returns {statusToken : OpaqueId} {row : RelayOperationRow}
    (h : (db.countPoll statusToken t).1 = .ok (some row)) :
    row ∈ (db.countPoll statusToken t).2.operations := by
  unfold RelayDb.countPoll at h ⊢
  split at h
  · cases h
  · exact row_mem (stores_update _ _ row h)

/-- What an acquisition returns: a stored row of the event.  A row stored under
the key is one of the event. -/
theorem acquireOperation_returns {a : Acquisition} {created : Bool} {row : RelayOperationRow}
    (h : (db.acquireOperation a t).1 = .ok (created, row)) :
    row ∈ (db.acquireOperation a t).2.operations ∧ row.binding.eventHash = a.event.eventHash ∧
      row.binding.requestFingerprint = a.event.requestFingerprint ∧
      (row ∈ db.operations ∨ row.binding.idempotencyKeyHash = a.idempotencyKeyHash) ∧
      ∀ keyed, db.keyedRow a.idempotencyKeyHash = some keyed →
        keyed.binding.eventHash = a.event.eventHash := by
  unfold RelayDb.acquireOperation at h ⊢
  dsimp only at h ⊢
  split at h
  · cases h
  rename_i hkeyed
  rw [if_neg hkeyed]
  have hbound : ∀ keyed, db.keyedRow a.idempotencyKeyHash = some keyed →
      keyed.binding.eventHash = a.event.eventHash := by
    intro keyed hfind
    rw [hfind] at hkeyed
    by_contra hne
    exact hkeyed (by simp [hne])
  split at h
  · rename_i existing hexisting
    split at h
    · cases h
    · rename_i hfingerprint
      rw [if_neg hfingerprint]
      cases h
      have hmem : row ∈ db.operations := List.mem_of_find?_eq_some hexisting
      have hevent : row.binding.eventHash = a.event.eventHash := by
        simpa using List.find?_some hexisting
      exact ⟨hmem, hevent, by simpa using hfingerprint, .inl hmem, hbound⟩
  · split at h
    · cases h
    rename_i hstage
    rw [if_neg hstage]
    split at h
    · cases h
    rename_i hbudget
    rw [if_neg hbudget]
    split at h
    · cases h
    split at h
    · cases h
    rename_i hchecks
    rw [if_neg hchecks]
    cases h
    exact ⟨by simp, rfl, rfl, .inr rfl, hbound⟩

/-- An operation that returned was acknowledged. -/
theorem apply_eq_ok {α : Type} {answer : DbAnswer}
    {statement : RelayDb → Timestamp → Except RelayError α × RelayDb} {r : α}
    (h : (answer.apply statement db).1 = .ok r) :
    answer.apply statement db = statement db answer.now := by
  unfold DbAnswer.apply at h ⊢
  rcases houtcome : answer.outcome with - | - | -
  · rfl
  · rw [houtcome] at h
    cases h
  · rw [houtcome] at h
    cases h

/-- A row that a statement reads is stored. -/
theorem find?_reads {answer : DbAnswer} {q : RelayOperationRow → Bool} {row : RelayOperationRow}
    (h : (answer.apply (reads fun db => db.operations.find? q) db).1 = .ok (some row)) :
    row ∈ (answer.apply (reads fun db => db.operations.find? q) db).2.operations ∧
      q row = true := by
  have hok := apply_eq_ok h
  rw [hok] at h ⊢
  have hfind : db.operations.find? q = some row := Except.ok.inj h
  exact ⟨List.mem_of_find?_eq_some hfind, List.find?_some hfind⟩

theorem apply_stores {answer : DbAnswer} {id : Nat}
    {statement : RelayDb → Timestamp → Except RelayError (Option RelayOperationRow) × RelayDb}
    (hstores : ∀ t, Stores id (statement db t)) {row : RelayOperationRow}
    (h : (answer.apply statement db).1 = .ok (some row)) :
    row ∈ (answer.apply statement db).2.operations ∧ row.id = id := by
  have hok := apply_eq_ok h
  rw [hok] at h ⊢
  have hrow := hstores answer.now row h
  exact ⟨row_mem hrow, row_id hrow⟩

end returned

/-- **A row that an operation returns is stored after it**, under the
identifier that the operation names. -/
theorem execute_returns {P : RelayPlatform} {o : RelayOp} {answer : o.Answer} {db : RelayDb}
    {r : o.Result} {row : RelayOperationRow} (h : (execute P o answer db).1 = .ok r)
    (hreturned : o.returned r = some row) :
    row ∈ (execute P o answer db).2.operations ∧ ∀ id, o.names = some id → row.id = id := by
  cases o with
  | selectByEventHash eventHash =>
    cases hreturned
    exact ⟨(find?_reads h).1, fun id hid => by cases hid⟩
  | selectByIdempotencyKey keyHash =>
    cases hreturned
    exact ⟨(find?_reads h).1, fun id hid => by cases hid⟩
  | selectById id =>
    cases hreturned
    obtain ⟨hmem, hid⟩ := find?_reads h
    exact ⟨hmem, fun id' hid' => by cases hid'; simpa using hid⟩
  | selectByStatusToken statusToken =>
    cases hreturned
    exact ⟨(find?_reads h).1, fun id hid => by cases hid⟩
  | acquireOperation a =>
    obtain ⟨created, acquired⟩ := r
    have hsame : acquired = row := Option.some.inj hreturned
    rw [hsame] at h
    have hok := apply_eq_ok h
    refine ⟨?_, fun id hid => by cases hid⟩
    show row ∈ (answer.apply (fun db now => db.acquireOperation a now) db).2.operations
    rw [hok]
    have h' : (db.acquireOperation a answer.now).1 = .ok (created, row) := by
      rw [← show _ = db.acquireOperation a answer.now from hok]
      exact h
    exact (acquireOperation_returns h').1
  | countPoll statusToken =>
    cases hreturned
    have hok := apply_eq_ok h
    refine ⟨?_, fun id hid => by cases hid⟩
    show row ∈ (answer.apply (fun db now => db.countPoll statusToken now) db).2.operations
    rw [hok]
    have h' : (db.countPoll statusToken answer.now).1 = .ok (some row) := by
      rw [← show _ = db.countPoll statusToken answer.now from hok]
      exact h
    exact countPoll_returns h'
  | update id stmt =>
    cases hreturned
    obtain ⟨hmem, hid⟩ := apply_stores (fun t => stores_update id stmt) h
    exact ⟨hmem, fun id' hid' => by cases hid'; exact hid⟩
  | prepareNewTransaction p =>
    obtain ⟨returned, transaction⟩ := r
    cases hreturned
    obtain ⟨dbAnswer, prepareAnchor⟩ := answer
    have hok := apply_eq_ok h
    have h' : (db.prepareNewTransaction P.checksum p prepareAnchor dbAnswer.now).1
        = .ok (some row, transaction) := by
      rw [← show _ = db.prepareNewTransaction P.checksum p prepareAnchor dbAnswer.now from hok]
      exact h
    have hrow := (prepareNewTransaction_returns h').1 row rfl
    refine ⟨?_, fun id hid => by cases hid; exact row_id hrow⟩
    show row ∈ (dbAnswer.apply (fun db now =>
      db.prepareNewTransaction P.checksum p prepareAnchor now) db).2.operations
    rw [hok]
    exact row_mem hrow
  | recordMinedCost id blockNumber =>
    cases hreturned
    obtain ⟨hmem, hid⟩ := apply_stores (fun t => stores_recordMinedCost id blockNumber) h
    exact ⟨hmem, fun id' hid' => by cases hid'; exact hid⟩
  | markFinalWithoutTransaction id =>
    cases hreturned
    obtain ⟨hmem, hid⟩ := apply_stores (fun t => stores_markFinalWithoutTransaction id) h
    exact ⟨hmem, fun id' hid' => by cases hid'; exact hid⟩
  | markExternallyAnchored id =>
    cases hreturned
    obtain ⟨hmem, hid⟩ := apply_stores (fun t => stores_markExternallyAnchored id) h
    exact ⟨hmem, fun id' hid' => by cases hid'; exact hid⟩
  | _ => cases hreturned

end SubmittedIt.Relay
