/-
SubmittedIt/RelayBroadcasts.lean

The transactions that are broadcast.

A broadcast follows, in the same request, an update that counted an attempt
on the row and was told so.  So over any interleaving the broadcasts of a row,
with the requests that are about to broadcast for it, are at most its counted
attempts: `Counted` is that inequality, and `counted_perform` what one
operation does to it.

The transaction broadcast is the one recorded on the row, and a recorded
transaction stays; rows of one event are one row.

Main result: `broadcasts_once`.
-/
import SubmittedIt.RelayNonces

namespace SubmittedIt.Relay

open Transaction ReceiptCore ContractClient

/-! ### Counting -/

/-- The row that the transaction of a broadcast was recorded on, before it. -/
def broadcastRow : RelayEvent → Option RelayOperationRow
  | ⟨.broadcastTransaction transaction, _, before⟩ =>
    before.operations.find? fun r => r.transaction.hash = some transaction.hash
  | _ => none

/-- The event is a broadcast for the row. -/
def broadcastsFor (id : Nat) (e : RelayEvent) : Bool := (broadcastRow e).any fun r => r.id = id

/-- The last thing in a log is the update that precedes a broadcast for the
row. -/
def pendingFor (P : RelayPlatform) (id : Nat) (log : List RelayEvent) : Bool :=
  (log.getLast?.bind (authorized P)).any fun r => r.id = id

/-- The attempts counted on a row. -/
def attemptsOn (id : Nat) (db : RelayDb) : Nat := (db.row id).elim 0 (·.attemptCount)

/-- The row's broadcasts, done or pending, are among its attempts. -/
def Counted (P : RelayPlatform) (id : Nat) (c : RelayRun) : Prop :=
  c.trace.countP (broadcastsFor id) + c.threads.countP (fun t => pendingFor P id t.log)
    ≤ attemptsOn id c.state

section steps

variable {P : RelayPlatform} {config : RelayConfiguration}
  {Allowed : (o : RelayOp) → o.Answer → Prop} {db db' : RelayDb} {row : RelayOperationRow}
  {o : RelayOp} {answer : o.Answer} {log : List RelayEvent} {id : Nat}

/-- No operation takes an attempt back. -/
theorem Effect.attempts (heffect : Effect P.checksum db o answer db') :
    attemptsOn id db ≤ attemptsOn id db' := by
  unfold attemptsOn
  rcases hfind : db.row id with - | old
  · exact Nat.zero_le _
  rcases heffect.row_cases hfind with hsame | ⟨new, stored, base, hchange, -, hstored, -, hrow'⟩
  · rw [hsame]
  rw [hrow']
  show old.attemptCount ≤ stored.attemptCount
  have hattempts : stored.attemptCount = new.attemptCount := by rw [hstored.row]
  rw [hattempts]
  cases hchange with
  | statement stmt _ _ =>
    cases stmt with
    | rebroadcast next maxAttempts => exact Nat.le_succ _
    | _ => exact le_rfl
  | mined _ _ _ => exact le_rfl
  | exhausted _ _ _ => exact le_rfl
  | anchored _ _ _ _ => exact le_rfl
  | prepared _ _ _ _ _ _ _ _ _ _ _ _ _ => exact Nat.le_succ _

/-- **The update before a broadcast counts an attempt.** -/
theorem authorized_attempts (h : authorized P ⟨o, answer, db⟩ = some row) :
    attemptsOn row.id (execute P o answer db).2 = attemptsOn row.id db + 1 := by
  -- a row stored in the place of another one, with an attempt more
  have hcounts : ∀ {id : Nat} {old : RelayOperationRow} {db' : RelayDb}, db.row id = some old →
      db'.row id = some row → row.attemptCount = old.attemptCount + 1 →
      attemptsOn row.id db' = attemptsOn row.id db + 1 := by
    intro id old db' hold hrow' hattempts
    unfold attemptsOn
    rw [row_id hrow', hold, hrow']
    exact hattempts
  unfold authorized at h
  split at h
  · rename_i p answer before heq
    cases heq
    obtain ⟨dbAnswer, prepareAnchor⟩ := answer
    split at h
    · rename_i returned prepared hr
      have hok := apply_eq_ok hr
      have hr' := hr
      rw [execute, hok] at hr'
      obtain ⟨hstores, hprepares⟩ := prepareNewTransaction_returns hr'
      obtain ⟨stored, old, -, -, hsome, hold, -, -, -, -, hstored⟩ := hprepares prepared rfl
      have hrow : returned = some row := h
      cases hsome.symm.trans hrow
      show attemptsOn row.id (dbAnswer.apply _ db).2 = _
      rw [hok]
      refine hcounts hold (hstores row hrow) ?_
      rw [hstored.row]
      rfl
    · cases h
  · rename_i id next maxAttempts answer before heq
    cases heq
    split at h
    · rename_i returned hr
      have hok := apply_eq_ok hr
      have hr' := hr
      rw [execute, hok] at hr'
      have hrow : returned = some row := h
      rw [hrow] at hr'
      obtain ⟨old, hold, -, hstored, hrow'⟩ := update_returns hr'
      show attemptsOn row.id (answer.apply _ db).2 = _
      rw [hok]
      refine hcounts hold hrow' ?_
      rw [hstored.row]
      rfl
    · cases h
  · cases h

/-- A permitted broadcast is for the row its request has authorized last. -/
theorem broadcast_pending {transaction : PreparedRelayTransaction}
    {answer : (RelayOp.broadcastTransaction transaction).Answer}
    (hpermits : Permits P config Allowed log (.broadcastTransaction transaction) answer db)
    (hInv : Consistent config db) :
    ∃ row ∈ db.operations, RecordedOn P Allowed row transaction ∧
      broadcastRow ⟨.broadcastTransaction transaction, answer, db⟩ = some row ∧
      pendingFor P row.id log = true := by
  obtain ⟨row, hrow, hrecorded, earlier, e, authorizedRow, hlog, hauthorized, hid⟩ := hpermits
  refine ⟨row, hrow, hrecorded, ?_, ?_⟩
  · show db.operations.find? _ = _
    rcases hfind : db.operations.find? _ with - | found
    · have hno := List.find?_eq_none.mp hfind row hrow
      exact absurd hrecorded.hash (by simpa using hno)
    · have hhash : found.transaction.hash = some transaction.hash := by
        simpa using List.find?_some hfind
      have hmem : found ∈ db.operations := List.mem_of_find?_eq_some hfind
      rw [eq_of_id hInv.ids hmem hrow (hInv.hashes found hmem row hrow _ hhash hrecorded.hash)]
  · unfold pendingFor
    rw [hlog, List.getLast?_concat, Option.bind_some, hauthorized]
    simpa using hid

/-- **What one operation adds to the broadcasts and takes from the pending
ones**, against the attempts. -/
theorem counted_perform (hpermits : Permits P config Allowed log o answer db)
    (hInv : Consistent config db) :
    (broadcastsFor id ⟨o, answer, db⟩).toNat + (pendingFor P id (log ++ [⟨o, answer, db⟩])).toNat
        + attemptsOn id db
      ≤ attemptsOn id (execute P o answer db).2 + (pendingFor P id log).toNat := by
  have hmono : attemptsOn id db ≤ attemptsOn id (execute P o answer db).2 :=
    (execute_effect P o answer db).attempts
  have hlast : pendingFor P id (log ++ [⟨o, answer, db⟩])
      = (authorized P ⟨o, answer, db⟩).any fun r => r.id = id := by
    unfold pendingFor
    rw [List.getLast?_concat, Option.bind_some]
  rw [hlast]
  rcases hbroadcast : broadcastRow ⟨o, answer, db⟩ with - | sent
  · -- an operation that broadcasts nothing counts an attempt if it authorizes
    have hno : broadcastsFor id ⟨o, answer, db⟩ = false := by
      unfold broadcastsFor
      rw [hbroadcast]
      rfl
    rw [hno]
    rcases hauthorized : authorized P ⟨o, answer, db⟩ with - | row
    · simp only [Option.any_none, Bool.toNat_false]
      omega
    · by_cases hid : row.id = id
      · have hcounted := authorized_attempts hauthorized
        rw [hid] at hcounted
        simp only [Option.any_some, hid, decide_true, Bool.toNat_true, Bool.toNat_false]
        omega
      · simp only [Option.any_some, hid, decide_false, Bool.toNat_false]
        omega
  · -- a broadcast takes the place of the pending one
    cases o with
    | broadcastTransaction transaction =>
      obtain ⟨row, -, -, hrow, hpending⟩ := broadcast_pending hpermits hInv
      cases hbroadcast.symm.trans hrow
      have hnone : authorized P ⟨.broadcastTransaction transaction, answer, db⟩ = none := rfl
      rw [hnone]
      unfold broadcastsFor
      rw [hbroadcast]
      by_cases hid : sent.id = id
      · rw [← hid, hpending]
        simp only [Option.any_some, Option.any_none, decide_true, Bool.toNat_true,
          Bool.toNat_false, ← hid] at hmono ⊢
        omega
      · simp only [Option.any_some, Option.any_none, hid, decide_false, Bool.toNat_false]
        omega
    | _ => cases hbroadcast

/-- The nonce of a recorded transaction is the row's. -/
theorem RecordedOn.nonce {prepared : PreparedRelayTransaction}
    (h : RecordedOn P signsNonce row prepared) : row.transaction.nonce = some prepared.nonce := by
  obtain ⟨request, fee, nonce, -, -, hsigns, hnonce⟩ := h.signed
  have hechoed : prepared.nonce = nonce := by
    rcases hsigns with hprepared | ⟨p, answer, prepareAnchor, hallowed, hprepared⟩
    · exact hprepared prepared rfl
    · exact hallowed request fee nonce prepared hprepared
  rcases hnonce with hrow | hrow
  · rw [hrow, hechoed]
  · exact hrow

end steps

/-! ### Every run -/

section runs

variable {P : RelayPlatform} {config : RelayConfiguration} {blobs : List BlobBindingRow}
  {c : RelayRun}

/-- Every broadcast is of a transaction recorded on a row that was stored
before it, and what is known of that row holds still. -/
def Recorded (P : RelayPlatform) (config : RelayConfiguration) (c : RelayRun) : Prop :=
  ∀ e ∈ c.trace, ∀ transaction, e.op = .broadcastTransaction transaction →
    ∃ row, broadcastRow e = some row ∧ RecordedOn P signsNonce row transaction ∧
      Seen config c.state row

theorem reaches_counted {Allowed : (o : RelayOp) → o.Answer → Prop} (id : Nat)
    (h : RelayReaches P config Allowed blobs c) : Counted P id c := by
  refine System.Reaches.induction (M := Counted P id) (relay_safe P config Allowed)
    (initial_consistent config blobs) (Nat.zero_le _) ?_ ?_ h
  · intro s trace ts call ih
    unfold Counted at ih ⊢
    rw [List.countP_cons_of_neg (by simp [pendingFor])]
    exact ih
  · intro s trace before after call log o k answer hInv _ hpermits ih
    have hstep : (broadcastsFor id ⟨o, answer, s⟩).toNat
        + (pendingFor P id (log ++ [⟨o, answer, s⟩])).toNat + attemptsOn id s
          ≤ attemptsOn id (execute P o answer s).2 + (pendingFor P id log).toNat :=
      counted_perform hpermits hInv
    show Counted P id ⟨(execute P o answer s).2, _, _⟩
    unfold Counted at ih ⊢
    simp only [List.countP_append, List.countP_cons, List.countP_nil] at ih ⊢
    rw [Bool.toNat, Bool.toNat, Bool.toNat] at hstep
    simp only [Bool.cond_eq_ite] at hstep
    omega

theorem reaches_recorded (h : RelayReaches P config signsNonce blobs c) : Recorded P config c := by
  refine System.Reaches.induction (M := Recorded P config) (relay_safe P config signsNonce)
    (initial_consistent config blobs) ?_ ?_ ?_ h
  · exact fun e he => absurd he List.not_mem_nil
  · exact fun s trace ts call ih => ih
  · intro s trace before after call log o k answer hInv _ hpermits ih e he transaction hop
    have heffect := execute_effect P o answer s
    rcases List.mem_append.mp he with he | he
    · obtain ⟨row, hrow, hrecorded, hseen⟩ := ih e he transaction hop
      exact ⟨row, hrow, hrecorded, heffect.seen hInv.ids hseen⟩
    · rw [List.mem_singleton.mp he] at hop ⊢
      have hop' : o = .broadcastTransaction transaction := hop
      subst hop'
      obtain ⟨row, hmem, hrecorded, hrow, -⟩ := broadcast_pending hpermits hInv
      exact ⟨row, hrow, hrecorded, hInv.seen hmem⟩

/-- Of each event at most one transaction is ever broadcast, it was recorded
on the event's row before and is recorded on it still, and it is broadcast no
more often than there are attempts. -/
structure BroadcastsOnce (P : RelayPlatform) (config : RelayConfiguration) (c : RelayRun) :
    Prop where
  persisted : ∀ e ∈ c.trace, ∀ transaction, e.op = .broadcastTransaction transaction →
    ∃ row, broadcastRow e = some row ∧ RecordedOn P signsNonce row transaction ∧
      row.transaction.nonce = some transaction.nonce ∧
      ∃ current ∈ c.state.operations, current.id = row.id ∧ current.binding = row.binding ∧
        current.transaction = row.transaction
  same : ∀ e ∈ c.trace, ∀ e' ∈ c.trace, ∀ row row', broadcastRow e = some row →
    broadcastRow e' = some row' → row.binding.eventHash = row'.binding.eventHash →
    e.op = e'.op ∧ row.transaction = row'.transaction
  attempts : ∀ eventHash, c.trace.countP (fun e => (broadcastRow e).any fun r =>
    r.binding.eventHash = eventHash) ≤ config.maxAttemptsPerEvent

theorem broadcastRow_eq_some {e : RelayEvent} {row : RelayOperationRow}
    (h : broadcastRow e = some row) :
    ∃ transaction, e.op = .broadcastTransaction transaction ∧
      row.transaction.hash = some transaction.hash := by
  unfold broadcastRow at h
  split at h
  · rename_i transaction answer before
    exact ⟨transaction, rfl, by simpa using List.find?_some h⟩
  · cases h

/-- **Broadcasts happen once per event and attempt** in every run of the relay
in which the gateway signs with the nonces it is given. -/
theorem broadcasts_once (h : RelayReaches P config signsNonce blobs c) :
    BroadcastsOnce P config c := by
  have hInv := (h.guarded (relay_safe P config signsNonce) (initial_consistent config blobs)).inv
  have hrecorded := reaches_recorded h
  have hcurrent : ∀ e ∈ c.trace, ∀ row, broadcastRow e = some row → ∃ transaction,
      e.op = .broadcastTransaction transaction ∧ RecordedOn P signsNonce row transaction ∧
        ∃ current ∈ c.state.operations, current.id = row.id ∧ current.binding = row.binding ∧
          current.transaction = row.transaction := by
    intro e he row hrow
    obtain ⟨transaction, hop, -⟩ := broadcastRow_eq_some hrow
    obtain ⟨row', hrow', hon, hseen⟩ := hrecorded e he transaction hop
    cases hrow.symm.trans hrow'
    obtain ⟨current, hmem, hid, hbinding, htransaction⟩ := hseen.stored
    exact ⟨transaction, hop, hon, current, hmem, hid, hbinding, htransaction hon.hash_ne_none⟩
  -- rows of one event are one row, whenever they were stored
  have hrow : ∀ e ∈ c.trace, ∀ e' ∈ c.trace, ∀ row row', broadcastRow e = some row →
      broadcastRow e' = some row' → row.binding.eventHash = row'.binding.eventHash →
      row.id = row'.id ∧ row.transaction = row'.transaction := by
    intro e he e' he' row row' hrow hrow' hevent
    obtain ⟨-, -, -, current, hmem, hid, hbinding, htransaction⟩ := hcurrent e he row hrow
    obtain ⟨-, -, -, current', hmem', hid', hbinding', htransaction'⟩ := hcurrent e' he' row' hrow'
    have hsame : current = current' := by
      apply eq_of_id hInv.ids hmem hmem'
      apply hInv.events current hmem current' hmem' _ rfl
      show some current'.binding.eventHash = some current.binding.eventHash
      rw [hbinding, hbinding', hevent]
    rw [← hid, ← hid', ← htransaction, ← htransaction', hsame]
    exact ⟨rfl, rfl⟩
  constructor
  · intro e he transaction hop
    obtain ⟨row, hrow, hon, -⟩ := hrecorded e he transaction hop
    obtain ⟨-, -, -, hcurrent⟩ := hcurrent e he row hrow
    exact ⟨row, hrow, hon, hon.nonce, hcurrent⟩
  · intro e he e' he' row row' hfirst hsecond hevent
    obtain ⟨-, htransaction⟩ := hrow e he e' he' row row' hfirst hsecond hevent
    obtain ⟨⟨hash, nonce⟩, hop, hon, -⟩ := hcurrent e he row hfirst
    obtain ⟨⟨hash', nonce'⟩, hop', hon', -⟩ := hcurrent e' he' row' hsecond
    have hhash : some hash = some hash' := by
      rw [← hon.hash, ← hon'.hash, htransaction]
    have hnonce : some nonce = some nonce' := by
      rw [← hon.nonce, ← hon'.nonce, htransaction]
    cases hhash
    cases hnonce
    exact ⟨hop.trans hop'.symm, htransaction⟩
  · intro eventHash
    -- with one broadcast of the event given, the others are of its row
    by_cases hany : ∃ e ∈ c.trace, ∃ row, broadcastRow e = some row ∧
        row.binding.eventHash = eventHash
    · obtain ⟨e, he, row, hfirst, hevent⟩ := hany
      have hle : c.trace.countP (fun e => (broadcastRow e).any fun r =>
          r.binding.eventHash = eventHash) ≤ c.trace.countP (broadcastsFor row.id) := by
        apply List.countP_mono_left
        intro e' he' hbroadcasts
        obtain ⟨row', hsecond, hevent'⟩ := Option.any_eq_true _ _ |>.mp hbroadcasts
        have hevent' : row'.binding.eventHash = eventHash := by simpa using hevent'
        have hid := (hrow e he e' he' row row' hfirst hsecond (hevent.trans hevent'.symm)).1
        unfold broadcastsFor
        rw [hsecond]
        simp [hid]
      have hcounted := reaches_counted row.id h
      obtain ⟨-, -, -, current, hmem, hid, -⟩ := hcurrent e he row hfirst
      have hattempts : attemptsOn row.id c.state ≤ config.maxAttemptsPerEvent := by
        unfold attemptsOn
        rw [← hid, row_of_mem hInv.ids hmem]
        exact (hInv.rows current hmem).attempts
      unfold Counted at hcounted
      omega
    · have hzero : c.trace.countP (fun e => (broadcastRow e).any fun r =>
          r.binding.eventHash = eventHash) = 0 := by
        apply List.countP_eq_zero.mpr
        intro e he hbroadcasts
        obtain ⟨row, hrow, hevent⟩ := Option.any_eq_true _ _ |>.mp hbroadcasts
        exact hany ⟨e, he, row, hrow, by simpa using hevent⟩
      rw [hzero]
      exact Nat.zero_le _

end runs

/-- An event is relayed, and relayed again once it is due. -/
def rebroadcastRun : RelayRun :=
  let S := relaySystem keysPlatform sampleConfiguration signsNonce
  S.serve (signingEnv 10000) (.relay (some sampleRequest) ⟨ascii "ip"⟩) 40
    (S.serve (signingEnv 0) (.relay (some sampleRequest) ⟨ascii "ip"⟩) 40
      ⟨RelayDb.initial keysBlobs, [], []⟩)

theorem rebroadcastRun_reaches :
    RelayReaches keysPlatform sampleConfiguration signsNonce keysBlobs rebroadcastRun :=
  .serve (signingEnv_signsNonce 10000) _ 40 (.serve (signingEnv_signsNonce 0) _ 40 .refl)

theorem broadcasts_once_rebroadcastRun :
    BroadcastsOnce keysPlatform sampleConfiguration rebroadcastRun ∧
      rebroadcastRun.trace.countP (broadcastsFor 1) = 2 :=
  ⟨broadcasts_once rebroadcastRun_reaches, by decide +kernel⟩

end SubmittedIt.Relay
