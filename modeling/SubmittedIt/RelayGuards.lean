/-
SubmittedIt/RelayGuards.lean

The programs of the service keep to what is permitted.

`Keeps` is `Guards` for the relay, and `OnOk` a postcondition on returning
without an exception.  Most operations are permitted always; programs made of
these alone need no argument (`Only`).  The others are followed from the read
that their precondition rests on.

Main result: `relay_safe`, with what a call of `relay` says of the row whose
view it returns (`Answered`).
-/
import SubmittedIt.RelayRuns

namespace SubmittedIt.Relay

open Transaction ReceiptCore ContractClient Prog

variable (P : RelayPlatform) (config : RelayConfiguration)
  (Allowed : (o : RelayOp) → o.Answer → Prop)

/-- The program performs permitted operations only, and ends as `Q` says. -/
abbrev Keeps {α : Type} (p : RelayProg α)
    (Q : Except RelayError α → List RelayEvent → RelayDb → Prop) (log : List RelayEvent)
    (db : RelayDb) : Prop :=
  p.Guards (relaySystem P config Allowed) (Consistent config) (Permits P config Allowed) Q log db

/-- What requests may do to the database. -/
abbrev Evolves (db db' : RelayDb) : Prop :=
  Later (relaySystem P config Allowed) (Consistent config) (Permits P config Allowed) db db'

/-- A postcondition on returning without an exception. -/
def OnOk {α : Type} (F : α → List RelayEvent → RelayDb → Prop) :
    Except RelayError α → List RelayEvent → RelayDb → Prop
  | .ok v, log, db => F v log db
  | .error _, _, _ => True

/-- An operation that is always permitted. -/
def Harmless (o : RelayOp) : Prop := ∀ log answer db, Permits P config Allowed log o answer db

variable {P config Allowed} {α β : Type} {p : RelayProg α} {f : α → RelayProg β}
  {F : α → List RelayEvent → RelayDb → Prop} {G : β → List RelayEvent → RelayDb → Prop}
  {log : List RelayEvent} {db : RelayDb} {row : RelayOperationRow}

/-! ### Rules -/

theorem Seen.later {db' : RelayDb} (hseen : Seen config db row)
    (h : Evolves P config Allowed db db') : Seen config db' row :=
  Later.stable (F := fun db => Seen config db row)
    (fun _ o answer s hInv _ _ hs => (execute_effect P o answer s).seen hInv.ids hs) h hseen

theorem keeps_pure {a : α} (h : ∀ s, Evolves P config Allowed db s → Consistent config s → F a log s) :
    Keeps P config Allowed (pure a) (OnOk F) log db := h

theorem keeps_throw {e : RelayError} :
    Keeps P config Allowed (Prog.throw e : RelayProg α) (OnOk F) log db := fun _ _ _ => trivial

theorem keeps_ofExcept {r : Except RelayError α}
    (h : ∀ a, r = .ok a → ∀ s, Evolves P config Allowed db s → Consistent config s → F a log s) :
    Keeps P config Allowed (Prog.ofExcept r) (OnOk F) log db := by
  rcases r with e | a
  · exact keeps_throw
  · exact h a rfl

theorem keeps_bind (h : Keeps P config Allowed p
    (OnOk fun a log s => Keeps P config Allowed (f a) (OnOk G) log s) log db) :
    Keeps P config Allowed (p >>= f) (OnOk G) log db := by
  apply guards_bind
  refine h.imp ?_
  rintro (e | a) log s - hr
  · trivial
  · exact hr

theorem keeps_attempt (h : Keeps P config Allowed p (OnOk F) log db) :
    Keeps P config Allowed p.attempt
      (OnOk fun r log s => ∀ a, r = .ok a → F a log s) log db := by
  apply guards_attempt
  refine h.imp ?_
  rintro (e | a) log s - hr
  · exact (fun a ha => nomatch ha)
  · intro a' ha
    cases ha
    exact hr

theorem keeps_framed (h : Keeps P config Allowed p (OnOk F) log db) :
    Keeps P config Allowed p
      (OnOk fun a log' s => log <+: log' ∧ Evolves P config Allowed db s ∧ F a log' s) log db := by
  refine h.framed.imp ?_
  rintro (e | a) log' s - ⟨hextends, hlater, hr⟩
  · trivial
  · exact ⟨hextends, hlater, hr⟩

theorem keeps_imp {F' : α → List RelayEvent → RelayDb → Prop}
    (h : Keeps P config Allowed p (OnOk F) log db)
    (hF : ∀ a log s, Consistent config s → F a log s → F' a log s) :
    Keeps P config Allowed p (OnOk F') log db := by
  refine h.imp ?_
  rintro (e | a) log s hInv hr
  · trivial
  · exact hF a log s hInv hr

/-- One operation, and what follows it. -/
theorem keeps_call_bind {o : RelayOp} {f : o.Result → RelayProg β}
    (h : ∀ before, Evolves P config Allowed db before → Consistent config before →
      ∀ answer : o.Answer, Allowed o answer → Permits P config Allowed log o answer before ∧
        ∀ v, (execute P o answer before).1 = .ok v →
          Consistent config (execute P o answer before).2 →
          Evolves P config Allowed db (execute P o answer before).2 →
          Keeps P config Allowed (f v) (OnOk G) (log ++ [⟨o, answer, before⟩])
            (execute P o answer before).2) :
    Keeps P config Allowed (call o >>= f) (OnOk G) log db := by
  intro before hbefore hInv answer hallowed
  obtain ⟨hpermits, hf⟩ := h before hbefore hInv answer hallowed
  have hInv' : Consistent config (execute P o answer before).2 :=
    (execute_effect P o answer before).consistent hpermits hInv
  have hlater : Evolves P config Allowed db (execute P o answer before).2 :=
    hbefore.tail (.perform log o answer before hInv hallowed hpermits)
  refine ⟨hpermits, ?_⟩
  show Prog.Guards _ _ _ (Prog.ret (execute P o answer before).1 >>= f) _ _ _
  rcases hr : (execute P o answer before).1 with e | v
  · exact fun _ _ _ => trivial
  · exact hf v hr hInv' hlater

/-- One operation. -/
theorem keeps_call {o : RelayOp} {F : o.Result → List RelayEvent → RelayDb → Prop}
    (h : ∀ before, Evolves P config Allowed db before → Consistent config before →
      ∀ answer : o.Answer, Allowed o answer → Permits P config Allowed log o answer before ∧
        ∀ v, (execute P o answer before).1 = .ok v →
          Consistent config (execute P o answer before).2 →
          ∀ s, Evolves P config Allowed (execute P o answer before).2 s → Consistent config s →
            F v (log ++ [⟨o, answer, before⟩]) s) :
    Keeps P config Allowed (call o) (OnOk F) log db := by
  intro before hbefore hInv answer hallowed
  obtain ⟨hpermits, hF⟩ := h before hbefore hInv answer hallowed
  have hInv' : Consistent config (execute P o answer before).2 :=
    (execute_effect P o answer before).consistent hpermits hInv
  refine ⟨hpermits, fun s hs hInvs => ?_⟩
  show OnOk F (execute P o answer before).1 _ _
  rcases hr : (execute P o answer before).1 with e | v
  · trivial
  · exact hF v hr hInv' s hs hInvs

/-- One operation whose failure is caught, and what follows it. -/
theorem keeps_attempt_bind {o : RelayOp} {f : Except RelayError o.Result → RelayProg β}
    (h : ∀ before, Evolves P config Allowed db before → Consistent config before →
      ∀ answer : o.Answer, Allowed o answer → Permits P config Allowed log o answer before ∧
        ∀ r, (execute P o answer before).1 = r →
          Consistent config (execute P o answer before).2 →
          Evolves P config Allowed db (execute P o answer before).2 →
          Keeps P config Allowed (f r) (OnOk G) (log ++ [⟨o, answer, before⟩])
            (execute P o answer before).2) :
    Keeps P config Allowed ((call o).attempt >>= f) (OnOk G) log db := by
  intro before hbefore hInv answer hallowed
  obtain ⟨hpermits, hf⟩ := h before hbefore hInv answer hallowed
  have hInv' : Consistent config (execute P o answer before).2 :=
    (execute_effect P o answer before).consistent hpermits hInv
  have hlater : Evolves P config Allowed db (execute P o answer before).2 :=
    hbefore.tail (.perform log o answer before hInv hallowed hpermits)
  exact ⟨hpermits, hf _ rfl hInv' hlater⟩

theorem only_call {o : RelayOp} (h : Harmless P config Allowed o) :
    (call o).Only (Harmless P config Allowed) := only_perform h

/-- A program of harmless operations. -/
theorem keeps_only (hp : p.Only (Harmless P config Allowed)) :
    Keeps P config Allowed p (OnOk fun _ _ _ => True) log db := by
  refine (hp.guards fun o ho log answer s _ => ho log answer s).imp ?_
  rintro (e | a) log s - -
  · trivial
  · trivial

/-- A program of harmless operations, and what follows it. -/
theorem keeps_only_bind (hp : p.Only (Harmless P config Allowed))
    (h : ∀ a log' s, log <+: log' → Evolves P config Allowed db s → Consistent config s →
      Keeps P config Allowed (f a) (OnOk G) log' s) :
    Keeps P config Allowed (p >>= f) (OnOk G) log db := by
  apply keeps_bind
  refine keeps_imp (keeps_framed (keeps_only hp)) ?_
  rintro a log' s hInv ⟨hextends, hlater, -⟩
  exact h a log' s hextends hlater hInv

/-! ### Reading and marking rows -/

theorem now_only : now.Only (Harmless P config Allowed) := only_call fun _ _ _ => trivial

theorem refresh_only (id : Nat) : (refresh id).Only (Harmless P config Allowed) := by
  refine Prog.Only.bind (only_call fun _ _ _ => trivial) ?_
  rintro (- | row)
  · trivial
  · trivial

theorem refresh_keeps (id : Nat) :
    Keeps P config Allowed (refresh id) (OnOk fun row _ s => Seen config s row ∧ row.id = id)
      log db := by
  refine keeps_call_bind fun before _ _ answer _ => ⟨trivial, ?_⟩
  rintro (- | row) hv hInv -
  · exact keeps_throw
  · obtain ⟨hmem, hid⟩ := execute_returns hv rfl
    exact keeps_pure fun s hs _ => ⟨(hInv.seen hmem).later hs, hid id rfl⟩

theorem updateOrRefresh_only {id : Nat} {stmt : Statement}
    (h : Harmless P config Allowed (.update id stmt)) :
    (updateOrRefresh id stmt).Only (Harmless P config Allowed) := by
  refine (only_call h).bind ?_
  rintro (- | row)
  · exact refresh_only id
  · trivial

theorem markRetryable_only (id : Nat) (code : RelayErrorCode) (message : String) :
    (markRetryable config id code message).Only (Harmless P config Allowed) :=
  now_only.bind fun _ => updateOrRefresh_only fun _ _ _ => trivial

theorem deferReconciliation_only (id : Nat) :
    (deferReconciliation config id).Only (Harmless P config Allowed) :=
  now_only.bind fun _ => updateOrRefresh_only fun _ _ _ => trivial

theorem markExternallyAnchored_only (row : RelayOperationRow) :
    (markExternallyAnchored row).Only (Harmless P config Allowed) :=
  Prog.Only.bind (only_call fun _ _ _ => trivial) fun _ => trivial

/-- The cost of a mined transaction is recorded for rows with one. -/
theorem recordMinedCost_keeps (hseen : Seen config db row) (hhash : row.transaction.hash ≠ none)
    (blockNumber : Nat) :
    Keeps P config Allowed (recordMinedCost row blockNumber) (OnOk fun mined _ _ => mined.id = row.id)
      log db := by
  refine keeps_call_bind fun before hbefore _ answer _ =>
    ⟨(hseen.later hbefore).hasTransaction hhash, ?_⟩
  rintro (- | locked) hv - -
  · exact keeps_pure fun _ _ _ => rfl
  · exact keeps_pure fun _ _ _ => (execute_returns hv rfl).2 row.id rfl

/-! ### Finalization -/

theorem settle_only (row mined : RelayOperationRow) {stmt : Timestamp → Statement}
    (h : ∀ t, Harmless P config Allowed (.update mined.id (stmt t))) :
    (settle row mined stmt).Only (Harmless P config Allowed) := by
  refine now_only.bind fun t => (only_call (h t)).bind ?_
  rintro (- | row')
  · exact refresh_only row.id
  · trivial

/-- Confirmation is recorded only where the request has seen the evidence. -/
theorem settle_confirmed_keeps (hseen : Seen config db row) (hhash : row.transaction.hash ≠ none)
    (hshows : ShowsAnchored config row log) {mined : RelayOperationRow} (hid : mined.id = row.id)
    (blockNumber : Nat) :
    Keeps P config Allowed (settle row mined (.confirmed blockNumber)) (OnOk fun _ _ _ => True)
      log db := by
  refine keeps_only_bind now_only fun t log' s hextends hs _ => ?_
  refine keeps_call_bind fun before hbefore _ answer _ => ⟨?_, ?_⟩
  · obtain ⟨current, hmem, hcid, hbinding, htransaction⟩ := ((hseen.later hs).later hbefore).stored
    exact ⟨current, hmem, hcid.trans hid.symm,
      (hshows.mono hextends).congr hbinding (htransaction hhash)⟩
  · rintro (- | row') - - -
    · exact keeps_only (refresh_only row.id)
    · exact keeps_pure fun _ _ _ => trivial

theorem finalizeReceipt_keeps (hseen : Seen config db row) {receipt : RelayTransactionReceipt}
    (hreturned : ∃ e ∈ log, ReturnsReceipt e receipt)
    (hconfirmations : config.confirmationTarget ≤ receipt.confirmations) :
    Keeps P config Allowed (finalizeReceipt config row receipt) (OnOk fun _ _ _ => True) log db := by
  unfold finalizeReceipt
  split
  · exact keeps_only (markRetryable_only _ _ _)
  rename_i hmatch
  rw [not_or, not_not] at hmatch
  refine keeps_bind (keeps_imp (keeps_framed (recordMinedCost_keeps hseen hmatch.1 _)) ?_)
  rintro mined log' s - ⟨hextends, hs, hid⟩
  split
  · exact keeps_only (settle_only _ _ fun _ _ _ _ => trivial)
  rename_i hreverted
  split
  · exact keeps_only (settle_only _ _ fun _ _ _ _ => trivial)
  rename_i hfound
  refine keeps_attempt_bind fun before hbefore _ answer _ => ⟨trivial, ?_⟩
  rintro (e | contractState) hr - hlater
  · exact keeps_only (markRetryable_only _ _ _)
  dsimp only
  split
  · exact keeps_only (settle_only _ _ fun _ _ _ _ => trivial)
  · rename_i hevidence
    refine settle_confirmed_keeps (hseen.later (hs.trans hlater)) hmatch.1 ?_ hid _
    obtain ⟨e, he, hreturns⟩ := hreturned
    have hanswer : answer = .ok contractState := hr
    simp only [evidenceMatches, Bool.not_eq_false, Bool.and_eq_true, decide_eq_true_eq]
      at hevidence
    refine ⟨log', before, [], contractState, by rw [hanswer], ?_, hevidence.1.1, hevidence.1.2,
      hevidence.2⟩
    exact ⟨e, hextends.subset he, receipt, hreturns, hmatch.2.symm, by simpa using hreverted,
      hconfirmations, by simpa using hfound⟩

/-! ### Broadcasting -/

theorem RecordedOn.congr {row' : RelayOperationRow} {prepared : PreparedRelayTransaction}
    (h : RecordedOn P Allowed row prepared) (hbinding : row'.binding = row.binding)
    (htransaction : row'.transaction = row.transaction) : RecordedOn P Allowed row' prepared := by
  obtain ⟨request, fee, nonce, hrequest, hfee, hsigns, hnonce⟩ := h.signed
  refine ⟨by rw [htransaction]; exact h.hash, request, fee, nonce, ?_, ?_, hsigns, ?_⟩
  · rw [← hrequest]
    simp only [requestFromRow, hbinding]
  · rw [← hfee]
    simp only [feeFromRow, htransaction]
  · rw [htransaction]
    exact hnonce

theorem RecordedOn.hash_ne_none {prepared : PreparedRelayTransaction}
    (h : RecordedOn P Allowed row prepared) : row.transaction.hash ≠ none := by
  rw [h.hash]
  exact Option.some_ne_none _

/-- The last thing a request did was to record that the transaction on the row
is about to be broadcast. -/
def JustAuthorized (P : RelayPlatform) (row : RelayOperationRow) (log : List RelayEvent) : Prop :=
  ∃ earlier e, log = earlier ++ [e] ∧ authorized P e = some row

/-- Waiting for a receipt with which a row is then finalized. -/
theorem awaitReceipt_keeps {hash : HashHex} {confirmations timeoutMs : Nat}
    {f : Except RelayError RelayTransactionReceipt → RelayProg RelayOperationRow}
    (hseen : Seen config db row)
    (herror : ∀ e, (f (.error e)).Only (Harmless P config Allowed))
    (hok : ∀ receipt, (f (.ok receipt)).Only (Harmless P config Allowed) ∨
      config.confirmationTarget ≤ receipt.confirmations ∧
        f (.ok receipt) = finalizeReceipt config row receipt) :
    Keeps P config Allowed ((call (.waitForReceipt hash confirmations timeoutMs)).attempt >>= f)
      (OnOk fun _ _ _ => True) log db := by
  refine keeps_attempt_bind fun before hbefore _ answer _ => ⟨trivial, ?_⟩
  rintro (e | receipt) hr - hlater
  · exact keeps_only (herror e)
  rcases hok receipt with honly | ⟨hconfirmations, hfinalizes⟩
  · exact keeps_only honly
  · rw [hfinalizes]
    refine finalizeReceipt_keeps (hseen.later hlater) ⟨_, List.mem_concat_self, ?_⟩ hconfirmations
    have hanswer : answer = .ok receipt := hr
    rw [hanswer]
    exact .waited _ _ _ receipt before

theorem broadcastPrepared_keeps {prepared : PreparedRelayTransaction} (hseen : Seen config db row)
    (hrecorded : RecordedOn P Allowed row prepared) (hauthorized : JustAuthorized P row log) :
    Keeps P config Allowed (broadcastPrepared config row prepared) (OnOk fun _ _ _ => True)
      log db := by
  unfold broadcastPrepared
  refine keeps_bind (keeps_imp (keeps_framed (keeps_attempt
    (F := fun _ _ _ => True) (keeps_call_bind fun before hbefore _ answer _ => ⟨?_, ?_⟩))) ?_)
  · obtain ⟨current, hmem, hid, hbinding, htransaction⟩ := (hseen.later hbefore).stored
    obtain ⟨earlier, e, hlog, he⟩ := hauthorized
    exact ⟨current, hmem, hrecorded.congr hbinding (htransaction hrecorded.hash_ne_none),
      earlier, e, row, hlog, he, hid.symm⟩
  · intro hash _ _ _
    split
    · exact keeps_throw
    · exact keeps_pure fun _ _ _ => trivial
  rintro (e | ⟨⟩) log' s - ⟨-, hs, -⟩
  · exact keeps_only (markRetryable_only _ _ _)
  refine keeps_only_bind now_only fun submittedAt log₁ s₁ _ hs₁ _ => ?_
  refine keeps_only_bind now_only fun t log₂ s₂ _ hs₂ _ => ?_
  refine keeps_call_bind fun before hbefore _ answer _ => ⟨trivial, ?_⟩
  intro stored hstored hInv _
  -- the row as it is after broadcasting, whoever wrote it
  have hfinal : ∀ (submitted : RelayOperationRow) (receipt : RelayTransactionReceipt),
      (if receipt.confirmations < config.confirmationTarget then
          markRetryable config submitted.id .confirmationTimeout
            "The transaction has not reached the configured confirmation target."
        else finalizeReceipt config submitted receipt).Only (Harmless P config Allowed) ∨
      config.confirmationTarget ≤ receipt.confirmations ∧
        (if receipt.confirmations < config.confirmationTarget then
          markRetryable config submitted.id .confirmationTimeout
            "The transaction has not reached the configured confirmation target."
        else finalizeReceipt config submitted receipt) = finalizeReceipt config submitted receipt := by
    intro submitted receipt
    split
    · exact .inl (markRetryable_only _ _ _)
    · rename_i hconfirmations
      exact .inr ⟨Nat.le_of_not_lt hconfirmations, rfl⟩
  rcases stored with - | submitted
  · refine keeps_bind (keeps_imp (refresh_keeps row.id) fun submitted _ _ _ h => ?_)
    refine awaitReceipt_keeps h.1 (fun e => ?_) (hfinal submitted)
    dsimp only
    split <;> exact markRetryable_only _ _ _
  · refine awaitReceipt_keeps (hInv.seen (execute_returns hstored rfl).1) (fun e => ?_)
      (hfinal submitted)
    dsimp only
    split <;> exact markRetryable_only _ _ _

theorem recreatePrepared_keeps (row : RelayOperationRow) :
    Keeps P config Allowed (recreatePrepared P row)
      (OnOk fun prepared _ _ => RecordedOn P Allowed row prepared) log db := by
  unfold recreatePrepared
  split
  · exact keeps_throw
  rename_i nonce hnonce
  split
  · rename_i request fee hrequest hfee
    refine keeps_call_bind fun before _ _ answer hallowed => ⟨trivial, ?_⟩
    intro prepared hprepared _ _
    have hanswer : answer = .ok prepared := hprepared
    rw [hanswer] at hallowed
    split
    · exact keeps_throw
    · rename_i hsame
      rw [not_not] at hsame
      exact keeps_pure fun _ _ _ =>
        ⟨hsame.symm, request, fee, nonce, hrequest, hfee, .inl hallowed, .inl hnonce⟩
  · exact keeps_throw

/-- The row that an authorization returned is the one it was asked for. -/
theorem Seen.same {stored : RelayOperationRow} (hseen : Seen config db row)
    (hInv : Consistent config db) (hstored : stored ∈ db.operations) (hid : stored.id = row.id)
    (hhash : row.transaction.hash ≠ none) :
    stored.binding = row.binding ∧ stored.transaction = row.transaction := by
  obtain ⟨current, hmem, hcid, hbinding, htransaction⟩ := hseen.stored
  rw [eq_of_id hInv.ids hstored hmem (hid.trans hcid.symm)]
  exact ⟨hbinding, htransaction hhash⟩

theorem rebroadcast_keeps (hseen : Seen config db row) (hhash : row.transaction.hash ≠ none) :
    Keeps P config Allowed (rebroadcast P config row) (OnOk fun _ _ _ => True) log db := by
  unfold rebroadcast
  refine keeps_bind (keeps_imp (keeps_framed (keeps_attempt (recreatePrepared_keeps row))) ?_)
  rintro (e | prepared) log' s - ⟨-, hs, hrecorded⟩
  · exact keeps_only (markRetryable_only _ _ _)
  refine keeps_only_bind now_only fun t log₁ s₁ _ hs₁ _ => ?_
  have hseen₁ := hseen.later (hs.trans hs₁)
  refine keeps_call_bind fun before hbefore _ answer _ =>
    ⟨⟨rfl, (hseen₁.later hbefore).hasTransaction hhash⟩, ?_⟩
  rintro (- | updated) hupdated hInv hlater
  · exact keeps_only (refresh_only row.id)
  · obtain ⟨hmem, hid⟩ := execute_returns hupdated rfl
    obtain ⟨hbinding, htransaction⟩ :=
      (hseen₁.later hlater).same hInv hmem (hid row.id rfl) hhash
    refine broadcastPrepared_keeps (hInv.seen hmem)
      ((hrecorded prepared rfl).congr hbinding htransaction) ⟨log₁, _, rfl, ?_⟩
    simp only [authorized, hupdated]

/-! ### Preparing -/

theorem prepareNewTransaction_keeps (hmax : 0 < config.maxAttemptsPerEvent)
    (row : RelayOperationRow) :
    Keeps P config Allowed (prepareNewTransaction config row)
      (OnOk fun r log s => ∀ prepared, r.2 = some prepared → Seen config s r.1 ∧
        RecordedOn P Allowed r.1 prepared ∧ JustAuthorized P r.1 log) log db := by
  have hmarked : ∀ (code : RelayErrorCode) (message : String) (log : List RelayEvent)
      (db : RelayDb), Keeps P config Allowed (do
        let marked ← markRetryable config row.id code message
        pure (marked, none)) (OnOk fun (r : RelayOperationRow × Option PreparedRelayTransaction)
          log s => ∀ prepared, r.2 = some prepared → Seen config s r.1 ∧
            RecordedOn P Allowed r.1 prepared ∧ JustAuthorized P r.1 log) log db := by
    intro code message log db
    refine keeps_only_bind (markRetryable_only _ _ _) fun marked log' s _ _ _ => ?_
    exact keeps_pure fun _ _ _ prepared hno => nomatch hno
  unfold prepareNewTransaction
  refine keeps_only_bind ?_ fun signer log' s _ _ _ => ?_
  · refine Prog.Only.attempt ?_
    refine Prog.Only.bind (only_call fun _ _ _ => trivial) fun _ => ?_
    exact Prog.Only.bind (only_call fun _ _ _ => trivial) fun _ => trivial
  rcases signer with e | ⟨pendingNonce, signerAddress⟩
  · exact hmarked _ _ _ _
  refine keeps_bind (keeps_imp (keeps_attempt
    (F := fun (r : Option RelayOperationRow × Option PreparedRelayTransaction) log s =>
      ∀ prepared, r.2 = some prepared → ∃ row, r.1 = some row ∧ Seen config s row ∧
        RecordedOn P Allowed row prepared ∧ JustAuthorized P row log) ?_) ?_)
  · refine keeps_only_bind now_only fun t log₁ s₁ _ _ _ => ?_
    refine keeps_call fun before _ _ answer hallowed => ⟨⟨hmax, rfl, rfl⟩, ?_⟩
    rintro ⟨returned, transaction⟩ hr hInv s hs - prepared (rfl : transaction = some prepared)
    obtain ⟨dbAnswer, prepareAnchor⟩ := answer
    have hok := apply_eq_ok hr
    have hr' := hr
    rw [execute, hok] at hr'
    obtain ⟨row, old, request, fee, rfl, -, hrequest, hfee, hprepared, hpermitted, hstored⟩ :=
      (prepareNewTransaction_returns hr').2 prepared rfl
    have hmem := (execute_returns hr rfl).1
    refine ⟨row, rfl, (hInv.seen hmem).later hs, ?_, log₁, _, rfl, ?_⟩
    · refine ⟨by rw [hstored.transaction]; rfl, request, fee, _, ?_, ?_,
        .inr ⟨_, dbAnswer, prepareAnchor, hallowed, hprepared⟩, .inr ?_⟩
      · rw [← hrequest]
        simp only [requestFromRow, hpermitted.binding]
      · rw [← hfee]
        simp only [feeFromRow, hstored.transaction, preparedRow]
      · rw [hstored.transaction]
        rfl
    · simp only [authorized, hr]
  · rintro (e | ⟨stored, transaction⟩) log₂ s₂ - hrecorded
    · exact hmarked _ _ _ _
    refine keeps_pure fun s hs _ prepared (hprepared : transaction = some prepared) => ?_
    obtain ⟨row', hstored, hseen, hrest⟩ := hrecorded _ rfl prepared hprepared
    have hsome : stored = some row' := hstored
    rw [hsome]
    exact ⟨hseen.later hs, hrest⟩

/-! ### Reconciliation -/

theorem reconciliationDue_only (row : RelayOperationRow) :
    (reconciliationDue row).Only (Harmless P config Allowed) := by
  unfold reconciliationDue
  split
  · trivial
  · exact now_only.bind fun _ => trivial

/-- **A reconciliation keeps to what is permitted.** -/
theorem reconcile_keeps (rowInput : RelayOperationRow) (allowBroadcast : Bool) :
    Keeps P config Allowed (reconcile P config rowInput allowBroadcast) (OnOk fun _ _ _ => True)
      log db := by
  refine keeps_bind (keeps_imp (refresh_keeps rowInput.id) ?_)
  rintro row log' s - ⟨hseen, -⟩
  split
  · exact keeps_pure fun _ _ _ => trivial
  split
  · rename_i hash hhash
    have hsome : row.transaction.hash ≠ none := by
      rw [hhash]
      exact Option.some_ne_none _
    refine keeps_only_bind (reconciliationDue_only row) fun due log₁ s₁ _ hs₁ _ => ?_
    split
    · exact keeps_pure fun _ _ _ => trivial
    refine keeps_attempt_bind fun before hbefore _ answer _ => ⟨trivial, ?_⟩
    rintro (e | - | receipt) hr - hlater
    · exact keeps_only (markRetryable_only _ _ _)
    · have hseen' := hseen.later (hs₁.trans hlater)
      dsimp only
      split
      · exact rebroadcast_keeps hseen' hsome
      split
      · exact keeps_only (markRetryable_only _ _ _)
      split
      · exact keeps_pure fun _ _ _ => trivial
      · exact keeps_only (deferReconciliation_only _)
    · dsimp only
      split
      · exact keeps_only (deferReconciliation_only _)
      · rename_i hconfirmations
        refine finalizeReceipt_keeps (hseen.later (hs₁.trans hlater))
          ⟨_, List.mem_concat_self, ?_⟩ (Nat.le_of_not_lt hconfirmations)
        have hanswer : answer = .ok (some receipt) := hr
        rw [hanswer]
        exact .read _ receipt before
  · rename_i hhash
    split
    · exact keeps_pure fun _ _ _ => trivial
    split
    · -- a row without a transaction was never attempted
      rename_i hexhausted
      have hzero : config.maxAttemptsPerEvent = 0 := by
        have hattempts := hseen.kept.unattempted hhash
        omega
      refine keeps_only ?_
      exact Prog.Only.bind (only_call fun _ _ _ => hzero) fun _ => trivial
    · rename_i hattempts
      refine keeps_bind (keeps_imp (prepareNewTransaction_keeps (by omega) row) ?_)
      rintro ⟨prepared, transaction⟩ log₁ s₁ - hprepared
      rcases transaction with - | transaction
      · exact keeps_pure fun _ _ _ => trivial
      · obtain ⟨hseen', hrecorded, hauthorized⟩ := hprepared transaction rfl
        exact broadcastPrepared_keeps hseen' hrecorded hauthorized

/-! ### Checks of a request -/

/-- The request as the service has checked it. -/
structure ValidatedFor (P : RelayPlatform) (request : RelayEventRequest)
    (event : ValidatedRelayEvent) : Prop where
  same : event.request = request
  eventHash : event.eventHash = request.event.eventHash
  fingerprint : event.requestFingerprint =
    P.fingerprintRequest request.blobId request.event request.extensionPublicKey

theorem parse_eq_ok {input : Option RelayEventRequest} {request : RelayEventRequest}
    {stage : RelayEventStage} (h : parseRelayEventRequest P input = .ok (request, stage)) :
    input = some request := by
  unfold parseRelayEventRequest at h
  rcases input with - | input
  · cases h
  dsimp only at h
  split at h
  · cases h
  split at h
  · cases h
  split at h
  · cases h
  · cases h
    rfl

theorem validateRequest_keeps (request : RelayEventRequest) (stage : RelayEventStage) :
    Keeps P config Allowed (validateRequest P request stage)
      (OnOk fun event _ _ => ValidatedFor P request event) log db := by
  unfold validateRequest
  refine keeps_call_bind fun before _ _ answer _ => ⟨trivial, ?_⟩
  rintro (- | blob) - - -
  · exact keeps_throw
  dsimp only
  split
  · exact keeps_throw
  split
  · exact keeps_throw
  split
  · exact keeps_throw
  split
  · exact keeps_throw
  · exact keeps_pure fun _ _ _ => ⟨rfl, rfl, rfl⟩

theorem chainCall_only {α : Type} {p : RelayProg α} (h : p.Only (Harmless P config Allowed)) :
    (chainCall p).Only (Harmless P config Allowed) := by
  refine h.tryCatch fun e => ?_
  rcases e with e | message | - | timeout | message <;> trivial

theorem precheckRuntime_only (event : ValidatedRelayEvent) :
    (precheckRuntime config event).Only (Harmless P config Allowed) := by
  refine Prog.Only.bind (chainCall_only (only_call fun _ _ _ => trivial)) fun chainId => ?_
  refine Prog.Only.bind (chainCall_only (only_call fun _ _ _ => trivial)) fun code => ?_
  split
  · trivial
  split
  · trivial
  refine Prog.Only.bind (chainCall_only (only_call fun _ _ _ => trivial)) fun version => ?_
  refine Prog.Only.bind (chainCall_only (only_call fun _ _ _ => trivial)) fun state => ?_
  split <;> trivial

theorem estimate_only (request : AnchorRequest) :
    (estimate request).Only (Harmless P config Allowed) :=
  Prog.Only.tryCatch (only_call fun _ _ _ => trivial) fun _ => trivial

theorem applyRateLimits_only (event : ValidatedRelayEvent) (networkScope : Text) :
    (applyRateLimits P config event networkScope).Only (Harmless P config Allowed) := by
  refine now_only.bind fun t => Prog.Only.bind (only_call fun _ _ _ => trivial) fun limited => ?_
  split <;> trivial

/-- An existing operation is bound to the request's fingerprint, and to its
key where the key is bound at all. -/
theorem assertExistingBinding_keeps (hInv : Consistent config db) (row : RelayOperationRow)
    (event : ValidatedRelayEvent) :
    Keeps P config Allowed (assertExistingBinding P row event)
      (OnOk fun _ _ _ => row.binding.requestFingerprint = event.requestFingerprint ∧
        ∀ key, event.request.idempotencyKey = some key → ∀ bound ∈ db.operations,
          bound.binding.idempotencyKeyHash = some (P.sha256 key) → bound.id = row.id) log db := by
  unfold assertExistingBinding
  split
  · exact keeps_throw
  rename_i hfingerprint
  rw [ne_eq, not_not] at hfingerprint
  split
  · rename_i hnone
    exact keeps_pure fun _ _ _ => ⟨hfingerprint, fun key hkey => by rw [hnone] at hkey; cases hkey⟩
  · rename_i key hkey
    refine keeps_call_bind fun before hbefore hInv' answer _ => ⟨trivial, ?_⟩
    intro keyed hread _ _
    split
    · exact keeps_throw
    rename_i hsame
    refine keeps_pure fun _ _ _ => ⟨hfingerprint, ?_⟩
    intro key' hkey' bound hbound hboundKey
    rw [hkey] at hkey'
    cases hkey'
    -- the row bound to the key is still there when it is looked up
    obtain ⟨current, hmem, hid, hbinding, -⟩ := ((hInv.seen hbound).later hbefore).stored
    have hok := apply_eq_ok hread
    have hfind : before.operations.find?
        (fun r => r.binding.idempotencyKeyHash = some (P.sha256 key)) = keyed := by
      rw [execute, hok] at hread
      exact Except.ok.inj hread
    rcases keyed with - | found
    · have hno := List.find?_eq_none.mp hfind current hmem
      rw [hbinding, hboundKey] at hno
      simp at hno
    · have hfoundKey : found.binding.idempotencyKeyHash = some (P.sha256 key) := by
        simpa using List.find?_some hfind
      have hcurrentKey : current.binding.idempotencyKeyHash = some (P.sha256 key) := by
        rw [hbinding]
        exact hboundKey
      have hids : found.id = current.id :=
        hInv'.keys found (List.mem_of_find?_eq_some hfind) current hmem _ hfoundKey hcurrentKey
      rw [← hid, ← hids]
      simpa using hsame

/-! ### The two entry points -/

/-- An operation that looks for the operation of an event. -/
def RelayOp.looksForEvent : RelayOp → Bool
  | .selectByEventHash _ => true
  | .acquireOperation _ => true
  | _ => false

/-- Where the event looks for the operation of a request's event and finds one
with the request's fingerprint, the request's idempotency key is bound
already. -/
def FindsKeyBound (P : RelayPlatform) (request : RelayEventRequest) (e : RelayEvent) : Prop :=
  e.op.looksForEvent = true →
    (∃ row ∈ e.before.operations, row.binding.eventHash = request.event.eventHash ∧
      row.binding.requestFingerprint =
        P.fingerprintRequest request.blobId request.event request.extensionPublicKey) →
      ∀ key ∈ request.idempotencyKey,
        ∃ bound ∈ e.before.operations, bound.binding.idempotencyKeyHash = some (P.sha256 key)

instance (P : RelayPlatform) (request : RelayEventRequest) (e : RelayEvent) :
    Decidable (FindsKeyBound P request e) :=
  inferInstanceAs (Decidable (_ → _ → _))

/-- The operation that answers a request: of its event and its fingerprint,
and bound to its key unless the request found it with the key unbound. -/
def Answered (P : RelayPlatform) (request : RelayEventRequest) (log : List RelayEvent)
    (db : RelayDb) : Prop :=
  ∃ row ∈ db.operations, row.binding.eventHash = request.event.eventHash ∧
    row.binding.requestFingerprint =
      P.fingerprintRequest request.blobId request.event request.extensionPublicKey ∧
    ((∀ e ∈ log, FindsKeyBound P request e) → ∀ key, request.idempotencyKey = some key →
      row.binding.idempotencyKeyHash = some (P.sha256 key))

section answered

variable {request : RelayEventRequest}

theorem Answered.later {log' : List RelayEvent} {db' : RelayDb} (h : Answered P request log db)
    (hInv : Consistent config db) (hlog : log <+: log') (hlater : Evolves P config Allowed db db') :
    Answered P request log' db' := by
  obtain ⟨row, hrow, hevent, hfingerprint, hkey⟩ := h
  obtain ⟨current, hmem, -, hbinding, -⟩ := ((hInv.seen hrow).later hlater).stored
  refine ⟨current, hmem, ?_, ?_, ?_⟩
  · rw [hbinding]
    exact hevent
  · rw [hbinding]
    exact hfingerprint
  · rw [hbinding]
    exact fun hfinds => hkey fun e he => hfinds e (hlog.subset he)

/-- What is done after the operation is found does not change the answer. -/
theorem Answered.keeps (h : Answered P request log db) (hInv : Consistent config db)
    (hp : Keeps P config Allowed p (OnOk fun _ _ _ => True) log db) :
    Keeps P config Allowed p (OnOk fun _ log s => Answered P request log s) log db := by
  refine keeps_imp (keeps_framed hp) ?_
  rintro a log' s - ⟨hextends, hlater, -⟩
  exact h.later hInv hextends hlater

/-- The answer of a request whose operation is already stored. -/
theorem answered_of_found {event : ValidatedRelayEvent} {existing : RelayOperationRow}
    {eventHash : HashHex} {answer : DbAnswer} {before : RelayDb}
    (hvalidated : ValidatedFor P request event) (hInv : Consistent config before)
    (hlogged : (⟨.selectByEventHash eventHash, answer, before⟩ : RelayEvent) ∈ log)
    (hfound : existing ∈ before.operations) (hevent : existing.binding.eventHash = event.eventHash)
    (hseen : Seen config db existing)
    (hbound : existing.binding.requestFingerprint = event.requestFingerprint ∧
      ∀ key, event.request.idempotencyKey = some key → ∀ bound ∈ before.operations,
        bound.binding.idempotencyKeyHash = some (P.sha256 key) → bound.id = existing.id) :
    Answered P request log db := by
  obtain ⟨current, hmem, -, hbinding, -⟩ := hseen.stored
  have hhash : existing.binding.eventHash = request.event.eventHash :=
    hevent.trans hvalidated.eventHash
  refine ⟨current, hmem, ?_, ?_, ?_⟩
  · rw [hbinding]
    exact hhash
  · rw [hbinding, hbound.1]
    exact hvalidated.fingerprint
  · rw [hbinding]
    intro hfinds key hkey
    obtain ⟨bound, hmem', hboundKey⟩ := hfinds _ hlogged rfl
      ⟨existing, hfound, hhash, hbound.1.trans hvalidated.fingerprint⟩ key hkey
    have hid := hbound.2 key (by rw [hvalidated.same]; exact hkey) bound hmem' hboundKey
    rw [← eq_of_id hInv.ids hmem' hfound hid]
    exact hboundKey

/-- The row that a lookup by event hash finds. -/
theorem selectByEventHash_found {eventHash : HashHex} {answer : DbAnswer} {before : RelayDb}
    {existing : RelayOperationRow}
    (h : (execute P (.selectByEventHash eventHash) answer before).1 = .ok (some existing)) :
    (execute P (.selectByEventHash eventHash) answer before).2 = before ∧
      existing ∈ before.operations ∧ existing.binding.eventHash = eventHash := by
  have hok := apply_eq_ok h
  obtain ⟨hmem, hhash⟩ := find?_reads h
  rw [hok] at hmem
  exact ⟨congrArg Prod.snd hok, hmem, by simpa using hhash⟩

theorem relayAnchored_keeps {event : ValidatedRelayEvent} (hvalidated : ValidatedFor P request event) :
    Keeps P config Allowed (relayAnchored P config event)
      (OnOk fun _ log s => Answered P request log s) log db := by
  refine keeps_call_bind fun before hbefore hInv answer _ => ⟨trivial, ?_⟩
  rintro (- | existing) hread - -
  · exact keeps_throw
  obtain ⟨hsame, hfound, hevent⟩ := selectByEventHash_found hread
  rw [hsame]
  refine keeps_bind (keeps_imp (keeps_framed (assertExistingBinding_keeps hInv existing event)) ?_)
  rintro ⟨⟩ log₁ s₁ hInv₁ ⟨hextends, hlater, hbound⟩
  have hanswered : Answered P request log₁ s₁ :=
    answered_of_found hvalidated hInv (hextends.subset List.mem_concat_self) hfound hevent
      ((hInv.seen hfound).later hlater) hbound
  apply hanswered.keeps hInv₁
  split
  · exact keeps_only_bind (markExternallyAnchored_only existing) fun _ _ _ _ _ _ =>
      keeps_pure fun _ _ _ => trivial
  · exact keeps_bind (keeps_imp (reconcile_keeps existing false) fun _ _ _ _ _ =>
      keeps_pure fun _ _ _ => trivial)

/-- Acquiring an operation answers the request. -/
theorem acquireOperation_keeps {event : ValidatedRelayEvent}
    (hvalidated : ValidatedFor P request event) (anchorRequest : AnchorRequest)
    (fee : RelayFeeQuote) :
    Keeps P config Allowed
      (acquireOperation P config event anchorRequest fee (fee.gasLimit * fee.maxFeePerGas))
      (OnOk fun _ log s => Answered P request log s) log db := by
  refine keeps_only_bind (only_call fun _ _ _ => trivial) fun statusId log₁ s₁ _ _ _ => ?_
  refine keeps_only_bind now_only fun t log₂ s₂ _ _ _ => ?_
  refine keeps_call fun before _ hInv₀ answer _ => ⟨⟨rfl, rfl, rfl⟩, ?_⟩
  rintro ⟨created, row⟩ hr hInv s hs -
  have hok := apply_eq_ok hr
  have hr' := hr
  rw [execute, hok] at hr'
  obtain ⟨-, hevent, hfingerprint, hkey, hkeyed⟩ := acquireOperation_returns hr'
  dsimp only at hevent hfingerprint hkey hkeyed
  have hmem := (execute_returns hr rfl).1
  refine Answered.later ?_ hInv List.prefix_rfl hs
  refine ⟨row, hmem, hevent.trans hvalidated.eventHash, hfingerprint.trans hvalidated.fingerprint,
    ?_⟩
  intro hfinds key hrequest
  rcases hkey with hold | hnew
  · obtain ⟨bound, hbound, hboundKey⟩ := hfinds _ List.mem_concat_self rfl
      ⟨row, hold, hevent.trans hvalidated.eventHash,
        hfingerprint.trans hvalidated.fingerprint⟩ key hrequest
    -- the row bound to the key is one of the event, so it is this one
    rw [hvalidated.same, hrequest] at hkeyed
    rcases hfind : before.keyedRow (some (P.sha256 key)) with - | keyed
    · have hno := List.find?_eq_none.mp hfind bound hbound
      simp [hboundKey] at hno
    · have hkeyedMem : keyed ∈ before.operations := List.mem_of_find?_eq_some hfind
      have hid := hInv₀.events keyed hkeyedMem row hold _ rfl
        (congrArg some (hevent.trans (hkeyed keyed hfind).symm))
      rw [← eq_of_id hInv₀.ids hkeyedMem hold hid]
      simpa using List.find?_some hfind
  · rw [hnew, hvalidated.same, hrequest]
    rfl

theorem relayFresh_keeps {event : ValidatedRelayEvent} (hvalidated : ValidatedFor P request event)
    (anchorRequest : AnchorRequest) (networkScope : Text) :
    Keeps P config Allowed (relayFresh P config event anchorRequest networkScope)
      (OnOk fun _ log s => Answered P request log s) log db := by
  refine keeps_only_bind (precheckRuntime_only event) fun contractState log₁ s₁ _ _ _ => ?_
  split
  · exact relayAnchored_keeps hvalidated
  refine keeps_bind (keeps_ofExcept fun _ _ s _ _ => ?_)
  refine keeps_only_bind (estimate_only anchorRequest) fun fee log₂ s₂ _ _ _ => ?_
  dsimp only
  split
  · exact keeps_throw
  refine keeps_only_bind (chainCall_only (only_call fun _ _ _ => trivial))
    fun balance log₃ s₃ _ _ _ => ?_
  split
  · exact keeps_throw
  refine keeps_only_bind (applyRateLimits_only event networkScope) fun _ log₄ s₄ _ _ _ => ?_
  refine keeps_bind (keeps_imp (acquireOperation_keeps hvalidated anchorRequest fee) ?_)
  intro acquired log₅ s₅ hInv hanswered
  apply hanswered.keeps hInv
  exact keeps_bind (keeps_imp (reconcile_keeps acquired.2 true) fun _ _ _ _ _ =>
    keeps_pure fun _ _ _ => trivial)

/-- **A call of `relay` keeps to what is permitted**, and answers its request
where it returns. -/
theorem relay_keeps (input : Option RelayEventRequest) (context : RelayRequestContext) :
    Keeps P config Allowed (relay P config input context)
      (OnOk fun _ log s => ∀ request, input = some request → Answered P request log s)
      log db := by
  refine keeps_bind (keeps_ofExcept ?_)
  rintro ⟨request, stage⟩ hparse s - -
  have hinput := parse_eq_ok hparse
  refine keeps_imp (F := fun _ log s => Answered P request log s) ?_ ?_
  · refine keeps_bind (keeps_imp (validateRequest_keeps request stage) ?_)
    intro event log₁ s₁ _ hvalidated
    refine keeps_bind (keeps_ofExcept fun anchorRequest _ s₂ _ _ => ?_)
    refine keeps_bind (keeps_ofExcept fun _ _ s₃ _ _ => ?_)
    refine keeps_call_bind fun before _ hInv answer _ => ⟨trivial, ?_⟩
    rintro (- | persisted) hread - -
    · exact relayFresh_keeps hvalidated anchorRequest context.networkScope
    obtain ⟨hsame, hfound, hevent⟩ := selectByEventHash_found hread
    rw [hsame]
    refine keeps_bind (keeps_imp (keeps_framed
      (assertExistingBinding_keeps hInv persisted event)) ?_)
    rintro ⟨⟩ log₄ s₄ hInv₄ ⟨hextends, hlater, hbound⟩
    have hanswered : Answered P request log₄ s₄ :=
      answered_of_found hvalidated hInv (hextends.subset List.mem_concat_self) hfound hevent
        ((hInv.seen hfound).later hlater) hbound
    split
    · exact hanswered.keeps hInv₄ (keeps_pure fun _ _ _ => trivial)
    split
    · apply hanswered.keeps hInv₄
      refine keeps_only_bind (applyRateLimits_only _ _) fun _ _ _ _ _ _ => ?_
      refine keeps_only_bind (precheckRuntime_only _) fun contractState _ _ _ _ _ => ?_
      exact keeps_bind (keeps_imp (reconcile_keeps persisted _) fun _ _ _ _ _ =>
        keeps_pure fun _ _ _ => trivial)
    · exact relayFresh_keeps hvalidated anchorRequest context.networkScope
  · intro view log' s' _ hanswered request' hrequest'
    rw [hinput] at hrequest'
    cases hrequest'
    exact hanswered

end answered

/-- **A status read keeps to what is permitted.** -/
theorem getOperation_keeps (statusToken : Option OpaqueId) :
    Keeps P config Allowed (getOperation P config statusToken) (OnOk fun _ _ _ => True) log db := by
  unfold getOperation
  rcases statusToken with - | statusToken
  · exact keeps_throw
  refine keeps_only_bind (only_call fun _ _ _ => trivial) fun polled log₁ s₁ _ _ _ => ?_
  have hfound : ∀ (row : RelayOperationRow) (log : List RelayEvent) (db : RelayDb),
      Keeps P config Allowed
        (if row.state.isTerminal = true then pure (some (toOperationView row))
          else if row.pollCount > config.maxConfirmationPolls then
            pure (some (toOperationView row))
          else do
            let reconciled ← reconcile P config row false
            pure (some (toOperationView reconciled))) (OnOk fun _ _ _ => True) log db := by
    intro row log db
    split
    · exact keeps_pure fun _ _ _ => trivial
    split
    · exact keeps_pure fun _ _ _ => trivial
    · exact keeps_bind (keeps_imp (reconcile_keeps row false) fun _ _ _ _ _ =>
        keeps_pure fun _ _ _ => trivial)
  rcases polled with - | row
  · refine keeps_only_bind (only_call fun _ _ _ => trivial) fun found log₂ s₂ _ _ _ => ?_
    rcases found with - | row
    · exact keeps_pure fun _ _ _ => trivial
    · exact hfound row log₂ s₂
  · exact hfound row log₁ s₁

/-- What holds when a request returns. -/
def Returned (P : RelayPlatform) : RelayEntry → Except RelayError (Option RelayOperationView) →
    List RelayEvent → RelayDb → Prop
  | .relay input _, .ok _, log, db => ∀ request, input = some request → Answered P request log db
  | _, _, _, _ => True

/-- **The relay is safe**: its operations keep the invariant, and its requests
keep to what is permitted. -/
theorem relay_safe (P : RelayPlatform) (config : RelayConfiguration)
    (Allowed : (o : RelayOp) → o.Answer → Prop) :
    (relaySystem P config Allowed).Safe (Consistent config) (Permits P config Allowed)
      (Returned P) where
  preserves _ o answer s hInv _ hpermits :=
    (execute_effect P o answer s).consistent hpermits hInv
  guards call s _ := by
    rcases call with ⟨input, context⟩ | statusToken
    · have hkeeps : Keeps P config Allowed (relay P config input context >>= fun view =>
          pure (some view)) (OnOk fun _ log s => ∀ request, input = some request →
            Answered P request log s) [] s := by
        refine keeps_bind (keeps_imp (relay_keeps input context) ?_)
        intro view log' s' hInv hanswered
        exact keeps_pure fun s'' hs _ request hrequest =>
          (hanswered request hrequest).later hInv List.prefix_rfl hs
      refine hkeeps.imp ?_
      rintro (e | view) log' s' - hr
      · trivial
      · exact hr
    · refine (getOperation_keeps statusToken).imp ?_
      rintro (e | view) log' s' - - <;> trivial

end SubmittedIt.Relay
