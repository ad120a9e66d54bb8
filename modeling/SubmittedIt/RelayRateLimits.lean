/-
SubmittedIt/RelayRateLimits.lean

Rate limits of the relay (apps/web/lib/relay/relay-service.ts).

`relay` has several paths and counts a request on some of them only.  A call
that inserts an operation or broadcasts has counted before, and the counters of
its three scopes were within their limits; a call that was over one performs
nothing more.  `Screened` says so of a program, `Stage` of a call in a run.

Main results: `relay_screened` (every path), `counted_le` (the calls a counter
has let pass), and `relay_rate_limited`.
-/
import SubmittedIt.RelayGuards

namespace SubmittedIt.Relay

open Transaction ReceiptCore ContractClient

/-! ### Scopes and windows -/

def RateScope.kind : RateScope → RateScopeKind
  | ip _ => .ip
  | publicKey _ => .publicKey
  | receipt _ => .receipt

/-- The configured limit of a scope. -/
def RateScope.limit (config : RelayConfiguration) : RateScope → Nat
  | ip _ => config.requestIpRequestsPerWindow
  | publicKey _ => config.publicKeyRequestsPerWindow
  | receipt _ => config.receiptRequestsPerWindow

/-- The counter of a scope in a window, with its limit. -/
def RateScope.counter (P : RelayPlatform) (config : RelayConfiguration) (window : Timestamp)
    (scope : RateScope) : RelayDb.RateLimit :=
  ⟨⟨scope.kind, P.scopeHash scope, window⟩, scope.limit config⟩

/-- A call's scopes: its network, its public key and its receipt. -/
def RelayEntry.InScope (P : RelayPlatform) : RelayEntry → RateScope → Prop
  | .relay (some _) context, .ip networkScope => networkScope = context.networkScope
  | .relay (some request) _, .publicKey keyHash =>
    P.keyFingerprint request.extensionPublicKey = .ok keyHash
  | .relay (some request) _, .receipt receiptId => receiptId = request.event.core.receiptId
  | _, _ => False

/-- The rejection of a call whose clock showed `t`. -/
def rateLimited (config : RelayConfiguration) (t : Timestamp) : RelayError :=
  let remainingMs := windowStart config t + config.rateLimitWindowSeconds * 1000 - t
  .service ⟨.rateLimited, "The relay request limit was reached. Retry after the indicated window.",
    429, some (max 1 (-(-remainingMs / 1000)))⟩

/-- **A repetition after the indicated delay falls in a later window.** -/
theorem windowStart_lt {config : RelayConfiguration} (hconfig : Loaded config)
    {t later seconds : Int} (hseconds : max 1 (-(-(windowStart config t +
      config.rateLimitWindowSeconds * 1000 - t) / 1000)) = seconds)
    (hlater : t + 1000 * seconds ≤ later) : windowStart config t < windowStart config later := by
  obtain ⟨hpositive, -⟩ := hconfig.rateLimitWindowSeconds
  unfold windowStart at hseconds ⊢
  dsimp only at hseconds ⊢
  generalize hwindow : (config.rateLimitWindowSeconds : Int) * 1000 = windowMs at *
  have hwindowMs : 0 < windowMs := by omega
  -- the delay reaches the end of the window
  have hend : (t / windowMs + 1) * windowMs ≤ later := by
    have hceil : -(-(t / windowMs * windowMs + windowMs - t) / 1000) ≤ seconds := by
      rw [← hseconds]
      exact le_max_right _ _
    rw [Int.add_mul, Int.one_mul]
    omega
  have hquotient : t / windowMs + 1 ≤ later / windowMs :=
    (Int.le_ediv_iff_mul_le hwindowMs).mpr hend
  exact Int.mul_lt_mul_of_pos_right (by omega) hwindowMs

/-! ### Operations -/

/-- Counting a request against its limits. -/
def RelayOp.countsRequest : RelayOp → Bool
  | .applyRateLimits _ => true
  | _ => false

/-- Inserting an operation, or broadcasting. -/
def RelayOp.submits : RelayOp → Bool
  | .acquireOperation _ => true
  | .broadcastTransaction _ => true
  | _ => false

/-- Neither. -/
def Quiet (o : RelayOp) : Prop := o.countsRequest = false ∧ o.submits = false

/-- All but counting. -/
def Uncounted (o : RelayOp) : Prop := o.countsRequest = false

theorem Quiet.uncounted {o : RelayOp} (h : Quiet o) : Uncounted o := h.1

section programs

variable {P : RelayPlatform} {config : RelayConfiguration}

theorem quiet_call {o : RelayOp} (h : Quiet o) : (call o).Only Quiet := only_perform h

theorem now_quiet : now.Only Quiet := quiet_call ⟨rfl, rfl⟩

theorem refresh_quiet (id : Nat) : (refresh id).Only Quiet := by
  refine Prog.Only.bind (quiet_call ⟨rfl, rfl⟩) ?_
  rintro (- | row)
  · trivial
  · trivial

theorem updateOrRefresh_quiet (id : Nat) (stmt : Statement) :
    (updateOrRefresh id stmt).Only Quiet := by
  refine (quiet_call ⟨rfl, rfl⟩ : (update id stmt).Only Quiet).bind ?_
  rintro (- | row)
  · exact refresh_quiet id
  · trivial

theorem markRetryable_quiet (id : Nat) (code : RelayErrorCode) (message : String) :
    (markRetryable config id code message).Only Quiet :=
  now_quiet.bind fun _ => updateOrRefresh_quiet id _

theorem deferReconciliation_quiet (id : Nat) : (deferReconciliation config id).Only Quiet :=
  now_quiet.bind fun _ => updateOrRefresh_quiet id _

theorem recordMinedCost_quiet (row : RelayOperationRow) (blockNumber : Nat) :
    (recordMinedCost row blockNumber).Only Quiet :=
  Prog.Only.bind (quiet_call ⟨rfl, rfl⟩) fun _ => trivial

theorem markFinalWithoutTransaction_quiet (row : RelayOperationRow) :
    (markFinalWithoutTransaction row).Only Quiet :=
  Prog.Only.bind (quiet_call ⟨rfl, rfl⟩) fun _ => trivial

theorem markExternallyAnchored_quiet (row : RelayOperationRow) :
    (markExternallyAnchored row).Only Quiet :=
  Prog.Only.bind (quiet_call ⟨rfl, rfl⟩) fun _ => trivial

theorem settle_quiet (row mined : RelayOperationRow) (stmt : Timestamp → Statement) :
    (settle row mined stmt).Only Quiet := by
  refine now_quiet.bind fun t =>
    (quiet_call ⟨rfl, rfl⟩ : (update mined.id (stmt t)).Only Quiet).bind ?_
  rintro (- | row')
  · exact refresh_quiet row.id
  · trivial

theorem finalizeReceipt_quiet (row : RelayOperationRow) (receipt : RelayTransactionReceipt) :
    (finalizeReceipt config row receipt).Only Quiet := by
  unfold finalizeReceipt
  split
  · exact markRetryable_quiet _ _ _
  refine (recordMinedCost_quiet _ _).bind fun mined => ?_
  split
  · exact settle_quiet _ _ _
  split
  · exact settle_quiet _ _ _
  refine Prog.Only.bind (Prog.Only.attempt (quiet_call ⟨rfl, rfl⟩)) ?_
  rintro (e | contractState)
  · exact markRetryable_quiet _ _ _
  · dsimp only
    split
    · exact settle_quiet _ _ _
    · exact settle_quiet _ _ _

theorem awaitReceipt_uncounted {hash : HashHex} {confirmations timeoutMs : Nat}
    {f : Except RelayError RelayTransactionReceipt → RelayProg RelayOperationRow}
    (herror : ∀ e, (f (.error e)).Only Uncounted)
    (hok : ∀ receipt, (f (.ok receipt)).Only Uncounted) :
    ((call (.waitForReceipt hash confirmations timeoutMs)).attempt >>= f).Only Uncounted := by
  refine Prog.Only.bind (Prog.Only.attempt (only_perform rfl)) ?_
  rintro (e | receipt)
  · exact herror e
  · exact hok receipt

/-- A broadcast counts nothing. -/
theorem broadcastPrepared_uncounted (row : RelayOperationRow)
    (prepared : PreparedRelayTransaction) :
    (broadcastPrepared config row prepared).Only Uncounted := by
  have hmark (id : Nat) (code : RelayErrorCode) (message : String) :
      (markRetryable config id code message).Only Uncounted :=
    (markRetryable_quiet id code message).mono fun _ => Quiet.uncounted
  refine Prog.Only.bind (Prog.Only.attempt (Prog.Only.bind (only_perform rfl) fun hash => ?_)) ?_
  · split
    · trivial
    · trivial
  rintro (e | ⟨⟩)
  · exact hmark _ _ _
  refine (now_quiet.mono fun _ => Quiet.uncounted).bind fun submittedAt => ?_
  refine (now_quiet.mono fun _ => Quiet.uncounted).bind fun t => ?_
  refine Prog.Only.bind (only_perform rfl) fun stored => ?_
  have hfinal (submitted : RelayOperationRow) (receipt : RelayTransactionReceipt) :
      (if receipt.confirmations < config.confirmationTarget then
          markRetryable config submitted.id .confirmationTimeout
            "The transaction has not reached the configured confirmation target."
        else finalizeReceipt config submitted receipt).Only Uncounted := by
    split
    · exact hmark _ _ _
    · exact (finalizeReceipt_quiet _ _).mono fun _ => Quiet.uncounted
  rcases stored with - | submitted
  · refine ((refresh_quiet row.id).mono fun _ => Quiet.uncounted).bind fun submitted => ?_
    refine awaitReceipt_uncounted (fun e => ?_) (hfinal submitted)
    dsimp only
    split <;> exact hmark _ _ _
  · refine awaitReceipt_uncounted (fun e => ?_) (hfinal submitted)
    dsimp only
    split <;> exact hmark _ _ _

theorem recreatePrepared_quiet (row : RelayOperationRow) :
    (recreatePrepared P row).Only Quiet := by
  unfold recreatePrepared
  split
  · trivial
  split
  · refine Prog.Only.bind (quiet_call ⟨rfl, rfl⟩) fun prepared => ?_
    split
    · trivial
    · trivial
  · trivial

theorem rebroadcast_uncounted (row : RelayOperationRow) :
    (rebroadcast P config row).Only Uncounted := by
  refine ((recreatePrepared_quiet row).attempt.mono fun _ => Quiet.uncounted).bind ?_
  rintro (e | prepared)
  · exact (markRetryable_quiet _ _ _).mono fun _ => Quiet.uncounted
  refine (now_quiet.mono fun _ => Quiet.uncounted).bind fun t => ?_
  refine Prog.Only.bind (only_perform rfl) ?_
  rintro (- | updated)
  · exact (refresh_quiet row.id).mono fun _ => Quiet.uncounted
  · exact broadcastPrepared_uncounted updated prepared

theorem prepareNewTransaction_quiet (row : RelayOperationRow) :
    (prepareNewTransaction config row).Only Quiet := by
  have hmarked (code : RelayErrorCode) (message : String) :
      ((markRetryable config row.id code message) >>= fun marked => pure (marked, none) :
        RelayProg (RelayOperationRow × Option PreparedRelayTransaction)).Only Quiet :=
    (markRetryable_quiet _ _ _).bind fun _ => trivial
  refine Prog.Only.bind (Prog.Only.attempt (Prog.Only.bind (quiet_call ⟨rfl, rfl⟩) fun nonce =>
    Prog.Only.bind (quiet_call ⟨rfl, rfl⟩) fun address => trivial)) ?_
  rintro (e | ⟨pendingNonce, signerAddress⟩)
  · exact hmarked _ _
  refine Prog.Only.bind (Prog.Only.attempt (now_quiet.bind fun t => quiet_call ⟨rfl, rfl⟩)) ?_
  rintro (e | ⟨stored, transaction⟩)
  · exact hmarked _ _
  · trivial

theorem reconciliationDue_quiet (row : RelayOperationRow) :
    (reconciliationDue row).Only Quiet := by
  unfold reconciliationDue
  split
  · trivial
  · exact now_quiet.bind fun _ => trivial

/-- A reconciliation counts nothing, and it broadcasts only where it may. -/
theorem reconcile_only {H : RelayOp → Prop} (hquiet : ∀ o, Quiet o → H o)
    (rowInput : RelayOperationRow) (allowBroadcast : Bool)
    (hbroadcast : allowBroadcast = true → ∀ o, Uncounted o → H o) :
    (reconcile P config rowInput allowBroadcast).Only H := by
  refine ((refresh_quiet _).mono hquiet).bind fun row => ?_
  split
  · trivial
  split
  · refine ((reconciliationDue_quiet row).mono hquiet).bind fun due => ?_
    split
    · trivial
    refine (Prog.Only.mono (Prog.Only.attempt (quiet_call ⟨rfl, rfl⟩)) hquiet).bind ?_
    rintro (e | - | receipt)
    · exact (markRetryable_quiet _ _ _).mono hquiet
    · dsimp only
      split
      · rename_i hallowed
        exact (rebroadcast_uncounted row).mono (hbroadcast hallowed.1)
      split
      · exact (markRetryable_quiet _ _ _).mono hquiet
      split
      · trivial
      · exact (deferReconciliation_quiet _).mono hquiet
    · dsimp only
      split
      · exact (deferReconciliation_quiet _).mono hquiet
      · exact (finalizeReceipt_quiet _ _).mono hquiet
  · split
    · trivial
    rename_i hallowed
    split
    · exact (markFinalWithoutTransaction_quiet _).mono hquiet
    refine ((prepareNewTransaction_quiet row).mono hquiet).bind fun prepared => ?_
    split
    · exact (broadcastPrepared_uncounted _ _).mono (hbroadcast (by simpa using hallowed))
    · trivial

theorem chainCall_quiet {α : Type} {p : RelayProg α} (h : p.Only Quiet) :
    (chainCall p).Only Quiet := by
  refine h.tryCatch fun e => ?_
  rcases e with e | message | - | timeout | message <;> trivial

theorem precheckRuntime_quiet (event : ValidatedRelayEvent) :
    (precheckRuntime config event).Only Quiet := by
  refine Prog.Only.bind (chainCall_quiet (quiet_call ⟨rfl, rfl⟩)) fun chainId => ?_
  refine Prog.Only.bind (chainCall_quiet (quiet_call ⟨rfl, rfl⟩)) fun code => ?_
  split
  · trivial
  split
  · trivial
  refine Prog.Only.bind (chainCall_quiet (quiet_call ⟨rfl, rfl⟩)) fun version => ?_
  refine Prog.Only.bind (chainCall_quiet (quiet_call ⟨rfl, rfl⟩)) fun state => ?_
  split <;> trivial

theorem assertExistingBinding_quiet (row : RelayOperationRow) (event : ValidatedRelayEvent) :
    (assertExistingBinding P row event).Only Quiet := by
  unfold assertExistingBinding
  split
  · trivial
  split
  · trivial
  refine Prog.Only.bind (quiet_call ⟨rfl, rfl⟩) fun keyed => ?_
  split <;> trivial

theorem relayAnchored_quiet (event : ValidatedRelayEvent) :
    (relayAnchored P config event).Only Quiet := by
  refine Prog.Only.bind (quiet_call ⟨rfl, rfl⟩) ?_
  rintro (- | existing)
  · trivial
  refine (assertExistingBinding_quiet _ _).bind fun _ => ?_
  split
  · exact (markExternallyAnchored_quiet _).bind fun _ => trivial
  · exact (reconcile_only (fun _ => id) existing false fun h => nomatch h).bind fun _ => trivial

end programs

/-! ### Screened programs -/

section screened

variable (P : RelayPlatform) (config : RelayConfiguration) (entry : RelayEntry)

/-- The limits include those of the call's scopes, in the window of `t`. -/
def CountsFor (t : Timestamp) (limits : List RelayDb.RateLimit) : Prop :=
  ∀ scope, entry.InScope P scope → scope.counter P config (windowStart config t) ∈ limits

/-- What a program does when its request has been counted at `t`. -/
structure Heeds {α : Type} (t : Timestamp) (f : Except RelayError Bool → RelayProg α) : Prop where
  passes : (f (.ok false)).Only Uncounted
  rejects : f (.ok true) = .ret (.error (rateLimited config t))
  fails : ∀ e, ∃ e', f (.error e) = .ret (.error e')

/-- The program counts the request, with a reading of the clock, before it
submits anything, and heeds the answer. -/
inductive Screened {α : Type} : RelayProg α → Prop
  | ret (r : Except RelayError α) : Screened (.ret r)
  | quiet {o : RelayOp} {k : Except RelayError o.Result → RelayProg α} :
      Quiet o → (∀ r, Screened (k r)) → Screened (.op o k)
  | counted {k : Except RelayError Timestamp → RelayProg α} :
      (∀ t, ∃ limits f, k (.ok t) = .op (.applyRateLimits limits) f ∧
        CountsFor P config entry t limits ∧ Heeds config t f) → Screened (.op .now k)

variable {P config entry}

theorem Screened.bind {α β : Type} {p : RelayProg α} {f : α → RelayProg β} (hp : p.Only Quiet)
    (hf : ∀ a, Screened P config entry (f a)) : Screened P config entry (p >>= f) := by
  induction p with
  | ret r =>
    rcases r with e | a
    · exact .ret _
    · exact hf a
  | op o k ih => exact .quiet hp.1 fun r => ih r (hp.2 r)

theorem screened_of_only {α : Type} {p : RelayProg α} (hp : p.Only Quiet) :
    Screened P config entry p := by
  induction p with
  | ret r => exact .ret r
  | op o k ih => exact .quiet hp.1 fun r => ih r (hp.2 r)

/-- Counting a request of the call, and what follows it. -/
theorem applyRateLimits_screened {β : Type} {event : ValidatedRelayEvent} {networkScope : Text}
    {f : Unit → RelayProg β}
    (hscopes : ∀ scope, entry.InScope P scope → scope = .ip networkScope ∨
      scope = .publicKey event.extensionKeyHash ∨
      scope = .receipt event.request.event.core.receiptId)
    (hf : (f ()).Only Uncounted) :
    Screened P config entry (applyRateLimits P config event networkScope >>= f) := by
  refine .counted fun t => ⟨_, _, rfl, fun scope hscope => ?_, ?_⟩
  · rcases hscopes scope hscope with rfl | rfl | rfl
    · exact List.mem_cons_self
    · exact List.mem_cons_of_mem _ List.mem_cons_self
    · exact List.mem_cons_of_mem _ (List.mem_cons_of_mem _ List.mem_cons_self)
  · exact ⟨hf, rfl, fun e => ⟨e, rfl⟩⟩

theorem Screened.map {α β : Type} {p : RelayProg α} (h : Screened P config entry p) (g : α → β) :
    Screened P config entry (p >>= fun a => pure (g a)) := by
  induction h with
  | ret r =>
    rcases r with e | a
    · exact .ret _
    · exact .ret _
  | quiet ho _ ih => exact .quiet ho ih
  | @counted k hk =>
    refine .counted fun t => ?_
    obtain ⟨limits, f, hlimits, hcounts, hheeds⟩ := hk t
    refine ⟨limits, fun r => f r >>= fun a => pure (g a), ?_, hcounts, ?_⟩
    · show k (.ok t) >>= (fun a => pure (g a)) = _
      rw [hlimits]
      rfl
    · refine ⟨hheeds.passes.bind fun _ => trivial, ?_, fun e => ?_⟩
      · rw [hheeds.rejects]
        rfl
      · obtain ⟨e', he'⟩ := hheeds.fails e
        refine ⟨e', ?_⟩
        rw [he']
        rfl

theorem validateRequest_screened {β : Type} {request : RelayEventRequest} {stage : RelayEventStage}
    {f : ValidatedRelayEvent → RelayProg β}
    (hf : ∀ event, event.request = request →
      P.keyFingerprint request.extensionPublicKey = .ok event.extensionKeyHash →
        Screened P config entry (f event)) :
    Screened P config entry (validateRequest P request stage >>= f) := by
  unfold validateRequest
  rw [Prog.bind_assoc']
  refine Screened.bind (quiet_call ⟨rfl, rfl⟩) ?_
  rintro (- | blob)
  · exact .ret _
  dsimp only
  split
  · exact .ret _
  split
  · exact .ret _
  split
  · exact .ret _
  split
  · exact .ret _
  · next keyHash hkey => exact hf _ rfl hkey

theorem estimate_quiet (request : AnchorRequest) : (estimate request).Only Quiet :=
  Prog.Only.tryCatch (quiet_call ⟨rfl, rfl⟩) fun _ => trivial

theorem acquireOperation_uncounted (event : ValidatedRelayEvent) (request : AnchorRequest)
    (fee : RelayFeeQuote) (reservation : Nat) :
    (acquireOperation P config event request fee reservation).Only Uncounted := by
  refine Prog.Only.bind (only_perform rfl) fun statusId => ?_
  exact (now_quiet.mono fun _ => Quiet.uncounted).bind fun t => only_perform rfl

/-- A call's scopes are those of its validated event. -/
theorem RelayEntry.scopes_of_validated {request : RelayEventRequest}
    {context : RelayRequestContext} {event : ValidatedRelayEvent}
    (hrequest : event.request = request)
    (hkey : P.keyFingerprint request.extensionPublicKey = .ok event.extensionKeyHash)
    (scope : RateScope) (hscope : RelayEntry.InScope P (.relay (some request) context) scope) :
    scope = .ip context.networkScope ∨ scope = .publicKey event.extensionKeyHash ∨
      scope = .receipt event.request.event.core.receiptId := by
  cases scope with
  | ip networkScope =>
    left
    exact congrArg RateScope.ip hscope
  | publicKey keyHash =>
    right; left
    exact congrArg RateScope.publicKey (Except.ok.inj (hscope.symm.trans hkey))
  | receipt receiptId =>
    right; right
    rw [hrequest]
    exact congrArg RateScope.receipt hscope

theorem relayFresh_screened {event : ValidatedRelayEvent} {networkScope : Text}
    (hscopes : ∀ scope, entry.InScope P scope → scope = .ip networkScope ∨
      scope = .publicKey event.extensionKeyHash ∨
      scope = .receipt event.request.event.core.receiptId) (anchorRequest : AnchorRequest) :
    Screened P config entry (relayFresh P config event anchorRequest networkScope) := by
  refine Screened.bind (precheckRuntime_quiet event) fun contractState => ?_
  split
  · exact screened_of_only (relayAnchored_quiet event)
  refine Screened.bind trivial fun _ => ?_
  refine Screened.bind (estimate_quiet anchorRequest) fun fee => ?_
  dsimp only
  split
  · exact .ret _
  refine Screened.bind (chainCall_quiet (quiet_call ⟨rfl, rfl⟩)) fun balance => ?_
  split
  · exact .ret _
  refine applyRateLimits_screened hscopes ?_
  refine (acquireOperation_uncounted _ _ _ _).bind fun acquired => ?_
  exact (reconcile_only (fun _ => Quiet.uncounted) acquired.2 true fun _ _ => id).bind
    fun _ => trivial

/-- **Every path of `relay`** counts the request before it submits anything. -/
theorem relay_screened (input : Option RelayEventRequest) (context : RelayRequestContext) :
    Screened P config (.relay input context) (relay P config input context) := by
  unfold relay
  rcases hparse : parseRelayEventRequest P input with e | ⟨request, stage⟩
  · exact .ret _
  obtain rfl := parse_eq_ok hparse
  show Screened P config _ (validateRequest P request stage >>= _)
  refine validateRequest_screened fun event hrequest hkey => ?_
  have hscopes := @RelayEntry.scopes_of_validated P _ context _ hrequest hkey
  refine Screened.bind trivial fun anchorRequest => ?_
  refine Screened.bind trivial fun _ => ?_
  refine Screened.bind (quiet_call ⟨rfl, rfl⟩) ?_
  rintro (- | persisted)
  · exact relayFresh_screened hscopes anchorRequest
  refine Screened.bind (assertExistingBinding_quiet _ _) fun _ => ?_
  split
  · exact .ret _
  split
  · refine applyRateLimits_screened hscopes ?_
    refine ((precheckRuntime_quiet event).mono fun _ => Quiet.uncounted).bind fun state => ?_
    exact (reconcile_only (fun _ => Quiet.uncounted) persisted _ fun _ _ => id).bind
      fun _ => trivial
  · exact relayFresh_screened hscopes anchorRequest

end screened

/-! ### Counters -/

section counters

variable {P : RelayPlatform} {db : RelayDb} {t : Timestamp}

theorem write_counters (db : RelayDb) (old new : RelayOperationRow) (t : Timestamp) :
    (db.write old new t).2.counters = db.counters := by
  unfold RelayDb.write
  split <;> rfl

theorem update_counters (id : Nat) (stmt : Statement) :
    (db.update id stmt t).2.counters = db.counters := by
  unfold RelayDb.update
  split
  · rfl
  · next old _ =>
    have hwrite := write_counters db old (stmt.set old) t
    split
    · split
      · next h => rwa [h] at hwrite
      · next h => rwa [h] at hwrite
    · rfl

theorem failWithoutTransaction_counters (locked : RelayOperationRow) (failure : RelayFailure) :
    (db.failWithoutTransaction locked failure t).2.counters = db.counters := by
  unfold RelayDb.failWithoutTransaction
  dsimp only
  split
  · next h => exact (congrArg (·.2.counters) h).symm.trans (write_counters _ _ _ _)
  · rfl

theorem apply_counters {α : Type} {statement : RelayDb → Timestamp → Except RelayError α × RelayDb}
    (answer : DbAnswer) (h : ∀ t, (statement db t).2.counters = db.counters) :
    (answer.apply statement db).2.counters = db.counters := by
  unfold DbAnswer.apply
  split
  · exact h _
  · rfl
  · exact h _

/-- Only counting a request changes the counters. -/
theorem execute_counters {o : RelayOp} (ho : Uncounted o) (answer : o.Answer) :
    (execute P o answer db).2.counters = db.counters := by
  cases o with
  | applyRateLimits limits => cases ho
  | now => rfl
  | randomId => rfl
  | getChainId => rfl
  | getContractCode => rfl
  | getProtocolVersion => rfl
  | getBalance => rfl
  | getPendingNonce => rfl
  | getRelayerAddress => rfl
  | getReceiptState => rfl
  | estimateAnchor => rfl
  | prepareAnchor => rfl
  | broadcastTransaction => rfl
  | waitForReceipt => rfl
  | readTransactionReceipt => rfl
  | selectBlob => exact apply_counters answer fun _ => rfl
  | selectByEventHash => exact apply_counters answer fun _ => rfl
  | selectByIdempotencyKey => exact apply_counters answer fun _ => rfl
  | selectById => exact apply_counters answer fun _ => rfl
  | selectByStatusToken => exact apply_counters answer fun _ => rfl
  | acquireOperation a =>
    refine apply_counters answer fun now => ?_
    unfold RelayDb.acquireOperation
    dsimp only
    split
    · rfl
    split
    · split <;> rfl
    split
    · rfl
    split
    · rfl
    split
    · rfl
    split <;> rfl
  | countPoll statusToken =>
    refine apply_counters answer fun now => ?_
    unfold RelayDb.countPoll
    split
    · rfl
    · exact update_counters _ _
  | update id stmt => exact apply_counters answer fun _ => update_counters id stmt
  | prepareNewTransaction p =>
    obtain ⟨dbAnswer, prepareAnchor⟩ := answer
    refine apply_counters dbAnswer fun now => ?_
    unfold RelayDb.prepareNewTransaction
    split
    · rfl
    split
    · rfl
    split
    · dsimp only
      split
      · rfl
      split
      · rfl
      split
      · next h => exact (congrArg (·.2.counters) h).symm.trans (write_counters _ _ _ _)
      · rfl
    · rfl
  | recordMinedCost id blockNumber =>
    refine apply_counters answer fun now => ?_
    unfold RelayDb.recordMinedCost
    split
    · rfl
    split
    · rfl
    dsimp only
    split
    · next h => exact (congrArg (·.2.counters) h).symm.trans (write_counters _ _ _ _)
    · rfl
  | markFinalWithoutTransaction id =>
    refine apply_counters answer fun now => ?_
    unfold RelayDb.markFinalWithoutTransaction
    split
    · rfl
    split
    · rfl
    · exact failWithoutTransaction_counters _ _
  | markExternallyAnchored id =>
    refine apply_counters answer fun now => ?_
    unfold RelayDb.markExternallyAnchored
    split
    · rfl
    split
    · rfl
    · exact failWithoutTransaction_counters _ _

/-- Counting takes no counter back. -/
theorem applyRateLimits_mono (db : RelayDb) (limits : List RelayDb.RateLimit) (key : CounterKey) :
    db.counters key ≤ (db.applyRateLimits limits).2.counters key := by
  induction limits generalizing db with
  | nil => exact le_rfl
  | cons limit limits ih =>
    refine le_trans ?_ (ih _)
    by_cases hkey : key = limit.key
    · subst hkey
      simp
    · simp [hkey]

/-- **Counting a request** raises each of its counters, and a request that is not over its limits
was within each. -/
theorem applyRateLimits_counts (db : RelayDb) {limits : List RelayDb.RateLimit}
    {limit : RelayDb.RateLimit} (hlimit : limit ∈ limits) :
    db.counters limit.key + 1 ≤ (db.applyRateLimits limits).2.counters limit.key ∧
      ((db.applyRateLimits limits).1 = false → db.counters limit.key + 1 ≤ limit.limit) := by
  induction limits generalizing db with
  | nil => cases hlimit
  | cons first limits ih =>
    rcases List.mem_cons.mp hlimit with rfl | hlimit
    · refine ⟨?_, fun hwithin => ?_⟩
      · refine le_trans ?_ (applyRateLimits_mono _ limits limit.key)
        simp
      · simp only [RelayDb.applyRateLimits, Bool.or_eq_false_iff,
          decide_eq_false_iff_not] at hwithin
        omega
    · obtain ⟨hraised, hwithin⟩ := ih
        { db with
          counters := Function.update db.counters first.key (db.counters first.key + 1) } hlimit
      have hmono : db.counters limit.key ≤
          Function.update db.counters first.key (db.counters first.key + 1) limit.key := by
        by_cases hkey : limit.key = first.key
        · rw [hkey]
          simp
        · simp [hkey]
      refine ⟨le_trans (Nat.succ_le_succ hmono) hraised, fun h => ?_⟩
      simp only [RelayDb.applyRateLimits, Bool.or_eq_false_iff] at h
      exact le_trans (Nat.succ_le_succ hmono) (hwithin h.2)

/-- How counting a request can go: acknowledged, or an error after it or without it. -/
theorem execute_applyRateLimits (P : RelayPlatform) (limits : List RelayDb.RateLimit)
    (answer : DbAnswer) (db : RelayDb) :
    execute P (.applyRateLimits limits) answer db =
        (.ok (db.applyRateLimits limits).1, (db.applyRateLimits limits).2) ∨
      execute P (.applyRateLimits limits) answer db = (.error .database, db) ∨
      execute P (.applyRateLimits limits) answer db =
        (.error .database, (db.applyRateLimits limits).2) := by
  have hexecute : execute P (.applyRateLimits limits) answer db = answer.apply (fun db _ =>
      (.ok (db.applyRateLimits limits).1, (db.applyRateLimits limits).2)) db := rfl
  rw [hexecute]
  unfold DbAnswer.apply
  rcases answer.outcome with - | - | -
  · exact .inl rfl
  · exact .inr (.inl rfl)
  · exact .inr (.inr rfl)

theorem execute_mono (o : RelayOp) (answer : o.Answer) (key : CounterKey) :
    db.counters key ≤ (execute P o answer db).2.counters key := by
  by_cases ho : Uncounted o
  · exact le_of_eq (congrFun (execute_counters ho answer) key).symm
  · cases o with
    | applyRateLimits limits =>
      rcases execute_applyRateLimits P limits answer db with h | h | h
      · rw [h]
        exact applyRateLimits_mono db limits key
      · rw [h]
      · rw [h]
        exact applyRateLimits_mono db limits key
    | _ => exact absurd rfl ho

end counters

/-! ### Calls that pass -/

/-- The event counted a request against the limit, and let it pass. -/
def passes (P : RelayPlatform) (limit : RelayDb.RateLimit) : RelayEvent → Bool
  | ⟨.applyRateLimits limits, answer, before⟩ =>
    decide (limit ∈ limits) &&
      match (execute P (.applyRateLimits limits) answer before).1 with
      | .ok limited => !limited
      | .error _ => false
  | _ => false

theorem passes_counts {P : RelayPlatform} {limit : RelayDb.RateLimit} {o : RelayOp}
    {answer : o.Answer} {db : RelayDb} (h : passes P limit ⟨o, answer, db⟩ = true) :
    db.counters limit.key + 1 ≤ (execute P o answer db).2.counters limit.key ∧
      db.counters limit.key + 1 ≤ limit.limit := by
  cases o with
  | applyRateLimits limits =>
    simp only [passes, Bool.and_eq_true, decide_eq_true_eq] at h
    obtain ⟨hlimit, hpassed⟩ := h
    obtain ⟨hraised, hwithin⟩ := applyRateLimits_counts db hlimit
    rcases execute_applyRateLimits P limits answer db with h | h | h
    · rw [h] at hpassed ⊢
      exact ⟨hraised, hwithin (by simpa using hpassed)⟩
    · rw [h] at hpassed
      cases hpassed
    · rw [h] at hpassed
      cases hpassed
  | _ => cases h

/-- **What a counter has let pass**: never more calls than it shows, nor more than its limit. -/
theorem counted_le {P : RelayPlatform} {config : RelayConfiguration}
    {Allowed : (o : RelayOp) → o.Answer → Prop} {blobs : List BlobBindingRow} {c : RelayRun}
    (h : RelayReaches P config Allowed blobs c) (limit : RelayDb.RateLimit) :
    (c.threads.map fun t => t.log.countP (passes P limit)).sum ≤ c.state.counters limit.key ∧
      (c.threads.map fun t => t.log.countP (passes P limit)).sum ≤ limit.limit := by
  induction h with
  | refl => exact ⟨Nat.zero_le _, Nat.zero_le _⟩
  | tail _ hstep ih =>
    cases hstep with
    | start call => simpa using ih
    | @perform s trace before after call log o k answer hallowed =>
      simp only [List.map_append, List.map_cons, List.sum_append, List.sum_cons,
        List.countP_append] at ih ⊢
      obtain ⟨hcounter, hlimit⟩ := ih
      by_cases hpasses : passes P limit ⟨o, answer, s⟩ = true
      · have hone : List.countP (passes P limit) [(⟨o, answer, s⟩ : RelayEvent)] = 1 := by
          simp [hpasses]
        obtain ⟨hraised, hwithin⟩ := passes_counts hpasses
        show _ ≤ (execute P o answer s).2.counters limit.key ∧ _
        rw [hone]
        omega
      · have hnone : List.countP (passes P limit) [(⟨o, answer, s⟩ : RelayEvent)] = 0 := by
          simp [hpasses]
        have hmono : s.counters limit.key ≤ (execute P o answer s).2.counters limit.key :=
          execute_mono o answer limit.key
        show _ ≤ (execute P o answer s).2.counters limit.key ∧ _
        rw [hnone]
        omega

/-! ### Stages of a call -/

/-- The clock reading with which a call counted its request. -/
def limiterReading : List RelayEvent → Option Timestamp
  | ⟨.now, t, _⟩ :: ⟨.applyRateLimits _, _, _⟩ :: _ => some t
  | _ :: log => limiterReading log
  | [] => none

/-- The call inserted an operation or broadcast, or tried to. -/
def Submits (log : List RelayEvent) : Prop := ∃ e ∈ log, e.op.submits = true

/-- The call's request was counted and was over a limit. -/
def OverLimit (P : RelayPlatform) (log : List RelayEvent) : Prop :=
  ∃ limits answer before, (⟨.applyRateLimits limits, answer, before⟩ : RelayEvent) ∈ log ∧
    (execute P (.applyRateLimits limits) answer before).1 = .ok true

section stages

variable (P : RelayPlatform) (config : RelayConfiguration) (entry : RelayEntry)

/-- Where a call stands, by its log and what is left of it: it has not counted its request, has read
the clock for it, or has counted it; then it goes on only if it was let pass. -/
inductive Stage {α : Type} : List RelayEvent → RelayProg α → Prop
  | uncounted {log : List RelayEvent} {rest : RelayProg α} :
      (∀ e ∈ log, Quiet e.op) → Screened P config entry rest → Stage log rest
  | reading {log : List RelayEvent} {t : Timestamp} {db : RelayDb}
      {limits : List RelayDb.RateLimit} {f : Except RelayError Bool → RelayProg α} :
      (∀ e ∈ log, Quiet e.op) → CountsFor P config entry t limits → Heeds config t f →
        Stage (log ++ [⟨.now, t, db⟩]) (.op (.applyRateLimits limits) f)
  | counted {log later : List RelayEvent} {t : Timestamp} {db db' : RelayDb}
      {limits : List RelayDb.RateLimit} {answer : DbAnswer} {rest : RelayProg α} :
      (∀ e ∈ log, Quiet e.op) → CountsFor P config entry t limits →
        (∀ e ∈ later, Uncounted e.op) → rest.Only Uncounted →
        ((execute P (.applyRateLimits limits) answer db').1 = .ok false ∨
          later = [] ∧ (execute P (.applyRateLimits limits) answer db').1 = .ok true ∧
            rest = .ret (.error (rateLimited config t)) ∨
          later = [] ∧ (∃ e, (execute P (.applyRateLimits limits) answer db').1 = .error e) ∧
            ∃ e, rest = .ret (.error e)) →
        Stage (log ++ ⟨.now, t, db⟩ :: ⟨.applyRateLimits limits, answer, db'⟩ :: later) rest

variable {P config entry}

theorem Stage.step {α : Type} {log : List RelayEvent} {o : RelayOp}
    {k : Except RelayError o.Result → RelayProg α} (h : Stage P config entry log (.op o k))
    (answer : o.Answer) (db : RelayDb) :
    Stage P config entry (log ++ [⟨o, answer, db⟩]) (k (execute P o answer db).1) := by
  cases h with
  | uncounted hlog hscreened =>
    cases hscreened with
    | quiet ho hk =>
      refine .uncounted (fun e he => ?_) (hk _)
      rcases List.mem_append.mp he with he | he
      · exact hlog e he
      · rw [List.mem_singleton.mp he]
        exact ho
    | @counted k hk =>
      obtain ⟨limits, f, hlimits, hcounts, hheeds⟩ := hk answer
      show Stage P config entry _ (k (.ok answer))
      rw [hlimits]
      exact .reading hlog hcounts hheeds
  | @reading log t before limits f hlog hcounts hheeds =>
    rw [List.append_assoc]
    refine .counted hlog hcounts (fun e he => absurd he List.not_mem_nil) ?_ ?_
    · rcases (execute P (.applyRateLimits limits) answer db).1 with e | (- | -)
      · obtain ⟨e', he'⟩ := hheeds.fails e
        rw [he']
        trivial
      · exact hheeds.passes
      · rw [hheeds.rejects]
        trivial
    · rcases (execute P (.applyRateLimits limits) answer db).1 with e | (- | -)
      · exact .inr (.inr ⟨rfl, ⟨e, rfl⟩, hheeds.fails e⟩)
      · exact .inl rfl
      · exact .inr (.inl ⟨rfl, rfl, hheeds.rejects⟩)
  | @counted log later t before before' limits answer' rest hlog hcounts hlater honly hverdict =>
    have hpassed : (execute P (.applyRateLimits limits) answer' before').1 = .ok false := by
      rcases hverdict with hpassed | ⟨-, -, hrest⟩ | ⟨-, -, e, hrest⟩
      · exact hpassed
      · cases hrest
      · cases hrest
    rw [List.append_assoc, List.cons_append, List.cons_append]
    refine .counted hlog hcounts (fun e he => ?_) (honly.2 _) (.inl hpassed)
    rcases List.mem_append.mp he with he | he
    · exact hlater e he
    · rw [List.mem_singleton.mp he]
      exact honly.1

/-- The reading of a log whose request was counted. -/
theorem limiterReading_append {log later : List RelayEvent} {t : Timestamp} {db db' : RelayDb}
    {limits : List RelayDb.RateLimit} {answer : DbAnswer} (hlog : ∀ e ∈ log, Quiet e.op) :
    limiterReading (log ++ ⟨.now, t, db⟩ :: ⟨.applyRateLimits limits, answer, db'⟩ :: later) =
      some t := by
  induction log with
  | nil => rfl
  | cons e log ih =>
    have hrest := ih fun e he => hlog e (List.mem_cons_of_mem _ he)
    rw [List.cons_append, limiterReading, hrest]
    -- the event after `e` is quiet, or the reading itself
    rintro t' db₁ limits' answer' db₂ later' rfl hnext
    rcases log with - | ⟨e, log⟩
    · cases hnext
    · rw [List.cons_append, List.cons.injEq] at hnext
      have hquiet := (hlog e (by simp)).1
      rw [hnext.1] at hquiet
      cases hquiet

theorem limiterReading_quiet {log : List RelayEvent} (hlog : ∀ e ∈ log, Uncounted e.op) :
    limiterReading log = none := by
  induction log with
  | nil => rfl
  | cons e log ih =>
    rw [limiterReading]
    · exact ih fun e he => hlog e (List.mem_cons_of_mem _ he)
    · rintro t db limits answer db' later rfl rfl
      have hquiet := hlog ⟨.applyRateLimits limits, answer, db'⟩ (by simp)
      cases hquiet

/-- What a stage tells of a call that has counted its request. -/
theorem Stage.of_reading {α : Type} {log : List RelayEvent} {rest : RelayProg α}
    (h : Stage P config entry log rest) {t : Timestamp} (ht : limiterReading log = some t) :
    ∃ log₀ later db db' limits answer,
      log = log₀ ++ ⟨.now, t, db⟩ :: ⟨.applyRateLimits limits, answer, db'⟩ :: later ∧
      (∀ e ∈ log₀, Quiet e.op) ∧ CountsFor P config entry t limits ∧
      (∀ e ∈ later, Uncounted e.op) ∧
      ((execute P (.applyRateLimits limits) answer db').1 = .ok false ∨
        later = [] ∧ (execute P (.applyRateLimits limits) answer db').1 = .ok true ∧
          rest = .ret (.error (rateLimited config t)) ∨
        later = [] ∧ ∃ e, (execute P (.applyRateLimits limits) answer db').1 = .error e) := by
  cases h with
  | uncounted hlog _ =>
    rw [limiterReading_quiet fun e he => (hlog e he).1] at ht
    cases ht
  | reading hlog _ _ =>
    rw [limiterReading_quiet] at ht
    · cases ht
    · intro e he
      rcases List.mem_append.mp he with he | he
      · exact (hlog e he).1
      · rw [List.mem_singleton.mp he]
        rfl
  | counted hlog hcounts hlater _ hverdict =>
    rw [limiterReading_append hlog] at ht
    obtain rfl := Option.some.inj ht
    refine ⟨_, _, _, _, _, _, rfl, hlog, hcounts, hlater, ?_⟩
    exact hverdict.imp_right (Or.imp_right fun h => ⟨h.1, h.2.1⟩)

/-- A call that submits has counted its request, and was let pass. -/
theorem Stage.of_submits {α : Type} {log : List RelayEvent} {rest : RelayProg α}
    (h : Stage P config entry log rest) (hsubmits : Submits log) :
    ∃ t limits answer db, limiterReading log = some t ∧
      (⟨.applyRateLimits limits, answer, db⟩ : RelayEvent) ∈ log ∧
      CountsFor P config entry t limits ∧
      (execute P (.applyRateLimits limits) answer db).1 = .ok false := by
  obtain ⟨e, he, hsubmits⟩ := hsubmits
  have hloud : ¬ Quiet e.op := fun hquiet => by
    rw [hquiet.2] at hsubmits
    cases hsubmits
  cases h with
  | uncounted hlog _ => exact absurd (hlog e he) hloud
  | reading hlog _ _ =>
    rcases List.mem_append.mp he with he | he
    · exact absurd (hlog e he) hloud
    · rw [List.mem_singleton.mp he] at hsubmits
      cases hsubmits
  | @counted log later _ _ _ _ _ _ hlog hcounts hlater _ hverdict =>
    -- what submits comes after counting
    have hlaterNe : later ≠ [] := by
      rintro rfl
      rcases List.mem_append.mp he with he | he
      · exact hloud (hlog e he)
      rcases List.mem_cons.mp he with rfl | he
      · cases hsubmits
      · rw [List.mem_singleton.mp he] at hsubmits
        cases hsubmits
    refine ⟨_, _, _, _, limiterReading_append hlog,
      List.mem_append_right _ (List.mem_cons_of_mem _ List.mem_cons_self), hcounts, ?_⟩
    rcases hverdict with hpassed | ⟨hnil, -, -⟩ | ⟨hnil, -, -⟩
    · exact hpassed
    · exact absurd hnil hlaterNe
    · exact absurd hnil hlaterNe

end stages

/-! ### Runs -/

section runs

variable {P : RelayPlatform} {config : RelayConfiguration}
  {Allowed : (o : RelayOp) → o.Answer → Prop} {blobs : List BlobBindingRow} {c : RelayRun}

/-- A status read counts and submits nothing. -/
theorem getOperation_quiet (statusToken : Option OpaqueId) :
    (getOperation P config statusToken).Only Quiet := by
  unfold getOperation
  rcases statusToken with - | statusToken
  · trivial
  refine Prog.Only.bind (quiet_call ⟨rfl, rfl⟩) fun polled => ?_
  have hfound (row : RelayOperationRow) :
      (if row.state.isTerminal = true then pure (some (toOperationView row))
        else if row.pollCount > config.maxConfirmationPolls then pure (some (toOperationView row))
        else do
          let reconciled ← reconcile P config row false
          pure (some (toOperationView reconciled)) :
        RelayProg (Option RelayOperationView)).Only Quiet := by
    split
    · trivial
    split
    · trivial
    · exact (reconcile_only (fun _ => id) row false Bool.noConfusion).bind fun _ => trivial
  rcases polled with - | row
  · refine Prog.Only.bind (quiet_call ⟨rfl, rfl⟩) fun found => ?_
    rcases found with - | row
    · trivial
    · exact hfound row
  · exact hfound row

/-- **Every call of a run is at one of the stages.** -/
theorem stage_of_run (h : RelayReaches P config Allowed blobs c) :
    ∀ t ∈ c.threads, Stage P config t.call t.log t.rest := by
  refine System.Reaches.each (I := fun call log rest => Stage P config call log rest) ?_ ?_ h
  · rintro (⟨input, context⟩ | statusToken)
    · exact .uncounted (fun e he => absurd he List.not_mem_nil)
        ((relay_screened input context).map some)
    · exact .uncounted (fun e he => absurd he List.not_mem_nil)
        (screened_of_only (getOperation_quiet statusToken))
  · exact fun call log o k answer db _ hstage => hstage.step answer db

/-- The call submits, in the scope, and the reading with which it counted falls in the window. -/
def SubmitsIn (P : RelayPlatform) (config : RelayConfiguration) (scope : RateScope)
    (window : Timestamp) (t : RelayThread) : Prop :=
  t.call.InScope P scope ∧ Submits t.log ∧
    ∃ reading, limiterReading t.log = some reading ∧ windowStart config reading = window

theorem passes_of_submitsIn {scope : RateScope} {window : Timestamp} {t : RelayThread}
    (hstage : Stage P config t.call t.log t.rest) (h : SubmitsIn P config scope window t) :
    1 ≤ t.log.countP (passes P (scope.counter P config window)) := by
  obtain ⟨hscope, hsubmits, reading, hreading, rfl⟩ := h
  obtain ⟨reading', limits, answer, db, hreading', hmem, hcounts, hpassed⟩ :=
    hstage.of_submits hsubmits
  obtain rfl := Option.some.inj (hreading.symm.trans hreading')
  refine List.one_le_countP_iff.mpr ⟨_, hmem, ?_⟩
  simp [passes, hpassed, hcounts scope hscope]

theorem countP_le_sum {α : Type} {p : α → Bool} {f : α → Nat} {list : List α}
    (h : ∀ a ∈ list, p a = true → 1 ≤ f a) : list.countP p ≤ (list.map f).sum := by
  induction list with
  | nil => exact le_rfl
  | cons a list ih =>
    have hrest := ih fun a ha => h a (List.mem_cons_of_mem _ ha)
    rw [List.map_cons, List.sum_cons, List.countP_cons]
    split
    · next ha =>
      have hone := h a List.mem_cons_self ha
      omega
    · omega

open Classical in
/-- What rate limiting is for, of a run so far. -/
structure RateLimited (P : RelayPlatform) (config : RelayConfiguration) (c : RelayRun) : Prop where
  /-- A call that submits has counted its request. -/
  counted : ∀ t ∈ c.threads, Submits t.log → ∃ reading, limiterReading t.log = some reading
  /-- Of the calls with a reading in a window, no more than a scope's limit submit. -/
  within : ∀ scope window,
    c.threads.countP (fun t => SubmitsIn P config scope window t) ≤ scope.limit config
  /-- A call over a limit ends with a delay that leads to a later window. -/
  later : ∀ t ∈ c.threads, ∀ reading, limiterReading t.log = some reading → OverLimit P t.log →
    ∃ message seconds,
      t.rest = .ret (.error (.service ⟨.rateLimited, message, 429, some seconds⟩)) ∧
      ∀ later, reading + 1000 * seconds ≤ later →
        windowStart config reading < windowStart config later

open Classical in
/-- **Rate limiting covers every submission**, in every run. -/
theorem relay_rate_limited (hconfig : Loaded config) (h : RelayReaches P config Allowed blobs c) :
    RateLimited P config c := by
  refine ⟨fun t ht hsubmits => ?_, fun scope window => ?_, fun t ht reading hreading hover => ?_⟩
  · obtain ⟨reading, -, -, -, hreading, -⟩ := (stage_of_run h t ht).of_submits hsubmits
    exact ⟨reading, hreading⟩
  · have hcounted := (counted_le h (scope.counter P config window)).2
    refine le_trans (countP_le_sum fun t ht hin => ?_) hcounted
    exact passes_of_submitsIn (stage_of_run h t ht) (of_decide_eq_true hin)
  · obtain ⟨log, later, db, db', limits, answer, hlog, hquiet, -, hlater, hverdict⟩ :=
      (stage_of_run h t ht).of_reading hreading
    obtain ⟨limits', answer', before, hmem, hresult⟩ := hover
    -- the request was counted once
    have hsame : (⟨.applyRateLimits limits', answer', before⟩ : RelayEvent) =
        ⟨.applyRateLimits limits, answer, db'⟩ := by
      rw [hlog] at hmem
      rcases List.mem_append.mp hmem with hmem | hmem
      · cases (hquiet _ hmem).1
      rcases List.mem_cons.mp hmem with hmem | hmem
      · cases hmem
      rcases List.mem_cons.mp hmem with hmem | hmem
      · exact hmem
      · cases hlater _ hmem
    cases hsame
    rcases hverdict with hpassed | ⟨-, -, hrest⟩ | ⟨-, e, herror⟩
    · rw [hresult] at hpassed
      cases hpassed
    · exact ⟨_, _, hrest, fun later hlater => windowStart_lt hconfig rfl hlater⟩
    · rw [hresult] at herror
      cases herror

end runs

/-! ### A run -/

def limitedConfiguration : RelayConfiguration :=
  { sampleConfiguration with receiptRequestsPerWindow := 1 }

/-- The event is relayed twice, a second and a half into a window that admits one request. -/
def limitedRun : RelayRun :=
  let S := relaySystem samplePlatform limitedConfiguration anyAnswer
  S.serve (sampleEnv 1500 freshState none) (.relay (some sampleRequest) ⟨ascii "ip"⟩) 40
    (S.serve (sampleEnv 1500 freshState none) (.relay (some sampleRequest) ⟨ascii "ip"⟩) 40
      ⟨RelayDb.initial sampleBlobs, [], []⟩)

theorem limitedRun_rate_limited :
    RateLimited samplePlatform limitedConfiguration limitedRun ∧
      limitedRun.threads.map (fun t => limiterReading t.log) = [some 1500, some 1500] ∧
      limitedRun.threads.map (fun t => t.log.any (·.op.submits)) = [false, true] :=
  ⟨relay_rate_limited
    (by constructor <;> exact ⟨by decide, by decide⟩)
    (.serve (fun _ _ => trivial) _ 40 (.serve (fun _ _ => trivial) _ 40 .refl)),
    by decide +kernel, by decide +kernel⟩

end SubmittedIt.Relay
