/-
SubmittedIt/RelayRuns.lean

Runs of the relay: any number of requests in any interleaving.

`Permits` is what the programs of the service keep to when they perform an
operation, given what the request has performed before: what it knows of the
row it names, and the answers its decision rests on.  `Consistent` is the
invariant of the database that every permitted operation keeps.

Main results: `Effect.consistent` (permitted operations keep the invariant)
and `Effect.seen` (what a request knows of a row it has read stays true of the
stored row).
-/
import SubmittedIt.Threads
import SubmittedIt.RelayFinalization

namespace SubmittedIt.Relay

open Transaction ReceiptCore ContractClient

/-! ### The system -/

/-- A request to one of the service's entry points. -/
inductive RelayEntry
  | relay (input : Option RelayEventRequest) (context : RelayRequestContext)
  | getOperation (statusToken : Option OpaqueId)

abbrev RelayEvent := Event RelayOp RelayOp.Answer RelayDb

abbrev RelayThread :=
  Thread RelayOp RelayOp.Result RelayError (Option RelayOperationView) RelayDb RelayEntry
    RelayOp.Answer

abbrev RelayRun :=
  Configuration RelayOp RelayOp.Result RelayError (Option RelayOperationView) RelayDb RelayEntry
    RelayOp.Answer

/-- The relay, with the answers its environment may give. -/
def relaySystem (P : RelayPlatform) (config : RelayConfiguration)
    (Allowed : (o : RelayOp) → o.Answer → Prop) :
    System RelayOp RelayOp.Result RelayError (Option RelayOperationView) RelayDb RelayEntry
      RelayOp.Answer where
  execute := execute P
  Allowed := Allowed
  program
    | .relay input context => relay P config input context >>= fun view => pure (some view)
    | .getOperation statusToken => getOperation P config statusToken

/-- Any answer at all. -/
def anyAnswer : (o : RelayOp) → o.Answer → Prop := fun _ _ => True

/-- `prepareAnchor` of the gateway returns the nonce it was asked to sign
with; all else is free. -/
def signsNonce : (o : RelayOp) → o.Answer → Prop
  | .prepareAnchor _ _ nonce, answer => ∀ prepared, answer = .ok prepared → prepared.nonce = nonce
  | .prepareNewTransaction _, (_, prepareAnchor) => ∀ request fee nonce prepared,
      prepareAnchor request fee nonce = .ok prepared → prepared.nonce = nonce
  | _, _ => True

/-- The run's configurations that start with uploaded blobs only. -/
def RelayReaches (P : RelayPlatform) (config : RelayConfiguration)
    (Allowed : (o : RelayOp) → o.Answer → Prop) (blobs : List BlobBindingRow) (c : RelayRun) :
    Prop :=
  (relaySystem P config Allowed).Reaches (RelayDb.initial blobs) c

/-- Every reachable database is the state of a run. -/
theorem relayReaches_of_reachable {P : RelayPlatform} {config : RelayConfiguration}
    {blobs : List BlobBindingRow} {db : RelayDb} (h : ReachableDb P config blobs db) :
    ∃ c, RelayReaches P config anyAnswer blobs c ∧ c.state = db := by
  refine reaches_of_reachable (S := relaySystem P config anyAnswer) ?_ (fun _ _ => trivial) h
  rintro p (⟨input, context⟩ | ⟨statusToken⟩)
  · refine ⟨.relay input context, ?_⟩
    show _ = (relay P config input context >>= fun view => pure (some view)) >>= fun _ => pure ()
    rw [Prog.bind_assoc']
    rfl
  · exact ⟨.getOperation statusToken, rfl⟩

/-- The range of a setting that `parsePositiveInteger` accepts. -/
def PositiveInteger (value maximum : Nat) : Prop := 0 < value ∧ value ≤ maximum

/-- What `loadRelayConfiguration` has checked of the settings the service
uses. -/
structure Loaded (config : RelayConfiguration) : Prop where
  chainId : PositiveInteger config.chainId 2147483647
  confirmationPollIntervalMs : PositiveInteger config.confirmationPollIntervalMs 60000
  confirmationTarget : PositiveInteger config.confirmationTarget 64
  confirmationTimeoutMs : PositiveInteger config.confirmationTimeoutMs 300000
  maxAttemptsPerEvent : PositiveInteger config.maxAttemptsPerEvent 10
  maxConfirmationPolls : PositiveInteger config.maxConfirmationPolls 1000
  publicKeyRequestsPerWindow : PositiveInteger config.publicKeyRequestsPerWindow 10000
  rateLimitWindowSeconds : PositiveInteger config.rateLimitWindowSeconds 86400
  receiptRequestsPerWindow : PositiveInteger config.receiptRequestsPerWindow 10000
  requestIpRequestsPerWindow : PositiveInteger config.requestIpRequestsPerWindow 10000

theorem sampleConfiguration_loaded : Loaded sampleConfiguration := by
  constructor <;> exact ⟨by decide, by decide⟩

/-! ### What programs keep to -/

/-- The gateway returned the receipt. -/
inductive ReturnsReceipt : RelayEvent → RelayTransactionReceipt → Prop
  | read (hash : HashHex) (receipt : RelayTransactionReceipt) (before : RelayDb) :
      ReturnsReceipt ⟨.readTransactionReceipt hash, .ok (some receipt), before⟩ receipt
  | waited (hash : HashHex) (confirmations timeoutMs : Nat) (receipt : RelayTransactionReceipt)
      (before : RelayDb) :
      ReturnsReceipt ⟨.waitForReceipt hash confirmations timeoutMs, .ok receipt, before⟩ receipt

/-- The gateway returned a successful receipt of the row's transaction, with
the target confirmations and the registry event. -/
def ShowsMined (config : RelayConfiguration) (row : RelayOperationRow) (log : List RelayEvent) :
    Prop :=
  ∃ e ∈ log, ∃ receipt, ReturnsReceipt e receipt ∧
    row.transaction.hash = some receipt.transactionHash ∧ receipt.reverted = false ∧
    config.confirmationTarget ≤ receipt.confirmations ∧ receipt.contractEventFound = true

/-- After such a receipt, the registry showed the row's event anchored. -/
def ShowsAnchored (config : RelayConfiguration) (row : RelayOperationRow) (log : List RelayEvent) :
    Prop :=
  ∃ earlier before later contractState,
    log = earlier ++ ⟨.getReceiptState row.binding.receiptId row.binding.eventHash,
      .ok contractState, before⟩ :: later ∧
    ShowsMined config row earlier ∧ contractState.isEventAnchored = true ∧
    row.binding.contractStage ≤ contractState.currentStage ∧
    contractState.extensionKeyHash = row.binding.extensionKeyHash

section log

variable {config : RelayConfiguration} {row row' : RelayOperationRow} {log log' : List RelayEvent}

theorem ShowsMined.mono (h : ShowsMined config row log) (hlog : log <+: log') :
    ShowsMined config row log' := by
  obtain ⟨e, he, hreceipt⟩ := h
  exact ⟨e, hlog.subset he, hreceipt⟩

theorem ShowsAnchored.mono (h : ShowsAnchored config row log) (hlog : log <+: log') :
    ShowsAnchored config row log' := by
  obtain ⟨earlier, before, later, contractState, rfl, hshows⟩ := h
  obtain ⟨more, rfl⟩ := hlog
  exact ⟨earlier, before, later ++ more, contractState, by simp, hshows⟩

theorem ShowsMined.congr (h : ShowsMined config row log)
    (htransaction : row'.transaction = row.transaction) : ShowsMined config row' log := by
  obtain ⟨e, he, receipt, hreturns, hhash, hrest⟩ := h
  exact ⟨e, he, receipt, hreturns, by rw [htransaction]; exact hhash, hrest⟩

theorem ShowsAnchored.congr (h : ShowsAnchored config row log)
    (hbinding : row'.binding = row.binding) (htransaction : row'.transaction = row.transaction) :
    ShowsAnchored config row' log := by
  obtain ⟨earlier, before, later, contractState, hlog, hmined, hrest⟩ := h
  refine ⟨earlier, before, later, contractState, ?_, hmined.congr htransaction, ?_⟩
  · rw [hbinding]
    exact hlog
  · rw [hbinding]
    exact hrest

end log

/-- The row on which an event recorded, and was told it recorded, that a
transaction is about to be broadcast. -/
def authorized (P : RelayPlatform) : RelayEvent → Option RelayOperationRow
  | ⟨.prepareNewTransaction p, answer, before⟩ =>
    match (execute P (.prepareNewTransaction p) answer before).1 with
    | .ok (row, some _) => row
    | _ => none
  | ⟨.update id (.rebroadcast next maxAttempts), answer, before⟩ =>
    match (execute P (.update id (.rebroadcast next maxAttempts)) answer before).1 with
    | .ok row => row
    | .error _ => none
  | _ => none

/-- The gateway may have signed the transaction for this request. -/
def Signs (Allowed : (o : RelayOp) → o.Answer → Prop) (request : AnchorRequest)
    (fee : RelayFeeQuote) (nonce : Nat) (prepared : PreparedRelayTransaction) : Prop :=
  Allowed (.prepareAnchor request fee nonce) (.ok prepared) ∨
    ∃ p answer prepareAnchor, Allowed (.prepareNewTransaction p) (answer, prepareAnchor) ∧
      prepareAnchor request fee nonce = .ok prepared

/-- The transaction is the one recorded on the row: signed for the row's
request, fee and nonce. -/
structure RecordedOn (P : RelayPlatform) (Allowed : (o : RelayOp) → o.Answer → Prop)
    (row : RelayOperationRow) (prepared : PreparedRelayTransaction) : Prop where
  hash : row.transaction.hash = some prepared.hash
  signed : ∃ request fee nonce, requestFromRow P.checksum row = .ok request ∧
    feeFromRow row = some fee ∧ Signs Allowed request fee nonce prepared ∧
    (row.transaction.nonce = some nonce ∨ row.transaction.nonce = some prepared.nonce)

/-- A row with an identifier has a transaction. -/
def HasTransaction (db : RelayDb) (id : Nat) : Prop :=
  ∃ row ∈ db.operations, row.id = id ∧ row.transaction.hash ≠ none

/-- What a request may do, after what it has done. -/
def Permits (P : RelayPlatform) (config : RelayConfiguration)
    (Allowed : (o : RelayOp) → o.Answer → Prop) (log : List RelayEvent) :
    (o : RelayOp) → o.Answer → RelayDb → Prop
  | .acquireOperation a, _, _ =>
    a.dailyBudgetWei = config.dailyBudgetWei ∧ a.confirmationTarget = config.confirmationTarget ∧
      a.reservation = a.fee.gasLimit * a.fee.maxFeePerGas
  | .prepareNewTransaction p, _, _ =>
    0 < config.maxAttemptsPerEvent ∧ p.nonceKey.chainId = config.chainId ∧
      p.nonceKey.contractAddress = config.contractAddress
  | .update id (.rebroadcast _ maxAttempts), _, db =>
    maxAttempts = config.maxAttemptsPerEvent ∧ HasTransaction db id
  | .update id (.confirmed ..), _, db =>
    ∃ row ∈ db.operations, row.id = id ∧ ShowsAnchored config row log
  | .recordMinedCost id _, _, db => HasTransaction db id
  | .markFinalWithoutTransaction _, _, _ => config.maxAttemptsPerEvent = 0
  | .broadcastTransaction transaction, _, db =>
    ∃ row ∈ db.operations, RecordedOn P Allowed row transaction ∧
      ∃ earlier e authorizedRow, log = earlier ++ [e] ∧ authorized P e = some authorizedRow ∧
        authorizedRow.id = row.id
  | _, _, _ => True

/-! ### The invariant -/

/-- What every stored row satisfies. -/
structure Kept (config : RelayConfiguration) (row : RelayOperationRow) : Prop where
  unattempted : row.transaction.hash = none → row.attemptCount = 0
  attempts : row.attemptCount ≤ config.maxAttemptsPerEvent
  reserved : row.chargedFeeWei = 0 →
    0 < row.reservedFeeWei ∨ row.state = .failedFinal ∧ row.transaction.hash = none
  target : row.binding.confirmationTarget = config.confirmationTarget

/-- No two rows have a value of `f` in common. -/
def UniqueBy {β : Type} (f : RelayOperationRow → Option β) (rows : List RelayOperationRow) : Prop :=
  ∀ r ∈ rows, ∀ r' ∈ rows, ∀ v, f r = some v → f r' = some v → r.id = r'.id

/-- The invariant of the relay's database. -/
structure Consistent (config : RelayConfiguration) (db : RelayDb) : Prop where
  ids : (db.operations.map (·.id)).Nodup
  events : UniqueBy (fun r => some r.binding.eventHash) db.operations
  keys : UniqueBy (fun r => r.binding.idempotencyKeyHash) db.operations
  hashes : UniqueBy (fun r => r.transaction.hash) db.operations
  rows : ∀ row ∈ db.operations, Kept config row

section rows

variable {config : RelayConfiguration} {db : RelayDb} {rows : List RelayOperationRow}
  {old new stored row row' : RelayOperationRow}

/-- With unique identifiers, the stored row of an identifier is the row that
carries it. -/
theorem row_of_mem (hids : (db.operations.map (·.id)).Nodup) (hrow : row ∈ db.operations) :
    db.row row.id = some row := by
  rcases hfind : db.row row.id with - | found
  · have hno := List.find?_eq_none.mp hfind row hrow
    simp at hno
  · rw [List.inj_on_of_nodup_map hids (row_mem hfind) hrow (row_id hfind)]

theorem eq_of_id (hids : (db.operations.map (·.id)).Nodup) (hrow : row ∈ db.operations)
    (hrow' : row' ∈ db.operations) (hid : row.id = row'.id) : row = row' :=
  List.inj_on_of_nodup_map hids hrow hrow' hid

theorem mem_replace (hmem : row ∈ rows.map fun r => if r.id = old.id then stored else r) :
    row = stored ∨ row ∈ rows ∧ row.id ≠ old.id := by
  obtain ⟨r, hr, rfl⟩ := List.mem_map.mp hmem
  by_cases hid : r.id = old.id
  · rw [if_pos hid]
    exact .inl rfl
  · rw [if_neg hid]
    exact .inr ⟨hr, hid⟩

theorem UniqueBy.replace {β : Type} {f : RelayOperationRow → Option β} (h : UniqueBy f rows)
    (hold : old ∈ rows) (hid : stored.id = old.id)
    (hf : f stored = f old ∨ ∀ r ∈ rows, ∀ v, f stored = some v → f r ≠ some v) :
    UniqueBy f (rows.map fun r => if r.id = old.id then stored else r) := by
  have hside : ∀ r ∈ rows, ∀ v, f stored = some v → f r = some v → stored.id = r.id := by
    intro r hr v hv hrv
    rcases hf with hsame | hfresh
    · rw [hid]
      exact h old hold r hr v (hsame ▸ hv) hrv
    · exact absurd hrv (hfresh r hr v hv)
  intro r hr r' hr' v hv hv'
  rcases mem_replace hr with rfl | ⟨hmem, -⟩
  · rcases mem_replace hr' with rfl | ⟨hmem', -⟩
    · rfl
    · exact hside r' hmem' v hv hv'
  · rcases mem_replace hr' with rfl | ⟨hmem', -⟩
    · exact (hside r hmem v hv' hv).symm
    · exact h r hmem r' hmem' v hv hv'

theorem UniqueBy.insert {β : Type} {f : RelayOperationRow → Option β} (h : UniqueBy f rows)
    (hfresh : ∀ r ∈ rows, ∀ v, f new = some v → f r ≠ some v) : UniqueBy f (rows ++ [new]) := by
  intro r hr r' hr' v hv hv'
  rcases List.mem_append.mp hr with hmem | hnew
  · rcases List.mem_append.mp hr' with hmem' | hnew'
    · exact h r hmem r' hmem' v hv hv'
    · rw [List.mem_singleton.mp hnew'] at hv'
      exact absurd hv (hfresh r hmem v hv')
  · rcases List.mem_append.mp hr' with hmem' | hnew'
    · rw [List.mem_singleton.mp hnew] at hv
      exact absurd hv' (hfresh r' hmem' v hv)
    · rw [List.mem_singleton.mp hnew, List.mem_singleton.mp hnew']

end rows

section preserve

variable {P : RelayPlatform} {config : RelayConfiguration}
  {Allowed : (o : RelayOp) → o.Answer → Prop} {db db' base : RelayDb}
  {old new stored : RelayOperationRow} {o : RelayOp} {answer : o.Answer} {log : List RelayEvent}

theorem HasTransaction.row (h : HasTransaction db old.id) (hids : (db.operations.map (·.id)).Nodup)
    (hrow : db.row old.id = some old) : old.transaction.hash ≠ none := by
  obtain ⟨row, hmem, hid, hhash⟩ := h
  rw [← eq_of_id hids hmem (row_mem hrow) hid]
  exact hhash

/-- A permitted change keeps what is true of a row. -/
theorem Change.kept (hchange : Change P.checksum db old o answer new base)
    (hpermits : Permits P config Allowed log o answer db) (hpermitted : Permitted old new)
    (hids : (db.operations.map (·.id)).Nodup) (hrow : db.row old.id = some old)
    (h : Kept config old) : Kept config new := by
  have htarget : new.binding.confirmationTarget = config.confirmationTarget := by
    rw [hpermitted.binding]
    exact h.target
  cases hchange with
  | statement stmt hissues happlies =>
    -- no statement touches the fees, and only a rebroadcast counts an attempt
    have hfees : (stmt.set old).chargedFeeWei = 0 → 0 < (stmt.set old).reservedFeeWei ∨
        (stmt.set old).state = .failedFinal ∧ (stmt.set old).transaction.hash = none := by
      intro hcharged
      have hcharged' : old.chargedFeeWei = 0 := by cases stmt <;> exact hcharged
      rcases h.reserved hcharged' with hpos | hfinal
      · exact .inl (by cases stmt <;> exact hpos)
      · rw [hpermitted.terminal (by rw [hfinal.1]; rfl)]
        exact .inr hfinal
    cases stmt with
    | rebroadcast next maxAttempts =>
      cases hissues
      obtain ⟨hmax, hhas⟩ := hpermits
      have hhash := hhas.row hids hrow
      have hlt : old.attemptCount < maxAttempts := by
        simp only [Statement.applies, Bool.and_eq_true, decide_eq_true_eq] at happlies
        exact happlies.2
      refine ⟨fun hno => absurd hno hhash, ?_, hfees, htarget⟩
      rw [← hmax]
      exact hlt
    | markRetryable code message next => exact ⟨h.unattempted, h.attempts, hfees, htarget⟩
    | deferReconciliation next => exact ⟨h.unattempted, h.attempts, hfees, htarget⟩
    | submitted submittedAt next => exact ⟨h.unattempted, h.attempts, hfees, htarget⟩
    | reverted block confirmedAt => exact ⟨h.unattempted, h.attempts, hfees, htarget⟩
    | eventMissing block confirmedAt => exact ⟨h.unattempted, h.attempts, hfees, htarget⟩
    | stateMismatch block confirmedAt => exact ⟨h.unattempted, h.attempts, hfees, htarget⟩
    | confirmed block confirmedAt => exact ⟨h.unattempted, h.attempts, hfees, htarget⟩
    | countPoll => exact ⟨h.unattempted, h.attempts, hfees, htarget⟩
  | mined blockNumber _ huncharged =>
    refine ⟨h.unattempted, h.attempts, ?_, htarget⟩
    intro hcharged
    have hhash := HasTransaction.row hpermits hids hrow
    rcases h.reserved huncharged with hpos | ⟨-, hno⟩
    · exact absurd hcharged hpos.ne'
    · exact absurd hno hhash
  | exhausted failure _ hhash =>
    exact ⟨h.unattempted, h.attempts, fun _ => .inr ⟨rfl, hhash⟩, htarget⟩
  | anchored failure _ hhash _ =>
    exact ⟨h.unattempted, h.attempts, fun _ => .inr ⟨rfl, hhash⟩, htarget⟩
  | prepared p _ _ _ _ prepared _ hhash hlive _ _ _ _ =>
    obtain ⟨hmax, -⟩ := hpermits
    refine ⟨fun hno => absurd hno (Option.some_ne_none _), ?_, ?_, htarget⟩
    · show old.attemptCount + 1 ≤ _
      rw [h.unattempted hhash]
      exact hmax
    · intro hcharged
      rcases h.reserved hcharged with hpos | ⟨hfinal, -⟩
      · exact .inl hpos
      · rw [hfinal] at hlive
        cases hlive

theorem StoredAs.kept (hstored : StoredAs new stored) (h : Kept config new) :
    Kept config stored := by
  rw [hstored.row]
  exact ⟨h.unattempted, h.attempts, h.reserved, h.target⟩

/-- The transaction hash stays, or is one that no row has. -/
theorem Change.hash (hchange : Change P.checksum db old o answer new base) :
    new.transaction.hash = old.transaction.hash ∨
      ∀ r ∈ db.operations, ∀ v, new.transaction.hash = some v → r.transaction.hash ≠ some v := by
  cases hchange with
  | statement stmt _ _ => exact .inl (by cases stmt <;> rfl)
  | mined _ _ _ => exact .inl rfl
  | exhausted _ _ _ => exact .inl rfl
  | anchored _ _ _ _ => exact .inl rfl
  | prepared p _ _ _ _ prepared _ _ _ _ _ _ hunique =>
    refine .inr fun r hr v hv => ?_
    rw [← hv]
    exact hunique r hr

theorem ready_kept {a : Acquisition} {answer : DbAnswer} (hinsertable : Insertable db a)
    (hpermits : Permits P config Allowed log (.acquireOperation a) answer db) (id blobRow : Nat)
    (t : Timestamp) : Kept config (a.ready id blobRow t) := by
  obtain ⟨-, htarget, hreservation⟩ := hpermits
  have hchecks := hinsertable.checks
  simp only [Acquisition.checks, Bool.and_eq_true, decide_eq_true_eq] at hchecks
  refine ⟨fun _ => rfl, Nat.zero_le _, fun _ => .inl ?_, htarget⟩
  show 0 < a.reservation
  rw [hreservation]
  exact Nat.mul_pos (by tauto) (by tauto)

/-- **Permitted operations keep the invariant.** -/
theorem Effect.consistent (heffect : Effect P.checksum db o answer db')
    (hpermits : Permits P config Allowed log o answer db) (h : Consistent config db) :
    Consistent config db' := by
  cases heffect with
  | same counters => exact ⟨h.ids, h.events, h.keys, h.hashes, h.rows⟩
  | edit old new stored base hrow hchange hpermitted hstored =>
    have hold := row_mem hrow
    have hid : stored.id = old.id := hstored.id.trans hchange.id
    have hbinding : stored.binding = old.binding := hstored.binding.trans hpermitted.binding
    have hrows : (base.replace old stored).operations =
        db.operations.map fun r => if r.id = old.id then stored else r := by
      show base.operations.map _ = _
      rw [hchange.operations]
    constructor
    · rw [hrows, map_replace_ids hid]
      exact h.ids
    · rw [hrows]
      exact h.events.replace hold hid (.inl (by rw [hbinding]))
    · rw [hrows]
      exact h.keys.replace hold hid (.inl (by rw [hbinding]))
    · rw [hrows]
      apply h.hashes.replace hold hid
      rw [hstored.transaction]
      exact hchange.hash
    · rw [hrows]
      intro row hmem
      rcases mem_replace hmem with rfl | ⟨hmem, -⟩
      · exact hstored.kept (hchange.kept hpermits hpermitted h.ids hrow (h.rows old hold))
      · exact h.rows row hmem
  | insert a answer blobRow t hinsertable =>
    constructor
    · show ((db.operations ++ [a.ready db.nextId blobRow t]).map (·.id)).Nodup
      rw [List.map_append, List.nodup_append_comm]
      refine List.nodup_cons.mpr ⟨?_, h.ids⟩
      intro hmem
      obtain ⟨r, hr, hrid⟩ := List.mem_map.mp hmem
      exact absurd hrid (lt_nextId hr).ne
    · apply h.events.insert
      intro r hr v hv hrv
      exact hinsertable.event r hr (Option.some.inj (hrv.trans hv.symm))
    · apply h.keys.insert
      exact fun r hr v hv => hinsertable.key r hr v hv
    · apply h.hashes.insert
      intro r hr v hv
      cases hv
    · intro row hmem
      rcases List.mem_append.mp hmem with hmem | hnew
      · exact h.rows row hmem
      · rw [List.mem_singleton.mp hnew]
        exact ready_kept hinsertable hpermits _ _ _

end preserve

theorem initial_consistent (config : RelayConfiguration) (blobs : List BlobBindingRow) :
    Consistent config (RelayDb.initial blobs) := by
  constructor <;> simp [RelayDb.initial, UniqueBy]

/-! ### What a request knows of a row -/

/-- The row is stored, or was: since then its binding stayed, and its
transaction if it had one. -/
structure Seen (config : RelayConfiguration) (db : RelayDb) (row : RelayOperationRow) : Prop where
  kept : Kept config row
  stored : ∃ current ∈ db.operations, current.id = row.id ∧ current.binding = row.binding ∧
    (row.transaction.hash ≠ none → current.transaction = row.transaction)

section seen

variable {config : RelayConfiguration} {db db' : RelayDb} {row : RelayOperationRow}

theorem Consistent.seen (h : Consistent config db) (hrow : row ∈ db.operations) :
    Seen config db row :=
  ⟨h.rows row hrow, row, hrow, rfl, rfl, fun _ => rfl⟩

theorem Seen.hasTransaction (h : Seen config db row) (hhash : row.transaction.hash ≠ none) :
    HasTransaction db row.id := by
  obtain ⟨current, hmem, hid, -, htransaction⟩ := h.stored
  exact ⟨current, hmem, hid, by rw [htransaction hhash]; exact hhash⟩

/-- **What is known of a row stays true**, whatever is done to the
database. -/
theorem Effect.seen {checksum : Address → BitVec 40} {o : RelayOp} {answer : o.Answer}
    (heffect : Effect checksum db o answer db') (hids : (db.operations.map (·.id)).Nodup)
    (h : Seen config db row) : Seen config db' row := by
  obtain ⟨current, hmem, hid, hbinding, htransaction⟩ := h.stored
  refine ⟨h.kept, ?_⟩
  cases heffect with
  | same counters => exact ⟨current, hmem, hid, hbinding, htransaction⟩
  | edit old new stored base hrow hchange hpermitted hstored =>
    have hrows : (base.replace old stored).operations =
        db.operations.map fun r => if r.id = old.id then stored else r := by
      show base.operations.map _ = _
      rw [hchange.operations]
    rw [hrows]
    by_cases hsame : current.id = old.id
    · have hcurrent := eq_of_id hids hmem (row_mem hrow) hsame
      subst hcurrent
      refine ⟨stored, List.mem_map.mpr ⟨current, hmem, if_pos rfl⟩, ?_, ?_, ?_⟩
      · rw [hstored.id, hchange.id, hid]
      · rw [hstored.binding, hpermitted.binding, hbinding]
      · intro hhash
        have hsome : current.transaction.hash ≠ none := by
          rw [htransaction hhash]
          exact hhash
        rw [hstored.transaction, hpermitted.transaction hsome, htransaction hhash]
    · exact ⟨current, List.mem_map.mpr ⟨current, hmem, if_neg hsame⟩, hid, hbinding, htransaction⟩
  | insert a answer blobRow t hinsertable =>
    exact ⟨current, List.mem_append_left _ hmem, hid, hbinding, htransaction⟩

end seen

end SubmittedIt.Relay
