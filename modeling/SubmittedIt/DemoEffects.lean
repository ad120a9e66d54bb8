/-
SubmittedIt/DemoEffects.lean

What the operations of the demo portal do to its tables.

`Effect` lists it once for each operation, and what every later proof needs
follows from it: the tables stay `Consistent`, rows are never lost and, once a
submission has left the queue, never changed (`Precedes`).

Main results: `executeDemoOp_effect`, `Effect.precedes`, `Effect.consistent`,
`toSubmissionView_of_sound`.
-/
import SubmittedIt.DemoService

namespace SubmittedIt.Demo

open Transaction ReceiptCore
open Relay (DbOutcome Digest)

variable {Raw : Type} {P : DemoPlatform Raw}

/-! ### Effects -/

/-- Replace the row with the identifier of another. -/
def replaceRow (rows : List SubmissionRow) (new : SubmissionRow) : List SubmissionRow :=
  rows.map fun row => if row.id = new.id then new else row

/-- What an operation may do to the tables. -/
inductive Effect (P : DemoPlatform Raw) : DemoOp → DemoDb → DemoDb → Prop
  | same (o : DemoOp) (db : DemoDb) : Effect P o db db
  | created {db : DemoDb} {new : NewSubmission} (row : SubmissionRow) :
      row.id = db.nextId → row.currentStatus = .queued →
      (∀ r ∈ db.submissions, r.publicTokenHash ≠ row.publicTokenHash ∧
        r.submissionReference ≠ row.submissionReference) →
      Effect P (.create new) db { db with
        submissions := db.submissions ++ [row]
        history := db.history ++ [⟨row.id, .queued, new.queuedAt⟩] }
  | left {db : DemoDb} {hash : Digest} {now : Timestamp} (stored row : SubmissionRow)
      (bytes : List UInt8) :
      db.byTokenHash hash = some stored → stored.currentStatus = .queued →
      stored.processingReadyAt ≤ now →
      (StatusUpdate.transition stored now (createAuthorityReference bytes)).apply stored =
        .ok row →
      Effect P (.get hash now) db { db with
        submissions := replaceRow db.submissions row
        history := db.history ++ [⟨stored.id, row.currentStatus, now⟩] }
  | signed {db : DemoDb} {hash : Digest} {core : LifecycleEventCore} (submission : SubmissionRow)
      (signature : Text) (signed : DemoReceiptBoundSignature) (now : Timestamp) :
      db.byTokenHash hash = some submission → signEventCore P core signature = .ok signed →
      (∀ r ∈ db.signatures, r.submissionId ≠ submission.id ∧ r.receiptId ≠ core.receiptId ∧
        r.eventHash ≠ signed.eventHash) →
      Effect P (.sign hash core) db { db with
        signatures := db.signatures ++ [signed.row submission.id core now] }

theorem byTokenHash_eq_some {db : DemoDb} {hash : Digest} {row : SubmissionRow}
    (h : db.byTokenHash hash = some row) : row ∈ db.submissions ∧ row.publicTokenHash = hash :=
  ⟨List.mem_of_find?_eq_some h, by simpa using List.find?_some h⟩

theorem atomically_snd {α : Type} {body : DemoDb → Except DemoError (α × DemoDb)} {db : DemoDb}
    {p : DemoDb → Prop} (hdb : p db) (hbody : ∀ a db', body db = .ok (a, db') → p db') :
    p (atomically body db).2 := by
  unfold atomically
  rcases h : body db with e | ⟨a, db'⟩
  · exact hdb
  · exact hbody a db' h

theorem underOutcome_snd {α : Type} {statements : DemoDb → Except DemoError α × DemoDb}
    {db : DemoDb} {p : DemoDb → Prop} (hdb : p db) (hstatements : p (statements db).2)
    (outcome : DbOutcome) : p (underOutcome outcome statements db).2 := by
  cases outcome
  · exact hstatements
  · exact hdb
  · exact hstatements

theorem recordStatus_eq_ok {id : Nat} {status : DemoDatabaseStatus} {t : Timestamp}
    {db db' : DemoDb} (h : recordStatus id status t db = .ok db') :
    db' = { db with history := db.history ++ [⟨id, status, t⟩] } := by
  unfold recordStatus at h
  split at h
  · cases h
  · exact (Except.ok.inj h).symm

/-- What the transaction of `createSubmission` does. -/
theorem createTransaction_eq_ok {new : NewSubmission} {db db' : DemoDb} {row : SubmissionRow}
    (h : createTransaction new db = .ok (row, db')) :
    row.id = db.nextId ∧ row.currentStatus = .queued ∧
      row.publicTokenHash = new.publicTokenHash ∧
      (∀ r ∈ db.submissions, r.publicTokenHash ≠ row.publicTokenHash ∧
        r.submissionReference ≠ row.submissionReference) ∧
      db' = { db with
        submissions := db.submissions ++ [row]
        history := db.history ++ [⟨row.id, .queued, new.queuedAt⟩] } := by
  obtain ⟨⟨inserted, db₁⟩, hinsert, hrest⟩ := bind_eq_ok.mp h
  obtain ⟨db₂, hrecord, hpure⟩ := bind_eq_ok.mp hrest
  cases hpure
  obtain rfl := recordStatus_eq_ok hrecord
  unfold insertSubmission at hinsert
  split at hinsert
  · split at hinsert
    · cases hinsert
    · next hfree =>
      cases hinsert
      simp only [not_exists, not_and, not_or] at hfree
      exact ⟨rfl, rfl, rfl, hfree, rfl⟩
  · cases hinsert

theorem apply_eq_ok {update : StatusUpdate} {old new : SubmissionRow}
    (h : update.apply old = .ok new) :
    new.id = old.id ∧ new.publicTokenHash = old.publicTokenHash ∧
      new.submissionReference = old.submissionReference ∧ new.filing = old.filing ∧
      new.queuedAt = old.queuedAt ∧ new.processingReadyAt = old.processingReadyAt ∧
      new.currentStatus = update.currentStatus ∧
      new.authorityReference = update.authorityReference ∧
      new.rejectionReason = update.rejectionReason := by
  unfold StatusUpdate.apply at h
  split at h
  · cases h
    exact ⟨rfl, rfl, rfl, rfl, rfl, rfl, rfl, rfl, rfl⟩
  · cases h

theorem updateQueued_eq_ok {id : Nat} {update : StatusUpdate} {db db' : DemoDb}
    {new : SubmissionRow} (h : updateQueued id update db = .ok (some new, db')) :
    ∃ old ∈ db.submissions, old.id = id ∧ update.apply old = .ok new ∧
      db' = { db with submissions := replaceRow db.submissions new } := by
  unfold updateQueued at h
  rcases hfind : db.submissions.find? fun row => row.id = id && row.currentStatus = .queued with
    - | old
  · rw [hfind] at h
    cases h
  · rw [hfind] at h
    obtain ⟨row, happly, hrest⟩ := bind_eq_ok.mp h
    obtain ⟨⟨⟩, -, hrest⟩ := bind_eq_ok.mp hrest
    obtain ⟨⟨⟩, -, hpure⟩ := bind_eq_ok.mp hrest
    have hmatch := List.find?_some hfind
    simp only [Bool.and_eq_true, decide_eq_true_eq] at hmatch
    have hid : row.id = id := (apply_eq_ok happly).1.trans hmatch.1
    cases hpure
    exact ⟨old, List.mem_of_find?_eq_some hfind, hmatch.1, happly, by rw [replaceRow, hid]⟩

/-! ### Consistency -/

/-- The history rows of a submission, in the order they were written. -/
def DemoDb.historyOf (db : DemoDb) (id : Nat) : List StatusHistoryRow :=
  db.history.filter fun h => h.submissionId = id

/-- The statuses a submission has had. -/
def SubmissionRow.statuses (row : SubmissionRow) : List DemoDatabaseStatus :=
  if row.currentStatus = .queued then [.queued] else [.queued, row.currentStatus]

/-- A row is in the queue, or it has the outcome of its scenario. -/
def SubmissionRow.Sound (row : SubmissionRow) : Prop :=
  row.currentStatus = .queued ∨
    (row.currentStatus = row.filing.scenario.status ∧
      (∀ reference, row.authorityReference = some reference → reference ≠ []) ∧
      (row.rejectionReason = none ∨ row.rejectionReason = some REJECTION_REASON))

/-- What holds of the tables between operations. -/
structure DemoDb.Consistent (db : DemoDb) : Prop where
  ids : (db.submissions.map (·.id)).Nodup
  tokens : (db.submissions.map (·.publicTokenHash)).Nodup
  references : (db.submissions.map (·.submissionReference)).Nodup
  sound : ∀ row ∈ db.submissions, row.Sound
  history : ∀ row ∈ db.submissions, (db.historyOf row.id).map (·.status) = row.statuses
  recorded : ∀ h ∈ db.history, ∃ row ∈ db.submissions, row.id = h.submissionId

theorem consistent_empty : DemoDb.empty.Consistent :=
  ⟨.nil, .nil, .nil, fun _ h => absurd h List.not_mem_nil, fun _ h => absurd h List.not_mem_nil,
    fun _ h => absurd h List.not_mem_nil⟩

theorem eq_of_nodup_map {α β : Type} {f : α → β} {l : List α} (h : (l.map f).Nodup) {a b : α}
    (ha : a ∈ l) (hb : b ∈ l) (hab : f a = f b) : a = b :=
  List.inj_on_of_nodup_map h ha hb hab

section consistent

variable {db db' : DemoDb} {row stored : SubmissionRow} {o : DemoOp}

theorem mem_replaceRow {rows : List SubmissionRow} {new row : SubmissionRow}
    (h : row ∈ replaceRow rows new) : row = new ∨ (row ∈ rows ∧ row.id ≠ new.id) := by
  obtain ⟨old, hold, rfl⟩ := List.mem_map.mp h
  split_ifs with hid
  · exact .inl rfl
  · exact .inr ⟨hold, hid⟩

/-- A column that the replacement does not change. -/
theorem map_replaceRow {α : Type} {rows : List SubmissionRow} (hids : (rows.map (·.id)).Nodup)
    {old new : SubmissionRow} (hold : old ∈ rows) (hid : new.id = old.id) {f : SubmissionRow → α}
    (hf : f new = f old) : (replaceRow rows new).map f = rows.map f := by
  unfold replaceRow
  rw [List.map_map]
  apply List.map_congr_left
  intro row hrow
  show f (if row.id = new.id then new else row) = f row
  split_ifs with hsame
  · rw [hf, eq_of_nodup_map hids hrow hold (hsame.trans hid)]
  · rfl

theorem le_foldl_max (l : List Nat) (m : Nat) : m ≤ l.foldl max m ∧ ∀ n ∈ l, n ≤ l.foldl max m := by
  induction l generalizing m with
  | nil => simp
  | cons a l ih =>
    obtain ⟨hm, hl⟩ := ih (max m a)
    refine ⟨(le_max_left m a).trans hm, ?_⟩
    intro n hn
    rcases List.mem_cons.mp hn with rfl | hn
    · exact (le_max_right m n).trans hm
    · exact hl n hn

theorem lt_nextId (h : row ∈ db.submissions) : row.id < db.nextId :=
  Nat.lt_succ_of_le ((le_foldl_max _ 0).2 row.id (List.mem_map_of_mem h))

/-- What the transaction of `getSubmission` does: it finds the row as it is, or
takes it out of the queue. -/
theorem getTransaction_eq_ok (h : db.Consistent) {hash : Digest} {now : Timestamp}
    {bytes : List UInt8} {found : Option SubmissionRow}
    (hget : getTransaction hash now bytes db = .ok (found, db')) :
    (found = db.byTokenHash hash ∧ db' = db) ∨
      ∃ stored row, db.byTokenHash hash = some stored ∧ stored.currentStatus = .queued ∧
        stored.processingReadyAt ≤ now ∧
        (StatusUpdate.transition stored now (createAuthorityReference bytes)).apply stored =
          .ok row ∧
        found = some row ∧ db' = { db with
          submissions := replaceRow db.submissions row
          history := db.history ++ [⟨stored.id, row.currentStatus, now⟩] } := by
  unfold getTransaction at hget
  rcases hfind : db.byTokenHash hash with - | stored
  · rw [hfind] at hget
    cases hget
    exact .inl ⟨rfl, rfl⟩
  rw [hfind] at hget
  dsimp only at hget
  by_cases hwhen : stored.currentStatus ≠ .queued ∨ now < stored.processingReadyAt
  · rw [if_pos hwhen] at hget
    cases hget
    exact .inl ⟨rfl, rfl⟩
  rw [if_neg hwhen] at hget
  rw [not_or, not_not, not_lt] at hwhen
  obtain ⟨⟨updated, db₁⟩, hupdate, hrest⟩ := bind_eq_ok.mp hget
  rcases updated with - | updated
  · cases hrest
  obtain ⟨db₂, hrecord, hpure⟩ := bind_eq_ok.mp hrest
  cases hpure
  obtain ⟨old, hold, hid, happly, rfl⟩ := updateQueued_eq_ok hupdate
  obtain rfl := recordStatus_eq_ok hrecord
  obtain rfl := eq_of_nodup_map h.ids hold (byTokenHash_eq_some hfind).1 hid
  rw [← (apply_eq_ok happly).2.2.2.2.2.2.1]
  exact .inr ⟨old, updated, rfl, hwhen.1, hwhen.2, happly, rfl, rfl⟩

/-- What the signing transaction does: it finds a signature for the same event,
or makes one. -/
theorem signTransaction_eq_ok {hash : Digest} {core : LifecycleEventCore} {signature : Text}
    {now : Timestamp} {signed : DemoReceiptBoundSignature}
    (hsign : signTransaction P hash core signature now db = .ok (signed, db')) :
    ∃ submission, db.byTokenHash hash = some submission ∧
      ((∃ existing, db.signatureOf submission.id = some existing ∧
          existing.eventHash = hashEventCore P.keccak core ∧
          toStoredSignature P existing = .ok signed ∧ db' = db) ∨
        (signEventCore P core signature = .ok signed ∧
          (∀ r ∈ db.signatures, r.submissionId ≠ submission.id ∧ r.receiptId ≠ core.receiptId ∧
            r.eventHash ≠ signed.eventHash) ∧
          db' = { db with
            signatures := db.signatures ++ [signed.row submission.id core now] })) := by
  unfold signTransaction at hsign
  rcases hfind : db.byTokenHash hash with - | submission
  · rw [hfind] at hsign
    cases hsign
  refine ⟨submission, rfl, ?_⟩
  rw [hfind] at hsign
  dsimp only at hsign
  rcases hexisting : db.signatureOf submission.id with - | existing
  · rw [hexisting] at hsign
    obtain ⟨signed', hsigned, hrest⟩ := bind_eq_ok.mp hsign
    obtain ⟨db₁, hinsert, hpure⟩ := bind_eq_ok.mp hrest
    cases hpure
    unfold insertSignature at hinsert
    split_ifs at hinsert with hfree
    cases hinsert
    refine .inr ⟨hsigned, ?_, rfl⟩
    simp only [not_exists, not_and, not_or] at hfree
    intro r hr
    obtain ⟨hid, hreceipt, hhash, -⟩ := hfree r hr
    exact ⟨hid, hreceipt, hhash⟩
  · rw [hexisting] at hsign
    obtain ⟨⟨⟩, hbound, hrest⟩ := bind_eq_ok.mp hsign
    obtain ⟨stored, hstored, hpure⟩ := bind_eq_ok.mp hrest
    cases hpure
    rw [revertIf_eq_ok, not_not] at hbound
    exact .inl ⟨existing, rfl, hbound, hstored, rfl⟩

/-- **What an operation does to the tables.** -/
theorem executeDemoOp_effect (h : db.Consistent) (o : DemoOp) (answer : o.Answer) :
    Effect P o db (executeDemoOp P o answer db).2 := by
  rcases o with n | - | new | hash | ⟨hash, now⟩ | ⟨hash, core⟩
  · exact .same _ _
  · exact .same _ _
  · refine underOutcome_snd (p := Effect P (.create new) db) (.same _ _) ?_ answer
    refine atomically_snd (.same _ _) ?_
    intro row db' hcreate
    obtain ⟨hid, hqueued, -, hfree, rfl⟩ := createTransaction_eq_ok hcreate
    exact .created row hid hqueued hfree
  · exact underOutcome_snd (p := Effect P (.select hash) db) (.same _ _) (.same _ _) answer
  · obtain ⟨outcome, bytes⟩ := answer
    refine underOutcome_snd (p := Effect P (.get hash now) db) (.same _ _) ?_ outcome
    refine atomically_snd (.same _ _) ?_
    intro found db' hget
    rcases getTransaction_eq_ok h hget with ⟨-, rfl⟩ |
      ⟨stored, row, hfind, hqueued, hready, happly, -, rfl⟩
    · exact .same _ _
    · exact .left stored row bytes.1 hfind hqueued hready happly
  · obtain ⟨outcome, signature, now⟩ := answer
    refine underOutcome_snd (p := Effect P (.sign hash core) db) (.same _ _) ?_ outcome
    refine atomically_snd (.same _ _) ?_
    intro signed db' hsign
    obtain ⟨submission, hfind, ⟨existing, -, -, -, rfl⟩ | ⟨hsigned, hfree, rfl⟩⟩ :=
      signTransaction_eq_ok hsign
    · exact .same _ _
    · exact .signed submission signature signed now hfind hsigned hfree

/-! ### What every operation keeps -/

/-- The row of a submission, later: the same one, but for the outcome of one
that was in the queue. -/
structure SubmissionRow.Outlasts (row later : SubmissionRow) : Prop where
  id : later.id = row.id
  token : later.publicTokenHash = row.publicTokenHash
  reference : later.submissionReference = row.submissionReference
  filing : later.filing = row.filing
  queuedAt : later.queuedAt = row.queuedAt
  processingReadyAt : later.processingReadyAt = row.processingReadyAt
  settled : row.currentStatus ≠ .queued → later = row

/-- Later tables have the rows of earlier ones. -/
structure DemoDb.Precedes (db db' : DemoDb) : Prop where
  submissions : ∀ row ∈ db.submissions, ∃ later ∈ db'.submissions, row.Outlasts later
  signatures : db.signatures.Sublist db'.signatures

theorem SubmissionRow.Outlasts.refl (row : SubmissionRow) : row.Outlasts row :=
  ⟨rfl, rfl, rfl, rfl, rfl, rfl, fun _ => rfl⟩

theorem SubmissionRow.Outlasts.trans {row row' row'' : SubmissionRow} (h : row.Outlasts row')
    (h' : row'.Outlasts row'') : row.Outlasts row'' := by
  refine ⟨h'.id.trans h.id, h'.token.trans h.token, h'.reference.trans h.reference,
    h'.filing.trans h.filing, h'.queuedAt.trans h.queuedAt,
    h'.processingReadyAt.trans h.processingReadyAt, ?_⟩
  intro hsettled
  obtain rfl := h.settled hsettled
  exact h'.settled hsettled

theorem DemoDb.Precedes.refl (db : DemoDb) : db.Precedes db :=
  ⟨fun row hrow => ⟨row, hrow, .refl row⟩, .refl _⟩

theorem DemoDb.Precedes.trans {db db' db'' : DemoDb} (h : db.Precedes db')
    (h' : db'.Precedes db'') : db.Precedes db'' := by
  refine ⟨?_, h.signatures.trans h'.signatures⟩
  intro row hrow
  obtain ⟨row', hrow', hlasts⟩ := h.submissions row hrow
  obtain ⟨row'', hrow'', hlasts'⟩ := h'.submissions row' hrow'
  exact ⟨row'', hrow'', hlasts.trans hlasts'⟩

/-- **No row is lost, and none that has left the queue is changed.** -/
theorem Effect.precedes (h : db.Consistent) (he : Effect P o db db') : db.Precedes db' := by
  cases he with
  | same => exact .refl _
  | created row hid hqueued hfree =>
    exact ⟨fun r hr => ⟨r, List.mem_append_left _ hr, .refl r⟩, .refl _⟩
  | left stored row bytes hfind hqueued hready happly =>
    refine ⟨?_, .refl _⟩
    obtain ⟨hid, htoken, href, hfiling, hat, hreadyAt, -⟩ := apply_eq_ok happly
    intro r hr
    by_cases hsame : r.id = row.id
    · obtain rfl := eq_of_nodup_map h.ids hr (byTokenHash_eq_some hfind).1 (hsame.trans hid)
      refine ⟨row, List.mem_map.mpr ⟨r, hr, if_pos hsame⟩, hid, htoken, href, hfiling, hat,
        hreadyAt, ?_⟩
      exact fun hsettled => absurd hqueued hsettled
    · exact ⟨r, List.mem_map.mpr ⟨r, hr, if_neg hsame⟩, .refl r⟩
  | signed submission signature signed now hfind hsigned hfree =>
    exact ⟨fun r hr => ⟨r, hr, .refl r⟩, List.sublist_append_left _ _⟩

/-- A row that leaves the queue gets the outcome of its scenario. -/
theorem sound_transition {now : Timestamp} {bytes : List UInt8}
    (hqueued : stored.currentStatus = .queued)
    (happly : (StatusUpdate.transition stored now (createAuthorityReference bytes)).apply stored =
      .ok row) :
    row.currentStatus = stored.filing.scenario.status ∧ row.currentStatus ≠ .queued ∧
      row.Sound := by
  obtain ⟨-, -, -, hfiling, -, -, hstatus, href, hreason⟩ := apply_eq_ok happly
  have hempty : stored.authorityReference = none ∧ stored.rejectionReason = none := by
    rcases stored.outcome_consistency with ⟨-, -, href, hreason, -⟩ | ⟨hst, -⟩ | ⟨hst, -⟩
    · exact ⟨href, hreason⟩
    · rw [hqueued] at hst; cases hst
    · rw [hqueued] at hst; cases hst
  have hne : createAuthorityReference bytes ≠ [] := fun h => by cases h
  unfold SubmissionRow.Sound
  rw [hstatus, hfiling, href, hreason]
  unfold StatusUpdate.transition
  rcases stored.filing.scenario with - | - | -
  · refine ⟨rfl, (nomatch ·), .inr ⟨rfl, ?_, .inl rfl⟩⟩
    rintro reference ⟨⟩
    exact hne
  · refine ⟨rfl, (nomatch ·), .inr ⟨rfl, ?_, .inr rfl⟩⟩
    rintro reference ⟨⟩
    exact hne
  · refine ⟨rfl, (nomatch ·), .inr ⟨rfl, ?_, .inl hempty.2⟩⟩
    intro reference h
    exact absurd (hempty.1.symm.trans h) (by simp)

theorem historyOf_append (db : DemoDb) (h : StatusHistoryRow) (id : Nat) :
    ({ db with history := db.history ++ [h] } : DemoDb).historyOf id =
      db.historyOf id ++ if h.submissionId = id then [h] else [] := by
  unfold DemoDb.historyOf
  rw [List.filter_append]
  split_ifs with hid
  · simp [hid]
  · simp [hid]

theorem Consistent.historyOf_nextId (h : db.Consistent) : db.historyOf db.nextId = [] := by
  unfold DemoDb.historyOf
  rw [List.filter_eq_nil_iff]
  intro entry hentry hid
  obtain ⟨row, hrow, hrowId⟩ := h.recorded entry hentry
  have hlt := lt_nextId hrow
  simp only [decide_eq_true_eq] at hid
  omega

theorem Consistent.insert (h : db.Consistent) {t : Timestamp} (hid : row.id = db.nextId)
    (hqueued : row.currentStatus = .queued)
    (hfree : ∀ r ∈ db.submissions, r.publicTokenHash ≠ row.publicTokenHash ∧
      r.submissionReference ≠ row.submissionReference) :
    ({ db with
      submissions := db.submissions ++ [row]
      history := db.history ++ [⟨row.id, .queued, t⟩] } : DemoDb).Consistent := by
  have hnodup : ∀ {α : Type} {f : SubmissionRow → α}, (db.submissions.map f).Nodup →
      (∀ r ∈ db.submissions, f r ≠ f row) → ((db.submissions ++ [row]).map f).Nodup := by
    intro α f hold hnew
    rw [List.map_append, List.nodup_append]
    refine ⟨hold, List.nodup_singleton _, ?_⟩
    rintro a ha b hb rfl
    obtain ⟨r, hr, rfl⟩ := List.mem_map.mp ha
    exact hnew r hr (List.mem_singleton.mp hb)
  have hne : ∀ r ∈ db.submissions, r.id ≠ row.id := by
    intro r hr heq
    have hlt := lt_nextId hr
    omega
  refine ⟨hnodup h.ids hne, hnodup h.tokens fun r hr => (hfree r hr).1,
    hnodup h.references fun r hr => (hfree r hr).2, ?_, ?_, ?_⟩
  · intro r hr
    rcases List.mem_append.mp hr with hr | hr
    · exact h.sound r hr
    · obtain rfl := List.mem_singleton.mp hr
      exact .inl hqueued
  · intro r hr
    show (DemoDb.historyOf { db with history := db.history ++ [⟨row.id, .queued, t⟩] } r.id).map
      (·.status) = r.statuses
    rw [historyOf_append]
    rcases List.mem_append.mp hr with hr | hr
    · rw [if_neg (hne r hr).symm, List.append_nil]
      exact h.history r hr
    · obtain rfl := List.mem_singleton.mp hr
      rw [if_pos rfl, hid, Consistent.historyOf_nextId h, SubmissionRow.statuses, if_pos hqueued]
      rfl
  · intro entry hentry
    rcases List.mem_append.mp hentry with hentry | hentry
    · obtain ⟨r, hr, hrid⟩ := h.recorded entry hentry
      exact ⟨r, List.mem_append_left _ hr, hrid⟩
    · obtain rfl := List.mem_singleton.mp hentry
      exact ⟨row, List.mem_append_right _ (List.mem_singleton_self row), rfl⟩

theorem Consistent.leave (h : db.Consistent) {now : Timestamp} {bytes : List UInt8}
    (hstored : stored ∈ db.submissions) (hqueued : stored.currentStatus = .queued)
    (happly : (StatusUpdate.transition stored now (createAuthorityReference bytes)).apply stored =
      .ok row) :
    ({ db with
      submissions := replaceRow db.submissions row
      history := db.history ++ [⟨stored.id, row.currentStatus, now⟩] } : DemoDb).Consistent := by
  obtain ⟨hid, htoken, href, -⟩ := apply_eq_ok happly
  obtain ⟨-, hleft, hsound⟩ := sound_transition hqueued happly
  have hmem : row ∈ replaceRow db.submissions row :=
    List.mem_map.mpr ⟨stored, hstored, if_pos hid.symm⟩
  refine ⟨?_, ?_, ?_, ?_, ?_, ?_⟩
  · show ((replaceRow db.submissions row).map (·.id)).Nodup
    rw [map_replaceRow h.ids hstored hid hid]
    exact h.ids
  · show ((replaceRow db.submissions row).map (·.publicTokenHash)).Nodup
    rw [map_replaceRow h.ids hstored hid htoken]
    exact h.tokens
  · show ((replaceRow db.submissions row).map (·.submissionReference)).Nodup
    rw [map_replaceRow h.ids hstored hid href]
    exact h.references
  · intro r hr
    rcases mem_replaceRow hr with rfl | ⟨hr, -⟩
    · exact hsound
    · exact h.sound r hr
  · intro r hr
    show (DemoDb.historyOf { db with history := db.history ++
      [⟨stored.id, row.currentStatus, now⟩] } r.id).map (·.status) = r.statuses
    rw [historyOf_append]
    rcases mem_replaceRow hr with rfl | ⟨hr, hne⟩
    · rw [if_pos hid.symm, List.map_append, hid, h.history stored hstored,
        SubmissionRow.statuses, if_pos hqueued, SubmissionRow.statuses, if_neg hleft]
      rfl
    · rw [if_neg fun heq => hne (heq.symm.trans hid.symm), List.append_nil]
      exact h.history r hr
  · intro entry hentry
    rcases List.mem_append.mp hentry with hentry | hentry
    · obtain ⟨r, hr, hrid⟩ := h.recorded entry hentry
      by_cases hsame : r.id = row.id
      · exact ⟨row, hmem, hsame.symm.trans hrid⟩
      · exact ⟨r, List.mem_map.mpr ⟨r, hr, if_neg hsame⟩, hrid⟩
    · obtain rfl := List.mem_singleton.mp hentry
      exact ⟨row, hmem, hid⟩

/-- **The tables stay consistent.** -/
theorem Effect.consistent (h : db.Consistent) (he : Effect P o db db') : db'.Consistent := by
  cases he with
  | same => exact h
  | created row hid hqueued hfree => exact Consistent.insert h hid hqueued hfree
  | left stored row bytes hfind hqueued hready happly =>
    exact Consistent.leave h (byTokenHash_eq_some hfind).1 hqueued happly
  | signed submission signature signed now hfind hsigned hfree =>
    exact ⟨h.ids, h.tokens, h.references, h.sound, h.history, h.recorded⟩

end consistent

/-! ### Views -/

/-- The acknowledgment that a row holds. -/
def SubmissionRow.acknowledgment (row : SubmissionRow) : Option DemoPersistedAcknowledgment :=
  match row.terminalOutcome, row.authorityReference, row.acknowledgedAt with
  | some outcome, some reference, some acknowledgedAt =>
    some ⟨acknowledgedAt, outcome, row.rejectionReason, reference⟩
  | _, _, _ => none

/-- A row without an outcome. -/
theorem toSubmissionView_pending {row : SubmissionRow}
    (hstatus : row.currentStatus = .queued ∨ row.currentStatus = .pending)
    (houtcome : row.terminalOutcome = none) (hreference : row.authorityReference = none)
    (hreason : row.rejectionReason = none) (hat : row.acknowledgedAt = none) :
    toSubmissionView row = .ok (row.view row.acknowledgment) := by
  unfold toSubmissionView
  rcases hstatus with hstatus | hstatus <;>
    simp [revertIf, row.authority_checked, hstatus, houtcome, hreference, hreason, hat, truthy,
      SubmissionRow.acknowledgment, Bind.bind, Except.bind, pure, Except.pure]

theorem terminalAcknowledgment_ok {row : SubmissionRow} {outcome : TerminalOutcome}
    {reference : Text} {time : Timestamp} (houtcome : row.terminalOutcome = some outcome)
    (hreference : row.authorityReference = some reference) (hne : reference ≠ [])
    (hat : row.acknowledgedAt = some time)
    (hreason : row.rejectionReason = if outcome = .rejected then some REJECTION_REASON else none) :
    terminalAcknowledgment row outcome = .ok ⟨time, outcome, row.rejectionReason, reference⟩ := by
  have htext : REJECTION_REASON ≠ [] := fun h => by cases h
  unfold terminalAcknowledgment
  rw [hreference, hat]
  cases outcome <;> simp [houtcome, hne, hreason, truthy, htext]

/-- **The view of a row** shows its acknowledgment. -/
theorem toSubmissionView_of_sound {row : SubmissionRow} (h : row.Sound) :
    toSubmissionView row = .ok (row.view row.acknowledgment) := by
  rcases row.outcome_consistency with ⟨hstatus, houtcome, href, hreason, hat⟩ |
    ⟨hstatus, houtcome, href, hreason, hat⟩ | ⟨hstatus, houtcome, href, hreason, hat⟩
  · exact toSubmissionView_pending hstatus houtcome href hreason hat
  · obtain ⟨reference, hreference⟩ := Option.ne_none_iff_exists'.mp href
    obtain ⟨time, htime⟩ := Option.ne_none_iff_exists'.mp hat
    rcases h with hqueued | ⟨-, hne, -⟩
    · rw [hstatus] at hqueued
      cases hqueued
    have hterminal := terminalAcknowledgment_ok houtcome hreference (hne reference hreference)
      htime hreason
    unfold toSubmissionView SubmissionRow.acknowledgment
    simp [revertIf, row.authority_checked, hstatus, hterminal, houtcome, hreference, htime,
      Bind.bind, Except.bind, pure, Except.pure]
  · obtain ⟨reference, hreference⟩ := Option.ne_none_iff_exists'.mp href
    obtain ⟨time, htime⟩ := Option.ne_none_iff_exists'.mp hat
    rcases h with hqueued | ⟨-, hne, hnone | hsome⟩
    · rw [hstatus] at hqueued
      cases hqueued
    · exact absurd hnone hreason
    have hterminal := terminalAcknowledgment_ok houtcome hreference (hne reference hreference)
      htime hsome
    unfold toSubmissionView SubmissionRow.acknowledgment
    simp [revertIf, row.authority_checked, hstatus, hterminal, houtcome, hreference, htime,
      Bind.bind, Except.bind, pure, Except.pure]

end SubmittedIt.Demo
