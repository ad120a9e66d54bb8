/-
SubmittedIt/DemoRuns.lean

Runs of the demo portal: any number of instances over one database, their
calls taking turns at their operations.

`Sound` is what holds of the database between operations: its tables are
consistent, and every signature is bound to the persisted acknowledgment of
its submission.  `Permitted` is what a call may do: it looks at a submission
with a reading of the clock, and signs only a core that it has checked against
the acknowledgment in the database.  `CallReturns` is what a call can have
returned, under the interference of the others.

Main results: `Effect.sound`, `demoSystem_safe`, `reaches_precedes`.
-/
import SubmittedIt.Threads
import SubmittedIt.DemoEffects

namespace SubmittedIt.Demo

open Transaction ReceiptCore
open Relay (DbOutcome Digest)

variable {Raw : Type} {P : DemoPlatform Raw}

/-! ### Signatures -/

/-- A signature acknowledges the persisted outcome of its submission. -/
structure SignatureRow.Acknowledges (P : DemoPlatform Raw) (db : DemoDb) (g : SignatureRow) :
    Prop where
  outcome : ∃ row ∈ db.submissions, ∃ a, row.id = g.submissionId ∧ row.acknowledgment = some a ∧
    checkProposed g.eventCore a = .ok ()
  receiptId : g.receiptId = g.eventCore.receiptId
  eventHash : g.eventHash = hashEventCore P.keccak g.eventCore
  stored : ∃ signature, toStoredSignature P g = .ok signature

/-- What holds of the database between operations. -/
structure DemoDb.Sound (P : DemoPlatform Raw) (db : DemoDb) : Prop where
  consistent : db.Consistent
  submissionIds : (db.signatures.map (·.submissionId)).Nodup
  receiptIds : (db.signatures.map (·.receiptId)).Nodup
  acknowledges : ∀ g ∈ db.signatures, g.Acknowledges P db

theorem sound_empty : DemoDb.empty.Sound P :=
  ⟨consistent_empty, .nil, .nil, fun _ h => absurd h List.not_mem_nil⟩

section signatures

variable {db db' : DemoDb} {row : SubmissionRow} {g : SignatureRow} {o : DemoOp}
  {core : LifecycleEventCore} {signature : Text} {signed : DemoReceiptBoundSignature}

/-- A row with an acknowledgment has left the queue. -/
theorem acknowledgment_settled {a : DemoPersistedAcknowledgment}
    (h : row.acknowledgment = some a) : row.currentStatus ≠ .queued := by
  intro hqueued
  rcases row.outcome_consistency with ⟨-, houtcome, -⟩ | ⟨hstatus, -⟩ | ⟨hstatus, -⟩
  · simp [SubmissionRow.acknowledgment, houtcome] at h
  · rw [hqueued] at hstatus; cases hstatus
  · rw [hqueued] at hstatus; cases hstatus

/-- What is acknowledged stays so. -/
theorem Precedes.acknowledged (h : db.Precedes db') {a : DemoPersistedAcknowledgment}
    (hrow : row ∈ db.submissions) (ha : row.acknowledgment = some a) : row ∈ db'.submissions := by
  obtain ⟨later, hlater, hlasts⟩ := h.submissions row hrow
  obtain rfl := hlasts.settled (acknowledgment_settled ha)
  exact hlater

theorem Acknowledges.precedes (h : db.Precedes db') (hg : g.Acknowledges P db) :
    g.Acknowledges P db' := by
  obtain ⟨row, hrow, a, hid, ha, hcheck⟩ := hg.outcome
  exact ⟨⟨row, Precedes.acknowledged h hrow ha, a, hid, ha, hcheck⟩, hg.receiptId, hg.eventHash,
    hg.stored⟩

/-- What the signing transaction stores reads back as what it returns. -/
theorem toStoredSignature_row (h : signEventCore P core signature = .ok signed) (id : Nat)
    (now : Timestamp) :
    toStoredSignature P (signed.row id core now) = .ok signed ∧
      signed.eventHash = hashEventCore P.keccak core := by
  unfold signEventCore at h
  rcases hack : authorityAcknowledgment core with - | ⟨outcome, acknowledgment⟩
  · rw [hack] at h
    cases h
  rw [hack] at h
  dsimp only at h
  split_ifs at h with hverify
  cases h
  rw [Bool.not_eq_false] at hverify
  refine ⟨?_, rfl⟩
  simp [toStoredSignature, DemoReceiptBoundSignature.row, hack, hverify]

/-- The row that a token stands for is unique. -/
theorem Consistent.byTokenHash (h : db.Consistent) {hash : Digest} (hrow : row ∈ db.submissions)
    (hhash : row.publicTokenHash = hash) : db.byTokenHash hash = some row := by
  have hsome : (db.byTokenHash hash).isSome = true := by
    rw [DemoDb.byTokenHash, List.find?_isSome]
    exact ⟨row, hrow, by simp [hhash]⟩
  obtain ⟨row', hfind⟩ := Option.isSome_iff_exists.mp hsome
  obtain ⟨hrow', hhash'⟩ := byTokenHash_eq_some hfind
  obtain rfl := eq_of_nodup_map h.tokens hrow hrow' (hhash.trans hhash'.symm)
  exact hfind

end signatures

/-! ### Calls -/

/-- A call to an instance of the portal. -/
inductive DemoCall (Raw : Type)
  | create (input : DemoSubmissionInput)
  | read (lookupToken : Text)
  | get (lookupToken : Text)
  | sign (lookupToken : Text) (eventCoreInput : Raw)

inductive DemoResult
  | created (lookupToken : Text) (submission : DemoSubmissionView)
  | found (submission : Option DemoSubmissionView)
  | signed (signature : DemoReceiptBoundSignature)
  deriving DecidableEq

def DemoCall.program (P : DemoPlatform Raw) : DemoCall Raw → DemoProgram DemoResult
  | .create input => do
    let (lookupToken, submission) ← createSubmission P input
    return .created lookupToken submission
  | .read lookupToken => do return .found (← readSubmission P lookupToken)
  | .get lookupToken => do return .found (← getSubmission P lookupToken)
  | .sign lookupToken input => do
    return .signed (← signTerminalAcknowledgment P lookupToken input)

/-- Any number of instances over one database. -/
def demoSystem (P : DemoPlatform Raw) :
    System DemoOp DemoOp.Result DemoError DemoResult DemoDb (DemoCall Raw) DemoOp.Answer where
  execute := executeDemoOp P
  Allowed := fun _ _ => True
  program := DemoCall.program P

abbrev DemoRun (Raw : Type) :=
  Configuration DemoOp DemoOp.Result DemoError DemoResult DemoDb (DemoCall Raw) DemoOp.Answer

abbrev DemoEvent := Event DemoOp DemoOp.Answer DemoDb

/-- How the statements of an operation fared. -/
def DemoOp.outcome : (o : DemoOp) → o.Answer → DbOutcome
  | randomBytes _, _ => .acknowledged
  | now, _ => .acknowledged
  | create _, outcome => outcome
  | select _, outcome => outcome
  | get .., answer => answer.1
  | sign .., answer => answer.1

/-- The database answered every statement. -/
def Acknowledged (log : List DemoEvent) : Prop :=
  ∀ event ∈ log, event.op.outcome event.answer = .acknowledged

/-- What a call may do. -/
def Permitted (log : List DemoEvent) : (o : DemoOp) → o.Answer → DemoDb → Prop
  | .get _ now, _, _ => ∃ db, (⟨.now, now, db⟩ : DemoEvent) ∈ log
  | .sign hash core, _, db => ∃ row a, db.byTokenHash hash = some row ∧
      row.acknowledgment = some a ∧ checkProposed core a = .ok ()
  | _, _, _ => True

/-- **The database stays sound** under what a call may do. -/
theorem Effect.sound {o : DemoOp} {db db' : DemoDb} (h : db.Sound P) (he : Effect P o db db')
    {log : List DemoEvent} {answer : o.Answer} (hpermitted : Permitted log o answer db) :
    db'.Sound P := by
  have hprecedes := he.precedes h.consistent
  have hconsistent := he.consistent h.consistent
  cases he with
  | same => exact h
  | created => exact ⟨hconsistent, h.submissionIds, h.receiptIds,
      fun g hg => Acknowledges.precedes hprecedes (h.acknowledges g hg)⟩
  | left => exact ⟨hconsistent, h.submissionIds, h.receiptIds,
      fun g hg => Acknowledges.precedes hprecedes (h.acknowledges g hg)⟩
  | @signed db hash core submission signature signed now hfind hsigned hfree =>
    obtain ⟨row, a, hrow, ha, hcheck⟩ := hpermitted
    obtain rfl := Option.some.inj (hrow.symm.trans hfind)
    obtain ⟨hstored, hhash⟩ := toStoredSignature_row hsigned row.id now
    have hnodup : ∀ {α : Type} {f : SignatureRow → α}, (db.signatures.map f).Nodup →
        (∀ r ∈ db.signatures, f r ≠ f (signed.row row.id core now)) →
        ((db.signatures ++ [signed.row row.id core now]).map f).Nodup := by
      intro α f hold hnew
      rw [List.map_append, List.nodup_append]
      refine ⟨hold, List.nodup_singleton _, ?_⟩
      rintro x hx y hy rfl
      obtain ⟨r, hr, rfl⟩ := List.mem_map.mp hx
      exact hnew r hr (List.mem_singleton.mp hy)
    refine ⟨hconsistent, hnodup h.submissionIds fun r hr => (hfree r hr).1,
      hnodup h.receiptIds fun r hr => (hfree r hr).2.1, ?_⟩
    intro g hg
    rcases List.mem_append.mp hg with hg | hg
    · exact Acknowledges.precedes hprecedes (h.acknowledges g hg)
    · obtain rfl := List.mem_singleton.mp hg
      exact ⟨⟨row, (byTokenHash_eq_some hfind).1, a, rfl, ha, hcheck⟩, rfl, hhash, signed, hstored⟩

/-- A program under the interference of other calls. -/
abbrev DemoGuards {α : Type} (P : DemoPlatform Raw) (p : DemoProgram α)
    (Q : Except DemoError α → List DemoEvent → DemoDb → Prop) (log : List DemoEvent)
    (db : DemoDb) : Prop :=
  p.Guards (demoSystem P) (DemoDb.Sound P) Permitted Q log db

abbrev DemoLater (P : DemoPlatform Raw) : DemoDb → DemoDb → Prop :=
  Later (demoSystem P) (DemoDb.Sound P) Permitted

theorem sound_executeDemoOp {log : List DemoEvent} {db : DemoDb} (h : db.Sound P) (o : DemoOp)
    (answer : o.Answer) (hpermitted : Permitted log o answer db) :
    (executeDemoOp P o answer db).2.Sound P :=
  (executeDemoOp_effect h.consistent o answer).sound h hpermitted

theorem precedes_executeDemoOp {db : DemoDb} (h : db.Sound P) (o : DemoOp) (answer : o.Answer) :
    db.Precedes (executeDemoOp P o answer db).2 :=
  (executeDemoOp_effect h.consistent o answer).precedes h.consistent

theorem precedes_later {db db' : DemoDb} (h : DemoLater P db db') : db.Precedes db' := by
  refine h.stable (F := fun s => db.Precedes s) ?_ (.refl db)
  exact fun log o answer s hs _ _ hprecedes => hprecedes.trans (precedes_executeDemoOp hs o answer)

/-! ### What calls return -/

/-- A view shows a submission that the database holds; one that has left the
queue, as it is. -/
def Shows (db : DemoDb) (hash : Digest) (v : DemoSubmissionView) : Prop :=
  ∃ row ∈ db.submissions, row.publicTokenHash = hash ∧
    row.submissionReference = v.submissionReference ∧
    (v.acknowledgment ≠ none → v.status ≠ .queued) ∧
    (v.status ≠ .queued → v = row.view row.acknowledgment ∧ row.currentStatus ≠ .queued)

/-- A submission's signature. -/
def BoundTo (db : DemoDb) (hash : Digest) (g : SignatureRow) : Prop :=
  g ∈ db.signatures ∧ ∃ row ∈ db.submissions, row.publicTokenHash = hash ∧
    row.id = g.submissionId

/-- What a call of `signTerminalAcknowledgment` can have returned: a signature
of its submission, and that of the proposed core if it had one before. -/
structure SignReturns (P : DemoPlatform Raw) (lookupToken : Text) (input : Raw)
    (r : Except DemoError DemoReceiptBoundSignature) (log : List DemoEvent) (db : DemoDb) :
    Prop where
  bound : ∀ signature, r = .ok signature → ∃ core g, P.parseEventCore input = .ok core ∧
    BoundTo db (P.sha256 lookupToken) g ∧ g.eventHash = hashEventCore P.keccak core ∧
    toStoredSignature P g = .ok signature
  replay : Acknowledged log → ∀ core, P.parseEventCore input = .ok core → ∀ event ∈ log, ∀ g,
    BoundTo event.before (P.sha256 lookupToken) g → g.eventCore = core →
    ∀ signature, toStoredSignature P g = .ok signature → r = .ok signature

/-- What a call can have returned. -/
def CallReturns (P : DemoPlatform Raw) : DemoCall Raw → Except DemoError DemoResult →
    List DemoEvent → DemoDb → Prop
  | .create _, r, _, db => ∀ result, r = .ok result → ∃ lookupToken v,
      result = .created lookupToken v ∧ Shows db (P.sha256 lookupToken) v
  | .read lookupToken, r, _, db => ∀ result, r = .ok result → ∃ found, result = .found found ∧
      ∀ v, found = some v → Shows db (P.sha256 lookupToken) v
  | .get lookupToken, r, _, db => ∀ result, r = .ok result → ∃ found, result = .found found ∧
      ∀ v, found = some v → Shows db (P.sha256 lookupToken) v
  | .sign lookupToken input, r, log, db => ∃ r', r = r'.map DemoResult.signed ∧
      SignReturns P lookupToken input r' log db

section guards

variable {db db' : DemoDb} {log : List DemoEvent} {hash : Digest} {v : DemoSubmissionView}
  {g : SignatureRow} {row : SubmissionRow}

theorem Shows.precedes (h : db.Precedes db') (hv : Shows db hash v) : Shows db' hash v := by
  obtain ⟨row, hrow, hhash, href, hack, hsettled⟩ := hv
  obtain ⟨later, hlater, hlasts⟩ := h.submissions row hrow
  refine ⟨later, hlater, hlasts.token.trans hhash, hlasts.reference.trans href, hack, ?_⟩
  intro hstatus
  obtain ⟨hview, hleft⟩ := hsettled hstatus
  rw [hlasts.settled hleft]
  exact ⟨hview, hleft⟩

/-- A view with an acknowledgment shows the one in the database. -/
theorem Shows.acknowledged {a : DemoPersistedAcknowledgment} (hv : Shows db hash v)
    (ha : v.acknowledgment = some a) :
    ∃ row ∈ db.submissions, row.publicTokenHash = hash ∧ row.acknowledgment = some a := by
  obtain ⟨row, hrow, hhash, -, hack, hsettled⟩ := hv
  obtain ⟨hview, -⟩ := hsettled (hack (by rw [ha]; exact Option.some_ne_none a))
  rw [hview] at ha
  exact ⟨row, hrow, hhash, ha⟩

theorem BoundTo.precedes (h : db.Precedes db') (hg : BoundTo db hash g) : BoundTo db' hash g := by
  obtain ⟨hmem, row, hrow, hhash, hid⟩ := hg
  obtain ⟨later, hlater, hlasts⟩ := h.submissions row hrow
  exact ⟨h.signatures.subset hmem, later, hlater, hlasts.token.trans hhash, hlasts.id.trans hid⟩

theorem SignReturns.precedes {lookupToken : Text} {input : Raw}
    {r : Except DemoError DemoReceiptBoundSignature} (h : db.Precedes db')
    (hr : SignReturns P lookupToken input r log db) :
    SignReturns P lookupToken input r log db' := by
  refine ⟨?_, hr.replay⟩
  intro signature hsignature
  obtain ⟨core, g, hcore, hg, hrest⟩ := hr.bound signature hsignature
  exact ⟨core, g, hcore, hg.precedes h, hrest⟩

/-- A view of a row that the database holds. -/
theorem shows_view (h : db.Sound P) (hrow : row ∈ db.submissions) :
    toSubmissionView row = .ok (row.view row.acknowledgment) ∧
      Shows db row.publicTokenHash (row.view row.acknowledgment) :=
  ⟨toSubmissionView_of_sound (h.consistent.sound row hrow), row, hrow, rfl, rfl,
    fun hack => acknowledgment_settled (Option.ne_none_iff_exists'.mp hack).choose_spec,
    fun hsettled => ⟨rfl, hsettled⟩⟩

/-- What the transaction of `getSubmission` finds is in the database then. -/
theorem getTransaction_found (h : db.Sound P) {now : Timestamp} {bytes : List UInt8}
    (hget : getTransaction hash now bytes db = .ok (some row, db')) :
    row ∈ db'.submissions ∧ row.publicTokenHash = hash := by
  rcases getTransaction_eq_ok h.consistent hget with ⟨hfind, rfl⟩ |
    ⟨stored, row', hfind, -, -, happly, hfound, rfl⟩
  · exact byTokenHash_eq_some hfind.symm
  · obtain rfl := Option.some.inj hfound
    obtain ⟨hstored, hhash⟩ := byTokenHash_eq_some hfind
    obtain ⟨hid, htoken, -⟩ := apply_eq_ok happly
    exact ⟨List.mem_map.mpr ⟨stored, hstored, if_pos hid.symm⟩, htoken.trans hhash⟩

/-- What an operation of the call saw is still there. -/
def Recent (log : List DemoEvent) (db : DemoDb) : Prop :=
  ∀ event ∈ log, event.before.Precedes db

theorem recent_nil : Recent [] db := fun _ h => absurd h List.not_mem_nil

theorem Recent.later (h : Recent log db) (hlater : DemoLater P db db') : Recent log db' :=
  fun event hevent => (h event hevent).trans (precedes_later hlater)

theorem Recent.perform (h : Recent log db) (hsound : db.Sound P) (o : DemoOp)
    (answer : o.Answer) :
    Recent (log ++ [⟨o, answer, db⟩]) (executeDemoOp P o answer db).2 := by
  have hprecedes := precedes_executeDemoOp hsound o answer
  intro event hevent
  rcases List.mem_append.mp hevent with hevent | hevent
  · exact (h event hevent).trans hprecedes
  · obtain rfl := List.mem_singleton.mp hevent
    exact hprecedes

theorem not_acknowledged {o : DemoOp} {answer : o.Answer} (h : o.outcome answer ≠ .acknowledged) :
    ¬ Acknowledged (log ++ [⟨o, answer, db⟩]) :=
  fun hack => h (hack ⟨o, answer, db⟩ (by simp))

/-- The submission that a signature acknowledges. -/
theorem BoundTo.acknowledged (h : db.Sound P) (hg : BoundTo db hash g) :
    ∃ row a, db.byTokenHash hash = some row ∧ row.id = g.submissionId ∧
      row.acknowledgment = some a ∧ checkProposed g.eventCore a = .ok () := by
  obtain ⟨hmem, row, hrow, hhash, hid⟩ := hg
  obtain ⟨row', hrow', a, hid', ha, hcheck⟩ := (h.acknowledges g hmem).outcome
  obtain rfl := eq_of_nodup_map h.consistent.ids hrow hrow' (hid.trans hid'.symm)
  exact ⟨row, a, Consistent.byTokenHash h.consistent hrow hhash, hid, ha, hcheck⟩

/-- A submission that has left the queue is found as it is. -/
theorem getTransaction_settled (now : Timestamp) (bytes : List UInt8)
    (hfind : db.byTokenHash hash = some row) (hsettled : row.currentStatus ≠ .queued) :
    getTransaction hash now bytes db = .ok (some row, db) := by
  unfold getTransaction
  rw [hfind]
  exact if_pos (.inl hsettled)

theorem viewFound_some (h : db.Sound P) (hrow : row ∈ db.submissions) :
    viewFound (some row) = .ok (some (row.view row.acknowledgment)) := by
  show (toSubmissionView row >>= _) = _
  rw [(shows_view h hrow).1]
  rfl

/-- **`getSubmission`** shows a submission that the database holds; one that is
signed already, with the acknowledgment that was signed. -/
theorem getSubmission_guards (lookupToken : Text) :
    DemoGuards P (getSubmission P lookupToken) (fun r log db => Recent log db ∧
      (∀ v, r = .ok (some v) → Shows db (P.sha256 lookupToken) v) ∧
      (Acknowledged log → ∀ event ∈ log, ∀ g, BoundTo event.before (P.sha256 lookupToken) g →
        ∃ v a, r = .ok (some v) ∧ v.acknowledgment = some a ∧
          checkProposed g.eventCore a = .ok ())) [] db := by
  unfold getSubmission
  by_cases htoken : isDemoLookupToken lookupToken = false
  · rw [if_pos htoken]
    intro db' _ _
    exact ⟨recent_nil, fun v h => (nomatch h), fun _ event h => absurd h List.not_mem_nil⟩
  rw [if_neg htoken]
  refine guards_bind (guards_perform.mpr fun db₁ h₁ hs₁ now _ => ⟨trivial, fun db₂ h₂ hs₂ => ?_⟩)
  have hrecent₂ := (recent_nil.perform hs₁ .now now).later h₂
  refine guards_bind (guards_perform.mpr fun db₃ h₃ hs₃ answer _ => ⟨?_, fun db₄ h₄ hs₄ => ?_⟩)
  · exact ⟨db₁, by simp⟩
  have hrecent₃ := hrecent₂.later h₃
  have hrecent₄ := (hrecent₃.perform hs₃ (.get (P.sha256 lookupToken) now) answer).later h₄
  obtain ⟨- | - | -, bytes⟩ := answer
  case acknowledged =>
    have heval : (demoSystem P).execute (.get (P.sha256 lookupToken) now) (.acknowledged, bytes)
      db₃ = atomically (getTransaction (P.sha256 lookupToken) now bytes.1) db₃ := rfl
    have hpermitted : Permitted ([] ++ [⟨DemoOp.now, now, db₁⟩]) (.get (P.sha256 lookupToken) now)
      (.acknowledged, bytes) db₃ := ⟨db₁, by simp⟩
    have hs' := sound_executeDemoOp hs₃ _ _ hpermitted
    rw [heval] at h₄ ⊢
    have hbound : ∀ event : DemoEvent, event ∈ [] ++ [⟨DemoOp.now, now, db₁⟩] ++
        [⟨.get (P.sha256 lookupToken) now, (.acknowledged, bytes), db₃⟩] → ∀ g,
        BoundTo event.before (P.sha256 lookupToken) g → BoundTo db₃ (P.sha256 lookupToken) g := by
      intro event hevent g hg
      rcases List.mem_append.mp hevent with hevent | hevent
      · exact hg.precedes (hrecent₃ event hevent)
      · obtain rfl := List.mem_singleton.mp hevent
        exact hg
    change (atomically (getTransaction (P.sha256 lookupToken) now bytes.1) db₃).2.Sound P at hs'
    unfold atomically at h₄ hs' ⊢
    rcases hget : getTransaction (P.sha256 lookupToken) now bytes.1 db₃ with e | ⟨found, db'⟩
    · refine ⟨hrecent₄, fun v h => (nomatch h), fun _ event hevent g hg => ?_⟩
      obtain ⟨row, a, hfind, -, ha, -⟩ := (hbound event hevent g hg).acknowledged hs₃
      have hsome := getTransaction_settled now bytes.1 hfind
        (acknowledgment_settled ha)
      rw [hget] at hsome
      cases hsome
    · rw [hget] at h₄ hs'
      show DemoGuards P (.ofExcept (viewFound found)) _ _ _
      rcases found with - | row
      · intro db₅ h₅ _
        refine ⟨hrecent₄.later h₅, fun v h => (nomatch h), fun _ event hevent g hg => ?_⟩
        obtain ⟨row, a, hfind, -, ha, -⟩ := (hbound event hevent g hg).acknowledged hs₃
        have hsome := getTransaction_settled now bytes.1 hfind
          (acknowledgment_settled ha)
        rw [hget] at hsome
        cases hsome
      · obtain ⟨hrow, hhash⟩ := getTransaction_found hs₃ hget
        rw [viewFound_some hs' hrow]
        intro db₅ h₅ _
        refine ⟨hrecent₄.later h₅, ?_, fun _ event hevent g hg => ?_⟩
        · intro v hv
          obtain rfl := Option.some.inj (Except.ok.inj hv)
          rw [← hhash]
          exact (shows_view hs' hrow).2.precedes
            ((precedes_later h₄).trans (precedes_later h₅))
        · obtain ⟨row', a, hfind, -, ha, hcheck⟩ := (hbound event hevent g hg).acknowledged hs₃
          have hsome := getTransaction_settled now bytes.1 hfind
            (acknowledgment_settled ha)
          rw [hget] at hsome
          cases hsome
          exact ⟨_, a, rfl, ha, hcheck⟩
  all_goals
    refine ⟨hrecent₄, fun v h => (nomatch h), fun hack => absurd hack ?_⟩
    exact not_acknowledged (by exact DbOutcome.noConfusion)

theorem readSubmission_guards (lookupToken : Text) :
    DemoGuards P (readSubmission P lookupToken) (fun r _ db =>
      ∀ v, r = .ok (some v) → Shows db (P.sha256 lookupToken) v) [] db := by
  unfold readSubmission
  by_cases htoken : isDemoLookupToken lookupToken = false
  · rw [if_pos htoken]
    exact fun db' _ _ v h => nomatch h
  rw [if_neg htoken]
  refine guards_bind (guards_perform.mpr fun db₁ h₁ hs₁ outcome _ =>
    ⟨trivial, fun db₂ h₂ hs₂ => ?_⟩)
  rcases outcome with - | - | -
  case acknowledged =>
    show DemoGuards P (.ofExcept (viewFound (db₁.byTokenHash (P.sha256 lookupToken)))) _ _ _
    rcases hfind : db₁.byTokenHash (P.sha256 lookupToken) with - | row
    · exact fun db₃ _ _ v h => nomatch h
    · obtain ⟨hrow, hhash⟩ := byTokenHash_eq_some hfind
      rw [viewFound_some hs₁ hrow]
      intro db₃ h₃ _ v hv
      obtain rfl := Option.some.inj (Except.ok.inj hv)
      rw [← hhash]
      exact (shows_view hs₁ hrow).2.precedes ((precedes_later h₂).trans (precedes_later h₃))
  all_goals exact fun v h => nomatch h

theorem createSubmission_guards (input : DemoSubmissionInput) :
    DemoGuards P (createSubmission P input) (fun r _ db =>
      ∀ lookupToken v, r = .ok (lookupToken, v) → Shows db (P.sha256 lookupToken) v) [] db := by
  unfold createSubmission
  refine guards_bind (guards_perform.mpr fun _ _ _ tokenBytes _ => ⟨trivial, fun _ _ _ => ?_⟩)
  refine guards_bind (guards_perform.mpr fun _ _ _ referenceBytes _ => ⟨trivial, fun _ _ _ => ?_⟩)
  refine guards_bind (guards_perform.mpr fun _ _ _ queuedAt _ => ⟨trivial, fun _ _ _ => ?_⟩)
  refine guards_bind (guards_perform.mpr fun db₁ _ hs₁ outcome _ => ⟨trivial, fun db₂ h₂ _ => ?_⟩)
  generalize hnew : (NewSubmission.mk _ _ _ _ _ : NewSubmission) = new at h₂ ⊢
  rcases outcome with - | - | -
  case acknowledged =>
    have hpermitted : Permitted [] (.create new) .acknowledged db₁ := trivial
    have hs' := sound_executeDemoOp hs₁ (.create new) .acknowledged hpermitted
    change (atomically (createTransaction new) db₁).2.Sound P at hs'
    have heval : (demoSystem P).execute (.create new) .acknowledged db₁ =
      atomically (createTransaction new) db₁ := rfl
    rw [heval] at h₂ ⊢
    unfold atomically at h₂ hs' ⊢
    rcases hcreate : createTransaction new db₁ with e | ⟨row, db'⟩
    · exact fun lookupToken v h => nomatch h
    · rw [hcreate] at h₂ hs'
      obtain ⟨-, -, hhash, -, hdb⟩ := createTransaction_eq_ok hcreate
      have hrow : row ∈ db'.submissions := by
        rw [hdb]
        exact List.mem_append_right _ (List.mem_singleton_self row)
      show DemoGuards P (.ofExcept (toSubmissionView row) >>= _) _ _ _
      rw [(shows_view hs' hrow).1]
      intro db₃ h₃ _ lookupToken v hv
      cases hv
      have htoken : P.sha256 (Relay.encodeBase64Url tokenBytes.1) = row.publicTokenHash := by
        rw [hhash, ← hnew]
      rw [htoken]
      exact (shows_view hs' hrow).2.precedes ((precedes_later h₂).trans (precedes_later h₃))
  all_goals exact fun lookupToken v h => nomatch h


/-- The signature of a submission is unique. -/
theorem signatureOf_of_mem (h : db.Sound P) (hg : g ∈ db.signatures) :
    db.signatureOf g.submissionId = some g := by
  have hsome : (db.signatureOf g.submissionId).isSome = true := by
    rw [DemoDb.signatureOf, List.find?_isSome]
    exact ⟨g, hg, by simp⟩
  obtain ⟨g', hfind⟩ := Option.isSome_iff_exists.mp hsome
  have hid : g'.submissionId = g.submissionId := by simpa using List.find?_some hfind
  obtain rfl := eq_of_nodup_map h.submissionIds (List.mem_of_find?_eq_some hfind) hg hid
  exact hfind

/-- What `signatureOf` finds. -/
theorem signatureOf_eq_some {id : Nat} (h : db.signatureOf id = some g) :
    g ∈ db.signatures ∧ g.submissionId = id :=
  ⟨List.mem_of_find?_eq_some h, by simpa using List.find?_some h⟩

/-- Signing the event of a signature again finds the signature. -/
theorem signTransaction_bound (h : db.Sound P) (hg : BoundTo db hash g)
    {result : DemoReceiptBoundSignature} (hstored : toStoredSignature P g = .ok result)
    {core : LifecycleEventCore} (hcore : g.eventHash = hashEventCore P.keccak core)
    (signature : Text) (now : Timestamp) :
    signTransaction P hash core signature now db = .ok (result, db) := by
  obtain ⟨row, a, hfind, hid, -⟩ := hg.acknowledged h
  have hexisting : db.signatureOf row.id = some g := by
    rw [hid]
    exact signatureOf_of_mem h hg.1
  unfold signTransaction
  rw [hfind]
  dsimp only
  rw [hexisting]
  show (revertIf (g.eventHash ≠ hashEventCore P.keccak core) _ >>= _) = _
  rw [hcore, revertIf, if_neg (not_not.mpr rfl)]
  show (toStoredSignature P g >>= _) = _
  rw [hstored]
  rfl

/-- What the signing transaction returns is bound to the submission. -/
theorem signTransaction_bindsTo {core : LifecycleEventCore} {signature : Text} {now : Timestamp}
    {signed : DemoReceiptBoundSignature}
    (hsign : signTransaction P hash core signature now db = .ok (signed, db')) :
    ∃ g, BoundTo db' hash g ∧ g.eventHash = hashEventCore P.keccak core ∧
      toStoredSignature P g = .ok signed := by
  obtain ⟨row, hfind, ⟨g, hexisting, hhash, hstored, rfl⟩ | ⟨hsigned, -, rfl⟩⟩ :=
    signTransaction_eq_ok hsign
  · obtain ⟨hmem, hid⟩ := signatureOf_eq_some hexisting
    obtain ⟨hrow, htoken⟩ := byTokenHash_eq_some hfind
    exact ⟨g, ⟨hmem, row, hrow, htoken, hid.symm⟩, hhash, hstored⟩
  · obtain ⟨hrow, htoken⟩ := byTokenHash_eq_some hfind
    obtain ⟨hstored, hhash⟩ := toStoredSignature_row hsigned row.id now
    refine ⟨signed.row row.id core now, ⟨?_, row, hrow, htoken, rfl⟩, hhash, hstored⟩
    exact List.mem_append_right _ (List.mem_singleton_self _)

theorem parseProposed_eq_ok {input : Raw} {core : LifecycleEventCore} :
    parseProposed P input = .ok core ↔ P.parseEventCore input = .ok core := by
  unfold parseProposed
  rcases P.parseEventCore input with e | core'
  · dsimp only
    split_ifs <;> simp
  · simp

/-- A call that found its submission without what the signature in it
acknowledges. -/
theorem signReturns_error {lookupToken : Text} {input : Raw} {e : DemoError}
    (h : Acknowledged log → ∀ core, P.parseEventCore input = .ok core → ∀ event ∈ log, ∀ g,
      BoundTo event.before (P.sha256 lookupToken) g → g.eventCore ≠ core) :
    SignReturns P lookupToken input (.error e) log db :=
  ⟨fun _ hr => (nomatch hr), fun hack core hparse event hevent g hg hcore _ _ =>
    absurd hcore (h hack core hparse event hevent g hg)⟩

/-- **`signTerminalAcknowledgment`** signs what it has checked against the
persisted acknowledgment; for an event that is signed already, it returns the
stored signature. -/
theorem signTerminalAcknowledgment_guards (lookupToken : Text) (input : Raw) :
    DemoGuards P (signTerminalAcknowledgment P lookupToken input)
      (SignReturns P lookupToken input) [] db := by
  unfold signTerminalAcknowledgment
  by_cases htoken : isDemoLookupToken lookupToken = false
  · rw [if_pos htoken]
    exact fun db' _ _ => signReturns_error fun _ _ _ event h => absurd h List.not_mem_nil
  rw [if_neg htoken]
  refine guards_bind ((getSubmission_guards lookupToken).imp ?_)
  rintro (e | - | v) log₁ db₁ hs₁ ⟨hrecent₁, hshows, hbound⟩
  · refine signReturns_error fun hack core _ event hevent g hg => ?_
    obtain ⟨v, a, hv, -⟩ := hbound hack event hevent g hg
    cases hv
  · refine guards_throw.mpr fun db₂ _ _ => ?_
    refine signReturns_error fun hack core _ event hevent g hg => ?_
    obtain ⟨v, a, hv, -⟩ := hbound hack event hevent g hg
    cases hv
  dsimp only
  rcases hack : v.acknowledgment with - | stored
  · refine guards_throw.mpr fun db₂ _ _ => ?_
    refine signReturns_error fun hacked core _ event hevent g hg => ?_
    obtain ⟨v', a, hv, ha, -⟩ := hbound hacked event hevent g hg
    cases hv
    rw [hack] at ha
    cases ha
  -- the acknowledgment it found is the one that a signature before acknowledges
  have hchecked : Acknowledged log₁ → ∀ event ∈ log₁, ∀ g,
      BoundTo event.before (P.sha256 lookupToken) g →
      checkProposed g.eventCore stored = .ok () := by
    intro hacked event hevent g hg
    obtain ⟨v', a, hv, ha, hcheck⟩ := hbound hacked event hevent g hg
    cases hv
    rw [hack] at ha
    cases ha
    exact hcheck
  refine guards_bind (guards_ofExcept.mpr fun db₂ h₂ hs₂ => ?_)
  rcases hparse : parseProposed P input with e | core
  · refine signReturns_error fun _ core hcore => ?_
    rw [parseProposed_eq_ok.mpr hcore] at hparse
    cases hparse
  refine guards_bind (guards_ofExcept.mpr fun db₃ h₃ hs₃ => ?_)
  rcases hcheck : checkProposed core stored with e | ⟨⟩
  · refine signReturns_error fun hacked core' hcore event hevent g hg hsame => ?_
    obtain rfl := hsame
    rw [parseProposed_eq_ok.mpr hcore] at hparse
    cases hparse
    rw [hchecked hacked event hevent g hg] at hcheck
    cases hcheck
  refine guards_bind (guards_attempt (guards_perform.mpr fun db₄ h₄ hs₄ answer _ => ?_))
  have hlater := (h₂.trans h₃).trans h₄
  have hrecent₄ := hrecent₁.later hlater
  obtain ⟨row, hrow, hhash, hstored⟩ :=
    ((hshows v rfl).precedes (precedes_later hlater)).acknowledged hack
  have hpermitted : Permitted log₁ (.sign (P.sha256 lookupToken) core) answer db₄ :=
    ⟨row, stored, Consistent.byTokenHash hs₄.consistent hrow hhash, hstored, hcheck⟩
  refine ⟨hpermitted, fun db₅ h₅ hs₅ => ?_⟩
  have hcore := parseProposed_eq_ok.mp hparse
  obtain ⟨- | - | -, signature, now⟩ := answer
  case acknowledged =>
    have heval : (demoSystem P).execute (.sign (P.sha256 lookupToken) core)
      (.acknowledged, signature, now) db₄ =
        atomically (signTransaction P (P.sha256 lookupToken) core signature now) db₄ := rfl
    rw [heval] at h₅ ⊢
    have hbound₄ : ∀ event : DemoEvent, event ∈ log₁ ++
        [⟨.sign (P.sha256 lookupToken) core, (.acknowledged, signature, now), db₄⟩] → ∀ g,
        BoundTo event.before (P.sha256 lookupToken) g → BoundTo db₄ (P.sha256 lookupToken) g := by
      intro event hevent g hg
      rcases List.mem_append.mp hevent with hevent | hevent
      · exact hg.precedes (hrecent₄ event hevent)
      · obtain rfl := List.mem_singleton.mp hevent
        exact hg
    have hreplay : ∀ g, BoundTo db₄ (P.sha256 lookupToken) g → g.eventCore = core →
        ∀ result, toStoredSignature P g = .ok result →
          signTransaction P (P.sha256 lookupToken) core signature now db₄ = .ok (result, db₄) := by
      intro g hg hsame result hresult
      refine signTransaction_bound hs₄ hg hresult ?_ signature now
      rw [(hs₄.acknowledges g hg.1).eventHash, hsame]
    unfold atomically at h₅ ⊢
    rcases hsign : signTransaction P (P.sha256 lookupToken) core signature now db₄ with
      e | ⟨signed, db'⟩
    · -- a submission with a signature for the core would have returned it
      have hnot : ∀ event : DemoEvent, event ∈ log₁ ++
          [⟨.sign (P.sha256 lookupToken) core, (.acknowledged, signature, now), db₄⟩] → ∀ g,
          BoundTo event.before (P.sha256 lookupToken) g → g.eventCore ≠ core := by
        intro event hevent g hg hsame
        have hg₄ := hbound₄ event hevent g hg
        obtain ⟨result, hresult⟩ := (hs₄.acknowledges g hg₄.1).stored
        rw [hreplay g hg₄ hsame result hresult] at hsign
        cases hsign
      have herror : ∀ e' db₆, SignReturns P lookupToken input (.error e') (log₁ ++
          [⟨.sign (P.sha256 lookupToken) core, (.acknowledged, signature, now), db₄⟩]) db₆ := by
        refine fun e' db₆ => signReturns_error fun _ core' hcore' => ?_
        obtain rfl := Except.ok.inj (hcore.symm.trans hcore')
        exact hnot
      show DemoGuards P (if e = .uniqueViolation then _ else _) _ _ _
      split_ifs
      · exact guards_throw.mpr fun db₆ _ _ => herror _ db₆
      · exact guards_throw.mpr fun db₆ _ _ => herror _ db₆
    · rw [hsign] at h₅
      refine guards_pure.mpr fun db₆ h₆ _ => ⟨?_, ?_⟩
      · intro result hresult
        obtain rfl := Except.ok.inj hresult
        obtain ⟨g, hg, hgHash, hgStored⟩ := signTransaction_bindsTo hsign
        exact ⟨core, g, hcore, hg.precedes ((precedes_later h₅).trans (precedes_later h₆)),
          hgHash, hgStored⟩
      · intro _ core' hcore' event hevent g hg hsame result hresult
        obtain rfl := Except.ok.inj (hcore.symm.trans hcore')
        rw [hreplay g (hbound₄ event hevent g hg) hsame result hresult] at hsign
        obtain ⟨rfl, rfl⟩ := Prod.mk.inj (Except.ok.inj hsign)
        rfl
  all_goals
    refine guards_throw.mpr fun db₆ _ _ => signReturns_error fun hacked => absurd hacked ?_
    exact not_acknowledged (by exact DbOutcome.noConfusion)

/-! ### Runs -/

/-- A program whose result is wrapped. -/
theorem guards_map {α β : Type} {p : DemoProgram α} {f : α → β}
    {Q : Except DemoError β → List DemoEvent → DemoDb → Prop}
    (h : DemoGuards P p (fun r log db => ∀ db', DemoLater P db db' → db'.Sound P →
      Q (r.map f) log db') log db) :
    DemoGuards P (p >>= fun a => pure (f a)) Q log db := by
  refine guards_bind (h.imp ?_)
  rintro (e | a) log db hs hQ
  · exact hQ db .refl hs
  · exact guards_pure.mpr hQ

/-- **The calls keep the database sound and do only what is permitted.** -/
theorem demoSystem_safe :
    (demoSystem P).Safe (DemoDb.Sound P) Permitted (CallReturns P) where
  preserves log o answer db h _ hpermitted := sound_executeDemoOp h o answer hpermitted
  guards call db h := by
    cases call with
    | create input =>
      refine guards_map ((createSubmission_guards input).imp ?_)
      rintro (e | ⟨lookupToken, v⟩) log db _ hr db' hlater _ result hresult
      · cases hresult
      · cases hresult
        exact ⟨lookupToken, v, rfl, (hr lookupToken v rfl).precedes (precedes_later hlater)⟩
    | read lookupToken =>
      refine guards_map ((readSubmission_guards lookupToken).imp ?_)
      rintro (e | found) log db _ hr db' hlater _ result hresult
      · cases hresult
      · cases hresult
        exact ⟨found, rfl, fun v hv => (hr v (by rw [hv])).precedes (precedes_later hlater)⟩
    | get lookupToken =>
      refine guards_map ((getSubmission_guards lookupToken).imp ?_)
      rintro (e | found) log db _ ⟨-, hr, -⟩ db' hlater _ result hresult
      · cases hresult
      · cases hresult
        exact ⟨found, rfl, fun v hv => (hr v (by rw [hv])).precedes (precedes_later hlater)⟩
    | sign lookupToken input =>
      refine guards_map ((signTerminalAcknowledgment_guards lookupToken input).imp ?_)
      intro r log db _ hr db' hlater _
      exact ⟨r, rfl, hr.precedes (precedes_later hlater)⟩

/-- **Later tables have the rows of earlier ones**, in every run. -/
theorem reaches_precedes {run : DemoRun Raw} (h : (demoSystem P).Reaches .empty run) :
    (∀ e ∈ run.trace, e.before.Sound P ∧ e.before.Precedes ((demoSystem P).after e) ∧
      ((demoSystem P).after e).Precedes run.state) ∧
      run.trace.Pairwise fun e e' => ((demoSystem P).after e).Precedes e'.before := by
  refine System.Reaches.ordered (F := DemoDb.Precedes) demoSystem_safe sound_empty
    DemoDb.Precedes.refl (fun _ _ _ => DemoDb.Precedes.trans) ?_ h
  exact fun log o answer db hs _ _ => precedes_executeDemoOp hs o answer

end guards

end SubmittedIt.Demo
