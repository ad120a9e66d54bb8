/-
SubmittedIt/DemoAcknowledgment.lean

Terminal acknowledgments are bound to one receipt.

A signing call that changes the signatures records one that stays: for its
submission, and with the receipt and the event hash of its core.  So one that
meets a signature of another event for its submission, or of its receipt for
another submission, has recorded nothing.

Main results: `acknowledgments_bound`, and `rejection_moves_submission`: a call
that is refused can still take its own submission out of the queue, as every
reader does.
-/
import SubmittedIt.DemoStatus

namespace SubmittedIt.Demo

open Transaction ReceiptCore
open Relay (DbOutcome Digest)

variable {Raw : Type} {P : DemoPlatform Raw}

/-! ### Signed cores -/

/-- A core names the persisted terminal outcome of a submission. -/
def NamesOutcome (core : LifecycleEventCore) (row : SubmissionRow) : Prop :=
  ∃ outcome acknowledgment, authorityAcknowledgment core = some (outcome, acknowledgment) ∧
    row.currentStatus = outcome.status ∧ row.terminalOutcome = some outcome ∧
    acknowledgment.authorityId = row.authorityId ∧
    acknowledgment.reference = row.authorityReference ∧
    acknowledgment.reason = row.rejectionReason ∧
    row.acknowledgedAt = some acknowledgment.acknowledgedAt ∧
    row.acknowledgedAt = some core.occurredAt

theorem checkProposed_eq_ok {core : LifecycleEventCore} {a : DemoPersistedAcknowledgment}
    (h : checkProposed core a = .ok ()) :
    ∃ acknowledgment, authorityAcknowledgment core = some (a.outcome, acknowledgment) ∧
      acknowledgment.authorityId = DEMO_AUTHORITY_ID ∧
      acknowledgment.acknowledgedAt = a.acknowledgedAt ∧ core.occurredAt = a.acknowledgedAt ∧
      acknowledgment.reference = some a.reference ∧ acknowledgment.reason = a.reason := by
  unfold checkProposed at h
  rcases hack : authorityAcknowledgment core with - | ⟨outcome, acknowledgment⟩
  · rw [hack] at h
    cases h
  rw [hack] at h
  obtain ⟨-, -, h⟩ := bind_eq_ok.mp h
  obtain ⟨⟨⟩, houtcome, h⟩ := bind_eq_ok.mp h
  obtain ⟨⟨⟩, hauthority, h⟩ := bind_eq_ok.mp h
  obtain ⟨⟨⟩, hat, h⟩ := bind_eq_ok.mp h
  obtain ⟨⟨⟩, hoccurred, h⟩ := bind_eq_ok.mp h
  obtain ⟨⟨⟩, href, h⟩ := bind_eq_ok.mp h
  obtain ⟨⟨⟩, hreason, h⟩ := bind_eq_ok.mp h
  rw [revertIf_eq_ok, not_not] at houtcome hauthority hat hoccurred href hreason
  exact ⟨acknowledgment, by rw [houtcome], hauthority, hat, hoccurred, href, hreason⟩

/-- The acknowledgment of a row, column by column. -/
theorem acknowledgment_eq_some {row : SubmissionRow} {a : DemoPersistedAcknowledgment}
    (h : row.acknowledgment = some a) :
    row.terminalOutcome = some a.outcome ∧ row.authorityReference = some a.reference ∧
      row.rejectionReason = a.reason ∧ row.acknowledgedAt = some a.acknowledgedAt ∧
      row.currentStatus = a.outcome.status := by
  have hstatus : row.terminalOutcome = some a.outcome → row.currentStatus = a.outcome.status := by
    intro houtcome
    rcases row.outcome_consistency with ⟨-, hnone, -⟩ | ⟨hst, hsome, -⟩ | ⟨hst, hsome, -⟩
    · rw [hnone] at houtcome; cases houtcome
    · rw [hst, ← Option.some.inj (hsome.symm.trans houtcome)]; rfl
    · rw [hst, ← Option.some.inj (hsome.symm.trans houtcome)]; rfl
  unfold SubmissionRow.acknowledgment at h
  split at h
  · next outcome reference time houtcome href hat =>
    obtain rfl := Option.some.inj h
    exact ⟨houtcome, href, rfl, hat, hstatus houtcome⟩
  · cases h

/-- **What is checked against an acknowledgment names its outcome.** -/
theorem namesOutcome_of_checkProposed {row : SubmissionRow} {core : LifecycleEventCore}
    {a : DemoPersistedAcknowledgment} (ha : row.acknowledgment = some a)
    (hcheck : checkProposed core a = .ok ()) : NamesOutcome core row := by
  obtain ⟨acknowledgment, hcore, hauthority, hat, hoccurred, href, hreason⟩ :=
    checkProposed_eq_ok hcheck
  obtain ⟨houtcome, hrowRef, hrowReason, hrowAt, hstatus⟩ := acknowledgment_eq_some ha
  refine ⟨a.outcome, acknowledgment, hcore, hstatus, houtcome, ?_, ?_, ?_, ?_, ?_⟩
  · rw [hauthority, row.authority_checked]
  · rw [href, hrowRef]
  · rw [hreason, hrowReason]
  · rw [hat, hrowAt]
  · rw [hoccurred, hrowAt]

/-! ### What a signing call performs -/

/-- The operations of a call of `signTerminalAcknowledgment`. -/
def Signs (P : DemoPlatform Raw) (lookupToken : Text) (input : Raw) (o : DemoOp) : Prop :=
  o = .now ∨ (∃ now, o = .get (P.sha256 lookupToken) now) ∨
    ∃ core, P.parseEventCore input = .ok core ∧ o = .sign (P.sha256 lookupToken) core

theorem signTerminalAcknowledgment_only (lookupToken : Text) (input : Raw) :
    (signTerminalAcknowledgment P lookupToken input).Only (Signs P lookupToken input) := by
  unfold signTerminalAcknowledgment
  split_ifs with htoken
  · exact only_throw _
  have hget : (getSubmission P lookupToken).Only (Signs P lookupToken input) := by
    unfold getSubmission
    rw [if_neg htoken]
    refine Prog.Only.bind (only_perform (.inl rfl)) fun now => ?_
    exact Prog.Only.bind (only_perform (.inr (.inl ⟨now, rfl⟩))) fun row => trivial
  refine hget.bind ?_
  rintro (- | submission)
  · exact only_throw _
  dsimp only
  rcases submission.acknowledgment with - | stored
  · exact only_throw _
  dsimp only
  rcases hparse : parseProposed P input with e | core
  · exact only_ret _
  show Prog.Only _ (Prog.ofExcept (checkProposed core stored) >>= _)
  refine Prog.Only.bind (only_ret _) fun _ => ?_
  refine Prog.Only.bind (Prog.Only.attempt (only_perform ?_)) ?_
  · exact .inr (.inr ⟨core, parseProposed_eq_ok.mp hparse, rfl⟩)
  · rintro (e | signed)
    · dsimp only
      split_ifs
      · exact only_throw _
      · exact only_throw _
    · exact only_pure _

theorem only_true {α : Type} (p : DemoProgram α) : p.Only fun _ => True := by
  induction p with
  | ret r => trivial
  | op o k ih => exact ⟨trivial, ih⟩

/-- What a signing call has performed. -/
theorem reaches_signs {run : DemoRun Raw} (h : (demoSystem P).Reaches .empty run)
    {lookupToken : Text} {input : Raw}
    {t : Thread DemoOp DemoOp.Result DemoError DemoResult DemoDb (DemoCall Raw) DemoOp.Answer}
    (ht : t ∈ run.threads) (hcall : t.call = .sign lookupToken input) :
    ∀ event ∈ t.log, Signs P lookupToken input event.op := by
  have honly := System.Reaches.only (S := demoSystem P) (H := fun call o => match call with
    | .sign lookupToken input => Signs P lookupToken input o
    | _ => True) ?_ h t ht
  · rw [hcall] at honly
    exact honly.1
  · rintro (input | lookupToken | lookupToken | ⟨lookupToken, input⟩)
    · exact only_true _
    · exact only_true _
    · exact only_true _
    · exact Prog.Only.bind (signTerminalAcknowledgment_only lookupToken input)
        fun signature => only_pure _

/-! ### What an operation records -/

section effects

variable {db db' : DemoDb}

/-- A signature that an operation records is one of a core that it was given,
for the submission of its token. -/
theorem Effect.records {o : DemoOp} (he : Effect P o db db') :
    db'.signatures = db.signatures ∨ ∃ hash core g, o = .sign hash core ∧
      BoundTo db' hash g ∧ g.eventCore = core ∧ g.receiptId = core.receiptId ∧
      g.eventHash = hashEventCore P.keccak core ∧
      db'.signatures = db.signatures ++ [g] ∧ db'.submissions = db.submissions := by
  cases he with
  | same => exact .inl rfl
  | created => exact .inl rfl
  | left => exact .inl rfl
  | @signed db hash core submission signature signed now hfind hsigned hfree =>
    obtain ⟨hrow, hhash⟩ := byTokenHash_eq_some hfind
    obtain ⟨-, heventHash⟩ := toStoredSignature_row hsigned submission.id now
    refine .inr ⟨hash, core, signed.row submission.id core now, rfl, ⟨?_, ?_⟩, rfl, rfl,
      heventHash, rfl, rfl⟩
    · exact List.mem_append_right _ (List.mem_singleton_self _)
    · exact ⟨submission, hrow, hhash, rfl⟩

/-- An operation changes nothing but that it takes the submission of a token
out of the queue. -/
def OnlyLeaves (P : DemoPlatform Raw) (hash : Digest) (event : DemoEvent) : Prop :=
  (demoSystem P).after event = event.before ∨
    (((demoSystem P).after event).signatures = event.before.signatures ∧
      ∃ row later, Leaves P event row later ∧ row.publicTokenHash = hash ∧
        ∀ r ∈ event.before.submissions, r ≠ row → r ∈ ((demoSystem P).after event).submissions)

theorem onlyLeaves_get {event : DemoEvent} (h : event.before.Sound P) {hash : Digest}
    {now : Timestamp} (hop : event.op = .get hash now) : OnlyLeaves P hash event := by
  have heffect := executeDemoOp_effect (P := P) h.consistent event.op event.answer
  obtain ⟨op, answer, before⟩ := event
  subst hop
  generalize hafter : (executeDemoOp P (.get hash now) answer before).2 = after at heffect
  have hevent : (demoSystem P).after ⟨.get hash now, answer, before⟩ = after := hafter
  unfold OnlyLeaves
  cases heffect with
  | same => exact .inl hevent
  | left stored row bytes hfind hqueued hready happly =>
    obtain ⟨hstored, hhash⟩ := byTokenHash_eq_some hfind
    have hid := (apply_eq_ok happly).1
    have hrows : ((demoSystem P).after ⟨.get hash now, answer, before⟩).submissions =
        replaceRow before.submissions row := by
      rw [hevent]
    refine .inr ⟨by rw [hevent], stored, row, ⟨hstored, hqueued, ?_, hid, ?_⟩, hhash, ?_⟩
    · rw [hrows]
      exact List.mem_map.mpr ⟨stored, hstored, if_pos hid.symm⟩
    · exact (sound_transition hqueued happly).2.1
    · intro r hr hne
      rw [hrows]
      refine List.mem_map.mpr ⟨r, hr, if_neg fun hsame => hne ?_⟩
      exact eq_of_nodup_map h.consistent.ids hr hstored (hsame.trans hid)

end effects

/-! ### Runs -/

section runs

variable {run : DemoRun Raw}
  {t : Thread DemoOp DemoOp.Result DemoError DemoResult DemoDb (DemoCall Raw) DemoOp.Answer}
  {lookupToken : Text} {input : Raw} {core : LifecycleEventCore}

/-- **What an operation of a signing call changes**: a signature of its core,
which stays, or its own submission's place in the queue. -/
theorem signing_changes (h : (demoSystem P).Reaches .empty run) (ht : t ∈ run.threads)
    (hcall : t.call = .sign lookupToken input) (hcore : P.parseEventCore input = .ok core) :
    ∀ event ∈ t.log, OnlyLeaves P (P.sha256 lookupToken) event ∨
      ∃ g, BoundTo run.state (P.sha256 lookupToken) g ∧ g.receiptId = core.receiptId ∧
        g.eventHash = hashEventCore P.keccak core := by
  intro event hevent
  obtain ⟨hbefore, -, hfinal⟩ :=
    (reaches_precedes h).1 event ((h.log_sublist t ht).subset hevent)
  have heffect := executeDemoOp_effect (P := P) hbefore.consistent event.op event.answer
  rcases reaches_signs h ht hcall event hevent with hop | ⟨now, hop⟩ | ⟨core', hcore', hop⟩
  · -- reading the clock changes nothing
    obtain ⟨op, answer, before⟩ := event
    subst hop
    exact .inl (.inl rfl)
  · exact .inl (onlyLeaves_get hbefore hop)
  · obtain rfl := Except.ok.inj (hcore.symm.trans hcore')
    rcases heffect.records with hsame | ⟨hash, core', g, hop', hg, -, hreceipt, hhash, -⟩
    · refine .inl (.inl ?_)
      generalize hafter : (executeDemoOp P event.op event.answer event.before).2 = after
        at heffect hsame
      have hevent : (demoSystem P).after event = after := hafter
      rw [hop] at heffect
      cases heffect with
      | same => exact hevent
      | signed submission signature signed now hfind hsigned hfree => simp at hsame
    · rw [hop] at hop'
      cases hop'
      exact .inr ⟨g, hg.precedes hfinal, hreceipt, hhash⟩

/-- The signature of a submission is unique. -/
theorem BoundTo.unique {db : DemoDb} {hash : Digest} {g g' : SignatureRow} (h : db.Sound P)
    (hg : BoundTo db hash g) (hg' : BoundTo db hash g') : g = g' := by
  obtain ⟨hmem, row, hrow, hhash, hid⟩ := hg
  obtain ⟨hmem', row', hrow', hhash', hid'⟩ := hg'
  obtain rfl := eq_of_nodup_map h.consistent.tokens hrow hrow' (hhash.trans hhash'.symm)
  exact eq_of_nodup_map h.submissionIds hmem hmem' (hid.symm.trans hid')

/-- What a signing call has returned. -/
theorem reaches_returned (h : (demoSystem P).Reaches .empty run) (ht : t ∈ run.threads)
    (hcall : t.call = .sign lookupToken input) {r : Except DemoError DemoResult}
    (hr : t.rest = .ret r) :
    ∃ r', r = r'.map DemoResult.signed ∧ SignReturns P lookupToken input r' t.log run.state := by
  have hguarded := System.Reaches.guarded demoSystem_safe (sound_empty (P := P)) h
  have hthread := hguarded.threads t ht
  rw [hr, hcall] at hthread
  exact hthread run.state .refl hguarded.inv

/-- A signing call was refused: it has returned no signature, and left the
signatures and all other submissions as they were. -/
structure Refused (P : DemoPlatform Raw) (lookupToken : Text)
    (t : Thread DemoOp DemoOp.Result DemoError DemoResult DemoDb (DemoCall Raw) DemoOp.Answer) :
    Prop where
  returned : ∀ r, t.rest = .ret r → ∃ e, r = .error e
  changes : ∀ event ∈ t.log, OnlyLeaves P (P.sha256 lookupToken) event

/-- **Terminal acknowledgments of a run are bound to one receipt.** -/
structure BindsAcknowledgments (P : DemoPlatform Raw) (run : DemoRun Raw) : Prop where
  onePerSubmission : (run.state.signatures.map (·.submissionId)).Nodup
  onePerReceipt : (run.state.signatures.map (·.receiptId)).Nodup
  kept : ∀ event ∈ run.trace, event.before.signatures.Sublist run.state.signatures
  core : ∀ g ∈ run.state.signatures, g.receiptId = g.eventCore.receiptId ∧
    g.eventHash = hashEventCore P.keccak g.eventCore ∧
    ∃ row ∈ run.state.submissions, row.id = g.submissionId ∧ NamesOutcome g.eventCore row
  /-- The outcome was persisted before the signature. -/
  terminal : ∀ event ∈ run.trace, ∀ g ∈ ((demoSystem P).after event).signatures,
    ∃ row ∈ event.before.submissions, row.id = g.submissionId ∧ NamesOutcome g.eventCore row
  /-- A core with the event of a signature returns it, if the database
  answers. -/
  replay : ∀ t ∈ run.threads, ∀ lookupToken input core r, t.call = .sign lookupToken input →
    P.parseEventCore input = .ok core → t.rest = .ret r → Acknowledged t.log →
    ∀ event ∈ t.log, ∀ g, BoundTo event.before (P.sha256 lookupToken) g →
    hashEventCore P.keccak core = g.eventHash →
    (hashEventCore P.keccak core = hashEventCore P.keccak g.eventCore → core = g.eventCore) →
    ∃ signature, toStoredSignature P g = .ok signature ∧ r = .ok (.signed signature)
  /-- A core with another event than the signature of its submission is
  refused; once that is recorded, without changing anything. -/
  other : ∀ t ∈ run.threads, ∀ lookupToken input core, t.call = .sign lookupToken input →
    P.parseEventCore input = .ok core → ∀ g, BoundTo run.state (P.sha256 lookupToken) g →
    hashEventCore P.keccak core ≠ g.eventHash → Refused P lookupToken t ∧
      ∀ event ∈ t.log, BoundTo event.before (P.sha256 lookupToken) g →
        (demoSystem P).after event = event.before
  /-- So is one with a receipt that is bound to another submission. -/
  elsewhere : ∀ t ∈ run.threads, ∀ lookupToken input core, t.call = .sign lookupToken input →
    P.parseEventCore input = .ok core → ∀ g ∈ run.state.signatures,
    g.receiptId = core.receiptId → ¬ BoundTo run.state (P.sha256 lookupToken) g →
    (∀ g' ∈ run.state.signatures,
      hashEventCore P.keccak core = hashEventCore P.keccak g'.eventCore → core = g'.eventCore) →
    Refused P lookupToken t

theorem namesOutcome_of_mem {db : DemoDb} (h : db.Sound P) {g : SignatureRow}
    (hg : g ∈ db.signatures) :
    ∃ row ∈ db.submissions, row.id = g.submissionId ∧ NamesOutcome g.eventCore row := by
  obtain ⟨row, hrow, a, hid, ha, hcheck⟩ := (h.acknowledges g hg).outcome
  exact ⟨row, hrow, hid, namesOutcome_of_checkProposed ha hcheck⟩

/-- **The outcome of a signed submission was persisted** before the operation
that recorded the signature. -/
theorem names_before (h : (demoSystem P).Reaches .empty run) {event : DemoEvent}
    (hevent : event ∈ run.trace) {g : SignatureRow}
    (hg : g ∈ ((demoSystem P).after event).signatures) :
    ∃ row ∈ event.before.submissions, row.id = g.submissionId ∧ NamesOutcome g.eventCore row := by
  obtain ⟨earlier, rest, htrace⟩ := List.append_of_mem hevent
  obtain ⟨t, ht, log, log', hlog, -⟩ := h.performed htrace
  obtain ⟨hbefore, -, hpermitted⟩ :=
    System.Reaches.logged demoSystem_safe (sound_empty (P := P)) h ht hlog
  have heffect := executeDemoOp_effect (P := P) hbefore.consistent event.op event.answer
  have hafter := sound_executeDemoOp hbefore event.op event.answer hpermitted
  rcases heffect.records with hsame | ⟨hash, core, g', -, -, -, -, -, -, hrows⟩
  · have hg' : g ∈ event.before.signatures := by
      rw [← hsame]
      exact hg
    exact namesOutcome_of_mem hbefore hg'
  · -- the submissions are the ones before
    obtain ⟨row, hrow, hnames⟩ := namesOutcome_of_mem hafter hg
    rw [hrows] at hrow
    exact ⟨row, hrow, hnames⟩

/-- A signing call that recorded nothing and returned nothing was refused. -/
theorem refused_of_not_bound (h : (demoSystem P).Reaches .empty run) (ht : t ∈ run.threads)
    (hcall : t.call = .sign lookupToken input) (hcore : P.parseEventCore input = .ok core)
    (hnone : ∀ g, BoundTo run.state (P.sha256 lookupToken) g →
      g.eventHash ≠ hashEventCore P.keccak core) : Refused P lookupToken t := by
  refine ⟨?_, ?_⟩
  · intro r hr
    obtain ⟨r', rfl, hreturns⟩ := reaches_returned h ht hcall hr
    rcases r' with e | signature
    · exact ⟨e, rfl⟩
    · obtain ⟨core', g, hcore', hg, hhash, -⟩ := hreturns.bound signature rfl
      obtain rfl := Except.ok.inj (hcore.symm.trans hcore')
      exact absurd hhash (hnone g hg)
  · intro event hevent
    rcases signing_changes h ht hcall hcore event hevent with honly | ⟨g, hg, -, hhash⟩
    · exact honly
    · exact absurd hhash (hnone g hg)

/-- A submission with a signature has left the queue. -/
theorem OnlyLeaves.eq_of_bound {event : DemoEvent} {g : SignatureRow} {hash : Digest}
    (h : event.before.Sound P) (honly : OnlyLeaves P hash event)
    (hg : BoundTo event.before hash g) :
    (demoSystem P).after event = event.before := by
  rcases honly with hsame | ⟨-, row, later, hleaves, hhash, -⟩
  · exact hsame
  · obtain ⟨row', a, hfind, -, ha, -⟩ := hg.acknowledged h
    rw [Consistent.byTokenHash h.consistent hleaves.before hhash] at hfind
    obtain rfl := Option.some.inj hfind
    exact absurd hleaves.queued (acknowledgment_settled ha)

/-- **Authority acknowledgment binding**, in every run. -/
theorem acknowledgments_bound (h : (demoSystem P).Reaches .empty run) :
    BindsAcknowledgments P run := by
  obtain ⟨hstates, -⟩ := reaches_precedes h
  have hsound : run.state.Sound P :=
    (System.Reaches.guarded demoSystem_safe (sound_empty (P := P)) h).inv
  refine ⟨hsound.submissionIds, hsound.receiptIds, ?_, ?_, ?_, ?_, ?_, ?_⟩
  · intro event hevent
    obtain ⟨-, hstep, hfinal⟩ := hstates event hevent
    exact hstep.signatures.trans hfinal.signatures
  · intro g hg
    have hacks := hsound.acknowledges g hg
    exact ⟨hacks.receiptId, hacks.eventHash, namesOutcome_of_mem hsound hg⟩
  · exact fun event hevent g hg => names_before h hevent hg
  · intro t ht lookupToken input core r hcall hcore hr hacked event hevent g hg hhash hdistinct
    obtain ⟨r', rfl, hreturns⟩ := reaches_returned h ht hcall hr
    have hbefore := (hstates event ((h.log_sublist t ht).subset hevent)).1
    have hacks := hbefore.acknowledges g hg.1
    obtain ⟨signature, hstored⟩ := hacks.stored
    have hsame : g.eventCore = core := (hdistinct (hhash.trans hacks.eventHash)).symm
    refine ⟨signature, hstored, ?_⟩
    rw [hreturns.replay hacked core hcore event hevent g hg hsame signature hstored]
    rfl
  · intro t ht lookupToken input core hcall hcore g hg hother
    have hrefused := refused_of_not_bound h ht hcall hcore fun g' hg' hhash => by
      obtain rfl := BoundTo.unique hsound hg hg'
      exact hother hhash.symm
    refine ⟨hrefused, fun event hevent hbound => ?_⟩
    have hbefore := (hstates event ((h.log_sublist t ht).subset hevent)).1
    exact (hrefused.changes event hevent).eq_of_bound hbefore hbound
  · intro t ht lookupToken input core hcall hcore g hg hreceipt helsewhere hdistinct
    refine refused_of_not_bound h ht hcall hcore fun g' hg' hhash => ?_
    -- a signature of the core would be bound to its receipt as well
    have hacks' := hsound.acknowledges g' hg'.1
    have hsame : core = g'.eventCore := hdistinct g' hg'.1 (hhash.symm.trans hacks'.eventHash)
    have hreceipt' : g.receiptId = g'.receiptId := by
      rw [hreceipt, hacks'.receiptId, hsame]
    obtain rfl := eq_of_nodup_map hsound.receiptIds hg hg'.1 hreceipt'
    exact helsewhere hg'

end runs

/-! ### A refused call -/

/-- An accepted event of a receipt. -/
def sampleAcknowledged (time : Timestamp) (byte : UInt8) (previous : HashHex) :
    LifecycleEventCore where
  occurredAt := time
  previousEventHash := previous
  receiptId := 1
  schemaVersion := CURRENT_SCHEMA_VERSION
  body := .authorityAccepted
    ⟨time, DEMO_AUTHORITY_ID, none, some (createAuthorityReference (List.replicate 12 byte))⟩

/-- Two submissions are made, and the first one is signed for a receipt. -/
def signedCalls : List (DemoCall LifecycleEventCore) :=
  [.create (sampleInput .accepted), .create (sampleInput .accepted), .get sampleToken,
    .sign sampleToken (sampleAcknowledged 8000 9 1)]

/-- The second one is proposed for the receipt of the first. -/
def refusedCall : DemoCall LifecycleEventCore :=
  .sign (Relay.encodeBase64Url (List.replicate 32 4)) (sampleAcknowledged 13000 14 2)

/-- The acknowledgment of the first one, as an event after another one, is
proposed for the second. -/
def strayCall : DemoCall LifecycleEventCore :=
  .sign (Relay.encodeBase64Url (List.replicate 32 4)) (sampleAcknowledged 8000 9 2)

/-- What the last call of a run has returned. -/
def lastResult (run : DemoRun LifecycleEventCore) : Option (Except DemoError DemoResult) :=
  match run.threads with
  | ⟨_, _, .ret r⟩ :: _ => some r
  | _ => none

/-- **A call that is refused can move its own submission**: it reads it, and its
time has come.  Of the calls here one is refused for its receipt, the other for
the time that it was told of the first submission. -/
theorem rejection_moves_submission :
    (demoSystem samplePlatform).Reaches .empty (demoRun (signedCalls ++ [refusedCall])) ∧
      (demoSystem samplePlatform).Reaches .empty (demoRun (signedCalls ++ [strayCall])) ∧
      (demoRun signedCalls).state.signatures.map (fun g => (g.submissionId, g.receiptId)) =
        [(1, 1)] ∧
      lastResult (demoRun (signedCalls ++ [refusedCall])) = some (.error (mismatch
        "RECEIPT_ALREADY_BOUND"
        "That receipt identifier is already bound to another demo acknowledgment.")) ∧
      lastResult (demoRun (signedCalls ++ [strayCall])) = some (.error (mismatch
        "MISMATCHED_ACKNOWLEDGMENT_TIME"
        "The proposed acknowledgment time does not match the persisted outcome.")) ∧
      (demoRun signedCalls).state.submissions.map (fun row => (row.id, row.currentStatus)) =
        [(1, .accepted), (2, .queued)] ∧
      (demoRun (signedCalls ++ [refusedCall])).state.submissions.map
        (fun row => (row.id, row.currentStatus)) = [(1, .accepted), (2, .accepted)] ∧
      (demoRun (signedCalls ++ [strayCall])).state.submissions.map
        (fun row => (row.id, row.currentStatus)) = [(1, .accepted), (2, .accepted)] :=
  ⟨demoRun_reaches _, demoRun_reaches _, by decide +kernel, by decide +kernel, by decide +kernel,
    by decide +kernel, by decide +kernel, by decide +kernel⟩

theorem acknowledgments_bound_refusedCall :
    (demoRun (signedCalls ++ [refusedCall])).state.signatures.length = 1 ∧
      BindsAcknowledgments samplePlatform (demoRun (signedCalls ++ [refusedCall])) :=
  ⟨by decide +kernel, acknowledgments_bound (demoRun_reaches _)⟩

end SubmittedIt.Demo
