/-
SubmittedIt/DemoStatus.lean

The status machine of demo submissions.

A submission that is read when its time has come leaves the queue, whoever
reads it first.  Later tables keep what has left the queue (`Precedes`), so no
other reader moves it again, and every view of it from then on is the same.

Main result: `status_machine`.
-/
import SubmittedIt.DemoRuns

namespace SubmittedIt.Demo

open Transaction ReceiptCore

variable {Raw : Type} {P : DemoPlatform Raw}

/-! ### Leaving the queue -/

/-- An operation takes a submission out of the queue. -/
structure Leaves (P : DemoPlatform Raw) (event : DemoEvent) (row later : SubmissionRow) :
    Prop where
  before : row ∈ event.before.submissions
  queued : row.currentStatus = .queued
  after : later ∈ ((demoSystem P).after event).submissions
  id : later.id = row.id
  left : later.currentStatus ≠ .queued

/-- Only the transaction of `getSubmission` takes a submission out of the
queue. -/
theorem Effect.leaves {o : DemoOp} {db db' : DemoDb} (h : db.Consistent) (he : Effect P o db db')
    {row later : SubmissionRow} (hrow : row ∈ db.submissions)
    (hqueued : row.currentStatus = .queued) (hlater : later ∈ db'.submissions)
    (hid : later.id = row.id) (hleft : later.currentStatus ≠ .queued) :
    ∃ hash now, o = .get hash now ∧ row.processingReadyAt ≤ now ∧
      later.currentStatus = row.filing.scenario.status := by
  -- a row that is still the old one is in the queue
  have hold : later ∉ db.submissions := by
    intro hmem
    obtain rfl := eq_of_nodup_map h.ids hmem hrow hid
    exact hleft hqueued
  cases he with
  | same => exact absurd hlater hold
  | created new hnewId hnew hfree =>
    rcases List.mem_append.mp hlater with hmem | hmem
    · exact absurd hmem hold
    · obtain rfl := List.mem_singleton.mp hmem
      exact absurd hnew hleft
  | @left db hash now stored new bytes hfind hstored hready happly =>
    rcases mem_replaceRow hlater with rfl | ⟨hmem, -⟩
    · have hsame := (apply_eq_ok happly).1.symm.trans hid
      obtain rfl := eq_of_nodup_map h.ids (byTokenHash_eq_some hfind).1 hrow hsame
      exact ⟨hash, now, rfl, hready, (sound_transition hstored happly).1⟩
    · exact absurd hmem hold
  | signed => exact absurd hlater hold

/-! ### Runs -/

/-- The view in what a call returned. -/
def DemoResult.view : DemoResult → Option DemoSubmissionView
  | created _ submission => some submission
  | found submission => submission
  | signed _ => none

/-- A call has returned the view. -/
def DemoSaw (run : DemoRun Raw) (v : DemoSubmissionView) : Prop :=
  ∃ t ∈ run.threads, ∃ result, t.rest = .ret (.ok result) ∧ result.view = some v

/-- The submissions of a run keep to their status machine. -/
structure KeepsStatusMachine (P : DemoPlatform Raw) (run : DemoRun Raw) : Prop where
  /-- A submission leaves the queue by a reading of the clock that is not
  before its time, and to the status of its scenario. -/
  ready : ∀ earlier event rest, run.trace = earlier ++ event :: rest → ∀ row later,
    Leaves P event row later → ∃ now db, (⟨.now, now, db⟩ : DemoEvent) ∈ earlier ∧
      row.processingReadyAt ≤ now ∧ later.currentStatus = row.filing.scenario.status
  /-- It does so at most once. -/
  once : run.trace.Pairwise fun event event' => ∀ row later row' later',
    Leaves P event row later → Leaves P event' row' later' → row.id ≠ row'.id
  /-- One that has left the queue is never changed. -/
  settled : (∀ event ∈ run.trace, ∀ row ∈ event.before.submissions, row.currentStatus ≠ .queued →
      row ∈ ((demoSystem P).after event).submissions ∧ row ∈ run.state.submissions) ∧
    run.trace.Pairwise fun event event' => ∀ row ∈ ((demoSystem P).after event).submissions,
      row.currentStatus ≠ .queued → row ∈ event'.before.submissions
  ids : (run.state.submissions.map (·.id)).Nodup
  history : ∀ row ∈ run.state.submissions, (run.state.historyOf row.id).map (·.status) =
    if row.currentStatus = .queued then [.queued] else [.queued, row.filing.scenario.status]
  /-- Every view of a submission that has left the queue is the same. -/
  agree : ∀ v v', DemoSaw run v → DemoSaw run v' →
    v.submissionReference = v'.submissionReference → v.status ≠ .queued → v'.status ≠ .queued →
    v = v'
  terminal : ∀ v, DemoSaw run v → v.status = .accepted ∨ v.status = .rejected →
    ∃ row ∈ run.state.submissions, row.submissionReference = v.submissionReference ∧
      row.currentStatus = v.status ∧ ∃ a, v.acknowledgment = some a ∧ row.acknowledgment = some a

theorem saw_shows {run : DemoRun Raw} (h : (demoSystem P).Reaches .empty run)
    {v : DemoSubmissionView} (hv : DemoSaw run v) : ∃ hash, Shows run.state hash v := by
  obtain ⟨t, ht, result, hrest, hview⟩ := hv
  have hguarded := System.Reaches.guarded demoSystem_safe (sound_empty (P := P)) h
  have hreturns : CallReturns P t.call (.ok result) t.log run.state := by
    have hthread := hguarded.threads t ht
    rw [hrest] at hthread
    exact hthread run.state .refl hguarded.inv
  rcases t with ⟨call, log, rest⟩
  rcases call with input | lookupToken | lookupToken | ⟨lookupToken, input⟩
  · obtain ⟨lookupToken, v', rfl, hshows⟩ := hreturns result rfl
    obtain rfl := Option.some.inj hview
    exact ⟨_, hshows⟩
  · obtain ⟨found, rfl, hshows⟩ := hreturns result rfl
    exact ⟨_, hshows v hview⟩
  · obtain ⟨found, rfl, hshows⟩ := hreturns result rfl
    exact ⟨_, hshows v hview⟩
  · obtain ⟨r', hr', -⟩ := hreturns
    rcases r' with e | signature
    · cases hr'
    · obtain rfl := Except.ok.inj hr'
      cases hview

/-- A terminal row has an acknowledgment. -/
theorem exists_acknowledgment {row : SubmissionRow}
    (h : row.currentStatus = .accepted ∨ row.currentStatus = .rejected) :
    ∃ a, row.acknowledgment = some a := by
  rcases row.outcome_consistency with ⟨hst | hst, -⟩ | ⟨-, houtcome, href, -, hat⟩ |
    ⟨-, houtcome, href, -, hat⟩
  · rcases h with h | h <;> · rw [hst] at h; cases h
  · rcases h with h | h <;> · rw [hst] at h; cases h
  all_goals
    obtain ⟨reference, hreference⟩ := Option.ne_none_iff_exists'.mp href
    obtain ⟨time, htime⟩ := Option.ne_none_iff_exists'.mp hat
    exact ⟨_, by rw [SubmissionRow.acknowledgment, houtcome, hreference, htime]⟩

/-- **The demo submission status machine**, in every run. -/
theorem status_machine {run : DemoRun Raw} (h : (demoSystem P).Reaches .empty run) :
    KeepsStatusMachine P run := by
  obtain ⟨hstates, hpairs⟩ := reaches_precedes h
  have hsound : run.state.Sound P :=
    (System.Reaches.guarded demoSystem_safe (sound_empty (P := P)) h).inv
  have hkept : ∀ {db db' : DemoDb}, db.Precedes db' → ∀ row ∈ db.submissions,
      row.currentStatus ≠ .queued → row ∈ db'.submissions := by
    intro db db' hprecedes row hrow hleft
    obtain ⟨later, hlater, hlasts⟩ := hprecedes.submissions row hrow
    rw [← hlasts.settled hleft]
    exact hlater
  refine ⟨?_, ?_, ⟨?_, ?_⟩, hsound.consistent.ids, ?_, ?_, ?_⟩
  · intro earlier event rest htrace row later hleaves
    obtain ⟨t, ht, log, log', hlog, hearlier⟩ := h.performed htrace
    obtain ⟨hevent, -, hpermitted⟩ :=
      System.Reaches.logged demoSystem_safe (sound_empty (P := P)) h ht hlog
    have heffect := executeDemoOp_effect (P := P) hevent.consistent event.op event.answer
    obtain ⟨hash, now, hop, hready, hstatus⟩ := heffect.leaves hevent.consistent hleaves.before
      hleaves.queued hleaves.after hleaves.id hleaves.left
    obtain ⟨op, answer, before⟩ := event
    subst hop
    obtain ⟨db, hnow⟩ := hpermitted
    exact ⟨now, db, hearlier.subset hnow, hready, hstatus⟩
  · refine hpairs.imp_of_mem ?_
    intro event event' _ hevent' hprecedes row later row' later' hleaves hleaves' hsame
    have hlater := hkept hprecedes later hleaves.after hleaves.left
    obtain rfl := eq_of_nodup_map (hstates event' hevent').1.consistent.ids hlater
      hleaves'.before (hleaves.id.trans hsame)
    exact hleaves.left hleaves'.queued
  · intro event hevent row hrow hleft
    obtain ⟨-, hstep, hfinal⟩ := hstates event hevent
    have hafter := hkept hstep row hrow hleft
    exact ⟨hafter, hkept hfinal row hafter hleft⟩
  · exact hpairs.imp fun hprecedes => hkept hprecedes
  · intro row hrow
    rw [hsound.consistent.history row hrow, SubmissionRow.statuses]
    rcases hsound.consistent.sound row hrow with hqueued | ⟨hstatus, -⟩
    · rw [if_pos hqueued, if_pos hqueued]
    · rw [hstatus]
  · intro v v' hv hv' href hleft hleft'
    obtain ⟨hash, row, hrow, -, hrowRef, -, hview⟩ := saw_shows h hv
    obtain ⟨hash', row', hrow', -, hrowRef', -, hview'⟩ := saw_shows h hv'
    obtain rfl := eq_of_nodup_map hsound.consistent.references hrow hrow'
      (hrowRef.trans (href.trans hrowRef'.symm))
    rw [(hview hleft).1, (hview' hleft').1]
  · intro v hv hterminal
    obtain ⟨hash, row, hrow, -, href, -, hview⟩ := saw_shows h hv
    have hleft : v.status ≠ .queued := by
      rcases hterminal with hst | hst <;> · rw [hst]; exact DemoDatabaseStatus.noConfusion
    obtain ⟨hv, -⟩ := hview hleft
    have hstatus : row.currentStatus = v.status := by rw [hv]; rfl
    rw [← hstatus] at hterminal
    obtain ⟨a, ha⟩ := exists_acknowledgment hterminal
    exact ⟨row, hrow, href, hstatus, a, by rw [hv]; exact ha, ha⟩

/-! ### A run -/

/-- A platform whose authority signs with the empty text. -/
def samplePlatform : DemoPlatform LifecycleEventCore where
  sha256 text := text.foldl (fun hash unit => hash * 65536 + BitVec.ofNat 256 unit.toNat) 0
  keccak
    | .event core => 2 * core.receiptId + core.previousEventHash
    | .extensionSignature _ => 8
    | .authoritySignature payload => payload.eventHash + 1
  parseEventCore core := .ok core
  publicKey := ⟨ascii "demo-key", ascii "value"⟩
  verifies _ _ signature := signature = []
  processingDelayMs := 1000

/-- The environment at the `n`-th operation of a run: all random bytes are
`n`, and a second passes with each operation. -/
def sampleAnswers (n : Nat) : (o : DemoOp) → o.Answer
  | .randomBytes m => ⟨List.replicate m (UInt8.ofNat n), List.length_replicate⟩
  | .now => 1000 * n
  | .create _ => .acknowledged
  | .select _ => .acknowledged
  | .get .. => (.acknowledged, ⟨List.replicate 12 (UInt8.ofNat n), List.length_replicate⟩)
  | .sign .. => (.acknowledged, [], 1000 * n)

/-- A run whose calls are made one after the other. -/
def demoRun (calls : List (DemoCall LifecycleEventCore)) : DemoRun LifecycleEventCore :=
  calls.foldl (fun run call => (demoSystem samplePlatform).serve sampleAnswers call 9 run)
    ⟨.empty, [], []⟩

theorem demoRun_reaches (calls : List (DemoCall LifecycleEventCore)) :
    (demoSystem samplePlatform).Reaches .empty (demoRun calls) := by
  have hserved : ∀ run, (demoSystem samplePlatform).Reaches .empty run →
      (demoSystem samplePlatform).Reaches .empty (calls.foldl
        (fun run call => (demoSystem samplePlatform).serve sampleAnswers call 9 run) run) := by
    induction calls with
    | nil => exact fun run h => h
    | cons call calls ih =>
      exact fun run h => ih _ (h.serve (fun _ _ => trivial) call 9)
  exact hserved _ .refl

def sampleInput (scenario : DemoScenario) : DemoSubmissionInput :=
  ⟨100, ascii "sample@a.example", ascii "Sample", 2025, .sampleAnnualFiling, scenario⟩

/-- The token that the first call of a run makes. -/
def sampleToken : Text := Relay.encodeBase64Url (List.replicate 32 0)

/-- A submission is made, and read twice when its time has come. -/
def sampleCalls : List (DemoCall LifecycleEventCore) :=
  [.create (sampleInput .rejected), .read sampleToken, .get sampleToken, .get sampleToken]

theorem status_machine_sampleCalls :
    (demoRun sampleCalls).state.history.map (·.status) = [.queued, .rejected] ∧
      KeepsStatusMachine samplePlatform (demoRun sampleCalls) :=
  ⟨by decide +kernel, status_machine (demoRun_reaches sampleCalls)⟩

end SubmittedIt.Demo
