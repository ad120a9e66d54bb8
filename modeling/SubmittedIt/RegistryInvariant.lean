/-
SubmittedIt/RegistryInvariant.lean

The invariant of the registry over whole runs.

Anyone may call `anchorEvent` with any arguments, for any number of receipts
in any order, and calls may revert.  What an accepted call keeps is stated
for one receipt as a relation between its stored record and the events
emitted for it, `ReceiptLog`: the events are a hash-linked list and a walk in
the lifecycle (two readings of one list in the sense of `Linked.Follows`),
and the record is the tip of both.

* `ReceiptLog.append` is the step lemma for the receipt the call is about;
  the events of every other receipt are untouched (`eventsOf_append_of_ne`).
* `Invariant.append` adds the map of anchored hashes, which ties the
  receipts together: a hash is anchored exactly when some event carries it,
  and no two events carry the same one.
* `invariant_run` is the run lemma.

Main results: `registry_run_history` (what any finite run leaves behind) and
`ReceiptLog.history`, which reads the invariant off in the contract's words.
-/
import SubmittedIt.Linked
import SubmittedIt.Registry

namespace SubmittedIt

open Transaction Linked

/-! ### The events of one receipt -/

/-- The events emitted for a receipt, in order. -/
def Registry.eventsOf (s : Registry) (receiptId : Bytes32) : List ReceiptEventAnchored :=
  s.logs.filter fun e => e.receiptId = receiptId

/-- Hash linkage: an event names the hash of the event before it. -/
def NamesPrevious (z : Bytes32) (e : ReceiptEventAnchored) : Prop := e.previousEventHash = z

/-- Lifecycle: an event enters a stage allowed after the one before it. -/
def EntersStage (a : ReceiptStage) (e : ReceiptEventAnchored) : Prop := StageStep a e.stage

/-- The stored record `receipt` is the tip of the events `es`. -/
structure ReceiptLog (receipt : ReceiptState) (es : List ReceiptEventAnchored) : Prop where
  linked : Follows NamesPrevious (·.eventHash) 0 es
  staged : Follows EntersStage (·.stage) .none es
  latest : receipt.latestEventHash = tip (·.eventHash) 0 es
  stage : receipt.currentStage = tip (·.stage) .none es
  count : receipt.eventCount.toNat = es.length
  counts : es.map (·.eventCount.toNat) = List.range' 1 es.length
  extensionKey : ∀ e ∈ es, e.extensionKeyHash = receipt.extensionKeyHash
  extensionKey_zero_iff : receipt.extensionKeyHash = 0 ↔ es = []
  hash_ne_zero : ∀ e ∈ es, e.eventHash ≠ 0
  authority : ∀ e ∈ es, (e.authorityKeyHash ≠ 0 ↔ isTerminal e.stage = true)

/-- The whole registry: every receipt's record is the tip of its events, and
the anchored hashes are those of the emitted events, each emitted once. -/
structure Registry.Invariant (s : Registry) : Prop where
  receipts : ∀ receiptId, ReceiptLog (s.receipts receiptId) (s.eventsOf receiptId)
  anchored : ∀ h, s.anchoredEvents h = true ↔ h ∈ s.logs.map (·.eventHash)
  nodup : (s.logs.map (·.eventHash)).Nodup

/-! ### Lifecycle walks -/

/-- A nonempty lifecycle walk ends in a stage of its own. -/
theorem tip_stage_ne_none {a : ReceiptStage} {e : ReceiptEventAnchored}
    {es : List ReceiptEventAnchored} (h : Follows EntersStage (·.stage) a (e :: es)) :
    tip (·.stage) a (e :: es) ≠ .none := by
  induction es generalizing a e with
  | nil => exact h.1.ne_none
  | cons e' es ih => exact ih h.2

theorem ReceiptLog.stage_none_iff {receipt : ReceiptState} {es : List ReceiptEventAnchored}
    (h : ReceiptLog receipt es) : receipt.currentStage = .none ↔ es = [] := by
  rw [h.stage]
  rcases es with - | ⟨e, es⟩
  · simp
  · simpa using tip_stage_ne_none h.staged

theorem ReceiptLog.latest_zero_iff {receipt : ReceiptState} {es : List ReceiptEventAnchored}
    (h : ReceiptLog receipt es) : receipt.latestEventHash = 0 ↔ es = [] := by
  rw [h.latest]
  rcases List.eq_nil_or_concat es with rfl | ⟨es', e, rfl⟩
  · simp
  · simpa [tip_concat] using h.hash_ne_zero e (by simp)

/-- The number of events that lead to each stage. -/
def stageCounts : ReceiptStage → List Nat
  | .none => [0]
  | .attempted => [1]
  | .siteConfirmed => [2]
  | .authorityAccepted | .authorityRejected => [2, 3]

/-- One lifecycle step leads to one more event. -/
theorem stageCounts_step {a b : ReceiptStage} (h : StageStep a b) {n : Nat}
    (hn : n ∈ stageCounts a) : n + 1 ∈ stageCounts b := by
  revert h hn
  cases a <;> cases b <;> simp [StageStep, isValidTransition, stageCounts] <;> omega

/-- The stage a lifecycle walk ends in bounds its length. -/
theorem length_mem_stageCounts {a : ReceiptStage} {es : List ReceiptEventAnchored}
    (h : Follows EntersStage (·.stage) a es) {n : Nat} (hn : n ∈ stageCounts a) :
    n + es.length ∈ stageCounts (tip (·.stage) a es) := by
  induction es generalizing a n with
  | nil => simpa using hn
  | cons e es ih =>
    have hstep : n + 1 ∈ stageCounts e.stage := stageCounts_step h.1 hn
    have hrest := ih h.2 hstep
    simpa [Nat.add_assoc, Nat.add_comm 1] using hrest

theorem ReceiptLog.count_mem {receipt : ReceiptState} {es : List ReceiptEventAnchored}
    (h : ReceiptLog receipt es) : es.length ∈ stageCounts receipt.currentStage := by
  have hlen := length_mem_stageCounts h.staged (n := 0) (by simp [stageCounts])
  rwa [Nat.zero_add, ← h.stage] at hlen

/-- The event count stays far below the width it is stored in. -/
theorem ReceiptLog.count_le {receipt : ReceiptState} {es : List ReceiptEventAnchored}
    (h : ReceiptLog receipt es) : receipt.eventCount.toNat ≤ 3 := by
  have hbound : ∀ stage, ∀ n ∈ stageCounts stage, n ≤ 3 := by
    intro stage
    cases stage <;> decide
  rw [h.count]
  exact hbound _ _ h.count_mem

/-! ### The step lemma for one receipt -/

theorem ReceiptLog.zero : ReceiptLog ReceiptState.zero [] where
  linked := trivial
  staged := trivial
  latest := rfl
  stage := rfl
  count := rfl
  counts := rfl
  extensionKey := by simp
  extensionKey_zero_iff := by simp [ReceiptState.zero]
  hash_ne_zero := by simp
  authority := by simp

/-- What an accepted call names as previous hash is the tip of the events. -/
theorem ReceiptLog.namesPrevious {s : Registry} {call : AnchorEventCall}
    {es : List ReceiptEventAnchored} (h : ReceiptLog (s.receipts call.receiptId) es)
    (hacc : Accepted s call) :
    call.previousEventHash = tip (·.eventHash) 0 es := by
  by_cases hnone : (s.receipts call.receiptId).currentStage = .none
  · rw [hacc.progresses.first hnone, h.stage_none_iff.mp hnone]
    rfl
  · rw [(hacc.progresses.later hnone).2.1, h.latest]

/-- The extension key an accepted call carries is the one the record keeps. -/
theorem nextReceipt_extensionKeyHash {receipt : ReceiptState} {call : AnchorEventCall}
    {t : UInt64} {n : UInt32} (hprog : Progresses receipt call) :
    (nextReceipt receipt call t n).extensionKeyHash = call.extensionKeyHash := by
  by_cases hnone : receipt.currentStage = .none
  · simp [nextReceipt, hnone]
  · simp [nextReceipt, hnone, (hprog.later hnone).2.2]

/-- **An accepted call appends one event to the log of its receipt.** -/
theorem ReceiptLog.append {s : Registry} {call : AnchorEventCall}
    {es : List ReceiptEventAnchored} (h : ReceiptLog (s.receipts call.receiptId) es)
    (hacc : Accepted s call) :
    ReceiptLog ((s.append call).receipts call.receiptId)
      (es ++ [anchoredLog call call.anchoredAt (s.nextCount call)]) := by
  have hkey := nextReceipt_extensionKeyHash (t := call.anchoredAt) (n := s.nextCount call)
    hacc.progresses
  have hcount : (s.nextCount call).toNat = es.length + 1 := by
    rw [hacc.nextCount_toNat, h.count]
  rw [append_receipts_self]
  refine ⟨?_, ?_, ?_, ?_, ?_, ?_, ?_, ?_, ?_, ?_⟩
  · exact (follows_concat _ _ _).mpr ⟨h.linked, h.namesPrevious hacc⟩
  · refine (follows_concat _ _ _).mpr ⟨h.staged, ?_⟩
    have hstep := hacc.progresses.step
    rwa [h.stage] at hstep
  · simp [nextReceipt, anchoredLog]
  · simp [nextReceipt, anchoredLog]
  · simpa [nextReceipt] using hcount
  · simp [h.counts, List.range'_1_concat, anchoredLog, hcount, Nat.add_comm]
  · intro e he
    rcases List.mem_append.mp he with hold | hnew
    · -- an earlier event exists, so the record's key was kept
      have hne : (s.receipts call.receiptId).currentStage ≠ .none := by
        rw [Ne, h.stage_none_iff]
        exact List.ne_nil_of_mem hold
      rw [hkey, (hacc.progresses.later hne).2.2]
      exact h.extensionKey e hold
    · rw [List.mem_singleton.mp hnew, hkey]
      rfl
  · rw [hkey]
    simpa using hacc.extensionKeyHash_ne_zero
  · intro e he
    rcases List.mem_append.mp he with hold | hnew
    · exact h.hash_ne_zero e hold
    · rw [List.mem_singleton.mp hnew]
      exact hacc.eventHash_ne_zero
  · intro e he
    rcases List.mem_append.mp he with hold | hnew
    · exact h.authority e hold
    · rw [List.mem_singleton.mp hnew]
      exact hacc.authority

/-! ### The step lemma for the registry -/

theorem eventsOf_append_self (s : Registry) (call : AnchorEventCall) :
    (s.append call).eventsOf call.receiptId =
      s.eventsOf call.receiptId ++ [anchoredLog call call.anchoredAt (s.nextCount call)] := by
  simp [Registry.eventsOf, List.filter_append, anchoredLog]

theorem eventsOf_append_of_ne (s : Registry) (call : AnchorEventCall) {r : Bytes32}
    (h : r ≠ call.receiptId) : (s.append call).eventsOf r = s.eventsOf r := by
  simp [Registry.eventsOf, List.filter_append, anchoredLog, h.symm]

theorem invariant_empty : Registry.empty.Invariant where
  receipts := fun _ => ReceiptLog.zero
  anchored := by simp [Registry.empty]
  nodup := by simp [Registry.empty]

theorem Registry.Invariant.append {s : Registry} {call : AnchorEventCall} (h : s.Invariant)
    (hacc : Accepted s call) : (s.append call).Invariant where
  receipts := by
    intro r
    by_cases hr : r = call.receiptId
    · subst hr
      rw [eventsOf_append_self]
      exact (h.receipts call.receiptId).append hacc
    · rw [eventsOf_append_of_ne s call hr, append_receipts_of_ne s call hr]
      exact h.receipts r
  anchored := by
    intro x
    rw [append_anchoredEvents, h.anchored]
    simp [anchoredLog, or_comm]
  nodup := by
    have hnew : call.eventHash ∉ s.logs.map (·.eventHash) := by
      rw [← h.anchored, hacc.fresh]
      simp
    have hlogs : (s.append call).logs.map (·.eventHash) =
        s.logs.map (·.eventHash) ++ [call.eventHash] := by
      simp [anchoredLog]
    rw [hlogs, List.nodup_append_comm]
    exact List.nodup_cons.mpr ⟨hnew, h.nodup⟩

theorem Registry.Invariant.step {s s' : Registry} {call : AnchorEventCall} (h : s.Invariant)
    (hok : anchorEvent s call = .ok s') : s'.Invariant := by
  obtain ⟨hacc, rfl⟩ := anchorEvent_eq_ok.mp hok
  exact h.append hacc

/-! ### Runs -/

/-- The registry after a finite sequence of calls, reverted ones included. -/
def Registry.run (calls : List AnchorEventCall) : Registry :=
  runAll anchorEvent Registry.empty calls

/-- **The invariant holds after every run.** -/
theorem invariant_run (calls : List AnchorEventCall) : (Registry.run calls).Invariant :=
  runAll_preserves (fun _ _ _ hs hok => hs.step hok) invariant_empty calls

/-- A call for a receipt at a terminal stage reverts. -/
theorem not_accepted_of_isTerminal {s : Registry} {call : AnchorEventCall}
    (hterm : isTerminal (s.receipts call.receiptId).currentStage = true) : ¬ Accepted s call :=
  fun hacc => not_stageStep_of_isTerminal hterm hacc.progresses.step

/-- A receipt at a terminal stage keeps its record and its events. -/
theorem execute_of_isTerminal {s : Registry} {r : Bytes32}
    (hterm : isTerminal (s.receipts r).currentStage = true) (call : AnchorEventCall) :
    (execute anchorEvent s call).receipts r = s.receipts r ∧
      (execute anchorEvent s call).eventsOf r = s.eventsOf r := by
  rcases hcall : anchorEvent s call with e | s'
  · rw [execute_error hcall]
    exact ⟨rfl, rfl⟩
  · rw [execute_ok hcall]
    obtain ⟨hacc, rfl⟩ := anchorEvent_eq_ok.mp hcall
    have hne : r ≠ call.receiptId := by
      rintro rfl
      exact not_accepted_of_isTerminal hterm hacc
    exact ⟨append_receipts_of_ne s call hne, eventsOf_append_of_ne s call hne⟩

theorem runAll_of_isTerminal {s : Registry} {r : Bytes32}
    (hterm : isTerminal (s.receipts r).currentStage = true) (calls : List AnchorEventCall) :
    (runAll anchorEvent s calls).receipts r = s.receipts r ∧
      (runAll anchorEvent s calls).eventsOf r = s.eventsOf r := by
  induction calls generalizing s with
  | nil => exact ⟨rfl, rfl⟩
  | cons call calls ih =>
    obtain ⟨hreceipt, hevents⟩ := execute_of_isTerminal hterm call
    obtain ⟨hreceipt', hevents'⟩ := ih (by rw [hreceipt]; exact hterm)
    exact ⟨hreceipt'.trans hreceipt, hevents'.trans hevents⟩

/-! ### What a run leaves behind -/

/-- The record of a receipt and the events emitted for it, in the contract's
words. -/
structure ReceiptHistory (receipt : ReceiptState) (es : List ReceiptEventAnchored) : Prop where
  none_iff_count : receipt.currentStage = .none ↔ receipt.eventCount = 0
  none_iff_latest : receipt.currentStage = .none ↔ receipt.latestEventHash = 0
  none_iff_extensionKey : receipt.currentStage = .none ↔ receipt.extensionKeyHash = 0
  attempted : receipt.currentStage = .attempted → receipt.eventCount = 1
  siteConfirmed : receipt.currentStage = .siteConfirmed → receipt.eventCount = 2
  terminal : isTerminal receipt.currentStage = true →
    receipt.eventCount = 2 ∨ receipt.eventCount = 3
  length : receipt.eventCount.toNat = es.length
  linked : Follows (fun z e => e.previousEventHash = z) (·.eventHash) 0 es
  counts : ∀ k (hk : k < es.length), (es[k]).eventCount.toNat = k + 1
  extensionKey : ∀ e ∈ es, e.extensionKeyHash = receipt.extensionKeyHash
  authority : ∀ e ∈ es, (e.authorityKeyHash ≠ 0 ↔ isTerminal e.stage = true)
  last : ∀ e, es.getLast? = some e →
    e.eventHash = receipt.latestEventHash ∧ e.stage = receipt.currentStage
  terminal_last : ∀ before e after, es = before ++ e :: after →
    isTerminal e.stage = true → after = []

/-- The invariant of one receipt in the contract's words. -/
theorem ReceiptLog.history {receipt : ReceiptState} {es : List ReceiptEventAnchored}
    (h : ReceiptLog receipt es) : ReceiptHistory receipt es := by
  have hcount : ∀ n : UInt32, es.length = n.toNat → receipt.eventCount = n := by
    intro n hn
    exact UInt32.toNat_inj.mp (h.count.trans hn)
  have hmem := h.count_mem
  refine ⟨?_, ?_, ?_, ?_, ?_, ?_, h.count, h.linked, ?_, h.extensionKey, h.authority, ?_, ?_⟩
  · rw [h.stage_none_iff, ← List.length_eq_zero_iff, ← h.count]
    exact ⟨fun h0 => UInt32.toNat_inj.mp h0, fun h0 => by rw [h0]; rfl⟩
  · rw [h.stage_none_iff, h.latest_zero_iff]
  · rw [h.stage_none_iff, h.extensionKey_zero_iff]
  · intro hstage
    rw [hstage] at hmem
    exact hcount 1 (by simpa [stageCounts] using hmem)
  · intro hstage
    rw [hstage] at hmem
    exact hcount 2 (by simpa [stageCounts] using hmem)
  · intro hterm
    have hlen : es.length = 2 ∨ es.length = 3 := by
      rcases (isTerminal_iff _).mp hterm with hstage | hstage <;>
        simpa [hstage, stageCounts] using hmem
    exact hlen.imp (hcount 2) (hcount 3)
  · intro k hk
    have hget := congrArg (·[k]?) h.counts
    simpa [hk, Nat.add_comm] using hget
  · intro e he
    exact ⟨by rw [h.latest, tip_eq_of_getLast? he], by rw [h.stage, tip_eq_of_getLast? he]⟩
  · rintro before e after rfl hterm
    exact h.staged.eq_nil_of_stuck fun e' => not_stageStep_of_isTerminal hterm

/-- **The registry after any finite run of calls by anyone.**  Every record
is the tip of the events emitted for its receipt, which are a hash-linked
lifecycle; the anchored hashes are those of all emitted events, and no hash
is emitted twice; a reverted call changes nothing, an accepted one emits one
event; and no further call adds to a receipt at a terminal stage. -/
theorem registry_run_history (calls : List AnchorEventCall) :
    (∀ receiptId, ReceiptHistory ((Registry.run calls).receipts receiptId)
      ((Registry.run calls).eventsOf receiptId)) ∧
    (∀ h, (Registry.run calls).anchoredEvents h = true ↔
      ∃ e ∈ (Registry.run calls).logs, e.eventHash = h) ∧
    ((Registry.run calls).logs.map (·.eventHash)).Nodup ∧
    (∀ call e, anchorEvent (Registry.run calls) call = .error e →
      Registry.run (calls ++ [call]) = Registry.run calls) ∧
    (∀ call s', anchorEvent (Registry.run calls) call = .ok s' →
      Registry.run (calls ++ [call]) = s' ∧ ∃ e, s'.logs = (Registry.run calls).logs ++ [e] ∧
        e.receiptId = call.receiptId ∧ e.eventHash = call.eventHash ∧ e.stage = call.stage) ∧
    (∀ receiptId, isTerminal ((Registry.run calls).receipts receiptId).currentStage = true →
      ∀ more, (Registry.run (calls ++ more)).receipts receiptId =
          (Registry.run calls).receipts receiptId ∧
        (Registry.run (calls ++ more)).eventsOf receiptId =
          (Registry.run calls).eventsOf receiptId) := by
  have hinv := invariant_run calls
  refine ⟨fun r => (hinv.receipts r).history, ?_, hinv.nodup, ?_, ?_, ?_⟩
  · intro h
    rw [hinv.anchored]
    exact List.mem_map
  · intro call e herr
    rw [Registry.run, runAll_append]
    exact execute_error herr
  · intro call s' hok
    rw [Registry.run, runAll_append]
    refine ⟨execute_ok hok, ?_⟩
    obtain ⟨-, rfl⟩ := anchorEvent_eq_ok.mp hok
    exact ⟨_, append_logs _ _, rfl, rfl, rfl⟩
  · intro r hterm more
    rw [Registry.run, runAll_append]
    exact runAll_of_isTerminal hterm more

end SubmittedIt
