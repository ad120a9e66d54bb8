/-
SubmittedIt/RelayHistory.lean

The history of relay operations.

The history is written by one trigger and the transitions are checked by
another; `Chronicle` says of the rows of one operation what both together
maintain.  `Chronicle.record` is the step for an update, changed state or
not, and `chronicle_insert` the one for an insertion, which records twice.

Main result: `history_chronicles`, for every state an interleaving reaches.
-/
import SubmittedIt.RelayFinalization

namespace SubmittedIt.Relay

open Transaction ReceiptCore ContractClient

/-! ### Chronicles -/

/-- The history rows of an operation, in the order they were written. -/
def historyOf (history : List RelayHistoryRow) (id : Nat) : List RelayHistoryRow :=
  history.filter fun h => h.operationId = id

/-- The history rows of an operation in the state `current`: numbered from 1
without gaps, beginning with `VALIDATING`, each an allowed step from where the
one before it ended, the last one ending in `current`. -/
structure Chronicle (rows : List RelayHistoryRow) (current : RelayOperationState) : Prop where
  sequence : rows.map (·.sequence) = List.range' 1 rows.length
  first : ∃ h, rows.head? = some h ∧ h.fromState = none ∧ h.toState = .validating
  linked : rows.IsChain fun h h' =>
    h'.fromState = some h.toState ∧ allowedTransition h.toState h'.toState = true
  last : ∃ h, rows.getLast? = some h ∧ h.toState = current

theorem foldl_max_range' (n : Nat) : (List.range' 1 n).foldl max 0 = n := by
  induction n with
  | zero => rfl
  | succ n ih =>
    rw [List.range'_concat, List.foldl_append, ih]
    show max n (1 + 1 * n) = n + 1
    omega

/-- The row the trigger adds. -/
def nextHistoryRow (history : List RelayHistoryRow) (fromState : Option RelayOperationState)
    (new : RelayOperationRow) : RelayHistoryRow where
  operationId := new.id
  sequence := ((historyOf history new.id).map (·.sequence)).foldl max 0 + 1
  fromState := fromState
  toState := new.state
  resultCode := new.lastError.map (·.code)
  transactionHash := new.transaction.hash

section record

variable {history : List RelayHistoryRow} {fromState : Option RelayOperationState}
  {new : RelayOperationRow}

theorem record_same (h : fromState = some new.state) :
    recordRelayOperationHistory history fromState new = history := if_pos h

theorem record_changed (h : fromState ≠ some new.state) :
    recordRelayOperationHistory history fromState new
      = history ++ [nextHistoryRow history fromState new] := if_neg h

theorem historyOf_record_changed (h : fromState ≠ some new.state) :
    historyOf (recordRelayOperationHistory history fromState new) new.id
      = historyOf history new.id ++ [nextHistoryRow history fromState new] := by
  rw [record_changed h, historyOf, List.filter_append]
  simp [historyOf, nextHistoryRow]

/-- Other operations' rows stay as they are. -/
theorem historyOf_record_other {id : Nat} (hid : id ≠ new.id) :
    historyOf (recordRelayOperationHistory history fromState new) id = historyOf history id := by
  by_cases h : fromState = some new.state
  · rw [record_same h]
  · rw [record_changed h, historyOf, List.filter_append]
    simp [historyOf, nextHistoryRow, Ne.symm hid]

/-- Rows are added for the recorded operation only. -/
theorem mem_record {h : RelayHistoryRow}
    (hmem : h ∈ recordRelayOperationHistory history fromState new) :
    h ∈ history ∨ h.operationId = new.id := by
  by_cases hsame : fromState = some new.state
  · rw [record_same hsame] at hmem
    exact .inl hmem
  · rw [record_changed hsame] at hmem
    rcases List.mem_append.mp hmem with hold | hnew
    · exact .inl hold
    · rw [List.mem_singleton.mp hnew]
      exact .inr rfl

theorem sequence_next {current : RelayOperationState}
    (h : Chronicle (historyOf history new.id) current) :
    (nextHistoryRow history fromState new).sequence = (historyOf history new.id).length + 1 := by
  show ((historyOf history new.id).map (·.sequence)).foldl max 0 + 1 = _
  rw [h.sequence, foldl_max_range']

/-- **An update continues the chronicle**, whether it changes the state or
not. -/
theorem Chronicle.record {current : RelayOperationState}
    (h : Chronicle (historyOf history new.id) current)
    (hstep : new.state = current ∨ allowedTransition current new.state = true) :
    Chronicle (historyOf (recordRelayOperationHistory history (some current) new) new.id)
      new.state := by
  by_cases hsame : some current = some new.state
  · rw [record_same hsame, ← Option.some.inj hsame]
    exact h
  have hallowed : allowedTransition current new.state = true := by
    rcases hstep with heq | hallowed
    · exact absurd (congrArg some heq.symm) hsame
    · exact hallowed
  rw [historyOf_record_changed hsame]
  obtain ⟨first, hfirst, hfrom, hto⟩ := h.first
  obtain ⟨last, hlast, hcurrent⟩ := h.last
  refine ⟨?_, ⟨first, ?_, hfrom, hto⟩, ?_, ⟨_, List.getLast?_concat, rfl⟩⟩
  · rw [List.map_append, h.sequence, List.length_append]
    show List.range' 1 _ ++ [(nextHistoryRow history (some current) new).sequence] = _
    rw [sequence_next h, List.length_singleton, List.range'_concat]
    simp [Nat.add_comm]
  · rw [List.head?_append, hfirst]
    rfl
  · apply h.linked.append (List.isChain_singleton _)
    intro h₁ h₁last h₂ h₂first
    rw [hlast] at h₁last
    cases h₁last
    cases h₂first
    rw [hcurrent]
    exact ⟨rfl, hallowed⟩

end record

/-- **The two rows of an insertion** begin a chronicle. -/
theorem chronicle_insert {history : List RelayHistoryRow} {inserted ready : RelayOperationRow}
    (hfresh : historyOf history ready.id = []) (hid : inserted.id = ready.id)
    (hinserted : inserted.state = .validating) (hready : ready.state = .ready) :
    Chronicle (historyOf (recordRelayOperationHistory
      (recordRelayOperationHistory history none inserted) (some .validating) ready) ready.id)
      ready.state := by
  have hfirst : historyOf (recordRelayOperationHistory history none inserted) ready.id
      = [nextHistoryRow history none inserted] := by
    rw [← hid, historyOf_record_changed (by simp), hid, hfresh]
    rfl
  have hbegun : Chronicle (historyOf (recordRelayOperationHistory history none inserted) ready.id)
      .validating := by
    rw [hfirst]
    refine ⟨?_, ⟨_, rfl, rfl, hinserted⟩, List.isChain_singleton _, ⟨_, rfl, hinserted⟩⟩
    simp [nextHistoryRow, hid, hfresh]
  exact hbegun.record (.inr (by rw [hready]; rfl))

/-! ### Every reachable state -/

/-- Every operation has its chronicle, and nothing else has history. -/
structure Chronicled (db : RelayDb) : Prop where
  sound : Sound db.operations
  known : ∀ h ∈ db.history, ∃ row ∈ db.operations, row.id = h.operationId
  chronicles : ∀ row ∈ db.operations, Chronicle (historyOf db.history row.id) row.state

theorem Chronicled.fresh {db : RelayDb} (h : Chronicled db) :
    historyOf db.history db.nextId = [] := by
  apply List.filter_eq_nil_iff.mpr
  intro row hrow hid
  obtain ⟨r, hr, hrid⟩ := h.known row hrow
  have hlt := lt_nextId hr
  rw [hrid, of_decide_eq_true hid] at hlt
  exact absurd hlt (lt_irrefl _)

theorem Chronicled.edit {db base : RelayDb} {old new stored : RelayOperationRow}
    (h : Chronicled db) (hrow : db.row old.id = some old) (hid : new.id = old.id)
    (hoperations : base.operations = db.operations) (hhistory : base.history = db.history)
    (hpermitted : Permitted old new) (hstored : StoredAs new stored)
    (hsound : Sound (base.replace old stored).operations) :
    Chronicled (base.replace old stored) := by
  have hsid : stored.id = old.id := hstored.id.trans hid
  have hrecorded : (base.replace old stored).history
      = recordRelayOperationHistory db.history (some old.state) stored := by
    show recordRelayOperationHistory base.history _ _ = _
    rw [hhistory]
  have hrows : (base.replace old stored).operations
      = db.operations.map fun r => if r.id = old.id then stored else r := by
    show base.operations.map _ = _
    rw [hoperations]
  refine ⟨hsound, ?_, ?_⟩
  · rw [hrecorded, hrows]
    intro row hmem
    rcases mem_record hmem with hold | hnew
    · obtain ⟨r, hr, hrid⟩ := h.known row hold
      refine ⟨_, List.mem_map_of_mem hr, ?_⟩
      by_cases hsame : r.id = old.id
      · rw [if_pos hsame, hsid, ← hsame]
        exact hrid
      · rw [if_neg hsame]
        exact hrid
    · refine ⟨_, List.mem_map_of_mem (row_mem hrow), ?_⟩
      rw [if_pos rfl]
      exact hnew.symm
  · rw [hrecorded, hrows]
    intro row hmem
    obtain ⟨r, hr, rfl⟩ := List.mem_map.mp hmem
    by_cases hsame : r.id = old.id
    · rw [if_pos hsame]
      have hchronicle := h.chronicles old (row_mem hrow)
      rw [← hsid] at hchronicle
      apply hchronicle.record
      rw [hstored.state]
      exact hpermitted.transition
    · rw [if_neg hsame, historyOf_record_other (by rw [hsid]; exact hsame)]
      exact h.chronicles r hr

theorem Chronicled.insert {db : RelayDb} (h : Chronicled db) (a : Acquisition) (blobRow : Nat)
    (t : Timestamp) (hsound : Sound (db.insertOperation a blobRow t).operations) :
    Chronicled (db.insertOperation a blobRow t) := by
  have hrecorded : (db.insertOperation a blobRow t).history
      = recordRelayOperationHistory
          (recordRelayOperationHistory db.history none (a.validating db.nextId blobRow t))
          (some .validating) (a.ready db.nextId blobRow t) := rfl
  refine ⟨hsound, ?_, ?_⟩
  · rw [hrecorded]
    intro row hmem
    rcases mem_record hmem with hmem | hnew
    · rcases mem_record hmem with hold | hnew
      · obtain ⟨r, hr, hrid⟩ := h.known row hold
        exact ⟨r, List.mem_append_left _ hr, hrid⟩
      · exact ⟨_, List.mem_append_right _ (List.mem_singleton_self _), hnew.symm⟩
    · exact ⟨_, List.mem_append_right _ (List.mem_singleton_self _), hnew.symm⟩
  · rw [hrecorded]
    intro row hmem
    rcases List.mem_append.mp hmem with hold | hnew
    · have hother : row.id ≠ db.nextId := (lt_nextId hold).ne
      rw [historyOf_record_other hother, historyOf_record_other hother]
      exact h.chronicles row hold
    · rw [List.mem_singleton.mp hnew]
      exact chronicle_insert h.fresh rfl rfl rfl

/-- **Every operation of the relay keeps the chronicles.** -/
theorem Effect.chronicled {checksum : Address → BitVec 40} {db db' : RelayDb} {o : RelayOp}
    {answer : o.Answer} (heffect : Effect checksum db o answer db') (h : Chronicled db) :
    Chronicled db' := by
  have hsound : Sound db'.operations := heffect.rows.sound h.sound
  cases heffect with
  | same counters => exact ⟨h.sound, h.known, h.chronicles⟩
  | edit old new stored base hrow hchange hpermitted hstored =>
    exact h.edit hrow hchange.id hchange.operations hchange.history hpermitted hstored hsound
  | insert a answer blobRow t _ => exact h.insert a blobRow t hsound

/-- **The history chronicles every operation**, in every state that any
interleaving of requests reaches. -/
theorem history_chronicles (P : RelayPlatform) (config : RelayConfiguration)
    (blobs : List BlobBindingRow) (db : RelayDb) (h : ReachableDb P config blobs db) :
    ∀ row ∈ db.operations, Chronicle (historyOf db.history row.id) row.state := by
  have hinitial : Chronicled (RelayDb.initial blobs) := by
    refine ⟨⟨?_, ?_⟩, ?_, ?_⟩ <;> simp [RelayDb.initial]
  have hreached : Chronicled db :=
    Interleave.reachable_preserves (I := Chronicled)
      (fun o answer db hdb => (execute_effect P o answer db).chronicled hdb) hinitial h
  exact hreached.chronicles

theorem history_chronicles_submitted :
    Chronicle (historyOf (sampleDb 22).history 1) .submitted :=
  history_chronicles samplePlatform sampleConfiguration sampleBlobs (sampleDb 22)
    (sampleDb_reachable 22) submittedSample
    (row_mem (show (sampleDb 22).row 1 = some submittedSample by decide +kernel))

end SubmittedIt.Relay
