/-
SubmittedIt/RelayInvariant.lean

What the relay's operations can do to the rows of `relay_operations`.

Every operation either leaves the rows alone, edits one row in one of four
ways (`Edit`) under the trigger's guard (`Permitted`), or inserts a fresh
`READY` row: `execute_rows`.  Invariants of the rows alone are proved by cases
on `RowsStep` and lifted to every interleaving by
`Interleave.reachable_preserves`.

Main results: `execute_rows`, and `reachable_sound` (identifiers are unique,
and a row with a transaction hash is past `READY`).
-/
import SubmittedIt.RelayEffects

namespace SubmittedIt.Relay

open Transaction ReceiptCore ContractClient

/-! ### Edits of a row -/

/-- The ways in which an operation edits a row. -/
inductive Edit (old : RelayOperationRow) : RelayOperationRow → Prop
  | statement (stmt : Statement) : stmt.applies old = true → Edit old (stmt.set old)
  | mined (blockNumber : Nat) : old.chargedFeeWei = 0 → Edit old (minedRow old blockNumber)
  | failed (failure : RelayFailure) : old.transaction.hash = none → Edit old (failedRow old failure)
  | prepared (prepared : PreparedRelayTransaction) (nextReconcileAt : Timestamp) :
      old.transaction.hash = none → old.state.isTerminal = false →
      Edit old (preparedRow old prepared nextReconcileAt)

theorem Edit.id {old new : RelayOperationRow} (h : Edit old new) : new.id = old.id := by
  cases h with
  | statement stmt _ => cases stmt <;> rfl
  | mined _ _ => rfl
  | failed _ _ => rfl
  | prepared _ _ _ _ => rfl

/-- What an operation can do to the rows. -/
inductive RowsStep (db : RelayDb) : List RelayOperationRow → Prop
  | same : RowsStep db db.operations
  | edit (old new stored : RelayOperationRow) :
      db.row old.id = some old → Edit old new → Permitted old new → StoredAs new stored →
      RowsStep db (db.operations.map fun r => if r.id = old.id then stored else r)
  | insert (a : Acquisition) (blobRow : Nat) (t : Timestamp) :
      RowsStep db (db.operations ++ [a.ready db.nextId blobRow t])

theorem Change.edit {checksum : Address → BitVec 40} {db base : RelayDb}
    {old new : RelayOperationRow} {o : RelayOp} {answer : o.Answer}
    (h : Change checksum db old o answer new base) : Edit old new := by
  cases h with
  | statement stmt _ happlies => exact .statement stmt happlies
  | mined blockNumber _ huncharged => exact .mined blockNumber huncharged
  | exhausted failure _ hhash => exact .failed failure hhash
  | anchored failure _ hhash _ => exact .failed failure hhash
  | prepared p _ _ _ _ prepared _ hhash hlive _ _ _ _ =>
    exact .prepared prepared p.nextReconcileAt hhash hlive

theorem Effect.rows {checksum : Address → BitVec 40} {db db' : RelayDb} {o : RelayOp}
    {answer : o.Answer} (h : Effect checksum db o answer db') : RowsStep db db'.operations := by
  cases h with
  | same counters => exact .same
  | edit old new stored base hrow hchange hpermitted hstored =>
    have hrows : (base.replace old stored).operations =
        db.operations.map fun r => if r.id = old.id then stored else r := by
      show base.operations.map _ = _
      rw [hchange.operations]
    rw [hrows]
    exact .edit old new stored hrow hchange.edit hpermitted hstored
  | insert a answer blobRow t _ => exact .insert a blobRow t

/-- **What an operation of the relay can do to its rows.** -/
theorem execute_rows (P : RelayPlatform) (o : RelayOp) (answer : o.Answer) (db : RelayDb) :
    RowsStep db (execute P o answer db).2.operations :=
  (execute_effect P o answer db).rows

variable {db : RelayDb}

/-! ### Soundness of the rows -/

/-- Identifiers are unique, and a row with a transaction hash has left the
states before `SUBMITTING`. -/
structure Sound (rows : List RelayOperationRow) : Prop where
  nodup : (rows.map (·.id)).Nodup
  hash_state : ∀ row ∈ rows, row.transaction.hash ≠ none →
    row.state ≠ .validating ∧ row.state ≠ .ready

theorem Permitted.past_ready {old new : RelayOperationRow} (h : Permitted old new)
    (hold : old.state ≠ .validating ∧ old.state ≠ .ready) (hedit : Edit old new) :
    new.state ≠ .validating ∧ new.state ≠ .ready := by
  cases hedit with
  | statement stmt happlies =>
    cases stmt <;> simp_all [Statement.set]
    split <;> simp_all
  | mined _ _ => exact hold
  | failed _ _ => simp [failedRow]
  | prepared _ _ _ _ => simp [preparedRow]

/-- An edit that records a hash leaves the row in `SUBMITTING`. -/
theorem Edit.hash_state {old new : RelayOperationRow} (hedit : Edit old new)
    (hpermitted : Permitted old new)
    (hold : old.transaction.hash ≠ none → old.state ≠ .validating ∧ old.state ≠ .ready)
    (hhash : new.transaction.hash ≠ none) : new.state ≠ .validating ∧ new.state ≠ .ready := by
  by_cases hbefore : old.transaction.hash = none
  · -- only a preparation records a hash where there was none
    cases hedit with
    | statement stmt happlies => cases stmt <;> exact absurd hbefore hhash
    | mined _ _ => exact absurd hbefore hhash
    | failed _ _ => exact absurd hbefore hhash
    | prepared _ _ _ _ => simp [preparedRow]
  · exact hpermitted.past_ready (hold hbefore) hedit

theorem lt_nextId {row : RelayOperationRow} (h : row ∈ db.operations) : row.id < db.nextId := by
  have hle : ∀ (l : List Nat) (m n : Nat), n ∈ l ∨ n ≤ m → n ≤ l.foldl max m := by
    intro l
    induction l with
    | nil => intro m n hn; simpa using hn
    | cons x l ih =>
      intro m n hn
      refine ih (max m x) n ?_
      rcases hn with hmem | hm
      · rcases List.mem_cons.mp hmem with rfl | hmem
        · exact .inr (le_max_right _ _)
        · exact .inl hmem
      · exact .inr (hm.trans (le_max_left _ _))
  exact Nat.lt_succ_of_le (hle _ 0 _ (.inl (List.mem_map_of_mem h)))

theorem map_replace_ids {rows : List RelayOperationRow} {old stored : RelayOperationRow}
    (hid : stored.id = old.id) :
    (rows.map fun r => if r.id = old.id then stored else r).map (·.id) = rows.map (·.id) := by
  rw [List.map_map]
  refine List.map_congr_left fun r _ => ?_
  by_cases h : r.id = old.id
  · simp [h, hid]
  · simp [h]

theorem RowsStep.sound {rows : List RelayOperationRow} (hstep : RowsStep db rows)
    (h : Sound db.operations) : Sound rows := by
  cases hstep with
  | same => exact h
  | edit old new stored hrow hedit hpermitted hstored =>
    have hid : stored.id = old.id := hstored.id.trans hedit.id
    refine ⟨by rw [map_replace_ids hid]; exact h.nodup, ?_⟩
    intro row hmem hhash
    obtain ⟨r, hr, rfl⟩ := List.mem_map.mp hmem
    by_cases hsame : r.id = old.id
    · simp only [hsame, if_true] at hhash ⊢
      rw [hstored.state]
      rw [hstored.transaction] at hhash
      exact hedit.hash_state hpermitted (h.hash_state old (row_mem hrow)) hhash
    · simp only [hsame, if_false] at hhash ⊢
      exact h.hash_state r hr hhash
  | insert a blobRow t =>
    refine ⟨?_, ?_⟩
    · rw [List.map_append, List.nodup_append_comm]
      refine List.nodup_cons.mpr ⟨?_, h.nodup⟩
      intro hmem
      obtain ⟨r, hr, hrid⟩ := List.mem_map.mp hmem
      have hlt := lt_nextId hr
      rw [hrid] at hlt
      exact absurd hlt (lt_irrefl _)
    · intro row hmem hhash
      rcases List.mem_append.mp hmem with hold | hnew
      · exact h.hash_state row hold hhash
      · rw [List.mem_singleton.mp hnew] at hhash
        exact absurd rfl hhash

/-- **The rows are sound in every state the relay reaches**, under any
interleaving of requests, with crashes and any answers. -/
theorem reachable_sound {P : RelayPlatform} {config : RelayConfiguration}
    {blobs : List BlobBindingRow} {db : RelayDb} (h : ReachableDb P config blobs db) :
    Sound db.operations := by
  have hinitial : Sound (RelayDb.initial blobs).operations := by
    constructor <;> simp [RelayDb.initial]
  exact Interleave.reachable_preserves (I := fun db => Sound db.operations)
    (fun o answer db hdb => (execute_rows P o answer db).sound hdb) hinitial h

end SubmittedIt.Relay
