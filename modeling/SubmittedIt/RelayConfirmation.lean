/-
SubmittedIt/RelayConfirmation.lean

Which steps confirm a row, and what happens to a finished one.

`Effect.confirms` and `Effect.finished` say it of one permitted operation;
every operation of a run is permitted, by `System.Reaches.logged`.

Main result: `confirmation_safe`.
-/
import SubmittedIt.RelayGuards

namespace SubmittedIt.Relay

open Transaction ReceiptCore ContractClient

section steps

variable {P : RelayPlatform} {config : RelayConfiguration}
  {Allowed : (o : RelayOp) → o.Answer → Prop} {db db' base : RelayDb}
  {old new stored row : RelayOperationRow} {o : RelayOp} {answer : o.Answer}
  {log : List RelayEvent}

/-! ### Confirming -/

/-- A permitted change to `CONFIRMED` rests on the evidence. -/
theorem Change.confirms (hchange : Change P.checksum db old o answer new base)
    (hpermits : Permits P config Allowed log o answer db)
    (hids : (db.operations.map (·.id)).Nodup) (hrow : db.row old.id = some old)
    (hnew : new.state = .confirmed) : old.state = .confirmed ∨ ShowsAnchored config old log := by
  cases hchange with
  | statement stmt hissues happlies =>
    cases stmt with
    | confirmed block confirmedAt =>
      cases hissues
      obtain ⟨row, hmem, hid, hshows⟩ := hpermits
      rw [eq_of_id hids (row_mem hrow) hmem hid.symm]
      exact .inr hshows
    | rebroadcast next maxAttempts =>
      left
      by_cases hretry : old.state = .failedRetryable
      · simp [Statement.set, hretry] at hnew
      · simpa [Statement.set, hretry] using hnew
    | deferReconciliation next => exact .inl hnew
    | countPoll => exact .inl hnew
    | markRetryable code message next => cases hnew
    | submitted submittedAt next => cases hnew
    | reverted block confirmedAt => cases hnew
    | eventMissing block confirmedAt => cases hnew
    | stateMismatch block confirmedAt => cases hnew
  | mined blockNumber _ _ => exact .inl hnew
  | exhausted failure _ _ => cases hnew
  | anchored failure _ _ _ => cases hnew
  | prepared p _ _ _ _ prepared _ _ _ _ _ _ _ => cases hnew

/-- **A permitted operation confirms a row on the evidence only.** -/
theorem Effect.confirms (heffect : Effect P.checksum db o answer db')
    (hpermits : Permits P config Allowed log o answer db) (hInv : Consistent config db)
    (hrow : row ∈ db'.operations) (hconfirmed : row.state = .confirmed) :
    ∃ earlier ∈ db.operations, earlier.id = row.id ∧
      (earlier.state = .confirmed ∨ ShowsAnchored config earlier log) := by
  cases heffect with
  | same counters => exact ⟨row, hrow, rfl, .inl hconfirmed⟩
  | edit old new stored base hold hchange hpermitted hstored =>
    have hrows : row ∈ db.operations.map fun r => if r.id = old.id then stored else r := by
      rw [← hchange.operations]
      exact hrow
    rcases mem_replace hrows with rfl | ⟨hmem, -⟩
    · refine ⟨old, row_mem hold, (hstored.id.trans hchange.id).symm, ?_⟩
      exact hchange.confirms hpermits hInv.ids hold (hstored.state ▸ hconfirmed)
    · exact ⟨row, hmem, rfl, .inl hconfirmed⟩
  | insert a answer blobRow t _ =>
    rcases List.mem_append.mp hrow with hmem | hnew
    · exact ⟨row, hmem, rfl, .inl hconfirmed⟩
    · rw [List.mem_singleton.mp hnew] at hconfirmed
      cases hconfirmed

/-! ### Finished rows -/

/-- No permitted operation edits a finished row. -/
theorem Change.live (hchange : Change P.checksum db old o answer new base)
    (hpermits : Permits P config Allowed log o answer db) (hpermitted : Permitted old new)
    (hmax : 0 < config.maxAttemptsPerEvent) (hInv : Consistent config db)
    (hrow : db.row old.id = some old) : old.state.isTerminal = false := by
  by_contra hterminal
  rw [Bool.not_eq_false] at hterminal
  cases hchange with
  | statement stmt _ happlies =>
    cases stmt <;> simp only [Statement.applies, hterminal, Bool.not_true, Bool.false_eq_true,
      Bool.and_eq_true, Bool.or_eq_true, decide_eq_true_eq] at happlies
    · rcases happlies.1 with (hs | hs) | hs <;> rw [hs] at hterminal <;> cases hterminal
    · rw [happlies] at hterminal
      cases hterminal
    · rcases happlies with hs | hs <;> rw [hs] at hterminal <;> cases hterminal
    · rcases happlies with hs | hs <;> rw [hs] at hterminal <;> cases hterminal
    · rcases happlies with hs | hs <;> rw [hs] at hterminal <;> cases hterminal
  | mined blockNumber _ huncharged =>
    -- an uncharged row with a transaction holds a reservation, which the
    -- charge would take from a finished row
    have hsame := hpermitted.terminal hterminal
    rcases (hInv.rows old (row_mem hrow)).reserved huncharged with hpos | ⟨-, hno⟩
    · have hzero : old.reservedFeeWei = 0 := (congrArg RelayOperationRow.reservedFeeWei hsame).symm
      exact absurd hzero hpos.ne'
    · exact absurd hno (HasTransaction.row hpermits hInv.ids hrow)
  | exhausted failure _ _ => exact absurd hpermits hmax.ne'
  | anchored failure _ _ hlive => rw [hlive] at hterminal; cases hterminal
  | prepared p _ _ _ _ prepared _ _ hlive _ _ _ _ => rw [hlive] at hterminal; cases hterminal

/-- **A permitted operation leaves finished rows as they are.** -/
theorem Effect.finished (heffect : Effect P.checksum db o answer db')
    (hpermits : Permits P config Allowed log o answer db) (hmax : 0 < config.maxAttemptsPerEvent)
    (hInv : Consistent config db) (hrow : row ∈ db.operations)
    (hterminal : row.state.isTerminal = true) : row ∈ db'.operations := by
  cases heffect with
  | same counters => exact hrow
  | edit old new stored base hold hchange hpermitted hstored =>
    have hlive := hchange.live hpermits hpermitted hmax hInv hold
    have hother : row.id ≠ old.id := by
      intro hid
      rw [eq_of_id hInv.ids hrow (row_mem hold) hid, hlive] at hterminal
      cases hterminal
    show row ∈ base.operations.map _
    rw [hchange.operations]
    exact List.mem_map.mpr ⟨row, hrow, if_neg hother⟩
  | insert a answer blobRow t _ => exact List.mem_append_left _ hrow

end steps

/-! ### Every step of every run -/

/-- In every step of the run: a row that is `CONFIRMED` after it was so before,
or the request that took the step had seen the evidence for the row stored
before it; and a finished row stays as it is, in all its columns. -/
def ConfirmsSafely (P : RelayPlatform) (config : RelayConfiguration) (c : RelayRun) : Prop :=
  ∀ t ∈ c.threads, ∀ earlier e later, t.log = earlier ++ e :: later →
    (∀ row ∈ (execute P e.op e.answer e.before).2.operations, row.state = .confirmed →
      ∃ stored ∈ e.before.operations, stored.id = row.id ∧
        (stored.state = .confirmed ∨ ShowsAnchored config stored earlier)) ∧
    ∀ row ∈ e.before.operations, row.state.isTerminal = true →
      row ∈ (execute P e.op e.answer e.before).2.operations

/-- **Confirmation is safe** in every run of the relay, whatever the gateway
answers. -/
theorem confirmation_safe {P : RelayPlatform} {config : RelayConfiguration}
    (hloaded : Loaded config) {blobs : List BlobBindingRow} {c : RelayRun}
    (h : RelayReaches P config anyAnswer blobs c) : ConfirmsSafely P config c := by
  intro t ht earlier e later hlog
  obtain ⟨hInv, -, hpermits⟩ :=
    h.logged (relay_safe P config anyAnswer) (initial_consistent config blobs) ht hlog
  have heffect := execute_effect P e.op e.answer e.before
  refine ⟨fun row hrow hconfirmed => heffect.confirms hpermits hInv hrow hconfirmed, ?_⟩
  exact fun row hrow hterminal =>
    heffect.finished hpermits hloaded.maxAttemptsPerEvent.1 hInv hrow hterminal

/-- A request is relayed, and a later status read finds its transaction
mined. -/
def confirmedRun : RelayRun :=
  let S := relaySystem samplePlatform sampleConfiguration anyAnswer
  S.serve (minedEnv false) (.getOperation (some 6)) 8
    (S.serve (sampleEnv 0 freshState none) (.relay (some sampleRequest) ⟨ascii "ip"⟩) 30
      ⟨RelayDb.initial sampleBlobs, [], []⟩)

theorem confirmedRun_reaches :
    RelayReaches samplePlatform sampleConfiguration anyAnswer sampleBlobs confirmedRun :=
  .serve (fun _ _ => trivial) _ 8 (.serve (fun _ _ => trivial) _ 30 .refl)

theorem confirmation_safe_confirmedRun :
    ConfirmsSafely samplePlatform sampleConfiguration confirmedRun ∧
      (confirmedRun.state.row 1).map (·.state) = some .confirmed :=
  ⟨confirmation_safe sampleConfiguration_loaded confirmedRun_reaches, by decide +kernel⟩

end SubmittedIt.Relay
