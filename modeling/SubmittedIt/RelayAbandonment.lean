/-
SubmittedIt/RelayAbandonment.lean

Giving an operation up whose preparation keeps failing.

An attempt is counted by the update that records a transaction, so a row
without one has none counted, however often its preparation has failed, and
the branch that gives such an operation up is never taken: `Effect.abandons`.

Main results: `exhausted_never_given_up`, and `exhausted_call_prepares_again`,
a run with as many failed preparations as there are attempts.
-/
import SubmittedIt.RelayBroadcasts

namespace SubmittedIt.Relay

open Transaction ReceiptCore ContractClient

/-! ### Giving up -/

/-- The operation did not find the event anchored by another sender. -/
def RelayOp.reconciles : RelayOp → Bool
  | .markExternallyAnchored _ => false
  | _ => true

/-- The operation finalized the row as `FAILED_FINAL` before it had a
transaction, and released its reservation. -/
def abandons (P : RelayPlatform) (id : Nat) (e : RelayEvent) : Bool :=
  match e.before.row id, (execute P e.op e.answer e.before).2.row id with
  | some old, some new =>
    e.op.reconciles && decide (old.transaction.hash = none) && !old.state.isTerminal
      && decide (new.state = .failedFinal) && decide (0 < old.reservedFeeWei)
      && decide (new.reservedFeeWei = 0)
  | _, _ => false

/-- The preparation of a transaction for the row recorded none. -/
def failsPreparation (P : RelayPlatform) (id : Nat) : RelayEvent → Bool
  | ⟨.prepareNewTransaction p, answer, before⟩ =>
    decide (p.id = id) && match (execute P (.prepareNewTransaction p) answer before).1 with
      | .ok (_, some _) => false
      | _ => true
  | _ => false

/-- The row was read for its reconciliation: it is live and has no
transaction. -/
def readsUnprepared (P : RelayPlatform) (id : Nat) : RelayEvent → Bool
  | ⟨.selectById id', answer, before⟩ =>
    match (execute P (.selectById id') answer before).1 with
    | .ok (some row) =>
      decide (row.id = id) && decide (row.transaction.hash = none) && !row.state.isTerminal
    | _ => false
  | _ => false

/-- A call of `relay` that was made after as many failed preparations of a row
as there are attempts, reached the reconciliation of the row, found it without
a transaction, and has returned. -/
structure ExhaustedCall (P : RelayPlatform) (config : RelayConfiguration)
    (blobs : List BlobBindingRow) (id : Nat) (c : RelayRun) (t : RelayThread) : Prop where
  made : ∃ earlier, RelayReaches P config anyAnswer blobs earlier ∧
    config.maxAttemptsPerEvent ≤ earlier.trace.countP (failsPreparation P id) ∧
    Relation.ReflTransGen (relaySystem P config anyAnswer).Step earlier c ∧
    t ∈ c.threads.take (c.threads.length - earlier.threads.length)
  relays : ∃ input context, t.call = .relay input context
  reaches : t.log.any (readsUnprepared P id) = true
  returned : ∃ result, t.rest = .ret result

/-- The call has given the operation up. -/
def GivesUp (P : RelayPlatform) (id : Nat) (t : RelayThread) : Prop :=
  t.log.any (abandons P id) = true

/-! ### Never -/

/-- **No permitted operation gives a row up**, where there is an attempt. -/
theorem Effect.abandons {P : RelayPlatform} {config : RelayConfiguration}
    {Allowed : (o : RelayOp) → o.Answer → Prop} {db : RelayDb} {o : RelayOp} {answer : o.Answer}
    {log : List RelayEvent} (hpermits : Permits P config Allowed log o answer db)
    (hmax : 0 < config.maxAttemptsPerEvent) (id : Nat) :
    abandons P id ⟨o, answer, db⟩ = false := by
  rw [← Bool.not_eq_true]
  intro habandons
  unfold Relay.abandons at habandons
  dsimp only at habandons
  rcases hfind : db.row id with - | old
  · rw [hfind] at habandons
    cases habandons
  rcases hafter : (execute P o answer db).2.row id with - | row'
  · rw [hfind, hafter] at habandons
    cases habandons
  rw [hfind, hafter] at habandons
  simp only [Bool.and_eq_true, decide_eq_true_eq, Bool.not_eq_true'] at habandons
  obtain ⟨⟨⟨⟨⟨hreconciles, hhash⟩, hlive⟩, hfinal⟩, hreserved⟩, hreleased⟩ := habandons
  rcases (execute_effect P o answer db).row_cases hfind with
    hsame | ⟨new, stored, base, hchange, -, hstored, -, hrow'⟩
  · cases hsame.symm.trans hafter
    exact absurd hreleased hreserved.ne'
  cases hrow'.symm.trans hafter
  have hstate : new.state = .failedFinal := hstored.state ▸ hfinal
  have hamount : new.reservedFeeWei = 0 := by
    rw [← hreleased, hstored.row]
  cases hchange with
  | statement stmt _ _ =>
    have hkept : (stmt.set old).reservedFeeWei = old.reservedFeeWei := by cases stmt <;> rfl
    exact absurd (hkept.symm.trans hamount) hreserved.ne'
  | mined _ _ _ =>
    have hterminal : old.state.isTerminal = true := by
      rw [show old.state = .failedFinal from hstate]
      rfl
    rw [hlive] at hterminal
    cases hterminal
  | exhausted _ _ _ => exact absurd hpermits hmax.ne'
  | anchored _ _ _ _ => cases hreconciles
  | prepared _ _ _ _ _ _ _ _ _ _ _ _ _ => cases hstate

/-- **No call gives an operation up after failed preparations**, in no run of
the relay. -/
theorem exhausted_never_given_up {P : RelayPlatform} {config : RelayConfiguration}
    (hloaded : Loaded config) {blobs : List BlobBindingRow} {c : RelayRun} {t : RelayThread}
    {id : Nat} (h : ExhaustedCall P config blobs id c t) : ¬ GivesUp P id t := by
  intro hgives
  obtain ⟨earlier, hearlier, -, hrun, ht⟩ := h.made
  have hreaches : RelayReaches P config anyAnswer blobs c := hearlier.trans hrun
  obtain ⟨e, he, habandons⟩ := List.any_eq_true.mp hgives
  obtain ⟨l, l', hlog⟩ := List.append_of_mem he
  obtain ⟨-, -, hpermits⟩ := hreaches.logged (relay_safe P config anyAnswer)
    (initial_consistent config blobs) (List.mem_of_mem_take ht) hlog
  have hno := Effect.abandons (P := P) hpermits hloaded.maxAttemptsPerEvent.1 id
  rw [habandons] at hno
  cases hno

/-! ### A run -/

/-- At one time: a gateway that cannot prepare a transaction. -/
def failingEnv (clock : Timestamp) : RelayEnv := fun n o =>
  match o with
  | .prepareNewTransaction _ => (⟨.acknowledged, clock⟩, fun _ _ _ => .error (.chain true))
  | o => sampleEnv clock freshState none n o

/-- The event is relayed some times, a minute apart. -/
def failingRun : Nat → RelayRun
  | 0 => ⟨RelayDb.initial sampleBlobs, [], []⟩
  | n + 1 => (relaySystem samplePlatform sampleConfiguration anyAnswer).serve
      (failingEnv (60000 * n)) (.relay (some sampleRequest) ⟨ascii "ip"⟩) 30 (failingRun n)

theorem failingRun_reaches (n : Nat) :
    RelayReaches samplePlatform sampleConfiguration anyAnswer sampleBlobs (failingRun n) := by
  induction n with
  | zero => exact .refl
  | succ n ih => exact .serve (fun _ _ => trivial) _ 30 ih

/-- The last call of the run. -/
def failingCall : RelayThread := (failingRun 4).threads.headD ⟨.getOperation none, [], .ret (.ok none)⟩

theorem failingCall_exhausted :
    ExhaustedCall samplePlatform sampleConfiguration sampleBlobs 1 (failingRun 4) failingCall where
  made := by
    refine ⟨failingRun 3, failingRun_reaches 3, by decide +kernel, ?_, ?_⟩
    · exact System.serve_steps (fun _ _ => trivial) _ 30 _
    · have hthreads : (failingRun 4).threads = failingCall :: (failingRun 3).threads := rfl
      rw [hthreads]
      simp
  relays := ⟨_, _, rfl⟩
  reaches := by decide +kernel
  returned := ⟨_, rfl⟩

/-- **The fourth call prepares again**, where three attempts are configured:
the operation is not given up, counts no attempt and holds its reservation. -/
theorem exhausted_call_prepares_again :
    ExhaustedCall samplePlatform sampleConfiguration sampleBlobs 1 (failingRun 4) failingCall ∧
      sampleConfiguration.maxAttemptsPerEvent = 3 ∧ ¬ GivesUp samplePlatform 1 failingCall ∧
      ((failingRun 4).state.row 1).map (fun r => (r.state, r.attemptCount, r.reservedFeeWei))
        = some (.failedRetryable, 0, 1000) :=
  ⟨failingCall_exhausted, rfl, by unfold GivesUp; decide +kernel, by decide +kernel⟩

theorem exhausted_never_given_up_failingCall : ¬ GivesUp samplePlatform 1 failingCall :=
  exhausted_never_given_up sampleConfiguration_loaded failingCall_exhausted

end SubmittedIt.Relay
