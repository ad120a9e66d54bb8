/-
SubmittedIt/RelayNonces.lean

The allocation of nonces.

A preparation takes the larger of the stored next nonce and the pending nonce
it was told, and stores the number after it, in one transaction: so whatever
pending nonces the gateway reports, each nonce a signer assigns is at least
the stored next nonce, and below the one stored afterwards.

`Effect.assigns` says which operations assign a nonce, and `Effect.nonces`
that no operation takes a stored nonce back.

Main result: `nonces_allocated`.
-/
import SubmittedIt.RelayIdempotency

namespace SubmittedIt.Relay

open Transaction ReceiptCore ContractClient

/-! ### What one operation does -/

section steps

variable {P : RelayPlatform} {db db' : RelayDb} {row : RelayOperationRow} {o : RelayOp}
  {answer : o.Answer} {key : NonceKey} {id nonce next : Nat}

/-- The nonce chosen is at least the stored one. -/
theorem Preparation.le_nonce {p : Preparation} (h : db.nonces p.nonceKey = some next) :
    next ≤ p.nonce db := by
  unfold Preparation.nonce
  rw [h]
  exact le_max_left _ _

/-- **A stored next nonce is never taken back.** -/
theorem Effect.nonces (heffect : Effect P.checksum db o answer db')
    (h : db.nonces key = some next) : ∃ next', db'.nonces key = some next' ∧ next ≤ next' := by
  cases heffect with
  | same counters => exact ⟨next, h, le_rfl⟩
  | insert a answer blobRow t _ => exact ⟨next, h, le_rfl⟩
  | edit old new stored base hrow hchange hpermitted hstored =>
    show ∃ next', base.nonces key = some next' ∧ next ≤ next'
    cases hchange with
    | statement stmt _ _ => exact ⟨next, h, le_rfl⟩
    | mined _ _ _ => exact ⟨next, h, le_rfl⟩
    | exhausted _ _ _ => exact ⟨next, h, le_rfl⟩
    | anchored _ _ _ _ => exact ⟨next, h, le_rfl⟩
    | prepared p _ _ _ _ prepared _ _ _ _ _ _ _ =>
      show ∃ next', Function.update db.nonces p.nonceKey _ key = some next' ∧ next ≤ next'
      by_cases hkey : key = p.nonceKey
      · subst hkey
        rw [Function.update_self]
        exact ⟨_, rfl, (Preparation.le_nonce h).trans (Nat.le_succ _)⟩
      · rw [Function.update_of_ne hkey]
        exact ⟨next, h, le_rfl⟩

/-- **Only a preparation assigns a nonce**: the one it asked the gateway to
sign with, and the number after it is stored. -/
theorem Effect.assigns (heffect : Effect P.checksum db o answer db')
    (hallowed : signsNonce o answer) (hrow : db'.row id = some row)
    (hnonce : row.transaction.nonce = some nonce)
    (hnew : ∀ r, db.row id = some r → r.transaction.nonce ≠ some nonce) :
    ∃ p, o = .prepareNewTransaction p ∧ p.id = id ∧ nonce = p.nonce db ∧
      db'.nonces p.nonceKey = some (nonce + 1) := by
  rcases hfind : db.row id with - | old
  · obtain ⟨a, blobRow, t, rfl⟩ := heffect.row_new hfind hrow
    cases hnonce
  have hother := hnew old hfind
  rcases heffect.row_cases hfind with hsame | ⟨new, stored, base, hchange, -, hstored, rfl, hrow'⟩
  · rw [hsame] at hrow
    cases hrow
    exact absurd hnonce hother
  rw [hrow'] at hrow
  cases hrow
  rw [hstored.transaction] at hnonce
  cases hchange with
  | statement stmt _ _ => exact absurd (by cases stmt <;> exact hnonce) hother
  | mined _ _ _ => exact absurd hnonce hother
  | exhausted _ _ _ => exact absurd hnonce hother
  | anchored _ _ _ _ => exact absurd hnonce hother
  | prepared p answer prepareAnchor request fee prepared hp _ _ _ _ hprepared _ =>
    have hechoed : prepared.nonce = p.nonce db := hallowed request fee _ prepared hprepared
    have hsigned : nonce = p.nonce db := (Option.some.inj hnonce).symm.trans hechoed
    refine ⟨p, rfl, hp.trans (row_id hfind), hsigned, ?_⟩
    show Function.update db.nonces p.nonceKey _ p.nonceKey = _
    rw [Function.update_self, hsigned]

end steps

/-! ### Every run -/

/-- The signer an operation prepares a transaction for, with the chain and the
contract. -/
def RelayOp.nonceKey : RelayOp → Option NonceKey
  | .prepareNewTransaction p => some p.nonceKey
  | _ => none

/-- The operation gave a relay operation the nonce. -/
def Assigns (P : RelayPlatform) (e : RelayEvent) (id nonce : Nat) : Prop :=
  (∃ row, (execute P e.op e.answer e.before).2.row id = some row ∧
    row.transaction.nonce = some nonce) ∧
  ∀ row, e.before.row id = some row → row.transaction.nonce ≠ some nonce

/-- The nonces of a trace that ends in a state: each was assigned for a signer
to the row the operation is for, a signer's nonces increase, a stored next
nonce never decreases, and it is above all nonces assigned so far. -/
structure NoncesAllocated (P : RelayPlatform) (config : RelayConfiguration)
    (trace : List RelayEvent) (db : RelayDb) : Prop where
  signer : ∀ e ∈ trace, ∀ id nonce, Assigns P e id nonce → e.op.names = some id ∧
    ∃ key, e.op.nonceKey = some key ∧ key.chainId = config.chainId ∧
      key.contractAddress = config.contractAddress
  increase : trace.Pairwise fun e e' => ∀ key id id' nonce nonce',
    e.op.nonceKey = some key → e'.op.nonceKey = some key →
    Assigns P e id nonce → Assigns P e' id' nonce' → nonce < nonce'
  kept : ∀ e ∈ trace, ∀ key next, e.before.nonces key = some next →
    ∃ next', (execute P e.op e.answer e.before).2.nonces key = some next' ∧ next ≤ next'
  above : ∀ e ∈ trace, ∀ key id nonce, e.op.nonceKey = some key → Assigns P e id nonce →
    ∃ next, db.nonces key = some next ∧ nonce < next

theorem NoncesAllocated.perform {P : RelayPlatform} {config : RelayConfiguration}
    {trace : List RelayEvent} {db : RelayDb} {log : List RelayEvent} {o : RelayOp}
    {answer : o.Answer} (h : NoncesAllocated P config trace db) (hallowed : signsNonce o answer)
    (hpermits : Permits P config signsNonce log o answer db) :
    NoncesAllocated P config (trace ++ [⟨o, answer, db⟩]) (execute P o answer db).2 := by
  have heffect := execute_effect P o answer db
  have hassigns : ∀ id nonce, Assigns P ⟨o, answer, db⟩ id nonce →
      ∃ p, o = .prepareNewTransaction p ∧ p.id = id ∧ nonce = p.nonce db ∧
        (execute P o answer db).2.nonces p.nonceKey = some (nonce + 1) := by
    rintro id nonce ⟨⟨row, hrow, hnonce⟩, hnew⟩
    exact heffect.assigns hallowed hrow hnonce hnew
  constructor
  · intro e he id nonce hassign
    rcases List.mem_append.mp he with he | he
    · exact h.signer e he id nonce hassign
    · rw [List.mem_singleton.mp he] at hassign ⊢
      obtain ⟨p, rfl, rfl, -, -⟩ := hassigns id nonce hassign
      exact ⟨rfl, p.nonceKey, rfl, hpermits.2⟩
  · rw [List.pairwise_append]
    refine ⟨h.increase, List.pairwise_singleton _ _, ?_⟩
    intro e he e' he' key id id' nonce nonce' hkey hkey' hassign hassign'
    rw [List.mem_singleton.mp he'] at hkey' hassign'
    obtain ⟨p, rfl, -, hnonce', -⟩ := hassigns id' nonce' hassign'
    cases hkey'
    obtain ⟨next, hnext, hlt⟩ := h.above e he p.nonceKey id nonce hkey hassign
    rw [hnonce']
    exact hlt.trans_le (Preparation.le_nonce hnext)
  · intro e he key next hnext
    rcases List.mem_append.mp he with he | he
    · exact h.kept e he key next hnext
    · rw [List.mem_singleton.mp he] at hnext ⊢
      exact heffect.nonces hnext
  · intro e he key id nonce hkey hassign
    rcases List.mem_append.mp he with he | he
    · obtain ⟨next, hnext, hlt⟩ := h.above e he key id nonce hkey hassign
      obtain ⟨next', hnext', hle⟩ := heffect.nonces hnext
      exact ⟨next', hnext', hlt.trans_le hle⟩
    · rw [List.mem_singleton.mp he] at hkey hassign
      obtain ⟨p, rfl, -, -, hstored⟩ := hassigns id nonce hassign
      cases hkey
      exact ⟨nonce + 1, hstored, Nat.lt_succ_self nonce⟩

/-- **Nonces are allocated once** in every run of the relay in which the
gateway signs with the nonces it is given. -/
theorem nonces_allocated {P : RelayPlatform} {config : RelayConfiguration}
    {blobs : List BlobBindingRow} {c : RelayRun} (h : RelayReaches P config signsNonce blobs c) :
    NoncesAllocated P config c.trace c.state := by
  refine System.Reaches.induction (M := fun c => NoncesAllocated P config c.trace c.state)
    (relay_safe P config signsNonce) (initial_consistent config blobs) ?_ ?_ ?_ h
  · constructor
    · exact fun e he => absurd he List.not_mem_nil
    · exact List.Pairwise.nil
    · exact fun e he => absurd he List.not_mem_nil
    · exact fun e he => absurd he List.not_mem_nil
  · exact fun s trace ts call ih => ih
  · intro s trace before after call log o k answer _ hallowed hpermits ih
    exact ih.perform hallowed hpermits

/-- At one time: a gateway that signs with the nonce it is given, and always
reports 0 as the pending one. -/
def signingEnv (clock : Timestamp) : RelayEnv := fun n o =>
  match o with
  | .randomId => n
  | .prepareAnchor _ _ nonce => .ok ⟨.ofNat 256 (nonce + 11), nonce⟩
  | .prepareNewTransaction _ =>
    (⟨.acknowledged, clock⟩, fun _ _ nonce => .ok ⟨.ofNat 256 (nonce + 11), nonce⟩)
  | o => sampleEnv clock freshState none n o

theorem signingEnv_signsNonce (clock : Timestamp) (n : Nat) (o : RelayOp) :
    signsNonce o (signingEnv clock n o) := by
  cases o with
  | prepareAnchor request fee nonce =>
    intro prepared hprepared
    cases hprepared
    rfl
  | prepareNewTransaction p =>
    intro request fee nonce prepared hprepared
    cases hprepared
    rfl
  | _ => trivial

/-- Two events are relayed. -/
def signedRun : RelayRun :=
  let S := relaySystem keysPlatform sampleConfiguration signsNonce
  S.serve (signingEnv 0) (.relay (some otherRequest) ⟨ascii "ip"⟩) 40
    (S.serve (signingEnv 0) (.relay (some sampleRequest) ⟨ascii "ip"⟩) 40
      ⟨RelayDb.initial keysBlobs, [], []⟩)

theorem signedRun_reaches :
    RelayReaches keysPlatform sampleConfiguration signsNonce keysBlobs signedRun :=
  .serve (signingEnv_signsNonce 0) _ 40 (.serve (signingEnv_signsNonce 0) _ 40 .refl)

theorem nonces_allocated_signedRun :
    NoncesAllocated keysPlatform sampleConfiguration signedRun.trace signedRun.state ∧
      signedRun.state.operations.map (·.transaction.nonce) = [some 0, some 1] :=
  ⟨nonces_allocated signedRun_reaches, by decide +kernel⟩

end SubmittedIt.Relay
