/-
SubmittedIt/RelayIdempotency.lean

Idempotency keys.

A key is stored with the operation that a request creates.  A request that
finds its event's operation only checks that no other operation has its key;
where the key is new, it is answered and the key stays free.

Main results: `keys_bind` (keys bind requests in every run in which no request
finds its own operation with its key still unbound), and `unbound_key_is_reused`,
a run in which one does.
-/
import SubmittedIt.RelayConfirmation

namespace SubmittedIt.Relay

open Transaction ReceiptCore ContractClient

/-! ### Keys and requests -/

/-- The request that a call of `relay` has returned an operation for. -/
def answeredRequest (t : RelayThread) : Option RelayEventRequest :=
  match t.call, t.rest with
  | .relay input _, .ret (.ok _) => input
  | _, _ => none

/-- The fingerprint of a request. -/
def fingerprintOf (P : RelayPlatform) (request : RelayEventRequest) : Digest :=
  P.fingerprintRequest request.blobId request.event request.extensionPublicKey

/-- No two requests that were answered came with one key and different
fingerprints. -/
def BindsKeys (P : RelayPlatform) (c : RelayRun) : Prop :=
  ∀ t ∈ c.threads, ∀ t' ∈ c.threads, ∀ request request' key,
    answeredRequest t = some request → answeredRequest t' = some request' →
    request.idempotencyKey = some key → request'.idempotencyKey = some key →
    fingerprintOf P request = fingerprintOf P request'

/-- The request of a call of `relay`. -/
def requestOf (t : RelayThread) : Option RelayEventRequest :=
  match t.call with
  | .relay input _ => input
  | .getOperation _ => none

/-- No request that comes with a key finds its event's operation, with its
fingerprint, while the key is bound to none. -/
def KeysBoundWhenFound (P : RelayPlatform) (c : RelayRun) : Prop :=
  ∀ t ∈ c.threads, ∀ request ∈ requestOf t, ∀ e ∈ t.log, FindsKeyBound P request e

instance (P : RelayPlatform) (c : RelayRun) : Decidable (KeysBoundWhenFound P c) :=
  inferInstanceAs (Decidable (∀ t ∈ c.threads, ∀ request ∈ requestOf t, ∀ e ∈ t.log,
    FindsKeyBound P request e))

theorem answered_of_returned {P : RelayPlatform} {config : RelayConfiguration}
    {blobs : List BlobBindingRow} {c : RelayRun}
    (h : RelayReaches P config anyAnswer blobs c) (hbound : KeysBoundWhenFound P c)
    {t : RelayThread} (ht : t ∈ c.threads) {request : RelayEventRequest} {key : Text}
    (hanswered : answeredRequest t = some request) (hkey : request.idempotencyKey = some key) :
    ∃ row ∈ c.state.operations, row.binding.requestFingerprint = fingerprintOf P request ∧
      row.binding.idempotencyKeyHash = some (P.sha256 key) := by
  have hguarded := h.guarded (relay_safe P config anyAnswer) (initial_consistent config blobs)
  have hthread := hguarded.threads t ht
  obtain ⟨call, log, rest⟩ := t
  unfold answeredRequest at hanswered
  split at hanswered
  · rename_i input context view hcall hrest
    dsimp only at hcall hrest
    subst hcall hrest hanswered
    obtain ⟨row, hrow, -, hfingerprint, hrowKey⟩ :=
      hthread c.state .refl hguarded.inv request rfl
    exact ⟨row, hrow, hfingerprint, hrowKey (hbound _ ht request rfl) key hkey⟩
  · cases hanswered

/-- **Idempotency keys bind requests** in every run in which no request finds
its operation with its key unbound. -/
theorem keys_bind {P : RelayPlatform} {config : RelayConfiguration} {blobs : List BlobBindingRow}
    {c : RelayRun} (h : RelayReaches P config anyAnswer blobs c)
    (hbound : KeysBoundWhenFound P c) : BindsKeys P c := by
  intro t ht t' ht' request request' key hanswered hanswered' hkey hkey'
  obtain ⟨row, hrow, hfingerprint, hrowKey⟩ := answered_of_returned h hbound ht hanswered hkey
  obtain ⟨row', hrow', hfingerprint', hrowKey'⟩ :=
    answered_of_returned h hbound ht' hanswered' hkey'
  have hInv := (h.guarded (relay_safe P config anyAnswer) (initial_consistent config blobs)).inv
  have hsame := eq_of_id hInv.ids hrow hrow' (hInv.keys row hrow row' hrow' _ hrowKey hrowKey')
  rw [← hfingerprint, ← hfingerprint', hsame]

/-! ### A key that is bound, and one that stays free -/

/-- Two receipts, whose Attempted events hash to 7 and 17. -/
def keysPlatform : RelayPlatform :=
  { samplePlatform with
    keccak := fun
      | .event core => if core.receiptId = 1 then 7 else 17
      | .extensionSignature _ => 8
      | .authoritySignature _ => 9 }

def keysBlobs : List BlobBindingRow := [⟨1, 4, 1, ascii "key", true⟩, ⟨2, 5, 2, ascii "key", true⟩]

def sampleKey : Text := ascii "idempotency-key-1"

/-- The first receipt's request, now with a key. -/
def keyedRequest : RelayEventRequest := { sampleRequest with idempotencyKey := some sampleKey }

/-- The second receipt's request, with the same key. -/
def otherRequest : RelayEventRequest where
  blobId := 5
  event := {
    authoritySignature := none
    chainAnchor := none
    core := { sampleCore with receiptId := 2 }
    eventHash := 17
    extensionSignature := some ⟨ascii "key", 8, ascii "sig"⟩
    authority_stage := nofun }
  extensionPublicKey := ⟨ascii "key", ascii "value"⟩
  idempotencyKey := some sampleKey

def otherEnv : RelayEnv := fun n o =>
  match o with
  | .randomId => 60
  | .prepareNewTransaction _ => (⟨.acknowledged, 0⟩, fun _ _ _ => .ok ⟨12, 1⟩)
  | o => sampleEnv 0 freshState none n o

/-- The first request comes with its key, twice. -/
def boundRun : RelayRun :=
  let S := relaySystem keysPlatform sampleConfiguration anyAnswer
  S.serve (sampleEnv 0 freshState none) (.relay (some keyedRequest) ⟨ascii "ip"⟩) 40
    (S.serve (sampleEnv 0 freshState none) (.relay (some keyedRequest) ⟨ascii "ip"⟩) 40
      ⟨RelayDb.initial keysBlobs, [], []⟩)

theorem keys_bind_boundRun : BindsKeys keysPlatform boundRun :=
  keys_bind (.serve (fun _ _ => trivial) _ 40 (.serve (fun _ _ => trivial) _ 40 .refl) :
    RelayReaches keysPlatform sampleConfiguration anyAnswer keysBlobs boundRun) (by decide +kernel)

/-- The first request comes without a key, then again with one; the second
comes with that key. -/
def reusedRun : RelayRun :=
  let S := relaySystem keysPlatform sampleConfiguration anyAnswer
  S.serve otherEnv (.relay (some otherRequest) ⟨ascii "ip"⟩) 40
    (S.serve (sampleEnv 0 freshState none) (.relay (some keyedRequest) ⟨ascii "ip"⟩) 40
      (S.serve (sampleEnv 0 freshState none) (.relay (some sampleRequest) ⟨ascii "ip"⟩) 40
        ⟨RelayDb.initial keysBlobs, [], []⟩))

theorem reusedRun_reaches :
    RelayReaches keysPlatform sampleConfiguration anyAnswer keysBlobs reusedRun :=
  .serve (fun _ _ => trivial) _ 40 (.serve (fun _ _ => trivial) _ 40
    (.serve (fun _ _ => trivial) _ 40 .refl))

/-- Two different requests are answered under one key. -/
theorem unbound_key_is_reused :
    RelayReaches keysPlatform sampleConfiguration anyAnswer keysBlobs reusedRun ∧
      ¬ BindsKeys keysPlatform reusedRun := by
  refine ⟨reusedRun_reaches, fun hbinds => ?_⟩
  have hanswers : reusedRun.threads.map answeredRequest =
      [some otherRequest, some keyedRequest, some sampleRequest] := by decide +kernel
  have hother : some otherRequest ∈ reusedRun.threads.map answeredRequest := by simp [hanswers]
  have hkeyed : some keyedRequest ∈ reusedRun.threads.map answeredRequest := by simp [hanswers]
  obtain ⟨t, ht, hrequest⟩ := List.mem_map.mp hother
  obtain ⟨t', ht', hrequest'⟩ := List.mem_map.mp hkeyed
  have hsame := hbinds t ht t' ht' otherRequest keyedRequest sampleKey hrequest hrequest' rfl rfl
  exact absurd hsame (by decide)

end SubmittedIt.Relay
