/-
SubmittedIt/AnchorAttachment.lean

Attaching chain evidence to a bundle (apps/extension/lib, private-receipt.ts;
packages/receipt-core, lifecycle.ts).

What is attached is parsed into the bundle, which writes addresses and hashes in
lower case; what is compared with it later is the evidence as the verifier
returned it, whose address is in checksum case.

An anchor is not among what the other checks of a receipt look at, so they hold of
the events with another anchor as well (`Reanchored`).  `ChainEvidence` is the form
of the evidence; `chainEvidence_verified` says that the verifier returns it.

Main results: `attachVerifiedChainAnchor_eq_ok`, `attach_evidence_eq_ok` and
`attachVerifiedChainAnchor_again_iff`.
-/
import SubmittedIt.ReceiptBundles
import SubmittedIt.Timestamps
import SubmittedIt.AnchorVerification

namespace SubmittedIt.Protocol

open JsValue (member hasOwn)

open Extension (VerificationCheckName VerificationCheckResult VerificationResult)
open ContractClient (VerifiedSubmissionReceiptAnchor)

section attachment

variable (W : WebPlatform) (keccak256 : List UInt8 → HashHex) (C : CryptoProvider)

/-- `ReceiptInput`. -/
structure ReceiptInput where
  createdAt : Text
  events : List LifecycleEventEnvelope
  extensionPublicKey : PublicKeyDescriptor
  receiptId : Text
  schemaVersion : Text
  verification : VerificationState

/-- `createReceipt`. -/
def createReceipt (Q : ReceiptPlatform) (input : ReceiptInput) :
    Except ReceiptProtocolError Receipt := do
  let events ← parseList (parseEventEnvelope Q)
    (writeList LifecycleEventEnvelope.value input.events) (ascii "$.events")
  let chain ← validateEventChain Q keccak256 (events.map (·.value))
  validateReceipt Q keccak256 (Receipt.value {
    createdAt := input.createdAt
    currentStage := chain.currentStage
    derivedStatus := deriveReceiptStatus chain.currentStage input.verification
    events
    extensionPublicKey := input.extensionPublicKey
    receiptId := input.receiptId
    schemaVersion := input.schemaVersion
    verification := input.verification })

/-- `verificationState`. -/
def verificationState (timestamp : Text) (events : List LifecycleEventEnvelope) :
    VerificationState where
  checks := (expectedVerificationChecks events).map fun check => ⟨check, none, .passed⟩
  result := .verified
  verifiedAt := some timestamp

/-- The event with another anchor. -/
def LifecycleEventEnvelope.withAnchor (event : LifecycleEventEnvelope)
    (chainAnchor : ChainAnchorMetadata) : LifecycleEventEnvelope :=
  { event with chainAnchor := some chainAnchor }

/-- An anchor that is saved is not replaced. -/
def assertSameAnchor (existing : Option ChainAnchorMetadata) (chainAnchor : ChainAnchorMetadata) :
    Except ExtensionError Unit :=
  match existing with
  | none => .ok ()
  | some stored => do
    let same ← rethrow (sameCanonical W stored.value chainAnchor.value)
    throwIf (same = false) "A verified event anchor is immutable once saved."

/-- `attachVerifiedChainAnchor`. -/
def attachVerifiedChainAnchor (input : JsValue) (eventHash : Text)
    (chainAnchor : ChainAnchorMetadata) (verifiedAt : Text) :
    Except ExtensionError PrivateReceiptBundle := do
  let bundle ← verifyPrivateReceiptBundle W keccak256 C input
  let eventIndex ← orThrow
    (.message "The independently verified anchor does not belong to this receipt.")
    (bundle.receipt.events.findIdx? fun event => event.eventHash = eventHash)
  assertSameAnchor W (bundle.receipt.events[eventIndex]?.bind (·.chainAnchor)) chainAnchor
  let events := bundle.receipt.events.modify eventIndex fun event => event.withAnchor chainAnchor
  let receipt ← rethrow (createReceipt keccak256 W.toReceiptPlatform {
    createdAt := bundle.receipt.createdAt
    events
    extensionPublicKey := bundle.receipt.extensionPublicKey
    receiptId := bundle.receipt.receiptId
    schemaVersion := bundle.receipt.schemaVersion
    verification := verificationState verifiedAt events })
  verifyPrivateReceiptBundle W keccak256 C (PrivateReceiptBundle.value { bundle with receipt })

end attachment

section laws

variable {W : WebPlatform} {keccak256 : List UInt8 → HashHex} {C : CryptoProvider}
  {Q : ReceiptPlatform}

/-! ### Events with another anchor -/

/-- The event is parsed to itself. -/
def Normal (Q : ReceiptPlatform) (event : LifecycleEventEnvelope) : Prop :=
  ∀ q, parseEventEnvelope Q event.value q = .ok event

/-- Parsed events, the second of which may have another anchor. -/
structure Reanchored (Q : ReceiptPlatform) (event event' : LifecycleEventEnvelope) : Prop where
  normal : Normal Q event
  normal' : Normal Q event'
  same : { event' with chainAnchor := event.chainAnchor } = event

theorem Reanchored.fields {event event' : LifecycleEventEnvelope} (h : Reanchored Q event event') :
    event'.core = event.core ∧ event'.eventHash = event.eventHash ∧
      event'.extensionSignature = event.extensionSignature ∧
      event'.authoritySignature = event.authoritySignature := by
  have hsame := h.same
  rcases event with ⟨_, _, _, _, _⟩
  rcases event' with ⟨_, _, _, _, _⟩
  cases hsame
  exact ⟨rfl, rfl, rfl, rfl⟩

theorem parseHashedEventEnvelope_eq_ok {v : JsValue} {event : LifecycleEventEnvelope} :
    parseHashedEventEnvelope Q keccak256 v = .ok event ↔
      parseEventEnvelope Q v (ascii "$.event") = .ok event ∧
        hashEventCore Q keccak256 event.core.value = .ok event.eventHash := by
  simp only [parseHashedEventEnvelope, Transaction.bind_eq_ok, refuseIf_eq_ok, not_not]
  constructor
  · rintro ⟨found, hfound, hash, hhash, _, rfl, h⟩
    obtain rfl := Except.ok.inj h
    exact ⟨hfound, hhash⟩
  · rintro ⟨hfound, hhash⟩
    exact ⟨event, hfound, _, hhash, (), rfl, rfl⟩

theorem createExtensionSignaturePayload_reanchored {event event' : LifecycleEventEnvelope}
    (h : Reanchored Q event event') {payload : JsValue}
    (hpayload : createExtensionSignaturePayload Q keccak256 event.value = .ok payload) :
    createExtensionSignaturePayload Q keccak256 event'.value = .ok payload := by
  obtain ⟨hcore, hhash, -, -⟩ := h.fields
  simp only [createExtensionSignaturePayload, Transaction.bind_eq_ok,
    parseHashedEventEnvelope_eq_ok] at hpayload ⊢
  obtain ⟨found, ⟨hfound, hhashed⟩, hpayload⟩ := hpayload
  obtain rfl := Except.ok.inj ((h.normal _).symm.trans hfound)
  refine ⟨event', ⟨h.normal' _, ?_⟩, ?_⟩
  · rw [hcore, hhash, hhashed]
  · rw [hcore, hhash, hpayload]

/-- The signature of an event is checked alike. -/
theorem validateEnvelopePayloads_reanchored {event event' : LifecycleEventEnvelope}
    (h : Reanchored Q event event') (hnone : event.authoritySignature = none) {keyId p : Text}
    (hvalid : validateEnvelopePayloads Q keccak256 event keyId p = .ok ()) :
    validateEnvelopePayloads Q keccak256 event' keyId p = .ok () := by
  obtain ⟨-, -, hextension, hauthority⟩ := h.fields
  unfold validateEnvelopePayloads at hvalid ⊢
  rw [hauthority, hextension, hnone]
  rw [hnone] at hvalid
  rcases hsignature : event.extensionSignature with - | signature
  · rfl
  · rw [hsignature] at hvalid
    simp only [hashExtensionSignaturePayload, Transaction.bind_eq_ok] at hvalid ⊢
    obtain ⟨u, hkey, hash, ⟨payload, hpayload, hhash⟩, hsame⟩ := hvalid
    exact ⟨u, hkey, hash, ⟨payload, createExtensionSignaturePayload_reanchored h hpayload, hhash⟩,
      hsame⟩

theorem validateReceiptEvents_reanchored {receipt receipt' : Receipt}
    (hid : receipt'.receiptId = receipt.receiptId)
    (hversion : receipt'.schemaVersion = receipt.schemaVersion)
    (hkey : receipt'.extensionPublicKey = receipt.extensionPublicKey)
    {events events' : List LifecycleEventEnvelope} (h : List.Forall₂ (Reanchored Q) events events')
    (hnone : ∀ event ∈ events, event.authoritySignature = none) {index : Nat}
    (hvalid : validateReceiptEvents Q keccak256 receipt events index = .ok ()) :
    validateReceiptEvents Q keccak256 receipt' events' index = .ok () := by
  induction h generalizing index with
  | nil => rfl
  | cons hfirst hrest ih =>
    obtain ⟨hcore, -, -, -⟩ := hfirst.fields
    obtain ⟨hnoneFirst, hnoneRest⟩ := List.forall_mem_cons.mp hnone
    rw [validateReceiptEvents] at hvalid ⊢
    simp only [Transaction.bind_eq_ok] at hvalid ⊢
    obtain ⟨u, hsameId, u', hsameVersion, u'', hpayloads, hvalid⟩ := hvalid
    rw [hcore, hid, hversion, hkey]
    exact ⟨u, hsameId, u', hsameVersion, u'',
      validateEnvelopePayloads_reanchored hfirst hnoneFirst hpayloads, ih hnoneRest hvalid⟩

/-- **The chain of the events is the same.** -/
theorem validateEventChain_reanchored {events events' : List LifecycleEventEnvelope}
    (h : List.Forall₂ (Reanchored Q) events events') {result : EventChainResult}
    (hchain : validateEventChain Q keccak256 (events.map (·.value)) = .ok result) :
    validateEventChain Q keccak256 (events'.map (·.value)) = .ok result := by
  obtain ⟨chain, hreplay, hresult⟩ := validateEventChain_eq_ok.mp hchain
  refine validateEventChain_eq_ok.mpr ⟨chain, ?_, hresult⟩
  clear hresult hchain
  generalize ChainState.initial = first at hreplay ⊢
  induction h generalizing first with
  | nil => exact hreplay
  | cons hfirst hrest ih =>
    obtain ⟨next, hstep, hreplay⟩ := Transaction.replay_cons_ok.mp hreplay
    obtain ⟨event, hparsed, haccepts, rfl⟩ := chainStep_eq_ok.mp hstep
    obtain rfl := Except.ok.inj ((hfirst.normal []).symm.trans (hparsed []))
    obtain ⟨hcore, hhash, -, -⟩ := hfirst.fields
    refine Transaction.replay_cons_ok.mpr ⟨_, chainStep_eq_ok.mpr ⟨_, hfirst.normal', ?_, rfl⟩, ?_⟩
    · have ⟨hhashed, hunseen, hzero, hlater, htransition⟩ := haccepts
      exact ⟨by rw [hcore, hhash, hhashed], by rw [hhash]; exact hunseen, by rw [hcore]; exact hzero,
        by rw [hcore]; exact hlater, by rw [hcore]; exact htransition⟩
    · have hpush : first.push _ = first.push _ :=
        congrArg₂ (fun core hash => first.push ⟨none, none, core, hash, none⟩) hcore hhash
      exact (congrArg (Transaction.replay _ · _) hpush).trans (ih _ hreplay)

/-- **The signature of an event verifies alike.** -/
theorem verifyExtensionEventSignature_reanchored {event event' : LifecycleEventEnvelope}
    (h : Reanchored W.toReceiptPlatform event event') {key : JsValue}
    (hverified : verifyExtensionEventSignature W keccak256 C event.value key = true) :
    verifyExtensionEventSignature W keccak256 C event'.value key = true := by
  obtain ⟨hcore, hhash, hextension, -⟩ := h.fields
  simp only [verifyExtensionEventSignature, decide_eq_true_eq, Option.bind_eq_bind,
    Option.bind_eq_some_iff, accept_eq_some, ensure_eq_some] at hverified ⊢
  obtain ⟨found, hfound, ⟨descriptor, verificationKey⟩, hkey, signature, hsignature, u, hsigner,
    payloadHash, hpayloadHash, u', hsame, bytes, hbytes, u'', hlength, preimage, hpreimage, hvalid⟩ :=
    hverified
  obtain rfl := Except.ok.inj ((h.normal _).symm.trans hfound)
  refine ⟨event', h.normal' _, (descriptor, verificationKey), hkey, signature,
    hextension.trans hsignature, u, hsigner, payloadHash, ?_, u', hsame, bytes, hbytes, u'',
    hlength, preimage, ?_, hvalid⟩
  · rw [toOption_eq_some, hashExtensionSignaturePayload, Transaction.bind_eq_ok] at hpayloadHash ⊢
    obtain ⟨payload, hpayload, hhashed⟩ := hpayloadHash
    exact ⟨payload, createExtensionSignaturePayload_reanchored h hpayload, hhashed⟩
  · simp only [extensionSigningPreimage, Option.bind_eq_bind, Option.bind_eq_some_iff,
      accept_eq_some, ensure_eq_some, toOption_eq_some] at hpreimage ⊢
    obtain ⟨found, hfound, expected, hexpected, u, hsame, payload, hpayload, hrest⟩ := hpreimage
    obtain rfl := Except.ok.inj ((h.normal _).symm.trans hfound)
    refine ⟨event', h.normal' _, expected, ?_, u, hhash.trans hsame, payload,
      createExtensionSignaturePayload_reanchored h hpayload, hrest⟩
    rw [hcore, hexpected]

theorem withoutExtensionSignature_reanchored {event event' : LifecycleEventEnvelope}
    (h : Reanchored Q event event') :
    withoutExtensionSignature event' = withoutExtensionSignature event := by
  obtain ⟨hcore, hhash, -, hauthority⟩ := h.fields
  rw [withoutExtensionSignature, withoutExtensionSignature, hcore, hhash, hauthority]

theorem eventsMatch_reanchored {events events' expected : List LifecycleEventEnvelope}
    (h : List.Forall₂ (Reanchored Q) events events') :
    eventsMatch W events' expected = eventsMatch W events expected := by
  induction h generalizing expected with
  | nil => rfl
  | cons hfirst hrest ih =>
    obtain ⟨-, hhash, -, -⟩ := hfirst.fields
    rcases expected with - | ⟨first, rest⟩
    · rfl
    · rw [eventsMatch, eventsMatch, hhash, withoutExtensionSignature_reanchored hfirst, ih]

/-! ### Evidence that is parsed -/

theorem optionalField_definedMembers {α : Type} {parse : JsValue → Text → Except ReceiptProtocolError α}
    {key : String} {members : List (Text × JsValue)} (hkeys : distinctKeys members = true)
    (hdefined : isUndefined (member (ascii key) members) = false) (q : Text) :
    optionalField parse key (definedMembers members) q =
      (parse (member (ascii key) members) (q ++ ascii "." ++ ascii key)).map some := by
  unfold optionalField field
  rw [hasOwn_definedMembers hkeys, hdefined, member_definedMembers hkeys]
  rfl

/-- The members of an event with evidence. -/
theorem optionalField_withAnchor (event : LifecycleEventEnvelope)
    (chainAnchor : ChainAnchorMetadata) {value : List (Text × JsValue)}
    (h : (event.withAnchor chainAnchor).value = .object value) (q : Text) :
    optionalField parseChainAnchorMetadata "chainAnchor" value q =
      (parseChainAnchorMetadata chainAnchor.value
        (q ++ ascii "." ++ ascii "chainAnchor")).map some := by
  obtain rfl := JsValue.object.inj h
  exact optionalField_definedMembers rfl rfl q

/-- **An event is parsed with its evidence.** -/
theorem parseEventEnvelope_withAnchor {event : LifecycleEventEnvelope} (h : Normal Q event)
    {chainAnchor parsed : ChainAnchorMetadata}
    (hparsed : ∀ q, parseChainAnchorMetadata chainAnchor.value q = .ok parsed) (q : Text) :
    parseEventEnvelope Q (event.withAnchor chainAnchor).value q =
      .ok (event.withAnchor parsed) := by
  obtain ⟨hconsistent, value, -, hfields⟩ := parseEventEnvelope_eq_ok.mp (h q)
  obtain ⟨-, h1, h2, h3, -, h5⟩ := hfields q
  have hconsistent' : (event.withAnchor parsed).Consistent :=
    ⟨hconsistent.extension_signer, hconsistent.authority_signer, hconsistent.authority_stage⟩
  refine parseEventEnvelope_eq_ok.mpr
    ⟨hconsistent', _, rfl, fun q => ⟨assertKeys_fits rfl q, ?_, ?_, ?_, ?_, ?_⟩⟩
  · exact field_again parseEventCore_parses h1 rfl rfl q
  · exact optionalField_again parseSignatureEnvelope_parses h2 rfl rfl (fun _ => rfl) q
  · exact optionalField_again parseSignatureEnvelope_parses h3 rfl rfl (fun _ => rfl) q
  · rw [optionalField_withAnchor event chainAnchor rfl, hparsed]
    rfl
  · exact field_again (normalizeHash_parses (Q := Q)) h5 rfl rfl q

/-- Evidence of an event that is parsed, is parsed. -/
theorem parsed_of_withAnchor {event found : LifecycleEventEnvelope}
    {chainAnchor : ChainAnchorMetadata} {q : Text}
    (h : parseEventEnvelope Q (event.withAnchor chainAnchor).value q = .ok found) :
    ∃ parsed, ∀ q, parseChainAnchorMetadata chainAnchor.value q = .ok parsed := by
  obtain ⟨-, value, hvalue, hfields⟩ := parseEventEnvelope_eq_ok.mp h
  obtain ⟨-, -, -, -, hanchor, -⟩ := hfields q
  rw [optionalField_withAnchor event chainAnchor hvalue] at hanchor
  obtain ⟨parsed, hparsed, -⟩ := map_eq_ok.mp hanchor
  exact ⟨parsed, (parseChainAnchorMetadata_parses (Q := Q)).anywhere hparsed⟩

theorem forall₂_modify {α : Type} {R : α → α → Prop} {f g : α → α} {l : List α}
    (h : ∀ x ∈ l, R x x ∧ R (f x) (g x)) (i : Nat) :
    List.Forall₂ R (l.modify i f) (l.modify i g) := by
  induction l generalizing i with
  | nil =>
    rw [List.modify_nil, List.modify_nil]
    exact .nil
  | cons x rest ih =>
    obtain ⟨⟨hsame, hchanged⟩, hrest⟩ := List.forall_mem_cons.mp h
    rcases i with - | i
    · rw [List.modify_zero_cons, List.modify_zero_cons]
      exact .cons hchanged (List.forall₂_same.mpr fun y hy => (hrest y hy).1)
    · rw [List.modify_succ_cons, List.modify_succ_cons]
      exact .cons hsame (ih hrest i)

/-- The events of a receipt, one of them with evidence. -/
theorem forall₂_withAnchor {events : List LifecycleEventEnvelope}
    (h : ∀ event ∈ events, Normal Q event) {chainAnchor parsed : ChainAnchorMetadata}
    (hparsed : ∀ q, parseChainAnchorMetadata chainAnchor.value q = .ok parsed) (index : Nat) :
    List.Forall₂ (fun item event => ∀ q, parseEventEnvelope Q item q = .ok event)
        ((events.modify index (·.withAnchor chainAnchor)).map (·.value))
        (events.modify index (·.withAnchor parsed)) ∧
      List.Forall₂ (Reanchored Q) events (events.modify index (·.withAnchor parsed)) := by
  have hnormal : ∀ q, parseChainAnchorMetadata parsed.value q = .ok parsed :=
    fun q => (parseChainAnchorMetadata_parses (Q := Q)).again (hparsed []) q
  constructor
  · rw [List.forall₂_map_left_iff]
    exact forall₂_modify (R := fun item event => ∀ q, parseEventEnvelope Q item.value q = .ok event)
      (fun event hevent =>
        ⟨h event hevent, parseEventEnvelope_withAnchor (h event hevent) hparsed⟩) index
  · have hmodify := forall₂_modify (R := Reanchored Q) (f := id) (g := (·.withAnchor parsed))
      (fun event hevent => ⟨⟨h event hevent, h event hevent, rfl⟩,
        ⟨h event hevent, parseEventEnvelope_withAnchor (h event hevent) hnormal, rfl⟩⟩) index
    rwa [List.modify_id] at hmodify

/-! ### The verification state -/

/-- The checks of events one of which has an anchor. -/
def anchoredChecks : List VerificationCheck :=
  [⟨.chainAnchor, none, .passed⟩, ⟨.eventHash, none, .passed⟩, ⟨.eventLink, none, .passed⟩,
    ⟨.extensionSignature, none, .passed⟩, ⟨.schema, none, .passed⟩]

theorem verificationState_anchored {events : List LifecycleEventEnvelope}
    (h : events.any (·.chainAnchor.isSome) = true) (time : Text) :
    verificationState time events = ⟨anchoredChecks, .verified, some time⟩ := by
  rw [verificationState, expectedVerificationChecks, if_pos h]
  rfl

theorem mem_modify {α : Type} {l : List α} {i : Nat} {x : α} (h : l[i]? = some x) (f : α → α) :
    f x ∈ l.modify i f := by
  apply List.mem_of_getElem? (i := i)
  rw [List.getElem?_modify_eq, h]
  rfl

theorem any_withAnchor {events : List LifecycleEventEnvelope} {index : Nat}
    {event : LifecycleEventEnvelope} (h : events[index]? = some event)
    (chainAnchor : ChainAnchorMetadata) :
    (events.modify index (·.withAnchor chainAnchor)).any (·.chainAnchor.isSome) = true :=
  List.any_eq_true.mpr ⟨_, mem_modify h (·.withAnchor chainAnchor), rfl⟩

/-- A passed check without details. -/
theorem parseVerificationCheck_passed (name : VerificationCheckName) (q : Text) :
    parseVerificationCheck Q (VerificationCheck.value ⟨name, none, .passed⟩) q =
      .ok ⟨name, none, .passed⟩ := by
  refine parseVerificationCheck_eq_ok.mpr ⟨_, rfl, fun q => ⟨?_, ?_, ?_, ?_⟩⟩
  · exact assertKeys_fits rfl q
  · cases name <;> rfl
  · rfl
  · rfl

theorem anchoredChecks_consistent (time : Text) :
    VerificationState.Consistent ⟨anchoredChecks, .verified, some time⟩ where
  sorted := (by decide : anchoredChecks.Pairwise fun a b => (compareChecks a b).isLE = true)
  distinct := (by decide :
    (anchoredChecks.map fun check => verificationCheckNameText check.check).Nodup)
  failed h := nomatch h.1
  verified h := absurd h.2 (by decide : (decide (anchoredChecks.length > 0) &&
    anchoredChecks.all fun check => check.result = .passed) ≠ false)
  open_result h := nomatch h.1
  time h := nomatch h.2

theorem parseVerificationState_anchored {time normalized : Text}
    (htime : ∀ q, normalizeTimestamp (.string time) q = .ok normalized) (q : Text) :
    parseVerificationState Q
        (VerificationState.value ⟨anchoredChecks, .verified, some time⟩) q =
      .ok ⟨anchoredChecks, .verified, some normalized⟩ := by
  refine parseVerificationState_eq_ok.mpr ⟨anchoredChecks_consistent normalized, _, anchoredChecks,
    rfl, List.Perm.refl _, fun q => ⟨assertKeys_fits rfl q, ?_, rfl, ?_⟩⟩
  · refine (parseList_eq_ok parseVerificationCheck_parses.anywhere).mpr ⟨_, rfl, ?_⟩
    rw [List.forall₂_map_left_iff, List.forall₂_same]
    intro check hcheck q
    have hpassed : ∀ check ∈ anchoredChecks, check = ⟨check.check, none, .passed⟩ := by decide
    rw [hpassed check hcheck]
    exact parseVerificationCheck_passed check.check q
  · show (normalizeTimestamp (.string time) _).map some = _
    rw [htime]
    rfl

theorem deriveReceiptStatus_anchored (stage : EventStage) (time : Text) :
    deriveReceiptStatus (.entered stage) ⟨anchoredChecks, .verified, some time⟩ =
      .pendingAcceptance := by
  cases stage <;> rfl

theorem requireChecks_anchored {receipt : Receipt} {time : Text} {stage : EventStage}
    (hverification : receipt.verification = ⟨anchoredChecks, .verified, some time⟩)
    (hstage : stage.isAuthority = false) : requireChecks receipt (.entered stage) = .ok () := by
  have hpassed : ∀ name, name ≠ .authoritySignature → name ≠ .decryption →
      requirePassedCheck receipt.verification name = .ok () := by
    intro name hauthority hdecryption
    rw [hverification]
    cases name
    · exact absurd rfl hdecryption
    · rfl
    · rfl
    · rfl
    · rfl
    · exact absurd rfl hauthority
    · rfl
  have hauthority : (decide (LifecycleStage.entered stage = .entered .authorityAccepted) ||
      decide (LifecycleStage.entered stage = .entered .authorityRejected)) = false := by
    revert hstage
    cases stage <;> decide
  simp only [requireChecks, Transaction.bind_eq_ok, if_true, hauthority,
    hpassed .schema nofun nofun, hpassed .eventHash nofun nofun, hpassed .eventLink nofun nofun]
  refine ⟨(), trivial, (), trivial, (), trivial, (), ?_, (), ?_, ?_⟩
  · split
    · exact hpassed .extensionSignature nofun nofun
    · rfl
  · split
    · exact hpassed .chainAnchor nofun nofun
    · rfl
  · rfl

/-! ### The receipt -/

/-- The receipt with another anchor and the checks of it. -/
def Receipt.anchored (receipt : Receipt) (index : Nat) (chainAnchor : ChainAnchorMetadata)
    (time : Text) : Receipt :=
  { receipt with
    events := receipt.events.modify index (·.withAnchor chainAnchor)
    verification := ⟨anchoredChecks, .verified, some time⟩ }

/-- What a receipt of a bundle is: its events are signed by the extension only. -/
structure LocalReceipt (receipt : Receipt) (stage : EventStage) : Prop where
  currentStage : receipt.currentStage = .entered stage
  derivedStatus : receipt.derivedStatus = .pendingAcceptance
  extension_stage : stage.isAuthority = false
  signed : ∀ event ∈ receipt.events,
    event.extensionSignature.isSome = true ∧ event.authoritySignature = none

theorem checkReceipt_anchored {receipt : Receipt} {stage : EventStage}
    (hlocal : LocalReceipt receipt stage) {index : Nat} {chainAnchor : ChainAnchorMetadata}
    (time : Text)
    (hevents : List.Forall₂ (Reanchored Q) receipt.events
      (receipt.events.modify index (·.withAnchor chainAnchor)))
    (h : checkReceipt Q keccak256 receipt = .ok ()) :
    checkReceipt Q keccak256 (receipt.anchored index chainAnchor time) = .ok () := by
  simp only [checkReceipt, Transaction.bind_eq_ok, refuseIf_eq_ok, not_not] at h ⊢
  obtain ⟨chain, hchain, u, hid, u', hvalid, u'', hstage, _⟩ := h
  have hentered : chain.currentStage = .entered stage := hstage.symm.trans hlocal.currentStage
  have hvalid' := validateReceiptEvents_reanchored
    (show (receipt.anchored index chainAnchor time).receiptId = receipt.receiptId from rfl)
    rfl rfl hevents (fun event hevent => (hlocal.signed event hevent).2) hvalid
  refine ⟨chain, validateEventChain_reanchored hevents hchain, u, hid, u', hvalid', u'', hstage,
    (), ?_, (), ?_, ?_⟩
  · rw [hentered]
    exact hlocal.derivedStatus.trans (deriveReceiptStatus_anchored stage time).symm
  · rw [hentered]
    rintro ⟨hauthority | hauthority, -⟩
    · cases hauthority
      exact absurd hlocal.extension_stage Bool.noConfusion
    · cases hauthority
      exact absurd hlocal.extension_stage Bool.noConfusion
  · rw [hentered]
    exact requireChecks_anchored rfl hlocal.extension_stage

/-- The events of a parsed receipt are parsed to themselves. -/
theorem normal_of_parsed {v : JsValue} {p : Text} {receipt : Receipt}
    (h : parseReceiptStructure Q v p = .ok receipt) : ∀ event ∈ receipt.events, Normal Q event := by
  obtain ⟨value, -, hfields⟩ := parseReceiptStructure_eq_ok.mp h
  obtain ⟨-, -, -, -, h4, -, -, -, -⟩ := hfields p
  obtain ⟨items, -, hitems⟩ := (parseList_eq_ok parseEventEnvelope_parses.anywhere).mp h4
  intro event hevent
  obtain ⟨item, -, hitem⟩ := exists_of_forall₂ hitems hevent
  exact parseEventEnvelope_parses.again (hitem [])

theorem parseReceiptStructure_anchored {v : JsValue} {p : Text} {receipt : Receipt}
    (h : parseReceiptStructure Q v p = .ok receipt) {chainAnchor parsed : ChainAnchorMetadata}
    (hparsed : ∀ q, parseChainAnchorMetadata chainAnchor.value q = .ok parsed)
    {time normalized : Text} (htime : ∀ q, normalizeTimestamp (.string time) q = .ok normalized)
    (index : Nat) (q : Text) :
    parseReceiptStructure Q (receipt.anchored index chainAnchor time).value q =
      .ok (receipt.anchored index parsed normalized) := by
  obtain ⟨value, hvalue, hfields⟩ :=
    parseReceiptStructure_eq_ok.mp (parseReceiptStructure_parses.again h q)
  obtain rfl := JsValue.object.inj hvalue
  refine parseReceiptStructure_eq_ok.mpr ⟨_, rfl, fun q => ?_⟩
  obtain ⟨-, h1, h2, h3, -, h5, h6, h7, -⟩ := hfields q
  refine ⟨assertKeys_fits rfl q, h1, h2, h3, ?_, h5, h6, h7,
    parseVerificationState_anchored htime _⟩
  exact (parseList_eq_ok parseEventEnvelope_parses.anywhere).mpr
    ⟨_, rfl, (forall₂_withAnchor (normal_of_parsed h) hparsed index).1⟩

/-- What the receipt with the evidence is created of. -/
def Receipt.anchoredInput (receipt : Receipt) (index : Nat) (chainAnchor : ChainAnchorMetadata)
    (time : Text) : ReceiptInput where
  createdAt := receipt.createdAt
  events := receipt.events.modify index (·.withAnchor chainAnchor)
  extensionPublicKey := receipt.extensionPublicKey
  receiptId := receipt.receiptId
  schemaVersion := receipt.schemaVersion
  verification := verificationState time (receipt.events.modify index (·.withAnchor chainAnchor))

/-- **The receipt is created** of the events with the evidence. -/
theorem createReceipt_anchored {v : JsValue} {p : Text} {receipt : Receipt} {stage : EventStage}
    (h : parseReceiptStructure Q v p = .ok receipt) (hlocal : LocalReceipt receipt stage)
    (hreceipt : checkReceipt Q keccak256 receipt = .ok ())
    {chainAnchor parsed : ChainAnchorMetadata}
    (hparsed : ∀ q, parseChainAnchorMetadata chainAnchor.value q = .ok parsed)
    {time normalized : Text} (htime : ∀ q, normalizeTimestamp (.string time) q = .ok normalized)
    {index : Nat} {event : LifecycleEventEnvelope} (hindex : receipt.events[index]? = some event) :
    createReceipt keccak256 Q (receipt.anchoredInput index chainAnchor time) =
      .ok (receipt.anchored index parsed normalized) := by
  have hnormal := normal_of_parsed h
  have hagain : ∀ q, parseChainAnchorMetadata parsed.value q = .ok parsed :=
    fun q => (parseChainAnchorMetadata_parses (Q := Q)).again (hparsed []) q
  obtain ⟨hitems, hevents⟩ := forall₂_withAnchor hnormal hparsed index
  have hcheck := checkReceipt_anchored hlocal normalized hevents hreceipt
  simp only [checkReceipt, Transaction.bind_eq_ok, refuseIf_eq_ok, not_not] at hreceipt
  obtain ⟨chain, hchain, -, -, -, -, -, hstage, -⟩ := hreceipt
  have hentered : chain.currentStage = .entered stage := hstage.symm.trans hlocal.currentStage
  simp only [createReceipt, Transaction.bind_eq_ok]
  refine ⟨_, (parseList_eq_ok parseEventEnvelope_parses.anywhere).mpr ⟨_, rfl, hitems⟩, chain,
    validateEventChain_reanchored hevents hchain, ?_⟩
  rw [Receipt.anchoredInput, verificationState_anchored (any_withAnchor hindex chainAnchor), hentered,
    deriveReceiptStatus_anchored, ← hlocal.currentStage, ← hlocal.derivedStatus]
  exact validateReceipt_eq_ok.mpr ⟨parseReceiptStructure_anchored h hagain htime index _, hcheck⟩

/-! ### The bundle -/

/-- The bundle with another anchor. -/
def PrivateReceiptBundle.anchored (bundle : PrivateReceiptBundle) (index : Nat)
    (chainAnchor : ChainAnchorMetadata) (time : Text) : PrivateReceiptBundle :=
  { bundle with receipt := bundle.receipt.anchored index chainAnchor time }

theorem receiptMatchesOperational_eq_ok {receipt : Receipt} {operational : StoredAttemptReceipt} :
    receiptMatchesOperational W receipt operational = .ok true ↔
      (receipt.receiptId = operational.receiptId ∧ receipt.createdAt = operational.capturedAt ∧
        receipt.currentStage = .entered operational.currentStage ∧
        receipt.derivedStatus = .pendingAcceptance ∧
        receipt.events.length = (operationalEvents operational).length) ∧
      eventsMatch W receipt.events (operationalEvents operational) = .ok true := by
  unfold receiptMatchesOperational
  dsimp only
  split
  · next h => exact ⟨fun hmatch => ⟨h, hmatch⟩, fun hmatch => hmatch.2⟩
  · next h => exact ⟨fun hmatch => absurd (Except.ok.inj hmatch) Bool.noConfusion,
      fun hmatch => absurd hmatch.1 h⟩

/-- What is checked between the parts of a bundle. -/
theorem checkBundle_eq_ok {receipt : Receipt} {operational : StoredAttemptReceipt} :
    checkBundle W operational receipt = .ok () ↔
      receiptMatchesOperational W receipt operational = .ok true ∧
      (∀ event ∈ receipt.events,
        event.extensionSignature.isSome = true ∧ event.authoritySignature = none) ∧
      receipt.verification.result = .verified ∧
      sameCanonical W
        (.array (receipt.verification.checks.map fun check => checkValue check.check check.result))
        (.array ((expectedVerificationChecks receipt.events).map fun check =>
          checkValue check .passed)) = .ok true := by
  have hsigned : ¬(receipt.events.any fun event =>
        event.extensionSignature.isNone || event.authoritySignature.isSome) = true ↔
      ∀ event ∈ receipt.events,
        event.extensionSignature.isSome = true ∧ event.authoritySignature = none := by
    simp [Option.isSome_iff_ne_none]
  simp only [checkBundle, Transaction.bind_eq_ok, rethrow_eq_ok, throwIf_eq_ok, hsigned, not_not]
  constructor
  · rintro ⟨same, hsame, _, hmatches, _, hevents, _, hresult, expected, hexpected, hchecks⟩
    rw [Bool.not_eq_false] at hmatches hchecks
    exact ⟨hmatches ▸ hsame, hevents, hresult, hchecks ▸ hexpected⟩
  · rintro ⟨hsame, hevents, hresult, hexpected⟩
    exact ⟨true, hsame, (), nofun, (), hevents, (), hresult, true, hexpected, nofun⟩

/-- A value that has a canonical form is the same as itself. -/
theorem sameCanonical_self {v : JsValue} (h : ∃ j, Canonical W.toTextPlatform v j) :
    sameCanonical W v v = .ok true := by
  obtain ⟨j, hj⟩ := h
  have htext := canonicalize_eq_ok.mpr ⟨j, hj, rfl⟩
  simp only [sameCanonical, htext]
  exact congrArg Except.ok (decide_eq_true rfl)

/-- **The checks of events one of which has an anchor** are those of a bundle. -/
theorem sameCanonical_anchoredChecks {events : List LifecycleEventEnvelope}
    (h : events.any (·.chainAnchor.isSome) = true) :
    sameCanonical W
      (.array (anchoredChecks.map fun check => checkValue check.check check.result))
      (.array ((expectedVerificationChecks events).map fun check =>
        checkValue check .passed)) = .ok true := by
  rw [expectedVerificationChecks, if_pos h]
  have hchecks : ∀ check ∈ anchoredChecks,
      ∃ j, Canonical W.toTextPlatform (checkValue check.check check.result) j := by
    intro check hcheck
    have hpassed : ∀ check ∈ anchoredChecks, check.result = .passed := by decide
    rw [hpassed check hcheck]
    exact parseVerificationCheck_parses.canonical (parseVerificationCheck_passed check.check [])
  apply sameCanonical_self
  exact canonical_list (Q := W.toReceiptPlatform) hchecks

theorem LocalReceipt.of_check {receipt : Receipt} {operational : StoredAttemptReceipt}
    (h : checkBundle W operational receipt = .ok ()) :
    LocalReceipt receipt operational.currentStage := by
  obtain ⟨hmatches, hsigned, -, -⟩ := checkBundle_eq_ok.mp h
  obtain ⟨⟨-, -, hstage, hstatus, -⟩, -⟩ := receiptMatchesOperational_eq_ok.mp hmatches
  refine ⟨hstage, hstatus, ?_, hsigned⟩
  rw [StoredAttemptReceipt.currentStage]
  split <;> rfl

theorem checkBundle_anchored {receipt : Receipt} {operational : StoredAttemptReceipt}
    {index : Nat} {event : LifecycleEventEnvelope} (hindex : receipt.events[index]? = some event)
    {chainAnchor : ChainAnchorMetadata} (time : Text)
    (hevents : List.Forall₂ (Reanchored W.toReceiptPlatform) receipt.events
      (receipt.events.modify index (·.withAnchor chainAnchor)))
    (h : checkBundle W operational receipt = .ok ()) :
    checkBundle W operational (receipt.anchored index chainAnchor time) = .ok () := by
  obtain ⟨hmatches, hsigned, -, -⟩ := checkBundle_eq_ok.mp h
  obtain ⟨⟨hid, hcreated, hstage, hstatus, hlength⟩, hsame⟩ :=
    receiptMatchesOperational_eq_ok.mp hmatches
  refine checkBundle_eq_ok.mpr ⟨receiptMatchesOperational_eq_ok.mpr
    ⟨⟨hid, hcreated, hstage, hstatus, ?_⟩, ?_⟩, ?_, rfl, ?_⟩
  · exact hevents.length_eq.symm.trans hlength
  · exact (eventsMatch_reanchored hevents).trans hsame
  · intro changed hchanged
    obtain ⟨original, horiginal, hrelated⟩ := exists_of_forall₂ hevents hchanged
    obtain ⟨-, -, hextension, hauthority⟩ := hrelated.fields
    rw [hextension, hauthority]
    exact hsigned original horiginal
  · exact sameCanonical_anchoredChecks (any_withAnchor hindex chainAnchor)

/-- **A verified bundle is verified with another anchor.** -/
theorem verifyPrivateReceiptBundle_anchored {v : JsValue} {bundle : PrivateReceiptBundle}
    (h : verifyPrivateReceiptBundle W keccak256 C v = .ok bundle)
    {chainAnchor : ChainAnchorMetadata}
    (hanchor : ∀ q, parseChainAnchorMetadata chainAnchor.value q = .ok chainAnchor)
    {time : Text} (htime : ∀ q, normalizeTimestamp (.string time) q = .ok time)
    {index : Nat} {event : LifecycleEventEnvelope}
    (hindex : bundle.receipt.events[index]? = some event) :
    verifyPrivateReceiptBundle W keccak256 C (bundle.anchored index chainAnchor time).value =
      .ok (bundle.anchored index chainAnchor time) := by
  obtain ⟨hparsed, ⟨chain, hchain⟩, hverified⟩ := verifyPrivateReceiptBundle_eq_ok.mp h
  obtain ⟨hcheck, value, hvalue, -, h1, h2, h3, h4, h5⟩ :=
    parsePrivateReceiptBundle_eq_ok.mp (parsePrivateReceiptBundle_again hparsed)
  obtain rfl := JsValue.object.inj hvalue
  obtain ⟨hstructure, hreceipt⟩ := validateReceipt_eq_ok.mp h5
  obtain ⟨-, hevents⟩ := forall₂_withAnchor (normal_of_parsed hstructure) hanchor index
  have hlocal := LocalReceipt.of_check hcheck
  refine verifyPrivateReceiptBundle_eq_ok.mpr ⟨?_, ⟨chain, ?_⟩, ?_⟩
  · refine parsePrivateReceiptBundle_eq_ok.mpr
      ⟨checkBundle_anchored hindex time hevents hcheck, _, rfl, rfl, h1, h2, h3, h4, ?_⟩
    exact validateReceipt_eq_ok.mpr
      ⟨parseReceiptStructure_anchored hstructure hanchor htime index _,
        checkReceipt_anchored hlocal time hevents hreceipt⟩
  · exact validateEventChain_reanchored hevents hchain
  · rw [List.all_eq_true] at hverified ⊢
    intro changed hchanged
    obtain ⟨original, horiginal, hrelated⟩ := exists_of_forall₂ hevents hchanged
    exact verifyExtensionEventSignature_reanchored hrelated (hverified original horiginal)

/-! ### Attaching -/

/-- What a chain has seen before is not seen again. -/
theorem replay_hashes {items : List JsValue} {events : List LifecycleEventEnvelope}
    (hitems : List.Forall₂ (fun item event => ∀ q, parseEventEnvelope Q item q = .ok event)
      items events) {first last : ChainState}
    (h : Transaction.replay (chainStep Q keccak256) first items = .ok last) :
    (events.map (·.eventHash)).Nodup ∧ ∀ event ∈ events, event.eventHash ∉ first.seenHashes := by
  induction hitems generalizing first with
  | nil => exact ⟨List.nodup_nil, fun _ hevent => absurd hevent List.not_mem_nil⟩
  | @cons item event items events hitem _ ih =>
    obtain ⟨next, hstep, hreplay⟩ := Transaction.replay_cons_ok.mp h
    obtain ⟨found, hfound, haccepts, rfl⟩ := chainStep_eq_ok.mp hstep
    obtain rfl := Except.ok.inj ((hitem []).symm.trans (hfound []))
    obtain ⟨hnodup, hunseen⟩ := ih hreplay
    have hlater : ∀ later ∈ events,
        later.eventHash ≠ event.eventHash ∧ later.eventHash ∉ first.seenHashes :=
      fun later hlater => not_or.mp (mt List.mem_cons.mpr (hunseen later hlater))
    refine ⟨List.nodup_cons.mpr ⟨?_, hnodup⟩, ?_⟩
    · intro hmem
      obtain ⟨later, hmem, hsame⟩ := List.mem_map.mp hmem
      exact (hlater later hmem).1 hsame
    · exact List.forall_mem_cons.mpr ⟨haccepts.unseen, fun later hmem => (hlater later hmem).2⟩

/-- The event is found at the index. -/
structure FoundAt (bundle : PrivateReceiptBundle) (event : LifecycleEventEnvelope) (index : Nat) :
    Prop where
  there : bundle.receipt.events[index]? = some event
  found : bundle.receipt.events.findIdx? (fun other => other.eventHash = event.eventHash) =
    some index

/-- **The hash of an event finds it.** -/
theorem findIdx?_eventHash {v : JsValue} {bundle : PrivateReceiptBundle}
    (h : verifyPrivateReceiptBundle W keccak256 C v = .ok bundle)
    {event : LifecycleEventEnvelope} (hevent : event ∈ bundle.receipt.events) :
    ∃ index, FoundAt bundle event index := by
  obtain ⟨hparsed, ⟨chain, hchain⟩, -⟩ := verifyPrivateReceiptBundle_eq_ok.mp h
  obtain ⟨-, value, -, -, -, -, -, -, h5⟩ := parsePrivateReceiptBundle_eq_ok.mp hparsed
  have hnormal := normal_of_parsed (validateReceipt_eq_ok.mp h5).1
  obtain ⟨last, hreplay, -⟩ := validateEventChain_eq_ok.mp hchain
  have hitems : List.Forall₂ (fun item event => ∀ q,
      parseEventEnvelope W.toReceiptPlatform item q = .ok event)
      (bundle.receipt.events.map (·.value)) bundle.receipt.events := by
    rw [List.forall₂_map_left_iff, List.forall₂_same]
    exact hnormal
  obtain ⟨hnodup, -⟩ := replay_hashes hitems hreplay
  have hfound : (bundle.receipt.events.findIdx? fun other =>
      other.eventHash = event.eventHash).isSome = true := by
    rw [List.findIdx?_isSome, List.any_eq_true]
    exact ⟨event, hevent, decide_eq_true rfl⟩
  obtain ⟨index, hfind⟩ := Option.isSome_iff_exists.mp hfound
  obtain ⟨hlt, hhash, -⟩ := List.findIdx?_eq_some_iff_getElem.mp hfind
  have hsame := List.inj_on_of_nodup_map hnodup (List.getElem_mem hlt) hevent
    (of_decide_eq_true hhash)
  exact ⟨index, List.getElem?_eq_some_iff.mpr ⟨hlt, hsame⟩, hfind⟩

/-- Evidence with which a receipt is created, is parsed. -/
theorem parsed_of_createReceipt {input : ReceiptInput} {receipt : Receipt}
    (h : createReceipt keccak256 Q input = .ok receipt) {event : LifecycleEventEnvelope}
    {chainAnchor : ChainAnchorMetadata} (hevent : event.withAnchor chainAnchor ∈ input.events) :
    ∃ parsed, ∀ q, parseChainAnchorMetadata chainAnchor.value q = .ok parsed := by
  simp only [createReceipt, Transaction.bind_eq_ok] at h
  obtain ⟨events, hevents, -⟩ := h
  obtain ⟨items, hitems, hparsed⟩ :=
    (parseList_eq_ok parseEventEnvelope_parses.anywhere).mp hevents
  obtain rfl := JsValue.array.inj hitems
  rw [List.forall₂_map_left_iff] at hparsed
  obtain ⟨found, -, hfound⟩ := exists_of_forall₂ hparsed.flip hevent
  exact parsed_of_withAnchor (hfound [])

/-- **When evidence is attached, and what the bundle becomes.** -/
theorem attachVerifiedChainAnchor_eq_ok {v : JsValue} {bundle result : PrivateReceiptBundle}
    (h : verifyPrivateReceiptBundle W keccak256 C v = .ok bundle)
    {event : LifecycleEventEnvelope} {index : Nat} (hindex : FoundAt bundle event index)
    {chainAnchor : ChainAnchorMetadata} {time normalized : Text}
    (htime : ∀ q, normalizeTimestamp (.string time) q = .ok normalized) :
    attachVerifiedChainAnchor W keccak256 C v event.eventHash chainAnchor time = .ok result ↔
      ∃ parsed, (∀ q, parseChainAnchorMetadata chainAnchor.value q = .ok parsed) ∧
        assertSameAnchor W event.chainAnchor chainAnchor = .ok () ∧
        result = bundle.anchored index parsed normalized := by
  have hcreate : ∀ {parsed : ChainAnchorMetadata},
      (∀ q, parseChainAnchorMetadata chainAnchor.value q = .ok parsed) →
      createReceipt keccak256 W.toReceiptPlatform
        (bundle.receipt.anchoredInput index chainAnchor time) =
        .ok (bundle.receipt.anchored index parsed normalized) := by
    intro parsed hparsed
    obtain ⟨hbundle, -, -⟩ := verifyPrivateReceiptBundle_eq_ok.mp h
    obtain ⟨hcheck, value, -, -, -, -, -, -, h5⟩ := parsePrivateReceiptBundle_eq_ok.mp hbundle
    obtain ⟨hstructure, hreceipt⟩ := validateReceipt_eq_ok.mp h5
    exact createReceipt_anchored hstructure (.of_check hcheck) hreceipt hparsed htime hindex.there
  have hverify : ∀ {parsed : ChainAnchorMetadata},
      (∀ q, parseChainAnchorMetadata chainAnchor.value q = .ok parsed) →
      verifyPrivateReceiptBundle W keccak256 C (bundle.anchored index parsed normalized).value =
        .ok (bundle.anchored index parsed normalized) :=
    fun hparsed => verifyPrivateReceiptBundle_anchored h
      ((parseChainAnchorMetadata_parses (Q := W.toReceiptPlatform)).again (hparsed []))
      ((normalizeTimestamp_parses (Q := W.toReceiptPlatform)).again (htime [])) hindex.there
  have hanchor : (bundle.receipt.events[index]?.bind (·.chainAnchor)) = event.chainAnchor := by
    rw [hindex.there]
    rfl
  simp only [attachVerifiedChainAnchor, Transaction.bind_eq_ok, rethrow_eq_ok, orThrow_eq_ok, h,
    Except.ok.injEq, exists_eq_left', hindex.found, Option.some.injEq, hanchor]
  constructor
  · rintro ⟨_, hsame, receipt, hreceipt, hresult⟩
    obtain ⟨parsed, hparsed⟩ := parsed_of_createReceipt hreceipt
      (mem_modify hindex.there (·.withAnchor chainAnchor))
    obtain rfl := Except.ok.inj ((hcreate hparsed).symm.trans hreceipt)
    exact ⟨parsed, hparsed, hsame, Except.ok.inj (hresult.symm.trans (hverify hparsed))⟩
  · rintro ⟨parsed, hparsed, hsame, rfl⟩
    exact ⟨(), hsame, _, hcreate hparsed, hverify hparsed⟩

/-! ### Times -/

/-- An instant from 1970 on is of a year after the first. -/
theorem one_le_year {instant : Int} (h : 0 ≤ instant) :
    1 ≤ (Calendar.dateFromDay (instant / 86400000)).1 := by
  obtain ⟨-, hnext⟩ := Calendar.yearFromDay_spec (instant / 86400000)
  by_contra hyear
  have hbefore : Calendar.yearFromDay (instant / 86400000) < 1 := Int.lt_of_not_ge hyear
  have hmono := Calendar.dayFromYear_mono hbefore
  have hfirst : Calendar.dayFromYear 1 ≤ 0 := by decide
  have hday := Int.ediv_nonneg h (show (0 : Int) ≤ 86400000 by decide)
  omega

theorem not_denotes_of_head {text : Text} {u : UInt16} (h : Json.isDigit u = false)
    (instant : Int) : ¬Denotes (u :: text) instant := by
  rintro ⟨fields, hwritten, -, -⟩
  have hmatch := matchTimestamp_eq_some.mpr hwritten
  have hyear : digitsAt (u :: text) 0 4 = none := by
    rw [digitsAt, if_neg]
    rintro ⟨-, hdigits⟩
    rw [List.drop_zero, List.take_succ_cons, List.all_cons, h] at hdigits
    cases hdigits
  rw [matchTimestamp, hyear] at hmatch
  cases hmatch

/-- **The text of an instant is accepted when its year has four digits**, and is normal then. -/
theorem normalizeTimestamp_isoText {instant : Int} (h : 0 ≤ instant) {path out : Text} :
    normalizeTimestamp (.string (isoText instant)) path = .ok out ↔
      InFourDigitYears instant ∧ out = isoText instant := by
  have hpos := one_le_year h
  by_cases hyears : InFourDigitYears instant
  · obtain ⟨-, hlast⟩ := inFourDigitYears_iff.mp hyears
    have htext : isoText instant = toISOString instant := if_pos ⟨by omega, hlast⟩
    rw [htext, normalizeTimestamp_eq_ok]
    constructor
    · rintro ⟨text, denoted, hvalue, hdenotes, -, rfl⟩
      obtain rfl := JsValue.string.inj hvalue
      rw [hdenotes.unique (denotes_toISOString hyears)]
      exact ⟨hyears, rfl⟩
    · rintro ⟨-, rfl⟩
      exact ⟨_, instant, rfl, denotes_toISOString hyears, hyears, rfl⟩
  · refine ⟨fun haccepted => ?_, fun h => absurd h.1 hyears⟩
    have hfar : ¬(Calendar.dateFromDay (instant / 86400000)).1 ≤ 9999 :=
      fun hlast => hyears (inFourDigitYears_iff.mpr ⟨hpos, hlast⟩)
    have htext : isoText instant = 43 :: (sixDigits
        (Calendar.dateFromDay (instant / 86400000)).1.natAbs ++ (toISOString instant).drop 4) := by
      unfold isoText
      dsimp only
      rw [if_neg (fun hbounds => hfar hbounds.2), if_neg (by omega)]
    obtain ⟨text, denoted, hvalue, hdenotes, -, -⟩ := normalizeTimestamp_eq_ok.mp haccepted
    obtain rfl := JsValue.string.inj hvalue
    rw [htext] at hdenotes
    exact absurd hdenotes (not_denotes_of_head (by decide) denoted)

/-! ### Evidence -/

/-- What evidence becomes in a bundle. -/
def ChainAnchorMetadata.lower (chainAnchor : ChainAnchorMetadata) : ChainAnchorMetadata :=
  { chainAnchor with
    contractAddress := chainAnchor.contractAddress.map lowerUnit
    transactionHash := chainAnchor.transactionHash.map lowerUnit }

/-- Evidence in the form in which it is returned: the time that the registry recorded, the
number of a block, a chain, an address and a hash. -/
structure ChainEvidence (instant : Int) (chainAnchor : ChainAnchorMetadata) : Prop where
  time : 0 ≤ instant ∧ instant ≤ MAX_TIME
  anchoredAt : chainAnchor.anchoredAt = isoText instant
  blockNumber : isDecimal chainAnchor.blockNumber = true
  chainId : 0 < chainAnchor.chainId ∧ chainAnchor.chainId ≤ 2 ^ 53 - 1
  contractAddress : matchesHex 40 chainAnchor.contractAddress = true
  transactionHash : matchesHex 64 chainAnchor.transactionHash = true

theorem field_definedMembers {α : Type} {parse : JsValue → Text → Except ReceiptProtocolError α}
    {key : String} {members : List (Text × JsValue)} (hkeys : distinctKeys members = true)
    (q : Text) : field parse key (definedMembers members) q =
      parse (member (ascii key) members) (q ++ ascii "." ++ ascii key) := by
  rw [field, member_definedMembers hkeys]

theorem normalizePositiveSafeInteger_writeNat {n : Nat} (h : 0 < n ∧ n ≤ 2 ^ 53 - 1) (q : Text) :
    normalizePositiveSafeInteger (writeNat n) q = .ok n := by
  obtain ⟨hpos, hle⟩ := h
  refine normalizePositiveSafeInteger_eq_ok.mpr ⟨normalizeNonNegativeSafeInteger_eq_ok.mpr
    ⟨_, rfl, ?_, rfl⟩, hpos.ne'⟩
  simp only [isSafeInteger, Bool.and_eq_true, decide_eq_true_eq]
  omega

/-- **When evidence is parsed, and what it becomes.** -/
theorem ChainEvidence.parsed_iff {instant : Int} {chainAnchor parsed : ChainAnchorMetadata}
    (h : ChainEvidence instant chainAnchor) :
    (∀ q, parseChainAnchorMetadata chainAnchor.value q = .ok parsed) ↔
      InFourDigitYears instant ∧ parsed = chainAnchor.lower := by
  have haddress : ∀ q, normalizeAddress (.string chainAnchor.contractAddress) q =
      .ok (chainAnchor.contractAddress.map lowerUnit) := fun q => if_pos h.contractAddress
  have hhash : ∀ q, normalizeHash (.string chainAnchor.transactionHash) q =
      .ok (chainAnchor.transactionHash.map lowerUnit) := fun q => if_pos h.transactionHash
  have hnumber : ∀ q, normalizeDecimalString (.string chainAnchor.blockNumber) q =
      .ok chainAnchor.blockNumber := fun q => normalizeDecimalString_eq_ok.mpr ⟨rfl, h.blockNumber⟩
  have htime : ∀ {q out}, normalizeTimestamp (.string chainAnchor.anchoredAt) q = .ok out ↔
      InFourDigitYears instant ∧ out = chainAnchor.anchoredAt := by
    intro q out
    rw [h.anchoredAt]
    exact normalizeTimestamp_isoText h.time.1
  constructor
  · intro hparsed
    obtain ⟨value, hvalue, hfields⟩ := parseChainAnchorMetadata_eq_ok.mp (hparsed [])
    obtain rfl := JsValue.object.inj hvalue
    obtain ⟨-, h1, h2, h3, h4, h5⟩ := hfields []
    rw [field_definedMembers rfl] at h1 h2 h3 h4 h5
    obtain ⟨hyears, h1⟩ := htime.mp h1
    have h2 := Except.ok.inj ((hnumber _).symm.trans h2)
    have h3 := Except.ok.inj ((normalizePositiveSafeInteger_writeNat h.chainId _).symm.trans h3)
    have h4 := Except.ok.inj ((haddress _).symm.trans h4)
    have h5 := Except.ok.inj ((hhash _).symm.trans h5)
    exact ⟨hyears, ChainAnchorMetadata.ext h1 h2.symm h3.symm h4.symm h5.symm⟩
  · rintro ⟨hyears, rfl⟩ q
    refine parseChainAnchorMetadata_eq_ok.mpr
      ⟨_, rfl, fun q => ⟨assertKeys_fits rfl q, ?_, ?_, ?_, ?_, ?_⟩⟩
    · rw [field_definedMembers rfl]
      exact htime.mpr ⟨hyears, rfl⟩
    · rw [field_definedMembers rfl]
      exact hnumber _
    · rw [field_definedMembers rfl]
      exact normalizePositiveSafeInteger_writeNat h.chainId _
    · rw [field_definedMembers rfl]
      exact haddress _
    · rw [field_definedMembers rfl]
      exact hhash _

/-- The texts of the evidence are visible. -/
structure ChainAnchorMetadata.Visible (chainAnchor : ChainAnchorMetadata) : Prop where
  anchoredAt : isVisible chainAnchor.anchoredAt = true
  blockNumber : isVisible chainAnchor.blockNumber = true
  contractAddress : isVisible chainAnchor.contractAddress = true
  transactionHash : isVisible chainAnchor.transactionHash = true

theorem ChainEvidence.visible {instant : Int} {chainAnchor : ChainAnchorMetadata}
    (h : ChainEvidence instant chainAnchor) : chainAnchor.Visible where
  anchoredAt := by
    obtain ⟨hpos, hle⟩ := h.time
    rw [h.anchoredAt]
    exact isoTime_visible (isoTime_eq_some.mpr ⟨rfl, by omega⟩)
  blockNumber := isDecimal_visible h.blockNumber
  contractAddress := matchesHex_visible h.contractAddress
  transactionHash := matchesHex_visible h.transactionHash

theorem visible_of_parsed {v : JsValue} {q : Text} {chainAnchor : ChainAnchorMetadata}
    (h : parseChainAnchorMetadata v q = .ok chainAnchor) : chainAnchor.Visible := by
  obtain ⟨value, -, hfields⟩ := parseChainAnchorMetadata_eq_ok.mp h
  obtain ⟨-, h1, h2, -, h4, h5⟩ := hfields q
  exact ⟨normalizeTimestamp_visible h1, isDecimal_visible (normalizeDecimalString_eq_ok.mp h2).2,
    (normalizeAddress_eq_ok h4).2.1, (normalizeHash_eq_ok h5).2.1⟩

/-- Evidence with one canonical form is the same. -/
theorem eq_of_same {first second : ChainAnchorMetadata} (hfirst : first.Visible)
    (hsecond : second.Visible) (h : Same Q.toTextPlatform first.value second.value) :
    first = second := by
  have hkey := same_member (Q := Q) rfl rfl h
  have htext : ∀ {a b : Text}, isVisible a = true → isVisible b = true →
      Same Q.toTextPlatform (.string a) (.string b) → a = b := by
    rintro a b ha hb ⟨text, htext, hsame⟩
    obtain rfl := JsValue.string.inj htext
    rwa [normalizeText_visible ha, normalizeText_visible hb] at hsame
  apply ChainAnchorMetadata.ext
  · exact htext hfirst.anchoredAt hsecond.anchoredAt (hkey (ascii "anchoredAt"))
  · exact htext hfirst.blockNumber hsecond.blockNumber (hkey (ascii "blockNumber"))
  · exact same_writeNat (Q := Q) (hkey (ascii "chainId"))
  · exact htext hfirst.contractAddress hsecond.contractAddress (hkey (ascii "contractAddress"))
  · exact htext hfirst.transactionHash hsecond.transactionHash (hkey (ascii "transactionHash"))

/-- **A saved anchor is compared text by text.** -/
theorem assertSameAnchor_eq_ok {existing : Option ChainAnchorMetadata}
    (hexisting : ∀ stored ∈ existing, ∀ q, parseChainAnchorMetadata stored.value q = .ok stored)
    {chainAnchor : ChainAnchorMetadata} (hvisible : chainAnchor.Visible) :
    assertSameAnchor W existing chainAnchor = .ok () ↔
      ∀ stored ∈ existing, stored = chainAnchor := by
  rcases existing with - | stored
  · exact ⟨fun _ => nofun, fun _ => rfl⟩
  have hstored := hexisting stored rfl
  simp only [assertSameAnchor, Transaction.bind_eq_ok, rethrow_eq_ok, throwIf_eq_ok,
    Option.mem_some_iff, forall_eq', Bool.not_eq_false, exists_eq_right]
  constructor
  · intro hsame
    simp only [sameCanonical, Transaction.bind_eq_ok, canonicalize_eq_ok] at hsame
    obtain ⟨_, ⟨j, hj, rfl⟩, _, ⟨j', hj', rfl⟩, hsame⟩ := hsame
    have htexts := Json.stringify_injective (of_decide_eq_true (Except.ok.inj hsame))
    exact eq_of_same (Q := W.toReceiptPlatform) (visible_of_parsed (hstored [])) hvisible
      ((canonical_eq_iff hj hj').mp htexts)
  · rintro rfl
    exact sameCanonical_self
      ((parseChainAnchorMetadata_parses (Q := W.toReceiptPlatform)).canonical (hstored []))

/-- The anchor of a parsed event is parsed to itself. -/
theorem Normal.anchor {event : LifecycleEventEnvelope} (h : Normal Q event)
    {stored : ChainAnchorMetadata} (hstored : stored ∈ event.chainAnchor) (q : Text) :
    parseChainAnchorMetadata stored.value q = .ok stored := by
  have hsame : event.withAnchor stored = event := by
    rw [LifecycleEventEnvelope.withAnchor, ← Option.mem_def.mp hstored]
  obtain ⟨parsed, hparsed⟩ := parsed_of_withAnchor
    (show parseEventEnvelope Q (event.withAnchor stored).value [] = .ok event by
      rw [hsame]
      exact h [])
  have hagain := parseEventEnvelope_withAnchor h hparsed []
  rw [hsame, h] at hagain
  have hanchor := congrArg (·.chainAnchor) (Except.ok.inj hagain)
  obtain rfl : stored = parsed := Option.some.inj ((Option.mem_def.mp hstored).symm.trans hanchor)
  exact hparsed q

/-! ### Evidence of the verifier -/

/-- The evidence that a verified anchor is saved as; its address is in checksum case. -/
def verifiedEvidence (checksum : Address → BitVec 40) (verified : VerifiedSubmissionReceiptAnchor) :
    ChainAnchorMetadata where
  anchoredAt := isoText verified.anchoredAt
  blockNumber := Json.decimal verified.blockNumber
  chainId := verified.chainId
  contractAddress := ascii (ContractClient.addressText
    (.hex verified.contractAddress (checksum verified.contractAddress)))
  transactionHash := hashText verified.transactionHash

theorem isDecimal_decimal (n : Nat) : isDecimal (Json.decimal n) = true := by
  have hhead : (Json.decimal n).head? ≠ some 48 ∨ Json.decimal n = [48] := by
    unfold Json.decimal
    split
    · exact .inr rfl
    · next hne =>
      left
      have hlast := Nat.getLast_digit_ne_zero 10 hne
      rw [List.head?_map, List.head?_reverse, List.getLast?_eq_some_getLast
        (Nat.digits_ne_nil_iff_ne_zero.mpr hne)]
      have hlt := Nat.digits_lt_base (by decide : 1 < 10) (List.getLast_mem
        (Nat.digits_ne_nil_iff_ne_zero.mpr hne))
      have hdigit : ∀ d < 10, d ≠ 0 → some (UInt16.ofNat (48 + d)) ≠ some 48 := by decide
      exact hdigit _ hlt hlast
  simp only [isDecimal, Bool.and_eq_true, Bool.or_eq_true, decide_eq_true_eq, List.all_eq_true]
  exact ⟨⟨Json.decimal_ne_nil n, Json.decimal_digits n⟩, hhead⟩

theorem matchesHex_hashText (word : HashHex) : matchesHex 64 (hashText word) = true := by
  have hdigit : ∀ d < 16, isHexDigit (Json.hexDigit d) = true := by decide
  simp only [matchesHex, hashText, Bool.and_eq_true, List.all_eq_true]
  refine ⟨⟨rfl, ?_⟩, ?_⟩
  · simp [ascii]
  · intro u hu
    obtain ⟨i, -, rfl⟩ := List.mem_map.mp (show u ∈ (List.range 64).map fun i =>
      Json.hexDigit ((word >>> (4 * (63 - i))).toNat % 16) from hu)
    exact hdigit _ (Nat.mod_lt _ (by decide))

theorem matchesHex_addressText (value : Address) (upper : BitVec 40) :
    matchesHex 40 (ascii (ContractClient.addressText (.hex value upper))) = true := by
  have htext : ascii (ContractClient.addressText (.hex value upper)) = ascii "0x" ++
      (List.range 40).map fun i =>
        UInt16.ofNat (ContractClient.addressDigit value upper i).toNat := by
    simp only [ContractClient.addressText, ascii, String.toList_append, String.toList_ofList,
      List.map_append, List.map_map]
    rfl
  have hdigit : ∀ d < 16, ∀ upper : Bool, isHexDigit (UInt16.ofNat
      (if upper then (Nat.digitChar d).toUpper else Nat.digitChar d).toNat) = true := by decide
  rw [htext]
  simp only [matchesHex, Bool.and_eq_true, decide_eq_true_eq, List.all_eq_true]
  refine ⟨⟨rfl, ?_⟩, ?_⟩
  · simp [ascii]
  · intro u hu
    obtain ⟨i, -, rfl⟩ := List.mem_map.mp (show u ∈ (List.range 40).map fun i =>
      UInt16.ofNat (ContractClient.addressDigit value upper i).toNat from hu)
    exact hdigit _ (Nat.mod_lt _ (by decide)) _

/-- **What the verifier returns is evidence of that form**, whatever the node answers. -/
theorem chainEvidence_verified {σ : Type}
    {exec : (request : ContractClient.RpcRequest) → σ →
      Except ContractClient.AnchorVerificationError request.Result × σ}
    {checksum : Address → BitVec 40} {keccak256 : List UInt8 → Bytes32}
    {expected : ContractClient.AnchorVerificationExpectation} {s s' : σ}
    {verified : VerifiedSubmissionReceiptAnchor}
    (h : (ContractClient.verifySubmissionReceiptAnchor checksum keccak256 expected).run exec s =
      (.ok verified, s')) :
    ChainEvidence verified.anchoredAt (verifiedEvidence checksum verified) := by
  have hreturned : ∃ words event, ContractClient.Expects checksum expected words ∧
      (verified.chainId : Int) = expected.chainId ∧
      ContractClient.timestampToIso event = .ok verified.anchoredAt := by
    obtain ⟨words, _, hwords, h⟩ := Prog.run_bind_eq_ok h
    obtain ⟨registry, _, -, h⟩ := Prog.run_bind_eq_ok h
    obtain ⟨chainId, _, -, h⟩ := Prog.run_bind_eq_ok h
    have hexpects := ContractClient.assertExpectation_eq_ok.mp (congrArg Prod.fst hwords)
    split at h
    · cases h
    · next hchain =>
      obtain ⟨bytecode, _, -, h⟩ := Prog.run_bind_eq_ok h
      obtain ⟨protocol, _, -, h⟩ := Prog.run_bind_eq_ok h
      obtain ⟨transaction, _, -, h⟩ := Prog.run_bind_eq_ok h
      obtain ⟨receipt, _, -, h⟩ := Prog.run_bind_eq_ok h
      obtain ⟨confirmedBlock, _, -, h⟩ := Prog.run_bind_eq_ok h
      obtain ⟨_, _, -, h⟩ := Prog.run_bind_eq_ok h
      obtain ⟨_, _, -, h⟩ := Prog.run_bind_eq_ok h
      obtain ⟨event, _, -, h⟩ := Prog.run_bind_eq_ok h
      obtain ⟨_, _, -, h⟩ := Prog.run_bind_eq_ok h
      obtain ⟨stored, _, -, h⟩ := Prog.run_bind_eq_ok h
      obtain ⟨anchored, _, -, h⟩ := Prog.run_bind_eq_ok h
      obtain ⟨_, _, -, h⟩ := Prog.run_bind_eq_ok h
      obtain ⟨anchoredAt, _, htime, h⟩ := Prog.run_bind_eq_ok h
      obtain rfl := Except.ok.inj (congrArg Prod.fst h)
      exact ⟨words, event.anchoredAt, hexpects, not_not.mp hchain, congrArg Prod.fst htime⟩
  obtain ⟨words, event, hexpects, hchain, htime⟩ := hreturned
  have hbounds := hexpects.chainId
  refine ⟨?_, rfl, isDecimal_decimal _, ?_, matchesHex_addressText _ _, matchesHex_hashText _⟩
  · unfold ContractClient.timestampToIso at htime
    dsimp only at htime
    split at htime
    · cases htime
    · have hanchored : ((event * 1000 : Nat) : Int) = verified.anchoredAt := Except.ok.inj htime
      have hmax : MAX_TIME = 8640000000000000 := rfl
      omega
  · show 0 < verified.chainId ∧ verified.chainId ≤ 2 ^ 53 - 1
    omega

/-! ### Attaching again -/

theorem findIdx?_modify {α : Type} {p : α → Bool} {f : α → α} (h : ∀ x, p (f x) = p x) (l : List α)
    (i : Nat) : (l.modify i f).findIdx? p = l.findIdx? p := by
  induction l generalizing i with
  | nil => rw [List.modify_nil]
  | cons x rest ih =>
    rcases i with - | i
    · rw [List.modify_zero_cons, List.findIdx?_cons, List.findIdx?_cons, h]
    · rw [List.modify_succ_cons, List.findIdx?_cons, List.findIdx?_cons, ih]

/-- The event is found in the bundle with its anchor. -/
theorem FoundAt.anchored {bundle : PrivateReceiptBundle} {event : LifecycleEventEnvelope}
    {index : Nat} (h : FoundAt bundle event index) (chainAnchor : ChainAnchorMetadata)
    (time : Text) :
    FoundAt (bundle.anchored index chainAnchor time) (event.withAnchor chainAnchor) index where
  there := by
    show (bundle.receipt.events.modify index (·.withAnchor chainAnchor))[index]? = _
    rw [List.getElem?_modify_eq, h.there]
    rfl
  found := (findIdx?_modify (p := fun other : LifecycleEventEnvelope =>
    other.eventHash = event.eventHash) (f := (·.withAnchor chainAnchor)) (fun _ => rfl) _ _).trans
    h.found

theorem anchored_anchored (bundle : PrivateReceiptBundle) (index : Nat)
    (chainAnchor : ChainAnchorMetadata) (time time' : Text) :
    (bundle.anchored index chainAnchor time).anchored index chainAnchor time' =
      bundle.anchored index chainAnchor time' := by
  have hmodify : (bundle.receipt.events.modify index (·.withAnchor chainAnchor)).modify index
      (·.withAnchor chainAnchor) = bundle.receipt.events.modify index (·.withAnchor chainAnchor) :=
    List.modify_modify_eq _ _ _ _
  simp only [PrivateReceiptBundle.anchored, Receipt.anchored, hmodify]

/-- What a bundle becomes is verified. -/
theorem attached_verified {v : JsValue} {bundle first : PrivateReceiptBundle}
    (h : verifyPrivateReceiptBundle W keccak256 C v = .ok bundle)
    {event : LifecycleEventEnvelope} {index : Nat} (hindex : FoundAt bundle event index)
    {chainAnchor : ChainAnchorMetadata} {time normalized : Text}
    (htime : ∀ q, normalizeTimestamp (.string time) q = .ok normalized)
    (hfirst : attachVerifiedChainAnchor W keccak256 C v event.eventHash chainAnchor time =
      .ok first) :
    verifyPrivateReceiptBundle W keccak256 C first.value = .ok first := by
  obtain ⟨parsed, hparsed, -, rfl⟩ := (attachVerifiedChainAnchor_eq_ok h hindex htime).mp hfirst
  exact verifyPrivateReceiptBundle_anchored h
    ((parseChainAnchorMetadata_parses (Q := W.toReceiptPlatform)).again (hparsed []))
    ((normalizeTimestamp_parses (Q := W.toReceiptPlatform)).again (htime [])) hindex.there

/-- The anchors of a verified bundle are parsed to themselves. -/
theorem anchor_of_verified {v : JsValue} {bundle : PrivateReceiptBundle}
    (h : verifyPrivateReceiptBundle W keccak256 C v = .ok bundle)
    {event : LifecycleEventEnvelope} {index : Nat} (hindex : FoundAt bundle event index) :
    ∀ stored ∈ event.chainAnchor, ∀ q, parseChainAnchorMetadata stored.value q = .ok stored := by
  obtain ⟨hbundle, -, -⟩ := verifyPrivateReceiptBundle_eq_ok.mp h
  obtain ⟨-, value, -, -, -, -, -, -, h5⟩ := parsePrivateReceiptBundle_eq_ok.mp hbundle
  have hnormal := normal_of_parsed (validateReceipt_eq_ok.mp h5).1 event
    (List.mem_of_getElem? hindex.there)
  exact fun stored hstored => hnormal.anchor hstored

/-- **When evidence is attached**, and what the bundle becomes. -/
theorem attach_evidence_eq_ok {v : JsValue} {bundle result : PrivateReceiptBundle}
    (h : verifyPrivateReceiptBundle W keccak256 C v = .ok bundle)
    {event : LifecycleEventEnvelope} {index : Nat} (hindex : FoundAt bundle event index)
    {instant : Int} {chainAnchor : ChainAnchorMetadata} (hevidence : ChainEvidence instant chainAnchor)
    {time normalized : Text} (htime : ∀ q, normalizeTimestamp (.string time) q = .ok normalized) :
    attachVerifiedChainAnchor W keccak256 C v event.eventHash chainAnchor time = .ok result ↔
      InFourDigitYears instant ∧ (∀ stored ∈ event.chainAnchor, stored = chainAnchor) ∧
        result = bundle.anchored index chainAnchor.lower normalized := by
  rw [attachVerifiedChainAnchor_eq_ok h hindex htime,
    assertSameAnchor_eq_ok (anchor_of_verified h hindex) hevidence.visible]
  constructor
  · rintro ⟨parsed, hparsed, hsame, rfl⟩
    obtain ⟨hyears, rfl⟩ := hevidence.parsed_iff.mp hparsed
    exact ⟨hyears, hsame, rfl⟩
  · rintro ⟨hyears, hsame, rfl⟩
    exact ⟨_, hevidence.parsed_iff.mpr ⟨hyears, rfl⟩, hsame, rfl⟩

/-- **Evidence that was attached is attached again when it has no capital letter.** -/
theorem attach_again_eq_ok {v : JsValue} {bundle first second : PrivateReceiptBundle}
    (h : verifyPrivateReceiptBundle W keccak256 C v = .ok bundle)
    {event : LifecycleEventEnvelope} {index : Nat} (hindex : FoundAt bundle event index)
    {instant : Int} {chainAnchor : ChainAnchorMetadata} (hevidence : ChainEvidence instant chainAnchor)
    {time normalized time' normalized' : Text}
    (htime : ∀ q, normalizeTimestamp (.string time) q = .ok normalized)
    (htime' : ∀ q, normalizeTimestamp (.string time') q = .ok normalized')
    (hfirst : attachVerifiedChainAnchor W keccak256 C v event.eventHash chainAnchor time =
      .ok first) :
    attachVerifiedChainAnchor W keccak256 C first.value event.eventHash chainAnchor time' =
        .ok second ↔
      chainAnchor.lower = chainAnchor ∧
        second = bundle.anchored index chainAnchor.lower normalized' := by
  have hverified := attached_verified h hindex htime hfirst
  obtain ⟨hyears, -, rfl⟩ := (attach_evidence_eq_ok h hindex hevidence htime).mp hfirst
  refine (attach_evidence_eq_ok hverified (hindex.anchored _ _) hevidence htime').trans ?_
  rw [anchored_anchored]
  constructor
  · rintro ⟨-, hsame, rfl⟩
    exact ⟨hsame _ rfl, rfl⟩
  · rintro ⟨hlower, rfl⟩
    exact ⟨hyears, fun stored hstored => (Option.some.inj hstored).symm.trans hlower, rfl⟩

/-- The bundle with another time of verification. -/
def PrivateReceiptBundle.verifiedAgain (bundle : PrivateReceiptBundle) (time : Text) :
    PrivateReceiptBundle :=
  { bundle with receipt := { bundle.receipt with
      verification := { bundle.receipt.verification with verifiedAt := some time } } }

/-- Evidence that an event has, or that it gets, can be attached twice, at the times,
with the same bundle but for the time; and other evidence cannot be attached to it. -/
structure AttachesOnce (W : WebPlatform) (keccak256 : List UInt8 → HashHex) (C : CryptoProvider)
    (v : JsValue) (event : LifecycleEventEnvelope) (chainAnchor : ChainAnchorMetadata)
    (time time' normalized' : Text) : Prop where
  again : (∀ stored ∈ event.chainAnchor, chainAnchor.lower = stored) → ∃ first second,
    attachVerifiedChainAnchor W keccak256 C v event.eventHash chainAnchor time = .ok first ∧
    attachVerifiedChainAnchor W keccak256 C first.value event.eventHash chainAnchor time' =
      .ok second ∧
    second = first.verifiedAgain normalized'
  other : (∃ stored ∈ event.chainAnchor, chainAnchor.lower ≠ stored) → ∃ error,
    attachVerifiedChainAnchor W keccak256 C v event.eventHash chainAnchor time = .error error

/-- **When evidence is attached once and for all**: when its time is of a year of four
digits and its address and hash have no capital letters. -/
theorem attachVerifiedChainAnchor_again_iff {v : JsValue} {bundle : PrivateReceiptBundle}
    (h : verifyPrivateReceiptBundle W keccak256 C v = .ok bundle)
    {event : LifecycleEventEnvelope} (hevent : event ∈ bundle.receipt.events) {instant : Int}
    {chainAnchor : ChainAnchorMetadata} (hevidence : ChainEvidence instant chainAnchor)
    {time normalized time' normalized' : Text}
    (htime : ∀ q, normalizeTimestamp (.string time) q = .ok normalized)
    (htime' : ∀ q, normalizeTimestamp (.string time') q = .ok normalized') :
    AttachesOnce W keccak256 C v event chainAnchor time time' normalized' ↔
      ((∀ stored ∈ event.chainAnchor, chainAnchor.lower = stored) →
        InFourDigitYears instant ∧ chainAnchor.lower = chainAnchor) := by
  obtain ⟨index, hindex⟩ := findIdx?_eventHash h hevent
  constructor
  · rintro ⟨hagain, -⟩ hagrees
    obtain ⟨first, second, hfirst, hsecond, -⟩ := hagain hagrees
    exact ⟨((attach_evidence_eq_ok h hindex hevidence htime).mp hfirst).1,
      ((attach_again_eq_ok h hindex hevidence htime htime' hfirst).mp hsecond).1⟩
  · intro hcondition
    constructor
    · intro hagrees
      obtain ⟨hyears, hlower⟩ := hcondition hagrees
      have hfirst := (attach_evidence_eq_ok h hindex hevidence htime).mpr
        ⟨hyears, fun stored hstored => (hagrees stored hstored).symm.trans hlower, rfl⟩
      have hsecond := (attach_again_eq_ok h hindex hevidence htime htime' hfirst).mpr
        ⟨hlower, rfl⟩
      exact ⟨_, _, hfirst, hsecond, rfl⟩
    · rintro ⟨stored, hstored, hother⟩
      rcases hresult : attachVerifiedChainAnchor W keccak256 C v event.eventHash chainAnchor time
        with error | result
      · exact ⟨error, rfl⟩
      · obtain ⟨-, hsame, -⟩ := (attach_evidence_eq_ok h hindex hevidence htime).mp hresult
        obtain rfl := hsame stored hstored
        -- what is saved is in lower case
        obtain ⟨-, hlower⟩ := hevidence.parsed_iff.mp (anchor_of_verified h hindex stored hstored)
        exact absurd hlower.symm hother

end laws

/-! ### Evidence of the sample -/

/-- Evidence with the address in the case that is given. -/
def sampleEvidence (contractAddress : String) : ChainAnchorMetadata where
  anchoredAt := ascii "2026-01-01T00:00:10.000Z"
  blockNumber := ascii "7654321"
  chainId := 11155111
  contractAddress := ascii contractAddress
  transactionHash := hashText sampleHash

theorem sampleEvidence_chainEvidence {contractAddress : String}
    (h : matchesHex 40 (ascii contractAddress) = true) :
    ChainEvidence 1767225610000 (sampleEvidence contractAddress) where
  time := by decide
  anchoredAt := by
    show ascii "2026-01-01T00:00:10.000Z" = isoText 1767225610000
    decide +kernel
  blockNumber := by
    show isDecimal (ascii "7654321") = true
    decide
  chainId := by
    show 0 < 11155111 ∧ 11155111 ≤ 2 ^ 53 - 1
    omega
  contractAddress := h
  transactionHash := by
    show matchesHex 64 (hashText sampleHash) = true
    decide +kernel

theorem sampleTime_normal (q : Text) :
    normalizeTimestamp (.string (ascii "2026-01-01T00:00:20.000Z")) q =
      .ok (ascii "2026-01-01T00:00:20.000Z") := by
  have h : normalizeTimestamp (.string (ascii "2026-01-01T00:00:20.000Z")) [] =
      .ok (ascii "2026-01-01T00:00:20.000Z") := by
    decide +kernel
  exact normalizeTimestamp_pathless h q

/-- Evidence without capital letters, attached to the sample. -/
theorem attachVerifiedChainAnchor_again_lower :
    AttachesOnce sampleWebPlatform sampleKeccak sampleCrypto sampleBundle.value sampleSignedEvent
        (sampleEvidence "0x5aaeb6053f3e94c9b9a09f33669435e7ef1beaed")
        (ascii "2026-01-01T00:00:20.000Z") (ascii "2026-01-01T00:00:20.000Z")
        (ascii "2026-01-01T00:00:20.000Z") := by
  have hyears : InFourDigitYears 1767225610000 := ⟨by decide, by decide⟩
  have hlower : (sampleEvidence "0x5aaeb6053f3e94c9b9a09f33669435e7ef1beaed").lower =
      sampleEvidence "0x5aaeb6053f3e94c9b9a09f33669435e7ef1beaed" := by
    decide +kernel
  exact (attachVerifiedChainAnchor_again_iff sampleBundle_verified List.mem_cons_self
    (sampleEvidence_chainEvidence (by decide)) sampleTime_normal sampleTime_normal).mpr
    fun _ => ⟨hyears, hlower⟩

/-- **Evidence with an address in checksum case is attached once, and refused after
that.** -/
theorem attachVerifiedChainAnchor_again_checksum : ∃ first,
    attachVerifiedChainAnchor sampleWebPlatform sampleKeccak sampleCrypto sampleBundle.value
        sampleSignedEvent.eventHash
        (sampleEvidence "0x5aAeb6053F3E94C9b9A09f33669435E7Ef1BeAed")
        (ascii "2026-01-01T00:00:20.000Z") = .ok first ∧
      ∀ second, attachVerifiedChainAnchor sampleWebPlatform sampleKeccak sampleCrypto first.value
        sampleSignedEvent.eventHash
        (sampleEvidence "0x5aAeb6053F3E94C9b9A09f33669435E7Ef1BeAed")
        (ascii "2026-01-01T00:00:20.000Z") ≠ .ok second := by
  have hindex : FoundAt sampleBundle sampleSignedEvent 0 := ⟨rfl, by decide⟩
  have hevidence := sampleEvidence_chainEvidence
    (show matchesHex 40 (ascii "0x5aAeb6053F3E94C9b9A09f33669435E7Ef1BeAed") = true by decide)
  have hyears : InFourDigitYears 1767225610000 := ⟨by decide, by decide⟩
  have hfirst := (attach_evidence_eq_ok sampleBundle_verified hindex hevidence
    sampleTime_normal).mpr ⟨hyears, nofun, rfl⟩
  refine ⟨_, hfirst, fun second hsecond => ?_⟩
  obtain ⟨hlower, -⟩ := (attach_again_eq_ok sampleBundle_verified hindex hevidence
    sampleTime_normal sampleTime_normal hfirst).mp hsecond
  exact absurd hlower (by decide)

end SubmittedIt.Protocol
