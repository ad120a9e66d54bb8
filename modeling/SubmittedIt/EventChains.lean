/-
SubmittedIt/EventChains.lean

Hashes, event chains and receipts as texts (packages/receipt-core, protocol.ts
and lifecycle.ts).

Here the hash of an event core is Keccak-256 of the bytes of its canonical
text.  What is assumed of Keccak-256 stands with the results: that it tells
apart the preimages that are hashed.

Main results: `parsers_idempotent` (a parsed value is parsed, and validated, to
itself, and has the same hash) and `cores_of_latestEventHash` (two chains with
one latest event hash have the same event cores).
-/
import SubmittedIt.EnvelopeSchema
import SubmittedIt.Linked

namespace SubmittedIt.Protocol

open Transaction

open Extension (VerificationCheckName DerivedReceiptStatus)

/-! ### protocol.ts -/

section protocol

variable (Q : ReceiptPlatform) (keccak256 : List UInt8 → HashHex)

/-- `hashEventCore`. -/
def hashEventCore (input : JsValue) : Except ReceiptProtocolError Text := do
  let core ← parseEventCore Q input (ascii "$.core")
  hashCanonical Q.toTextPlatform keccak256 HashDomain.event.text core.value

/-- `parseHashedEventEnvelope`. -/
def parseHashedEventEnvelope (input : JsValue) :
    Except ReceiptProtocolError LifecycleEventEnvelope := do
  let event ← parseEventEnvelope Q input (ascii "$.event")
  let expected ← hashEventCore Q keccak256 event.core.value
  refuseIf (event.eventHash ≠ expected) "EVENT_HASH_MISMATCH"
    (ascii "eventHash does not match the canonical event core.") (ascii "$.eventHash")
  return event

/-- `createExtensionSignaturePayload`. -/
def createExtensionSignaturePayload (input : JsValue) : Except ReceiptProtocolError JsValue := do
  let event ← parseHashedEventEnvelope Q keccak256 input
  return record [(ascii "eventHash", .string event.eventHash),
    (ascii "receiptId", .string event.core.receiptId),
    (ascii "schemaVersion", .string event.core.schemaVersion),
    (ascii "stage", writeEnum eventStageText event.core.stage)]

/-- `hashExtensionSignaturePayload`. -/
def hashExtensionSignaturePayload (input : JsValue) : Except ReceiptProtocolError Text := do
  let payload ← createExtensionSignaturePayload Q keccak256 input
  hashCanonical Q.toTextPlatform keccak256 HashDomain.extensionSignature.text payload

/-- `createAuthoritySignaturePayload`. -/
def createAuthoritySignaturePayload (input : JsValue) : Except ReceiptProtocolError JsValue := do
  let event ← parseHashedEventEnvelope Q keccak256 input
  match event.core.body with
  | .authority acknowledgment =>
    return record [(ascii "authorityId", .string acknowledgment.authorityId),
      (ascii "eventHash", .string event.eventHash),
      (ascii "outcome", writeEnum authorityOutcomeText acknowledgment.outcome),
      (ascii "receiptId", .string event.core.receiptId),
      (ascii "schemaVersion", .string event.core.schemaVersion),
      (ascii "stage", writeEnum eventStageText event.core.stage)]
  | _ =>
    protocolError "AUTHORITY_PAYLOAD_STAGE"
      (ascii "authority signature payloads require an authority event.") (ascii "$.core.stage")

/-- `hashAuthoritySignaturePayload`. -/
def hashAuthoritySignaturePayload (input : JsValue) : Except ReceiptProtocolError Text := do
  let payload ← createAuthoritySignaturePayload Q keccak256 input
  hashCanonical Q.toTextPlatform keccak256 HashDomain.authoritySignature.text payload

/-! ### lifecycle.ts -/

/-- `ZERO_HASH`. -/
def zeroHashText : Text := ascii "0x" ++ List.replicate 64 48

/-- The variables of `validateEventChain` and the number of items read. -/
structure ChainState where
  index : Nat
  currentStage : LifecycleStage
  latestEventHash : Text
  receiptId : Option Text
  schemaVersion : Option Text
  seenHashes : List Text

def ChainState.initial : ChainState where
  index := 0
  currentStage := .none
  latestEventHash := zeroHashText
  receiptId := none
  schemaVersion := none
  seenHashes := []

/-- The variables after an event. -/
def ChainState.push (chain : ChainState) (event : LifecycleEventEnvelope) : ChainState where
  index := chain.index + 1
  currentStage := .entered event.core.stage
  latestEventHash := event.eventHash
  receiptId := if chain.index = 0 then some event.core.receiptId else chain.receiptId
  schemaVersion := if chain.index = 0 then some event.core.schemaVersion else chain.schemaVersion
  seenHashes := event.eventHash :: chain.seenHashes

/-- `EventChainResult`. -/
structure EventChainResult where
  currentStage : LifecycleStage
  latestEventHash : Text
  receiptId : Option Text
  deriving DecidableEq

/-- The checks of an event against the events before it. -/
def checkLink (chain : ChainState) (path : Text) (event : LifecycleEventEnvelope) :
    Except ReceiptProtocolError Unit :=
  if chain.index = 0 then
    refuseIf (event.core.previousEventHash ≠ zeroHashText) "FIRST_EVENT_PREVIOUS_HASH"
      (ascii "the first event must use the zero previousEventHash.")
      (path ++ ascii ".core.previousEventHash")
  else do
    refuseIf (event.core.previousEventHash = zeroHashText) "LATER_EVENT_ZERO_HASH"
      (ascii "later events must not use the zero previousEventHash.")
      (path ++ ascii ".core.previousEventHash")
    refuseIf (event.core.previousEventHash ≠ chain.latestEventHash) "PREVIOUS_EVENT_HASH_MISMATCH"
      (ascii "previousEventHash does not link to the immediately preceding event.")
      (path ++ ascii ".core.previousEventHash")
    refuseIf (some event.core.receiptId ≠ chain.receiptId) "RECEIPT_ID_MISMATCH"
      (ascii "all events must share one receiptId.") path
    refuseIf (some event.core.schemaVersion ≠ chain.schemaVersion) "SCHEMA_VERSION_MISMATCH"
      (ascii "all events must share one schemaVersion.") path

/-- `assertValidTransition`. -/
def assertValidTransition (current : LifecycleStage) (requested : EventStage) :
    Except ReceiptProtocolError Unit :=
  refuseIf (ReceiptCore.isValidTransition current requested = false) "INVALID_LIFECYCLE_TRANSITION"
    (ascii "cannot transition from " ++ lifecycleStageText current ++ ascii " to " ++
      eventStageText requested ++ ascii ".") (ascii "$.stage")

/-- One iteration of the loop of `validateEventChain`. -/
def chainStep (chain : ChainState) (item : JsValue) : Except ReceiptProtocolError ChainState := do
  let path := ascii "$.events[" ++ Json.decimal chain.index ++ ascii "]"
  let event ← parseEventEnvelope Q item path
  let recomputedHash ← hashEventCore Q keccak256 event.core.value
  refuseIf (event.eventHash ≠ recomputedHash) "EVENT_HASH_MISMATCH"
    (ascii "eventHash does not match the canonical event core.") path
  refuseIf (event.eventHash ∈ chain.seenHashes) "DUPLICATE_EVENT_HASH"
    (ascii "contains a duplicate event hash.") path
  checkLink chain path event
  assertValidTransition chain.currentStage event.core.stage
  return chain.push event

/-- `validateEventChain`. -/
def validateEventChain (input : List JsValue) : Except ReceiptProtocolError EventChainResult := do
  let chain ← replay (chainStep Q keccak256) ChainState.initial input
  return {
    currentStage := chain.currentStage, latestEventHash := chain.latestEventHash,
    receiptId := chain.receiptId }

/-- `checkPassed`. -/
def checkPassed (verification : VerificationState) (name : VerificationCheckName) : Bool :=
  verification.checks.any fun check => check.check = name && check.result = .passed

/-- `requirePassedCheck`. -/
def requirePassedCheck (verification : VerificationState) (name : VerificationCheckName) :
    Except ReceiptProtocolError Unit :=
  refuseIf (checkPassed verification name = false) "MISSING_VERIFICATION_CHECK"
    (ascii "VERIFIED requires a passed " ++ verificationCheckNameText name ++ ascii " check.")
    (ascii "$.verification.checks")

/-- `deriveReceiptStatus`. -/
def deriveReceiptStatus (stage : LifecycleStage) (verification : VerificationState) :
    DerivedReceiptStatus :=
  let structural := verification.result = .verified && checkPassed verification .schema &&
    checkPassed verification .eventHash && checkPassed verification .eventLink
  if verification.result = .failed then .verificationFailed
  else if stage = .none then .prepared
  else if stage = .entered .authorityAccepted ∧ structural = true ∧
      checkPassed verification .authoritySignature = true then .accepted
  else if stage = .entered .authorityRejected ∧ structural = true ∧
      checkPassed verification .authoritySignature = true then .rejected
  else .pendingAcceptance

/-- `validateEnvelopePayloads`. -/
def validateEnvelopePayloads (event : LifecycleEventEnvelope) (extensionKeyId path : Text) :
    Except ReceiptProtocolError Unit := do
  match event.extensionSignature with
  | none => pure ()
  | some signature =>
    refuseIf (signature.keyId ≠ extensionKeyId) "EXTENSION_KEY_MISMATCH"
      (ascii "extension signature keyId must match extensionPublicKey.keyId.")
      (path ++ ascii ".extensionSignature.keyId")
    let expected ← hashExtensionSignaturePayload Q keccak256 event.value
    refuseIf (signature.payloadHash ≠ expected) "SIGNATURE_PAYLOAD_MISMATCH"
      (ascii "extension signature payloadHash is incorrect.")
      (path ++ ascii ".extensionSignature.payloadHash")
  match event.authoritySignature with
  | none => pure ()
  | some signature =>
    let expected ← hashAuthoritySignaturePayload Q keccak256 event.value
    refuseIf (signature.payloadHash ≠ expected) "SIGNATURE_PAYLOAD_MISMATCH"
      (ascii "authority signature payloadHash is incorrect.")
      (path ++ ascii ".authoritySignature.payloadHash")

/-- The checks of the events of a receipt against the receipt, from an index on. -/
def validateReceiptEvents (receipt : Receipt) :
    List LifecycleEventEnvelope → Nat → Except ReceiptProtocolError Unit
  | [], _ => .ok ()
  | event :: rest, index => do
    let path := ascii "$.events[" ++ Json.decimal index ++ ascii "]"
    refuseIf (event.core.receiptId ≠ receipt.receiptId) "RECEIPT_ID_MISMATCH"
      (ascii "event receiptId does not match the receipt envelope.")
      (path ++ ascii ".core.receiptId")
    refuseIf (event.core.schemaVersion ≠ receipt.schemaVersion) "SCHEMA_VERSION_MISMATCH"
      (ascii "event schemaVersion does not match the receipt envelope.")
      (path ++ ascii ".core.schemaVersion")
    validateEnvelopePayloads Q keccak256 event receipt.extensionPublicKey.keyId path
    validateReceiptEvents receipt rest (index + 1)

/-- The checks that a verified receipt needs. -/
def requireChecks (receipt : Receipt) (stage : LifecycleStage) :
    Except ReceiptProtocolError Unit := do
  let requireFor := fun (condition : Bool) (name : VerificationCheckName) =>
    if condition then requirePassedCheck receipt.verification name else .ok ()
  requireFor true .schema
  requireFor true .eventHash
  requireFor true .eventLink
  requireFor (receipt.events.any fun event => event.extensionSignature.isSome) .extensionSignature
  requireFor (receipt.events.any fun event => event.chainAnchor.isSome) .chainAnchor
  requireFor (stage = .entered .authorityAccepted || stage = .entered .authorityRejected)
    .authoritySignature

/-- The checks of `validateReceipt` on a parsed receipt. -/
def checkReceipt (receipt : Receipt) : Except ReceiptProtocolError Unit := do
  let chain ← validateEventChain Q keccak256 (receipt.events.map (·.value))
  refuseIf (∃ receiptId ∈ chain.receiptId, receiptId ≠ receipt.receiptId) "RECEIPT_ID_MISMATCH"
    (ascii "receiptId does not match the linked event chain.") (ascii "$.receiptId")
  validateReceiptEvents Q keccak256 receipt receipt.events 0
  refuseIf (receipt.currentStage ≠ chain.currentStage) "CLAIMED_STAGE_MISMATCH"
    (ascii "currentStage " ++ lifecycleStageText receipt.currentStage ++
      ascii " disagrees with recomputed stage " ++ lifecycleStageText chain.currentStage ++
      ascii ".") (ascii "$.currentStage")
  let derivedStatus := deriveReceiptStatus chain.currentStage receipt.verification
  refuseIf (receipt.derivedStatus ≠ derivedStatus) "CLAIMED_STATUS_MISMATCH"
    (ascii "derivedStatus " ++ derivedReceiptStatusText receipt.derivedStatus ++
      ascii " disagrees with recomputed status " ++ derivedReceiptStatusText derivedStatus ++
      ascii ".") (ascii "$.derivedStatus")
  refuseIf ((chain.currentStage = .entered .authorityAccepted ∨
      chain.currentStage = .entered .authorityRejected) ∧
      ¬∃ event ∈ receipt.events.getLast?, event.authoritySignature.isSome = true)
    "MISSING_AUTHORITY_SIGNATURE"
    (ascii "authority lifecycle events require an authority signature envelope.")
    (ascii "$.events")
  if receipt.verification.result = .verified then requireChecks receipt chain.currentStage
  else .ok ()

/-- `validateReceipt`. -/
def validateReceipt (input : JsValue) : Except ReceiptProtocolError Receipt := do
  let receipt ← parseReceiptStructure Q input (ascii "$")
  checkReceipt Q keccak256 receipt
  return receipt

end protocol

/-! ### A chain of one event -/

def sampleCore : LifecycleEventCore where
  occurredAt := ascii "2026-01-01T00:00:00.000Z"
  previousEventHash := zeroHashText
  receiptId := ascii "0x" ++ List.replicate 64 49
  schemaVersion := ascii "1.0"
  body := .attempted {
    capturedFields := [.value .text (ascii "a") (ascii "n") [ascii "x", ascii "y"]]
    excludedFields := [⟨.password, ascii "p", none, .password⟩]
    formDescriptor := ⟨ascii "https://a.example/", .textPlain, none, none, ascii "POST"⟩
    origin := ⟨ascii "https://a.example", ascii "https://a.example/"⟩
    privacyFlags := ⟨false⟩
    submissionAttempt := ⟨.textPlain, ascii "POST", ascii "https://a.example/", .formSubmit⟩ }

/-- The hash of the core's canonical text. -/
def sampleHash : HashHex := 0x96fdfc534ba77ba6994090e853fcbd6565a761a2a2cd7e31ddd4871184a77e13

def sampleEvent : LifecycleEventEnvelope where
  authoritySignature := none
  chainAnchor := none
  core := sampleCore
  eventHash := hashText sampleHash
  extensionSignature := none

/-- The core as another program might write it. -/
def sampleLocalCore : LifecycleEventCore :=
  { sampleCore with occurredAt := ascii "2026-01-01T01:00:00+01:00" }

/-- The event with that core. -/
def sampleWritten : JsValue := ({ sampleEvent with core := sampleLocalCore } :
  LifecycleEventEnvelope).value

/-- A receipt without events. -/
def sampleReceipt : Receipt where
  createdAt := ascii "2026-01-01T00:00:00.000Z"
  currentStage := .none
  derivedStatus := .prepared
  events := []
  extensionPublicKey := ⟨ascii "key", ascii "AA"⟩
  receiptId := ascii "0x" ++ List.replicate 64 49
  schemaVersion := ascii "1.0"
  verification := ⟨[], .notVerified, none⟩

section results

variable {Q : ReceiptPlatform} {keccak256 : List UInt8 → HashHex}

/-! ### Parsers on what they parsed -/

/-- A core is hashed wherever it is parsed. -/
theorem hashEventCore_eq {v : JsValue} {p : Text} {core : LifecycleEventCore}
    (h : parseEventCore Q v p = .ok core) : hashEventCore Q keccak256 v =
      hashCanonical Q.toTextPlatform keccak256 HashDomain.event.text core.value := by
  rw [hashEventCore, parseEventCore_parses.anywhere h]
  rfl

theorem validateReceipt_eq_ok {v : JsValue} {receipt : Receipt} :
    validateReceipt Q keccak256 v = .ok receipt ↔
      parseReceiptStructure Q v (ascii "$") = .ok receipt ∧
        checkReceipt Q keccak256 receipt = .ok () := by
  simp only [validateReceipt, bind_eq_ok]
  constructor
  · rintro ⟨parsed, hparsed, _, hcheck, h⟩
    obtain rfl := Except.ok.inj h
    exact ⟨hparsed, hcheck⟩
  · rintro ⟨hparsed, hcheck⟩
    exact ⟨receipt, hparsed, (), hcheck, rfl⟩

/-- A receipt is validated again as what is written of it. -/
theorem validateReceipt_again {v : JsValue} {receipt : Receipt}
    (h : validateReceipt Q keccak256 v = .ok receipt) :
    validateReceipt Q keccak256 receipt.value = .ok receipt := by
  obtain ⟨hparsed, hcheck⟩ := validateReceipt_eq_ok.mp h
  exact validateReceipt_eq_ok.mpr ⟨parseReceiptStructure_parses.again hparsed _, hcheck⟩

/-- **Parsed values are parsed to themselves**, and hashed alike. -/
theorem parsers_idempotent (Q : ReceiptPlatform) (keccak256 : List UInt8 → HashHex)
    (v : JsValue) (p : Text) :
    (∀ core, parseEventCore Q v p = .ok core → (∀ q, parseEventCore Q core.value q = .ok core) ∧
      hashEventCore Q keccak256 v = hashEventCore Q keccak256 core.value) ∧
    (∀ event, parseEventEnvelope Q v p = .ok event →
      ∀ q, parseEventEnvelope Q event.value q = .ok event) ∧
    (∀ receipt, validateReceipt Q keccak256 v = .ok receipt →
      validateReceipt Q keccak256 receipt.value = .ok receipt) := by
  refine ⟨fun core hcore => ?_, fun event hevent => ?_, fun receipt hreceipt => ?_⟩
  · have hagain := parseEventCore_parses.again hcore
    exact ⟨hagain, (hashEventCore_eq hcore).trans (hashEventCore_eq (hagain [])).symm⟩
  · exact parseEventEnvelope_parses.again hevent
  · exact validateReceipt_again hreceipt

/-- The samples are parsed to themselves. -/
theorem parsers_idempotent_sample :
    (∀ q, parseEventCore sampleReceiptPlatform sampleCore.value q = .ok sampleCore) ∧
    hashEventCore sampleReceiptPlatform (fun _ => sampleHash) sampleLocalCore.value =
      hashEventCore sampleReceiptPlatform (fun _ => sampleHash) sampleCore.value ∧
    (∀ q, parseEventEnvelope sampleReceiptPlatform sampleEvent.value q = .ok sampleEvent) ∧
    validateReceipt sampleReceiptPlatform (fun _ => sampleHash) sampleReceipt.value =
      .ok sampleReceipt := by
  have hcore := (parsers_idempotent sampleReceiptPlatform (fun _ => sampleHash)
    sampleLocalCore.value []).1 sampleCore (by decide +kernel)
  have hevent := (parsers_idempotent sampleReceiptPlatform (fun _ => sampleHash)
    sampleWritten []).2.1 sampleEvent (by decide +kernel)
  have hreceipt := (parsers_idempotent sampleReceiptPlatform (fun _ => sampleHash)
    sampleReceipt.value []).2.2 sampleReceipt (by decide +kernel)
  exact ⟨hcore.1, hcore.2, hevent, hreceipt⟩

/-! ### What is hashed -/

theorem hexDigit_injective {m n : Nat} (hm : m < 16) (hn : n < 16)
    (h : Json.hexDigit m = Json.hexDigit n) : m = n := by
  rw [← Json.hexValue_hexDigit hm, h, Json.hexValue_hexDigit hn]

/-- The text of a word determines it. -/
theorem hashText_injective : Function.Injective hashText := by
  intro a b h
  have hdigits : ∀ i ∈ List.range 64, (a >>> (4 * (63 - i))).toNat % 16 =
      (b >>> (4 * (63 - i))).toNat % 16 := by
    intro i hi
    exact hexDigit_injective (Nat.mod_lt _ (by decide)) (Nat.mod_lt _ (by decide))
      (List.map_inj_left.mp (List.append_cancel_left h) i hi)
  apply BitVec.eq_of_getLsbD_eq
  intro i hi
  -- the digit that the bit is in
  have hdigit := hdigits (63 - i / 4) (List.mem_range.mpr (by omega))
  have hplace : 4 * (63 - (63 - i / 4)) = 4 * (i / 4) := by omega
  rw [hplace] at hdigit
  have hbit := congrArg (fun n => n.testBit (i % 4)) hdigit
  have hlow : i % 4 < 4 := Nat.mod_lt _ (by decide)
  simp only [show (16 : Nat) = 2 ^ 4 from rfl, Nat.testBit_mod_two_pow, hlow, decide_true,
    Bool.true_and, BitVec.toNat_ushiftRight, Nat.testBit_shiftRight, Nat.div_add_mod] at hbit
  exact hbit

/-- The bytes that are hashed for an event. -/
def eventPreimage (Q : ReceiptPlatform) (event : LifecycleEventEnvelope) (bytes : List UInt8) :
    Prop :=
  ∃ text, createDomainSeparatedPreimage Q.toTextPlatform HashDomain.event.text event.core.value =
    .ok text ∧ bytes = Utf8.encode text

/-- The bytes that are hashed for the events of a list. -/
def eventPreimages (Q : ReceiptPlatform) (items : List JsValue) : Set (List UInt8) :=
  { bytes | ∃ item ∈ items, ∃ p event, parseEventEnvelope Q item p = .ok event ∧
    eventPreimage Q event bytes }

/-- A core that is hashed has a preimage, and its hash is that of the preimage. -/
theorem hashEventCore_eq_ok {event : LifecycleEventEnvelope} {v : JsValue} {p hash : Text}
    (hparsed : parseEventEnvelope Q v p = .ok event) :
    hashEventCore Q keccak256 event.core.value = .ok hash ↔
      ∃ bytes, eventPreimage Q event bytes ∧ hash = hashText (keccak256 bytes) := by
  obtain ⟨-, value, -, hfields⟩ := parseEventEnvelope_eq_ok.mp hparsed
  have hcore := parseEventCore_parses.again (hfields []).2.1 []
  rw [hashEventCore_eq hcore, hashCanonical]
  rw [bind_eq_ok]
  constructor
  · rintro ⟨text, htext, h⟩
    exact ⟨_, ⟨text, htext, rfl⟩, (Except.ok.inj h).symm⟩
  · rintro ⟨_, ⟨text, htext, rfl⟩, rfl⟩
    exact ⟨text, htext, rfl⟩

/-- **Different cores have different preimages.** -/
theorem core_of_eventPreimage {event event' : LifecycleEventEnvelope} {v v' : JsValue}
    {p p' : Text} {bytes : List UInt8} (hparsed : parseEventEnvelope Q v p = .ok event)
    (hparsed' : parseEventEnvelope Q v' p' = .ok event') (h : eventPreimage Q event bytes)
    (h' : eventPreimage Q event' bytes) : event.core = event'.core := by
  obtain ⟨_, hpreimage, rfl⟩ := h
  obtain ⟨_, hpreimage', hbytes⟩ := h'
  obtain ⟨text, htext, rfl⟩ := createDomainSeparatedPreimage_eq_ok.mp hpreimage
  obtain ⟨text', htext', rfl⟩ := createDomainSeparatedPreimage_eq_ok.mp hpreimage'
  obtain ⟨j, hj, rfl⟩ := canonicalize_eq_ok.mp htext
  obtain ⟨j', hj', rfl⟩ := canonicalize_eq_ok.mp htext'
  have hdomain : Utf8.WellFormed (HashDomain.event.text ++ [0]) :=
    Utf8.wellFormed_of_ascii rfl
  have hwell : ∀ j : Json, Utf8.WellFormed (HashDomain.event.text ++ 0 :: Json.stringify j) := by
    intro j
    rw [List.append_cons]
    exact hdomain.append (Utf8.wellFormed_stringify j)
  have htexts := Utf8.encode_injective (hwell j) (hwell j') hbytes
  have hjson : j = j' :=
    Json.stringify_injective (List.cons.inj (List.append_cancel_left htexts)).2
  obtain ⟨-, value, -, hfields⟩ := parseEventEnvelope_eq_ok.mp hparsed
  obtain ⟨-, value', -, hfields'⟩ := parseEventEnvelope_eq_ok.mp hparsed'
  exact parseEventCore_parses.distinct (hfields []).2.1 (hfields' []).2.1
    ((canonical_eq_iff hj hj').mp hjson)

/-! ### Chains -/

/-- The checks of one iteration. -/
structure ChainAccepts (Q : ReceiptPlatform) (keccak256 : List UInt8 → HashHex)
    (chain : ChainState) (event : LifecycleEventEnvelope) : Prop where
  hashed : hashEventCore Q keccak256 event.core.value = .ok event.eventHash
  unseen : event.eventHash ∉ chain.seenHashes
  first : chain.index = 0 → event.core.previousEventHash = zeroHashText
  later : chain.index ≠ 0 → event.core.previousEventHash ≠ zeroHashText ∧
    event.core.previousEventHash = chain.latestEventHash ∧
    some event.core.receiptId = chain.receiptId ∧
    some event.core.schemaVersion = chain.schemaVersion
  step : ReceiptCore.isValidTransition chain.currentStage event.core.stage = true

theorem checkLink_eq_ok {chain : ChainState} {path : Text} {event : LifecycleEventEnvelope}
    {u : Unit} : checkLink chain path event = .ok u ↔
      (chain.index = 0 → event.core.previousEventHash = zeroHashText) ∧
      (chain.index ≠ 0 → event.core.previousEventHash ≠ zeroHashText ∧
        event.core.previousEventHash = chain.latestEventHash ∧
        some event.core.receiptId = chain.receiptId ∧
        some event.core.schemaVersion = chain.schemaVersion) := by
  unfold checkLink
  split
  · next hzero => simp [hzero, refuseIf_eq_ok]
  · next hne =>
    simp only [bind_eq_ok, exists_const, refuseIf_eq_ok, not_not, hne, not_false_eq_true,
      forall_true_left, false_imp_iff, true_and, Ne]

/-- **What an iteration does.** -/
theorem chainStep_eq_ok {chain chain' : ChainState} {item : JsValue} :
    chainStep Q keccak256 chain item = .ok chain' ↔ ∃ event,
      (∀ p, parseEventEnvelope Q item p = .ok event) ∧ ChainAccepts Q keccak256 chain event ∧
        chain' = chain.push event := by
  unfold chainStep
  simp only [bind_eq_ok, refuseIf_eq_ok, exists_const, not_not, checkLink_eq_ok,
    assertValidTransition, Bool.not_eq_false]
  constructor
  · rintro ⟨event, hparsed, hash, hhash, rfl, hseen, hlink, hstep, h⟩
    exact ⟨event, parseEventEnvelope_parses.anywhere hparsed,
      ⟨hhash, hseen, hlink.1, hlink.2, hstep⟩, (Except.ok.inj h).symm⟩
  · rintro ⟨event, hparsed, h, rfl⟩
    exact ⟨event, hparsed _, _, h.hashed, rfl, h.unseen, ⟨h.first, h.later⟩, h.step, rfl⟩

/-- What the next event is linked to: the hash before it, if there is one. -/
def ChainState.link (chain : ChainState) : Option Text :=
  if chain.index = 0 then none else some chain.latestEventHash

/-- The event is linked to the hash before it. -/
def LinksTo : Option Text → LifecycleEventEnvelope → Prop
  | none, event => event.core.previousEventHash = zeroHashText
  | some hash, event =>
    event.core.previousEventHash = hash ∧ event.core.previousEventHash ≠ zeroHashText

/-- The hash that an event leaves. -/
def leaves (event : LifecycleEventEnvelope) : Option Text := some event.eventHash

theorem ChainAccepts.linksTo {chain : ChainState} {event : LifecycleEventEnvelope}
    (h : ChainAccepts Q keccak256 chain event) : LinksTo chain.link event := by
  unfold ChainState.link
  split
  · next hzero => exact h.first hzero
  · next hne => exact ⟨(h.later hne).2.1, (h.later hne).1⟩

/-- **What a chain is**: events that are hashed and linked. -/
theorem replay_chainStep {items : List JsValue} {chain chain' : ChainState}
    (h : replay (chainStep Q keccak256) chain items = .ok chain') : ∃ events,
      List.Forall₂ (fun item event => ∀ p, parseEventEnvelope Q item p = .ok event) items events ∧
      (∀ event ∈ events, hashEventCore Q keccak256 event.core.value = .ok event.eventHash) ∧
      Linked.Follows LinksTo leaves chain.link events ∧
      chain'.link = Linked.tip leaves chain.link events := by
  induction items generalizing chain with
  | nil =>
    obtain rfl := Except.ok.inj h
    exact ⟨[], .nil, fun _ hevent => absurd hevent List.not_mem_nil, trivial, rfl⟩
  | cons item rest ih =>
    obtain ⟨next, hstep, hrest⟩ := replay_cons_ok.mp h
    obtain ⟨event, hparsed, haccepts, rfl⟩ := chainStep_eq_ok.mp hstep
    obtain ⟨events, hevents, hhashed, hfollows, htip⟩ := ih hrest
    have hlink : (chain.push event).link = leaves event := rfl
    rw [hlink] at hfollows htip
    exact ⟨event :: events, .cons hparsed hevents,
      List.forall_mem_cons.mpr ⟨haccepts.hashed, hhashed⟩, ⟨haccepts.linksTo, hfollows⟩, htip⟩

theorem validateEventChain_eq_ok {items : List JsValue} {result : EventChainResult} :
    validateEventChain Q keccak256 items = .ok result ↔
      ∃ chain, replay (chainStep Q keccak256) ChainState.initial items = .ok chain ∧
        result = ⟨chain.currentStage, chain.latestEventHash, chain.receiptId⟩ := by
  unfold validateEventChain
  rw [bind_eq_ok]
  constructor
  · rintro ⟨chain, hchain, h⟩
    exact ⟨chain, hchain, (Except.ok.inj h).symm⟩
  · rintro ⟨chain, hchain, rfl⟩
    exact ⟨chain, hchain, rfl⟩

theorem ChainState.link_of_replay {items : List JsValue} {chain : ChainState}
    (h : replay (chainStep Q keccak256) ChainState.initial items = .ok chain) (hne : items ≠ []) :
    chain.link = some chain.latestEventHash := by
  have hindex : ∀ {items : List JsValue} {chain chain' : ChainState},
      replay (chainStep Q keccak256) chain items = .ok chain' →
        chain'.index = chain.index + items.length := by
    intro items
    induction items with
    | nil =>
      intro chain chain' h
      obtain rfl := Except.ok.inj h
      rfl
    | cons item rest ih =>
      intro chain chain' h
      obtain ⟨next, hstep, hrest⟩ := replay_cons_ok.mp h
      obtain ⟨event, -, -, rfl⟩ := chainStep_eq_ok.mp hstep
      rw [ih hrest, List.length_cons]
      show chain.index + 1 + rest.length = _
      omega
  refine if_neg fun hzero => hne (List.length_eq_zero_iff.mp ?_)
  have hlength := hindex h
  rw [hzero] at hlength
  show items.length = 0
  exact (Nat.eq_zero_of_add_eq_zero_left hlength.symm)

/-- **Tamper evidence**: chains with one latest event hash have the same event
cores. -/
theorem cores_of_latestEventHash (Q : ReceiptPlatform) (keccak256 : List UInt8 → HashHex)
    {items items' : List JsValue} {chain chain' : EventChainResult} (hne : items ≠ [])
    (hne' : items' ≠ []) (h : validateEventChain Q keccak256 items = .ok chain)
    (h' : validateEventChain Q keccak256 items' = .ok chain')
    (hkeccak : Set.InjOn keccak256 (eventPreimages Q items ∪ eventPreimages Q items'))
    (hlatest : chain.latestEventHash = chain'.latestEventHash) :
    items.length = items'.length ∧ ∃ events events',
      List.Forall₂ (fun item event => ∀ p, parseEventEnvelope Q item p = .ok event) items events ∧
      List.Forall₂ (fun item event => ∀ p, parseEventEnvelope Q item p = .ok event) items' events' ∧
      events.map (·.core) = events'.map (·.core) := by
  obtain ⟨state, hstate, rfl⟩ := validateEventChain_eq_ok.mp h
  obtain ⟨state', hstate', rfl⟩ := validateEventChain_eq_ok.mp h'
  obtain ⟨events, hevents, hhashed, hfollows, htip⟩ := replay_chainStep hstate
  obtain ⟨events', hevents', hhashed', hfollows', htip'⟩ := replay_chainStep hstate'
  rw [ChainState.link_of_replay hstate hne] at htip
  rw [ChainState.link_of_replay hstate' hne'] at htip'
  -- a hash determines the core
  have hcore : ∀ event ∈ events, ∀ event' ∈ events', leaves event = leaves event' →
      event.core = event'.core := by
    intro event hevent event' hevent' hsame
    obtain ⟨item, hitem, hparsed⟩ := exists_of_forall₂ hevents hevent
    obtain ⟨item', hitem', hparsed'⟩ := exists_of_forall₂ hevents' hevent'
    obtain ⟨bytes, hbytes, hhash⟩ := (hashEventCore_eq_ok (hparsed [])).mp (hhashed event hevent)
    obtain ⟨bytes', hbytes', hhash'⟩ :=
      (hashEventCore_eq_ok (hparsed' [])).mp (hhashed' event' hevent')
    have heq := hashText_injective (hhash.symm.trans ((Option.some.inj hsame).trans hhash'))
    have hpreimage : bytes = bytes' := hkeccak (.inl ⟨item, hitem, [], event, hparsed [], hbytes⟩)
      (.inr ⟨item', hitem', [], event', hparsed' [], hbytes'⟩) heq
    exact core_of_eventPreimage (hparsed []) (hparsed' []) hbytes (hpreimage ▸ hbytes')
  -- and a core the hash before it
  have hlink : ∀ z z' event event', LinksTo z event → LinksTo z' event' →
      event.core = event'.core → z = z' := by
    rintro (_ | z) (_ | z') event event' hz hz' hsame
    · rfl
    · exact absurd (hsame ▸ hz) hz'.2
    · exact absurd (hsame ▸ hz') hz.2
    · rw [← hz.1, ← hz'.1, hsame]
  have hcores := Linked.Follows.map_eq_of_tip hfollows hfollows' hcore hlink (fun _ => nofun)
    (htip.symm.trans ((congrArg some hlatest).trans htip'))
  refine ⟨?_, events, events', hevents, hevents', hcores⟩
  have hlength := congrArg List.length hcores
  rwa [List.length_map, List.length_map, ← hevents.length_eq, ← hevents'.length_eq] at hlength

theorem sampleEvent_parsed (p : Text) :
    parseEventEnvelope sampleReceiptPlatform sampleEvent.value p = .ok sampleEvent ∧
      parseEventEnvelope sampleReceiptPlatform sampleWritten p = .ok sampleEvent := by
  have h : parseEventEnvelope sampleReceiptPlatform sampleEvent.value [] = .ok sampleEvent ∧
      parseEventEnvelope sampleReceiptPlatform sampleWritten [] = .ok sampleEvent := by
    decide +kernel
  exact ⟨parseEventEnvelope_parses.anywhere h.1 p, parseEventEnvelope_parses.anywhere h.2 p⟩

/-- There is one text to be hashed for the sample. -/
theorem eventPreimages_sample {items : List JsValue}
    (hitems : ∀ item ∈ items, item = sampleEvent.value ∨ item = sampleWritten) {bytes : List UInt8}
    (h : bytes ∈ eventPreimages sampleReceiptPlatform items) :
    eventPreimage sampleReceiptPlatform sampleEvent bytes := by
  obtain ⟨item, hitem, p, event, hparsed, hbytes⟩ := h
  obtain ⟨hvalue, hwritten⟩ := sampleEvent_parsed p
  rcases hitems item hitem with rfl | rfl
  · rw [hvalue] at hparsed
    exact Except.ok.inj hparsed ▸ hbytes
  · rw [hwritten] at hparsed
    exact Except.ok.inj hparsed ▸ hbytes

theorem eventPreimage_unique {event : LifecycleEventEnvelope} {bytes bytes' : List UInt8}
    (h : eventPreimage Q event bytes) (h' : eventPreimage Q event bytes') : bytes = bytes' := by
  obtain ⟨text, htext, rfl⟩ := h
  obtain ⟨text', htext', rfl⟩ := h'
  rw [htext] at htext'
  rw [Except.ok.inj htext']

/-- The sample, written in two ways. -/
theorem cores_of_latestEventHash_sample :
    [sampleEvent.value].length = [sampleWritten].length ∧ ∃ events events',
      List.Forall₂ (fun item event => ∀ p,
        parseEventEnvelope sampleReceiptPlatform item p = .ok event) [sampleEvent.value] events ∧
      List.Forall₂ (fun item event => ∀ p,
        parseEventEnvelope sampleReceiptPlatform item p = .ok event) [sampleWritten] events' ∧
      events.map (·.core) = events'.map (·.core) := by
  have hchain : ∀ item, item = sampleEvent.value ∨ item = sampleWritten →
      validateEventChain sampleReceiptPlatform (fun _ => sampleHash) [item] =
        .ok ⟨.entered .attempted, hashText sampleHash, some sampleCore.receiptId⟩ := by
    rintro item (rfl | rfl) <;> decide +kernel
  refine cores_of_latestEventHash sampleReceiptPlatform (fun _ => sampleHash) (List.cons_ne_nil _ _)
    (List.cons_ne_nil _ _) (hchain _ (.inl rfl)) (hchain _ (.inr rfl)) ?_ rfl
  have hone : ∀ bytes ∈ eventPreimages sampleReceiptPlatform [sampleEvent.value] ∪
      eventPreimages sampleReceiptPlatform [sampleWritten],
      eventPreimage sampleReceiptPlatform sampleEvent bytes := by
    rintro bytes (h | h)
    · exact eventPreimages_sample (fun item hitem => .inl (List.mem_singleton.mp hitem)) h
    · exact eventPreimages_sample (fun item hitem => .inr (List.mem_singleton.mp hitem)) h
  exact fun bytes h bytes' h' _ => eventPreimage_unique (hone bytes h) (hone bytes' h')

end results

end SubmittedIt.Protocol
