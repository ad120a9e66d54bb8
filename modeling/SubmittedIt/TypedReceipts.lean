/-
SubmittedIt/TypedReceipts.lean

Receipts at two levels (packages/receipt-core/src/lifecycle.ts and protocol.ts,
apps/extension/lib/crypto.ts).

The storage of the extension is modelled on receipts whose leaves are words,
instants and URLs; the parsers of unknown values return receipts whose leaves are
texts.  Here a typed receipt is written as the texts that stand for it, and
`onTexts` is a platform of the typed level that hashes and verifies these texts.

Where the texts of a receipt are in normal form, the two levels agree: a step of
the chain is accepted at one exactly when it is at the other, so are chains and
whole receipts, and signatures verify alike.

Main results: `validateEventChain_texts`, `verifyExtensionEventSignature_texts`,
`validateReceipt_texts` and `verifiedReceipt_texts`.
-/
import SubmittedIt.BundleLaws
import SubmittedIt.BundleUpdates
import SubmittedIt.ReceiptSoundness

namespace SubmittedIt.Protocol

open Transaction

/-! ### Typed values as texts -/

def versionText (version : SchemaVersion) : Text :=
  Json.decimal version.major ++ 46 :: Json.decimal version.minor

def urlText (url : Url) : Text :=
  Extension.originText url.origin ++ url.pathname ++
    match url.query with
    | none => []
    | some query => 63 :: query

def textsOfFile (file : SubmittedIt.CapturedFileMetadata) : CapturedFileMetadata where
  lastModified := file.lastModified.map isoText
  mediaType := file.mediaType
  name := file.name
  size := file.size

def textsOfField : SubmittedIt.CapturedField → CapturedField
  | .value controlType fieldId name values => .value controlType fieldId name values
  | .file fieldId name files => .file fieldId name (files.map textsOfFile)

def textsOfExcluded (field : SubmittedIt.ExcludedFieldDescriptor) : ExcludedFieldDescriptor :=
  ⟨field.controlType, field.fieldId, field.name, field.reason⟩

def textsOfAttempt (body : SubmittedIt.AttemptedBody) : AttemptedBody where
  capturedFields := body.capturedFields.map textsOfField
  excludedFields := body.excludedFields.map textsOfExcluded
  formDescriptor := ⟨urlText body.formDescriptor.actionUrl, body.formDescriptor.encoding,
    body.formDescriptor.formId, body.formDescriptor.formName, body.formDescriptor.method⟩
  origin := ⟨Extension.originText body.origin.origin, urlText body.origin.pageUrl⟩
  privacyFlags := ⟨body.fileMetadataIncluded⟩
  submissionAttempt := ⟨body.submissionAttempt.encoding, body.submissionAttempt.method,
    urlText body.submissionAttempt.targetUrl, body.submissionAttempt.trigger⟩

def textsOfConfirmation (confirmation : SubmittedIt.SiteConfirmation) : SiteConfirmation :=
  ⟨confirmation.evidenceType, confirmation.message, urlText confirmation.pageUrl,
    confirmation.reference⟩

def textsOfAcknowledgment (acknowledgment : SubmittedIt.AuthorityAcknowledgment)
    (outcome : AuthorityOutcome) : AuthorityAcknowledgment :=
  ⟨isoText acknowledgment.acknowledgedAt, acknowledgment.authorityId, outcome,
    acknowledgment.reason, acknowledgment.reference⟩

def textsOfBody : SubmittedIt.EventBody → EventBody
  | .attempted body => .attempted (textsOfAttempt body)
  | .siteConfirmed confirmation => .siteConfirmed (textsOfConfirmation confirmation)
  | .authorityAccepted acknowledgment =>
    .authority (textsOfAcknowledgment acknowledgment .accepted)
  | .authorityRejected acknowledgment =>
    .authority (textsOfAcknowledgment acknowledgment .rejected)

def textsOfCore (core : SubmittedIt.LifecycleEventCore) : LifecycleEventCore where
  occurredAt := isoText core.occurredAt
  previousEventHash := hashText core.previousEventHash
  receiptId := hashText core.receiptId
  schemaVersion := versionText core.schemaVersion
  body := textsOfBody core.body

def textsOfSignature (signer : SignatureSigner) (signature : SubmittedIt.SignatureEnvelope) :
    SignatureEnvelope :=
  ⟨signature.keyId, hashText signature.payloadHash, signature.signature, signer⟩

def textsOfAnchor (anchor : SubmittedIt.ChainAnchorMetadata) : ChainAnchorMetadata where
  anchoredAt := isoText anchor.anchoredAt
  blockNumber := Json.decimal anchor.blockNumber
  chainId := anchor.chainId
  contractAddress := ascii (ContractClient.addressText (.hex anchor.contractAddress 0))
  transactionHash := hashText anchor.transactionHash

def textsOfEvent (event : SubmittedIt.LifecycleEventEnvelope) : LifecycleEventEnvelope where
  authoritySignature := event.authoritySignature.map (textsOfSignature .authority)
  chainAnchor := event.chainAnchor.map textsOfAnchor
  core := textsOfCore event.core
  eventHash := hashText event.eventHash
  extensionSignature := event.extensionSignature.map (textsOfSignature .extension)

def textsOfKey (key : SubmittedIt.PublicKeyDescriptor) : PublicKeyDescriptor :=
  ⟨key.keyId, key.value⟩

def textsOfCheck (check : Extension.VerificationCheck) : VerificationCheck :=
  ⟨check.check, check.detail, check.result⟩

def textsOfVerification (verification : Extension.VerificationState) : VerificationState :=
  ⟨verification.checks.map textsOfCheck, verification.result,
    verification.verifiedAt.map isoText⟩

def textsOfReceipt (receipt : Extension.Receipt) : Receipt where
  createdAt := isoText receipt.createdAt
  currentStage := receipt.currentStage
  derivedStatus := receipt.derivedStatus
  events := receipt.events.map textsOfEvent
  extensionPublicKey := textsOfKey receipt.extensionPublicKey
  receiptId := hashText receipt.receiptId
  schemaVersion := versionText receipt.schemaVersion
  verification := textsOfVerification receipt.verification

/-! ### A platform on texts -/

/-- The hash of a value that has a preimage in the domain. -/
def digest (Q : ReceiptPlatform) (keccak256 : List UInt8 → HashHex) (domain : HashDomain)
    (value : JsValue) : HashHex :=
  match createDomainSeparatedPreimage Q.toTextPlatform domain.text value with
  | .ok preimage => keccak256 (Utf8.encode preimage)
  | .error _ => 0

def extensionPayload (payload : ExtensionSignaturePayload) : JsValue :=
  record [(ascii "eventHash", .string (hashText payload.eventHash)),
    (ascii "receiptId", .string (hashText payload.receiptId)),
    (ascii "schemaVersion", .string (versionText payload.schemaVersion)),
    (ascii "stage", writeEnum eventStageText payload.stage)]

def authorityPayload (payload : AuthoritySignaturePayload) : JsValue :=
  record [(ascii "authorityId", .string payload.authorityId),
    (ascii "eventHash", .string (hashText payload.eventHash)),
    (ascii "outcome", writeEnum authorityOutcomeText
      (if payload.stage = .authorityAccepted then .accepted else .rejected)),
    (ascii "receiptId", .string (hashText payload.receiptId)),
    (ascii "schemaVersion", .string (versionText payload.schemaVersion)),
    (ascii "stage", writeEnum eventStageText payload.stage)]

/-- Keccak-256 of the canonical texts. -/
def keccakOfTexts (Q : ReceiptPlatform) (keccak256 : List UInt8 → HashHex) : Keccak
  | .event core => digest Q keccak256 .event (textsOfCore core).value
  | .extensionSignature payload =>
    digest Q keccak256 .extensionSignature (extensionPayload payload)
  | .authoritySignature payload =>
    digest Q keccak256 .authoritySignature (authorityPayload payload)

/-- The signature verifies over the canonical text of the payload. -/
def verifiesText (W : WebPlatform) (C : CryptoProvider) (payload : ExtensionSignaturePayload)
    (signature : Text) (key : SubmittedIt.PublicKeyDescriptor) : Bool :=
  let verified := do
    let (_, imported) ← importVerificationKey W C (textsOfKey key).write
    let bytes ← (base64UrlToBytes signature "$.extensionSignature.signature").toOption
    ensure (bytes.length = 64)
    let preimage ← (createDomainSeparatedPreimage W.toTextPlatform
      HashDomain.extensionSignature.text (extensionPayload payload)).toOption
    C.verify imported bytes (utf8Bytes preimage)
  verified = some true

/-- The platform, with the hashes and the signatures of the texts. -/
def onTexts (W : WebPlatform) (keccak256 : List UInt8 → HashHex) (C : CryptoProvider)
    (P : Extension.StoragePlatform) : Extension.StoragePlatform :=
  { P with
    keccak := keccakOfTexts W.toReceiptPlatform keccak256
    verifyBytes := verifiesText W C }

section laws

variable {Q : ReceiptPlatform} {W : WebPlatform} {keccak256 : List UInt8 → HashHex}
  {C : CryptoProvider} {P : Extension.StoragePlatform}

/-! ### Leaves -/

theorem versionText_injective : Function.Injective versionText := by
  intro first second h
  have hstops (version : SchemaVersion) : Json.Stops (46 :: Json.decimal version.minor) := by
    rintro _ ⟨⟩
    decide
  obtain ⟨hmajor, hminor⟩ := Json.decimal_append_inj (hstops first) (hstops second) h
  have hminor := Json.decimal_injective (List.cons.inj hminor).2
  rcases first with ⟨major, minor, hfirst⟩
  rcases second with ⟨major', minor', hsecond⟩
  cases hmajor
  cases hminor
  rfl

theorem hashText_zero : hashText ZERO_HASH = zeroHashText := by decide +kernel

theorem hashText_eq_iff {first second : HashHex} : hashText first = hashText second ↔
    first = second :=
  hashText_injective.eq_iff

theorem hashText_eq_zero {hash : HashHex} : hashText hash = zeroHashText ↔ hash = ZERO_HASH := by
  rw [← hashText_zero, hashText_eq_iff]

@[simp] theorem stage_texts (core : SubmittedIt.LifecycleEventCore) :
    (textsOfCore core).stage = core.stage := by
  show (textsOfBody core.body).stage = core.body.stage
  cases core.body <;> rfl

/-! ### Hashes -/

/-- A value that is hashed has the digest for its hash. -/
theorem hashCanonical_digest {domain : HashDomain} {value : JsValue} {text : Text} :
    hashCanonical Q.toTextPlatform keccak256 domain.text value = .ok text ↔
      text = hashText (digest Q keccak256 domain value) ∧
        ∃ preimage, createDomainSeparatedPreimage Q.toTextPlatform domain.text value =
          .ok preimage := by
  unfold hashCanonical digest
  rw [bind_eq_ok]
  constructor
  · rintro ⟨preimage, hpreimage, h⟩
    rw [hpreimage]
    exact ⟨(Except.ok.inj h).symm, preimage, rfl⟩
  · rintro ⟨rfl, preimage, hpreimage⟩
    rw [hpreimage]
    exact ⟨preimage, rfl, rfl⟩

/-- **The hash of a core**, at both levels. -/
theorem hashEventCore_texts {event : SubmittedIt.LifecycleEventEnvelope}
    (hnormal : Normal Q (textsOfEvent event)) :
    hashEventCore Q keccak256 (textsOfEvent event).core.value =
      .ok (hashText (keccakOfTexts Q keccak256 (.event event.core))) := by
  obtain ⟨-, value, -, hfields⟩ := parseEventEnvelope_eq_ok.mp (hnormal [])
  have hcore := (hfields []).2.1
  obtain ⟨j, hj⟩ := parseEventCore_parses.canonical hcore
  rw [hashEventCore_eq (parseEventCore_parses.again hcore [])]
  exact hashCanonical_digest.mpr ⟨rfl, _, createDomainSeparatedPreimage_eq_ok.mpr
    ⟨_, canonicalize_eq_ok.mpr ⟨j, hj, rfl⟩, rfl⟩⟩

/-! ### Chains -/

def textsOfChain (chain : ReceiptCore.ChainState) : ChainState where
  index := chain.index
  currentStage := chain.currentStage
  latestEventHash := hashText chain.latestEventHash
  receiptId := chain.receiptId.map hashText
  schemaVersion := chain.schemaVersion.map versionText
  seenHashes := chain.seenHashes.map hashText

def textsOfResult (result : ReceiptCore.EventChainResult) : EventChainResult :=
  ⟨result.currentStage, hashText result.latestEventHash, result.receiptId.map hashText⟩

theorem textsOfChain_initial :
    textsOfChain ReceiptCore.ChainState.initial = ChainState.initial := by
  simp only [textsOfChain, ReceiptCore.ChainState.initial, hashText_zero]
  rfl

theorem textsOfChain_push (chain : ReceiptCore.ChainState)
    (event : SubmittedIt.LifecycleEventEnvelope) :
    textsOfChain (chain.push event) = (textsOfChain chain).push (textsOfEvent event) := by
  have hstage : (textsOfEvent event).core.stage = event.core.stage := stage_texts event.core
  by_cases hindex : chain.index = 0
  · simp only [textsOfChain, ReceiptCore.ChainState.push, ChainState.push, hstage, hindex, if_pos]
    rfl
  · simp only [textsOfChain, ReceiptCore.ChainState.push, ChainState.push, hstage, hindex, if_false]
    rfl

/-- **The checks of an iteration**, at both levels. -/
theorem chainAccepts_texts {chain : ReceiptCore.ChainState}
    {event : SubmittedIt.LifecycleEventEnvelope} (hnormal : Normal Q (textsOfEvent event)) :
    ChainAccepts Q keccak256 (textsOfChain chain) (textsOfEvent event) ↔
      ReceiptCore.ChainAccepts (keccakOfTexts Q keccak256) chain event := by
  have hhash : hashEventCore Q keccak256 (textsOfEvent event).core.value =
      .ok (textsOfEvent event).eventHash ↔
        event.eventHash = ReceiptCore.hashEventCore (keccakOfTexts Q keccak256) event.core := by
    rw [hashEventCore_texts hnormal, Except.ok.injEq]
    exact hashText_eq_iff.trans eq_comm
  have hseen : (textsOfEvent event).eventHash ∈ (textsOfChain chain).seenHashes ↔
      event.eventHash ∈ chain.seenHashes :=
    List.mem_map_of_injective hashText_injective
  have hzero : (textsOfEvent event).core.previousEventHash = zeroHashText ↔
      event.core.previousEventHash = ZERO_HASH := hashText_eq_zero
  have hlatest : (textsOfEvent event).core.previousEventHash =
      (textsOfChain chain).latestEventHash ↔
        event.core.previousEventHash = chain.latestEventHash := hashText_eq_iff
  have hid : some (textsOfEvent event).core.receiptId = (textsOfChain chain).receiptId ↔
      some event.core.receiptId = chain.receiptId :=
    (Option.map_injective hashText_injective).eq_iff (a := some event.core.receiptId)
  have hversion : some (textsOfEvent event).core.schemaVersion =
      (textsOfChain chain).schemaVersion ↔
        some event.core.schemaVersion = chain.schemaVersion :=
    (Option.map_injective versionText_injective).eq_iff (a := some event.core.schemaVersion)
  have hstage : (textsOfEvent event).core.stage = event.core.stage := stage_texts event.core
  constructor
  · rintro ⟨hhashed, hunseen, hfirst, hlater, hstep⟩
    refine ⟨hhash.mp hhashed, fun h => hunseen (hseen.mpr h), fun h => hzero.mp (hfirst h),
      fun h => ?_, hstage ▸ hstep⟩
    obtain ⟨hne, hlink, hsameId, hsameVersion⟩ := hlater h
    exact ⟨fun h => hne (hzero.mpr h), hlatest.mp hlink, hid.mp hsameId, hversion.mp hsameVersion⟩
  · rintro ⟨hhashed, hunseen, hfirst, hlater, hstep⟩
    refine ⟨hhash.mpr hhashed, fun h => hunseen (hseen.mp h), fun h => hzero.mpr (hfirst h),
      fun h => ?_, hstage.symm ▸ hstep⟩
    obtain ⟨hne, hlink, hsameId, hsameVersion⟩ := hlater h
    exact ⟨fun h => hne (hzero.mp h), hlatest.mpr hlink, hid.mpr hsameId,
      hversion.mpr hsameVersion⟩

/-- **One iteration**, at both levels. -/
theorem chainStep_texts {chain : ReceiptCore.ChainState}
    {event : SubmittedIt.LifecycleEventEnvelope} (hnormal : Normal Q (textsOfEvent event))
    {next : ChainState} :
    chainStep Q keccak256 (textsOfChain chain) (textsOfEvent event).value = .ok next ↔
      ∃ next', ReceiptCore.chainStep Except.ok (keccakOfTexts Q keccak256) chain event =
        .ok next' ∧ next = textsOfChain next' := by
  simp only [chainStep_eq_ok, ReceiptCore.chainStep_eq_ok]
  constructor
  · rintro ⟨found, hfound, haccepts, rfl⟩
    obtain rfl := Except.ok.inj ((hfound []).symm.trans (hnormal []))
    exact ⟨_, ⟨event, rfl, (chainAccepts_texts hnormal).mp haccepts, rfl⟩,
      (textsOfChain_push chain event).symm⟩
  · rintro ⟨_, ⟨found, hfound, haccepts, rfl⟩, rfl⟩
    obtain rfl := Except.ok.inj hfound
    exact ⟨_, hnormal, (chainAccepts_texts hnormal).mpr haccepts, textsOfChain_push chain event⟩

/-- The loop, at both levels. -/
theorem replay_texts {events : List SubmittedIt.LifecycleEventEnvelope}
    (hnormal : ∀ event ∈ events, Normal Q (textsOfEvent event)) {chain : ReceiptCore.ChainState}
    {last : ChainState} :
    replay (chainStep Q keccak256) (textsOfChain chain)
        ((events.map textsOfEvent).map (·.value)) = .ok last ↔
      ∃ last', replay (ReceiptCore.chainStep Except.ok (keccakOfTexts Q keccak256)) chain events =
        .ok last' ∧ last = textsOfChain last' := by
  rw [List.map_map, replay_map]
  constructor
  · intro h
    have hstep : ∀ state typed event next, state = textsOfChain typed →
        Normal Q (textsOfEvent event) →
        chainStep Q keccak256 state (textsOfEvent event).value = .ok next →
        ∃ next', ReceiptCore.chainStep Except.ok (keccakOfTexts Q keccak256) typed event =
          .ok next' ∧ next = textsOfChain next' := by
      rintro _ typed event next rfl hevent h
      exact (chainStep_texts hevent).mp h
    exact replay_simulation hstep rfl hnormal h
  · rintro ⟨last', h, rfl⟩
    have hstep : ∀ typed state event next, state = textsOfChain typed →
        Normal Q (textsOfEvent event) →
        ReceiptCore.chainStep Except.ok (keccakOfTexts Q keccak256) typed event = .ok next →
        ∃ next', chainStep Q keccak256 state (textsOfEvent event).value = .ok next' ∧
          next' = textsOfChain next := by
      rintro typed _ event next rfl hevent h
      exact ⟨_, (chainStep_texts hevent).mpr ⟨next, h, rfl⟩, rfl⟩
    obtain ⟨last, hlast, rfl⟩ := replay_simulation hstep rfl hnormal h
    exact hlast

/-- **Event chains are accepted alike.** -/
theorem validateEventChain_texts {events : List SubmittedIt.LifecycleEventEnvelope}
    (hnormal : ∀ event ∈ events, Normal Q (textsOfEvent event)) {result : EventChainResult} :
    validateEventChain Q keccak256 ((events.map textsOfEvent).map (·.value)) = .ok result ↔
      ∃ result', ReceiptCore.validateEventChain Except.ok (keccakOfTexts Q keccak256) events =
        .ok result' ∧ result = textsOfResult result' := by
  simp only [validateEventChain_eq_ok, ReceiptCore.validateEventChain_eq_ok]
  rw [← textsOfChain_initial]
  simp only [replay_texts hnormal]
  constructor
  · rintro ⟨_, ⟨last, hlast, rfl⟩, rfl⟩
    exact ⟨_, ⟨last, hlast, rfl⟩, rfl⟩
  · rintro ⟨_, ⟨last, hlast, rfl⟩, rfl⟩
    exact ⟨_, ⟨last, hlast, rfl⟩, rfl⟩

/-! ### Signatures -/

theorem extensionPayload_texts (event : SubmittedIt.LifecycleEventEnvelope) :
    extensionPayload (Extension.createExtensionSignaturePayload event) =
      signaturePayload (textsOfEvent event) := by
  have hstage : (textsOfEvent event).core.stage = event.core.stage := stage_texts event.core
  simp only [signaturePayload, hstage]
  rfl

/-- The texts of an event are hashed where the event is. -/
theorem hashed_texts {event : SubmittedIt.LifecycleEventEnvelope}
    (hnormal : Normal Q (textsOfEvent event)) :
    Hashed Q keccak256 (textsOfEvent event) ↔
      event.eventHash = keccakOfTexts Q keccak256 (.event event.core) := by
  constructor
  · intro h
    have hhash := h.hash
    rw [hashEventCore_texts hnormal] at hhash
    exact (hashText_injective (Except.ok.inj hhash)).symm
  · intro h
    refine ⟨hnormal, ?_⟩
    rw [hashEventCore_texts hnormal, ← h]
    rfl

/-- **The hash of the payload of an event**, at both levels. -/
theorem payloadHash_texts {event : SubmittedIt.LifecycleEventEnvelope}
    (hhashed : Hashed Q keccak256 (textsOfEvent event)) :
    hashExtensionSignaturePayload Q keccak256 (textsOfEvent event).value =
      .ok (hashText (keccakOfTexts Q keccak256
        (.extensionSignature (Extension.createExtensionSignaturePayload event)))) := by
  rw [hhashed.payloadHash, ← extensionPayload_texts]
  refine hashCanonical_digest.mpr ⟨rfl, ?_⟩
  rw [extensionPayload_texts]
  exact payload_preimage _ _

theorem authorityPayload_texts {event : SubmittedIt.LifecycleEventEnvelope}
    (hhashed : Hashed Q keccak256 (textsOfEvent event)) {payload : AuthoritySignaturePayload}
    (hpayload : Extension.createAuthoritySignaturePayload event = some payload) :
    createAuthoritySignaturePayload Q keccak256 (textsOfEvent event).value =
      .ok (authorityPayload payload) := by
  simp only [createAuthoritySignaturePayload, bind_eq_ok, parseHashedEventEnvelope_eq_ok]
  refine ⟨textsOfEvent event, ⟨hhashed.normal _, hhashed.hash⟩, ?_⟩
  rcases event with ⟨authority, anchor, ⟨occurredAt, previous, id, version, body⟩, hash, extension,
    hstage⟩
  rcases body with attempt | confirmation | accepted | rejected
  · cases hpayload
  · cases hpayload
  · cases hpayload
    rfl
  · cases hpayload
    rfl

/-- **The hash of the payload of an authority event**, at both levels. -/
theorem authorityPayloadHash_texts {event : SubmittedIt.LifecycleEventEnvelope}
    (hhashed : Hashed Q keccak256 (textsOfEvent event)) {payload : AuthoritySignaturePayload}
    (hpayload : Extension.createAuthoritySignaturePayload event = some payload) :
    hashAuthoritySignaturePayload Q keccak256 (textsOfEvent event).value =
      .ok (hashText (keccakOfTexts Q keccak256 (.authoritySignature payload))) := by
  rw [hashAuthoritySignaturePayload, authorityPayload_texts hhashed hpayload]
  refine hashCanonical_digest.mpr ⟨rfl, ?_⟩
  have hcanonical : ∃ j, Canonical Q.toTextPlatform (authorityPayload payload) j := by
    apply canonical_record rfl
    exact ⟨.inr ⟨_, rfl⟩, .inr ⟨_, rfl⟩, .inr ⟨_, rfl⟩, .inr ⟨_, rfl⟩, .inr ⟨_, rfl⟩,
      .inr ⟨_, rfl⟩, trivial⟩
  obtain ⟨j, hj⟩ := hcanonical
  exact ⟨_, createDomainSeparatedPreimage_eq_ok.mpr ⟨_, canonicalize_eq_ok.mpr ⟨j, hj, rfl⟩, rfl⟩⟩

/-- The signatures of authorities are on authority events. -/
theorem exists_authorityPayload (event : SubmittedIt.LifecycleEventEnvelope)
    (h : event.authoritySignature.isSome = true) :
    ∃ payload, Extension.createAuthoritySignaturePayload event = some payload := by
  rcases event with ⟨authority, anchor, ⟨occurredAt, previous, id, version, body⟩, hash, extension,
    hauthority⟩
  have hstage := hauthority h
  rcases body with attempt | confirmation | accepted | rejected
  · cases hstage
  · cases hstage
  · exact ⟨_, rfl⟩
  · exact ⟨_, rfl⟩

theorem validateEnvelopePayloads_eq_ok {event : LifecycleEventEnvelope} {keyId path : Text}
    {u : Unit} :
    validateEnvelopePayloads Q keccak256 event keyId path = .ok u ↔
      (∀ signature ∈ event.extensionSignature, signature.keyId = keyId ∧
        hashExtensionSignaturePayload Q keccak256 event.value = .ok signature.payloadHash) ∧
      ∀ signature ∈ event.authoritySignature,
        hashAuthoritySignaturePayload Q keccak256 event.value = .ok signature.payloadHash := by
  unfold validateEnvelopePayloads
  have hsame {x : Except ReceiptProtocolError Text} {text : Text} :
      (∃ expected, x = .ok expected ∧ text = expected) ↔ x = .ok text := by
    simp
  rcases event.extensionSignature with - | extension
  · rcases event.authoritySignature with - | authority
    · exact ⟨fun _ => ⟨by simp, by simp⟩, fun _ => rfl⟩
    · simp [bind_eq_ok, refuseIf_eq_ok, hsame]
  · rcases event.authoritySignature with - | authority
    · simp [bind_eq_ok, refuseIf_eq_ok, hsame]
    · simp [bind_eq_ok, refuseIf_eq_ok, hsame, and_assoc]

theorem typedEnvelopePayloads_eq_ok {event : SubmittedIt.LifecycleEventEnvelope} {keyId : Text}
    {path : String} {u : Unit} :
    Extension.validateEnvelopePayloads P event keyId path = .ok u ↔
      (∀ signature ∈ event.extensionSignature, signature.keyId = keyId ∧ signature.payloadHash =
        P.keccak (.extensionSignature (Extension.createExtensionSignaturePayload event))) ∧
      ∀ signature ∈ event.authoritySignature, ∃ payload,
        Extension.createAuthoritySignaturePayload event = some payload ∧
        signature.payloadHash = P.keccak (.authoritySignature payload) := by
  unfold Extension.validateEnvelopePayloads
  rcases Extension.createAuthoritySignaturePayload event with - | payload
  all_goals
    rcases event.extensionSignature with - | extension
    · rcases event.authoritySignature with - | authority
      · exact ⟨fun _ => ⟨by simp, by simp⟩, fun _ => rfl⟩
      · simp [bind_eq_ok]
    · rcases event.authoritySignature with - | authority
      · simp [bind_eq_ok]
      · simp [bind_eq_ok, and_assoc]

/-- **The signature envelopes of an event**, at both levels. -/
theorem validateEnvelopePayloads_texts {event : SubmittedIt.LifecycleEventEnvelope}
    (hhashed : Hashed W.toReceiptPlatform keccak256 (textsOfEvent event)) {keyId path : Text}
    {path' : String} {u : Unit} :
    validateEnvelopePayloads W.toReceiptPlatform keccak256 (textsOfEvent event) keyId path =
        .ok u ↔
      Extension.validateEnvelopePayloads (onTexts W keccak256 C P) event keyId path' = .ok u := by
  rw [validateEnvelopePayloads_eq_ok, typedEnvelopePayloads_eq_ok, payloadHash_texts hhashed]
  refine and_congr ?_ ?_
  · show (∀ signature ∈ event.extensionSignature.map _, _) ↔ _
    rcases event.extensionSignature with - | signature
    · simp
    · simp only [Option.map_some, Option.mem_def, Option.some.injEq, forall_eq', Except.ok.injEq]
      exact and_congr Iff.rfl (hashText_eq_iff.trans eq_comm)
  · show (∀ signature ∈ event.authoritySignature.map _, _) ↔ _
    rcases hauthority : event.authoritySignature with - | signature
    · simp
    · obtain ⟨payload, hpayload⟩ := exists_authorityPayload event (hauthority ▸ rfl)
      simp only [Option.map_some, Option.mem_def, Option.some.injEq, forall_eq',
        authorityPayloadHash_texts hhashed hpayload, hpayload, Except.ok.injEq, exists_eq_left']
      exact hashText_eq_iff.trans eq_comm

/-- An event whose payload is hashed has the hash of its core. -/
theorem hashed_of_payloadHash {event : LifecycleEventEnvelope} (hnormal : Normal Q event)
    {text : Text} (h : hashExtensionSignaturePayload Q keccak256 event.value = .ok text) :
    Hashed Q keccak256 event := by
  simp only [hashExtensionSignaturePayload, createExtensionSignaturePayload, bind_eq_ok,
    parseHashedEventEnvelope_eq_ok] at h
  obtain ⟨-, ⟨found, ⟨hfound, hhash⟩, -⟩, -⟩ := h
  obtain rfl := Except.ok.inj ((hnormal _).symm.trans hfound)
  exact ⟨hnormal, hhash⟩

/-- A parsed key is imported as it is. -/
theorem imported_of_normal {key descriptor : PublicKeyDescriptor} {imported : C.VerificationKey}
    (hkey : ∀ q, parsePublicKeyDescriptor W.toReceiptPlatform key.write q = .ok key)
    (h : importVerificationKey W C key.write = some (descriptor, imported)) :
    key = descriptor := by
  simp only [importVerificationKey, Option.bind_eq_bind, Option.bind_eq_some_iff,
    accept_eq_some] at h
  obtain ⟨parsed, hparsed, _, _, _, _, hsome⟩ := h
  obtain rfl := Except.ok.inj ((hkey _).symm.trans hparsed)
  exact congrArg Prod.fst (Option.some.inj hsome)

/-- **When the signature of a parsed event verifies** with a parsed key. -/
theorem verifyExtensionEventSignature_iff {event : LifecycleEventEnvelope}
    (hnormal : Normal W.toReceiptPlatform event) {key : PublicKeyDescriptor}
    (hkey : ∀ q, parsePublicKeyDescriptor W.toReceiptPlatform key.write q = .ok key) :
    verifyExtensionEventSignature W keccak256 C event.value key.write = true ↔
      Hashed W.toReceiptPlatform keccak256 event ∧
      ∃ imported, importVerificationKey W C key.write = some (key, imported) ∧
      ∃ signature, event.extensionSignature = some signature ∧
        (signature.signer = .extension ∧ signature.keyId = key.keyId) ∧
        hashExtensionSignaturePayload W.toReceiptPlatform keccak256 event.value =
          .ok signature.payloadHash ∧
        ∃ bytes, base64UrlToBytes signature.signature "$.extensionSignature.signature" =
            .ok bytes ∧ bytes.length = 64 ∧
          ∃ preimage, createDomainSeparatedPreimage W.toTextPlatform
              HashDomain.extensionSignature.text (signaturePayload event) = .ok preimage ∧
            C.verify imported bytes (utf8Bytes preimage) = some true := by
  constructor
  · intro hverified
    have hparts := hverified
    simp only [verifyExtensionEventSignature, decide_eq_true_eq, Option.bind_eq_bind,
      Option.bind_eq_some_iff, toOption_eq_some, accept_eq_some] at hparts
    obtain ⟨found, hfound, ⟨descriptor, imported⟩, himported, -, -, -, -, text, htext, -⟩ := hparts
    obtain rfl := Except.ok.inj ((hnormal _).symm.trans hfound)
    have hhashed := hashed_of_payloadHash hnormal htext
    obtain rfl := imported_of_normal hkey himported
    obtain ⟨signature, hsignature, hsigner, hpayload, bytes, hbytes, hlength, _, hpreimage,
      hverifies⟩ := (hhashed.verified_iff himported).mp hverified
    obtain ⟨preimage, hsigned⟩ := @payload_preimage W.toReceiptPlatform
      HashDomain.extensionSignature.text event
    obtain rfl := Option.some.inj ((hhashed.preimage hsigned).symm.trans hpreimage)
    exact ⟨hhashed, imported, himported, signature, hsignature, hsigner, hpayload, bytes, hbytes,
      hlength, preimage, hsigned, hverifies⟩
  · rintro ⟨hhashed, imported, himported, signature, hsignature, hsigner, hpayload, bytes, hbytes,
      hlength, preimage, hsigned, hverifies⟩
    exact (hhashed.verified_iff himported).mpr ⟨signature, hsignature, hsigner, hpayload, bytes,
      hbytes, hlength, _, hhashed.preimage hsigned, hverifies⟩

/-- What the typed platform verifies. -/
theorem verifiesText_iff {payload : ExtensionSignaturePayload} {signature : Text}
    {key : SubmittedIt.PublicKeyDescriptor} :
    verifiesText W C payload signature key = true ↔ ∃ descriptor imported,
      importVerificationKey W C (textsOfKey key).write = some (descriptor, imported) ∧
      ∃ bytes, base64UrlToBytes signature "$.extensionSignature.signature" = .ok bytes ∧
        bytes.length = 64 ∧ ∃ preimage, createDomainSeparatedPreimage W.toTextPlatform
          HashDomain.extensionSignature.text (extensionPayload payload) = .ok preimage ∧
          C.verify imported bytes (utf8Bytes preimage) = some true := by
  simp only [verifiesText, decide_eq_true_eq, Option.bind_eq_bind, Option.bind_eq_some_iff,
    ensure_eq_some, toOption_eq_some]
  constructor
  · rintro ⟨⟨descriptor, imported⟩, himported, bytes, hbytes, -, hlength, preimage, hpreimage,
      hverified⟩
    exact ⟨descriptor, imported, himported, bytes, hbytes, hlength, preimage, hpreimage, hverified⟩
  · rintro ⟨descriptor, imported, himported, bytes, hbytes, hlength, preimage, hpreimage,
      hverified⟩
    exact ⟨⟨descriptor, imported⟩, himported, bytes, hbytes, (), hlength, preimage, hpreimage,
      hverified⟩

theorem typedVerification_iff {event : SubmittedIt.LifecycleEventEnvelope}
    {key : SubmittedIt.PublicKeyDescriptor} :
    Extension.verifyExtensionEventSignature P event key = true ↔
      ∃ signature, event.extensionSignature = some signature ∧ signature.keyId = key.keyId ∧
        event.eventHash = P.keccak (.event event.core) ∧
        signature.payloadHash =
          P.keccak (.extensionSignature (Extension.createExtensionSignaturePayload event)) ∧
        P.verifyBytes (Extension.createExtensionSignaturePayload event) signature.signature key =
          true := by
  unfold Extension.verifyExtensionEventSignature
  rcases event.extensionSignature with - | signature
  · simp
  · simp only [Bool.and_eq_true, decide_eq_true_eq, Option.some.injEq, exists_eq_left', and_assoc]
    rfl

/-- **Signatures verify alike.** -/
theorem verifyExtensionEventSignature_texts {event : SubmittedIt.LifecycleEventEnvelope}
    (hnormal : Normal W.toReceiptPlatform (textsOfEvent event))
    {key : SubmittedIt.PublicKeyDescriptor}
    (hkey : ∀ q, parsePublicKeyDescriptor W.toReceiptPlatform (textsOfKey key).write q =
      .ok (textsOfKey key)) :
    verifyExtensionEventSignature W keccak256 C (textsOfEvent event).value
        (textsOfKey key).write =
      Extension.verifyExtensionEventSignature (onTexts W keccak256 C P) event key := by
  rw [Bool.eq_iff_iff, typedVerification_iff, verifyExtensionEventSignature_iff hnormal hkey,
    hashed_texts hnormal]
  have hsigned := extensionPayload_texts event
  have hhash (hhashed : event.eventHash =
      keccakOfTexts W.toReceiptPlatform keccak256 (.event event.core)) {hash : HashHex} :
      hashExtensionSignaturePayload W.toReceiptPlatform keccak256 (textsOfEvent event).value =
          .ok (hashText hash) ↔
        hash = keccakOfTexts W.toReceiptPlatform keccak256
          (.extensionSignature (Extension.createExtensionSignaturePayload event)) := by
    rw [payloadHash_texts ((hashed_texts hnormal).mpr hhashed), Except.ok.injEq]
    exact hashText_eq_iff.trans eq_comm
  constructor
  · rintro ⟨hhashed, imported, himported, _, hsome, ⟨-, hkeyId⟩, hpayload, bytes, hbytes, hlength,
      preimage, hpreimage, hverifies⟩
    obtain ⟨signature, hsignature, rfl⟩ := Option.map_eq_some_iff.mp hsome
    refine ⟨signature, hsignature, hkeyId, hhashed, (hhash hhashed).mp hpayload,
      verifiesText_iff.mpr ⟨_, imported, himported, bytes, hbytes, hlength, preimage, ?_,
        hverifies⟩⟩
    rwa [hsigned]
  · rintro ⟨signature, hsignature, hkeyId, hhashed, hpayload, hverifies⟩
    obtain ⟨descriptor, imported, himported, bytes, hbytes, hlength, preimage, hpreimage,
      hverifies⟩ := verifiesText_iff.mp hverifies
    obtain rfl := imported_of_normal hkey himported
    rw [hsigned] at hpreimage
    exact ⟨hhashed, imported, himported, _, congrArg (Option.map _) hsignature, ⟨rfl, hkeyId⟩,
      (hhash hhashed).mpr hpayload, bytes, hbytes, hlength, preimage, hpreimage, hverifies⟩

/-! ### Verification states -/

theorem checkPassed_texts (verification : Extension.VerificationState)
    (name : Extension.VerificationCheckName) :
    checkPassed (textsOfVerification verification) name =
      Extension.checkPassed verification name := by
  show (verification.checks.map textsOfCheck).any _ = verification.checks.any _
  rw [List.any_map]
  rfl

/-- **The derived status is the same.** -/
theorem deriveReceiptStatus_texts (stage : LifecycleStage)
    (verification : Extension.VerificationState) :
    deriveReceiptStatus stage (textsOfVerification verification) =
      Extension.deriveReceiptStatus stage verification := by
  have hresult : (textsOfVerification verification).result = verification.result := rfl
  simp only [deriveReceiptStatus, Extension.deriveReceiptStatus, checkPassed_texts, hresult]
  rcases stage with - | (- | - | - | -) <;> simp [Bool.and_eq_true]

theorem assertDistinctChecks_typed {path : String} {names : List Extension.VerificationCheckName}
    {checks : List Extension.VerificationCheck} (hnodup : (checks.map (·.check)).Nodup)
    (hnew : ∀ check ∈ checks, check.check ∉ names) :
    Extension.assertDistinctChecks path names checks = .ok () := by
  induction checks generalizing names with
  | nil => rfl
  | cons check checks ih =>
    rw [List.map_cons, List.nodup_cons] at hnodup
    obtain ⟨hfirst, hrest⟩ := List.forall_mem_cons.mp hnew
    simp only [Extension.assertDistinctChecks, bind_eq_ok, exists_const, revertIf_eq_ok]
    refine ⟨hfirst, ih hnodup.2 fun other hother hmem => ?_⟩
    rcases List.mem_cons.mp hmem with hsame | hmem
    · exact hnodup.1 (List.mem_map.mpr ⟨other, hother, hsame⟩)
    · exact hrest other hother hmem

/-- A verification state that is parsed as texts passes the checks of the typed
parser. -/
theorem parseVerificationState_typed {verification : Extension.VerificationState}
    (h : (textsOfVerification verification).Consistent) (path : String) :
    Extension.parseVerificationState verification path = .ok () := by
  obtain ⟨-, hdistinct, hfailed, hverified, hopen, htime⟩ := h
  have hnodup : (verification.checks.map (·.check)).Nodup := by
    have hnames : ((verification.checks.map textsOfCheck).map
        fun check => verificationCheckNameText check.check) =
          (verification.checks.map (·.check)).map verificationCheckNameText := by
      simp only [List.map_map]
      rfl
    exact List.Nodup.of_map _ (hnames ▸ hdistinct)
  have hany : ((textsOfVerification verification).checks.any fun check =>
      check.result = .failed) = verification.checks.any fun check => check.result = .failed :=
    List.any_map
  have hall : ((textsOfVerification verification).checks.all fun check =>
      check.result = .passed) = verification.checks.all fun check => check.result = .passed :=
    List.all_map
  have hresult : (textsOfVerification verification).result = verification.result := rfl
  have htimes : (textsOfVerification verification).verifiedAt.isSome =
      verification.verifiedAt.isSome := Option.isSome_map
  have hlength : (textsOfVerification verification).checks.length = verification.checks.length :=
    List.length_map _
  rw [hany, hresult] at hfailed hopen
  rw [hall, hresult, hlength] at hverified
  rw [htimes, hresult] at htime
  simp only [Extension.parseVerificationState, bind_eq_ok, exists_const, revertIf_eq_ok]
  refine ⟨(), assertDistinctChecks_typed hnodup fun _ _ => List.not_mem_nil, hfailed, ?_, hopen,
    ?_⟩
  · rintro ⟨hpassed, hnot⟩
    refine hverified ⟨hpassed, ?_⟩
    rw [← hnot]
    congr 1
    simp [List.length_pos_iff]
  · rintro ⟨hdone, hnone⟩
    exact htime ⟨hdone, by rw [hnone]; rfl⟩

/-! ### Receipts -/

theorem requirePassedCheck_texts {verification : Extension.VerificationState}
    {condition : Prop} [Decidable condition] {name : Extension.VerificationCheckName} {u : Unit} :
    (if condition then requirePassedCheck (textsOfVerification verification) name
      else .ok ()) = .ok u ↔
    (if condition then Extension.requirePassedCheck verification name else .ok ()) = .ok u := by
  by_cases h : condition
  · simp only [if_pos h, requirePassedCheck, Extension.requirePassedCheck, refuseIf_eq_ok,
      revertIf_eq_ok, checkPassed_texts]
  · rw [if_neg h, if_neg h]
    exact Iff.intro (fun _ => rfl) fun _ => rfl

/-- The checks that a verified receipt needs, at both levels. -/
theorem requireChecks_texts {receipt : Extension.Receipt} {stage : LifecycleStage} {u : Unit} :
    requireChecks (textsOfReceipt receipt) stage = .ok u ↔
      Extension.requireVerifiedChecks receipt stage = .ok u := by
  have hsigned : ((textsOfReceipt receipt).events.any fun event =>
      event.extensionSignature.isSome) =
        receipt.events.any fun event => event.extensionSignature.isSome := by
    simp [textsOfReceipt, textsOfEvent, Function.comp_def]
  have hanchored : ((textsOfReceipt receipt).events.any fun event => event.chainAnchor.isSome) =
      receipt.events.any fun event => event.chainAnchor.isSome := by
    simp [textsOfReceipt, textsOfEvent, Function.comp_def]
  have hstate : (textsOfReceipt receipt).verification =
      textsOfVerification receipt.verification := rfl
  simp only [requireChecks, Extension.requireVerifiedChecks, bind_eq_ok, hsigned, hanchored, hstate,
    requirePassedCheck_texts]

theorem requiredChecks_texts {receipt : Extension.Receipt} {stage : LifecycleStage} {u : Unit} :
    (if (textsOfReceipt receipt).verification.result = .verified then
      requireChecks (textsOfReceipt receipt) stage else .ok ()) = .ok u ↔
    (if receipt.verification.result = .verified then
      Extension.requireVerifiedChecks receipt stage else .ok ()) = .ok u := by
  have hresult : (textsOfReceipt receipt).verification.result = receipt.verification.result := rfl
  rw [hresult]
  by_cases h : receipt.verification.result = .verified
  · rw [if_pos h, if_pos h]
    exact requireChecks_texts
  · rw [if_neg h, if_neg h]
    exact Iff.intro (fun _ => rfl) fun _ => rfl

/-- The loop over the events, at both levels. -/
theorem validateReceiptEvents_texts {receipt : Extension.Receipt}
    {events : List SubmittedIt.LifecycleEventEnvelope}
    (hhashed : ∀ event ∈ events, Hashed W.toReceiptPlatform keccak256 (textsOfEvent event))
    {index index' : Nat} :
    validateReceiptEvents W.toReceiptPlatform keccak256 (textsOfReceipt receipt)
        (events.map textsOfEvent) index = .ok () ↔
      Extension.validateReceiptEvents (onTexts W keccak256 C P) receipt index' events = .ok () := by
  induction events generalizing index index' with
  | nil => exact ⟨fun _ => rfl, fun _ => rfl⟩
  | cons event events ih =>
    obtain ⟨hfirst, hrest⟩ := List.forall_mem_cons.mp hhashed
    have hid : (textsOfEvent event).core.receiptId = (textsOfReceipt receipt).receiptId ↔
        event.core.receiptId = receipt.receiptId := hashText_eq_iff
    have hversion : (textsOfEvent event).core.schemaVersion =
        (textsOfReceipt receipt).schemaVersion ↔
          event.core.schemaVersion = receipt.schemaVersion := versionText_injective.eq_iff
    rw [List.map_cons, validateReceiptEvents, Extension.validateReceiptEvents]
    simp only [bind_eq_ok, exists_const, refuseIf_eq_ok, revertIf_eq_ok, not_not, hid, hversion]
    refine and_congr Iff.rfl (and_congr Iff.rfl (exists_congr fun u => and_congr ?_ ?_))
    · exact validateEnvelopePayloads_texts hfirst
    · exact ih hrest

theorem chainId_texts {receipt : Extension.Receipt} {result : ReceiptCore.EventChainResult} :
    (∃ id ∈ (textsOfResult result).receiptId, id ≠ (textsOfReceipt receipt).receiptId) ↔
      (result.receiptId.any fun id => id ≠ receipt.receiptId) = true := by
  show (∃ id ∈ result.receiptId.map hashText, id ≠ hashText receipt.receiptId) ↔ _
  rcases result.receiptId with - | id
  · simp
  · simp [hashText_eq_iff]

theorem lastSigned_texts {receipt : Extension.Receipt} :
    (¬∃ event ∈ (textsOfReceipt receipt).events.getLast?,
      event.authoritySignature.isSome = true) ↔
        (receipt.events.getLast?.bind fun event => event.authoritySignature) = none := by
  show (¬∃ event ∈ (receipt.events.map textsOfEvent).getLast?, _) ↔ _
  rw [List.getLast?_map]
  rcases receipt.events.getLast? with - | event
  · simp
  · simp [textsOfEvent]

/-- **Receipts are accepted alike.** -/
theorem validateReceipt_texts {receipt : Extension.Receipt}
    (hparsed : parseReceiptStructure W.toReceiptPlatform (textsOfReceipt receipt).value
      (ascii "$") = .ok (textsOfReceipt receipt)) :
    validateReceipt W.toReceiptPlatform keccak256 (textsOfReceipt receipt).value =
        .ok (textsOfReceipt receipt) ↔
      Extension.validateReceipt (onTexts W keccak256 C P) receipt = .ok receipt := by
  have hparts := normal_of_parsed hparsed
  have hnormal : ∀ event ∈ receipt.events, Normal W.toReceiptPlatform (textsOfEvent event) :=
    fun event hevent => hparts _ (List.mem_map_of_mem hevent)
  obtain ⟨value, -, hfields⟩ := parseReceiptStructure_eq_ok.mp hparsed
  obtain ⟨-, -, -, -, -, -, -, -, hstate⟩ := hfields []
  have hverification := parseVerificationState_typed (parseVerificationState_eq_ok.mp hstate).1
    "$.verification"
  have hchain {result} : validateEventChain W.toReceiptPlatform keccak256
      ((textsOfReceipt receipt).events.map (·.value)) = .ok result ↔ _ :=
    validateEventChain_texts hnormal
  have hhashed {result} (h : validateEventChain W.toReceiptPlatform keccak256
      ((textsOfReceipt receipt).events.map (·.value)) = .ok result) :
      ∀ event ∈ receipt.events, Hashed W.toReceiptPlatform keccak256 (textsOfEvent event) :=
    fun event hevent => ⟨hnormal event hevent,
      (legal_of_chain hparts h).1.hashed _ (List.mem_map_of_mem hevent)⟩
  rw [validateReceipt_eq_ok]
  simp only [checkReceipt, Extension.validateReceipt, bind_eq_ok, exists_const, refuseIf_eq_ok,
    revertIf_eq_ok, hparsed, true_and, hverification]
  constructor
  · rintro ⟨_, h, hid, _, hevents, hstage, hstatus, hsigned, hrequired⟩
    obtain ⟨result, htyped, rfl⟩ := hchain.mp h
    refine ⟨result, htyped, fun hother => hid (chainId_texts.mpr hother), (),
      (validateReceiptEvents_texts (hhashed h)).mp hevents, hstage, ?_, ?_, (), ?_, rfl⟩
    · rw [← deriveReceiptStatus_texts]
      exact hstatus
    · exact fun hnone => hsigned ⟨hnone.1, lastSigned_texts.mpr hnone.2⟩
    · exact requiredChecks_texts.mp hrequired
  · rintro ⟨result, htyped, hid, _, hevents, hstage, hstatus, hsigned, _, hrequired, -⟩
    have h := hchain.mpr ⟨result, htyped, rfl⟩
    refine ⟨_, h, fun hother => hid (chainId_texts.mp hother), (),
      (validateReceiptEvents_texts (hhashed h)).mpr hevents, hstage, ?_, ?_, ?_⟩
    · rw [← deriveReceiptStatus_texts] at hstatus
      exact hstatus
    · exact fun hnone => hsigned ⟨hnone.1, lastSigned_texts.mp hnone.2⟩
    · exact requiredChecks_texts.mpr hrequired

/-! ### The receipt of a bundle -/

theorem parseVerificationCheck_bare (check : Extension.VerificationCheckName)
    (result : Extension.VerificationCheckResult) (q : Text) :
    parseVerificationCheck Q (checkValue check result) q = .ok ⟨check, none, result⟩ := by
  cases check <;> cases result <;> rfl

/-- A check without a detail. -/
def bareCheck (check : Extension.VerificationCheckName × Extension.VerificationCheckResult) :
    VerificationCheck :=
  ⟨check.1, none, check.2⟩

/-- **Lists of checks are compared by their canonical texts.** -/
theorem sameCanonical_checkValues
    (first second : List (Extension.VerificationCheckName × Extension.VerificationCheckResult)) :
    sameCanonical W (.array (first.map fun check => checkValue check.1 check.2))
        (.array (second.map fun check => checkValue check.1 check.2)) =
      .ok (decide (first = second)) := by
  have hwritten (checks : List (Extension.VerificationCheckName ×
      Extension.VerificationCheckResult)) :
      JsValue.array (checks.map fun check => checkValue check.1 check.2) =
        writeList VerificationCheck.value (checks.map bareCheck) := by
    rw [writeList, List.map_map]
    rfl
  have hread (checks : List (Extension.VerificationCheckName ×
      Extension.VerificationCheckResult)) :
      parseList (parseVerificationCheck W.toReceiptPlatform)
        (writeList VerificationCheck.value (checks.map bareCheck)) [] =
          .ok (checks.map bareCheck) := by
    refine (parseList_eq_ok parseVerificationCheck_parses.anywhere).mpr ⟨_, rfl, ?_⟩
    rw [List.forall₂_map_left_iff, List.forall₂_same]
    intro check hcheck
    obtain ⟨pair, -, rfl⟩ := List.mem_map.mp hcheck
    exact parseVerificationCheck_bare pair.1 pair.2
  have hinjective : Function.Injective bareCheck := by
    intro pair pair' h
    exact Prod.ext (congrArg VerificationCheck.check h) (congrArg VerificationCheck.result h)
  rw [hwritten, hwritten,
    sameCanonical_parsed (parseList_parses parseVerificationCheck_parses) (hread first)
      (hread second)]
  exact congrArg Except.ok (decide_eq_decide.mpr hinjective.list_map.eq_iff)

/-- The expected checks, at both levels. -/
theorem expectedVerificationChecks_texts (events : List SubmittedIt.LifecycleEventEnvelope) :
    ((Extension.expectedVerificationChecks events).map fun check => (check.check, check.result)) =
      (expectedVerificationChecks (events.map textsOfEvent)).map fun check => (check, .passed) := by
  have hanchored : ((events.map textsOfEvent).any fun event => event.chainAnchor.isSome) =
      events.any fun event => event.chainAnchor.isSome := by
    simp [textsOfEvent, Function.comp_def]
  simp only [Extension.expectedVerificationChecks, expectedVerificationChecks, hanchored]
  split_ifs <;> rfl

/-- The comparison of the checks with the expected ones, at both levels. -/
theorem sameChecks_texts (receipt : Extension.Receipt) :
    sameCanonical W
        (.array ((textsOfReceipt receipt).verification.checks.map fun check =>
          checkValue check.check check.result))
        (.array ((expectedVerificationChecks (textsOfReceipt receipt).events).map fun check =>
          checkValue check .passed)) = .ok true ↔
      (receipt.verification.checks.map fun check => (check.check, check.result)) =
        (Extension.expectedVerificationChecks receipt.events).map
          fun check => (check.check, check.result) := by
  have hchecks : ((textsOfReceipt receipt).verification.checks.map fun check =>
      checkValue check.check check.result) =
        (receipt.verification.checks.map fun check => (check.check, check.result)).map
          fun check => checkValue check.1 check.2 := by
    show (receipt.verification.checks.map textsOfCheck).map _ = _
    rw [List.map_map, List.map_map]
    rfl
  have hexpected : ((expectedVerificationChecks (textsOfReceipt receipt).events).map fun check =>
      checkValue check .passed) =
        ((Extension.expectedVerificationChecks receipt.events).map
          fun check => (check.check, check.result)).map
            fun check => checkValue check.1 check.2 := by
    rw [expectedVerificationChecks_texts, List.map_map]
    rfl
  rw [hchecks, hexpected, sameCanonical_checkValues, Except.ok.injEq, decide_eq_true_eq]

/-- **What verification checks of the receipt of a bundle**, at both levels. -/
theorem verifiedReceipt_texts {receipt : Extension.Receipt}
    (hparsed : parseReceiptStructure W.toReceiptPlatform (textsOfReceipt receipt).value
      (ascii "$") = .ok (textsOfReceipt receipt)) :
    Extension.VerifiedReceipt (onTexts W keccak256 C P) receipt ↔
      validateReceipt W.toReceiptPlatform keccak256 (textsOfReceipt receipt).value =
        .ok (textsOfReceipt receipt) ∧
      (∀ event ∈ (textsOfReceipt receipt).events,
        event.extensionSignature.isSome = true ∧ event.authoritySignature = none) ∧
      (textsOfReceipt receipt).verification.result = .verified ∧
      sameCanonical W
        (.array ((textsOfReceipt receipt).verification.checks.map fun check =>
          checkValue check.check check.result))
        (.array ((expectedVerificationChecks (textsOfReceipt receipt).events).map fun check =>
          checkValue check .passed)) = .ok true ∧
      (∃ chain, validateEventChain W.toReceiptPlatform keccak256
        ((textsOfReceipt receipt).events.map (·.value)) = .ok chain) ∧
      ((textsOfReceipt receipt).events.all fun event =>
        verifyExtensionEventSignature W keccak256 C event.value
          (textsOfReceipt receipt).extensionPublicKey.write) = true := by
  have hparts := normal_of_parsed hparsed
  have hnormal : ∀ event ∈ receipt.events, Normal W.toReceiptPlatform (textsOfEvent event) :=
    fun event hevent => hparts _ (List.mem_map_of_mem hevent)
  obtain ⟨value, -, hfields⟩ := parseReceiptStructure_eq_ok.mp hparsed
  obtain ⟨-, -, -, -, -, hfield, -⟩ := hfields []
  have hkey : ∀ q, parsePublicKeyDescriptor W.toReceiptPlatform
      (textsOfKey receipt.extensionPublicKey).write q =
        .ok (textsOfKey receipt.extensionPublicKey) :=
    parsePublicKeyDescriptor_parses.again hfield
  have hsigned : (∀ event ∈ (textsOfReceipt receipt).events,
      event.extensionSignature.isSome = true ∧ event.authoritySignature = none) ↔
        ∀ event ∈ receipt.events,
          event.extensionSignature ≠ none ∧ event.authoritySignature = none := by
    simp [textsOfReceipt, textsOfEvent, Option.isSome_iff_ne_none]
  have hchain : (∃ chain, validateEventChain W.toReceiptPlatform keccak256
      ((textsOfReceipt receipt).events.map (·.value)) = .ok chain) ↔
        ∃ result, ReceiptCore.validateEventChain Except.ok (onTexts W keccak256 C P).keccak
          receipt.events = .ok result := by
    constructor
    · rintro ⟨_, h⟩
      obtain ⟨result, htyped, -⟩ := (validateEventChain_texts hnormal).mp h
      exact ⟨result, htyped⟩
    · rintro ⟨result, htyped⟩
      exact ⟨_, (validateEventChain_texts hnormal).mpr ⟨result, htyped, rfl⟩⟩
  have hverified : ((textsOfReceipt receipt).events.all fun event =>
      verifyExtensionEventSignature W keccak256 C event.value
        (textsOfReceipt receipt).extensionPublicKey.write) = true ↔
          ∀ event ∈ receipt.events, Extension.verifyExtensionEventSignature
            (onTexts W keccak256 C P) event receipt.extensionPublicKey = true := by
    show ((receipt.events.map textsOfEvent).all _) = true ↔ _
    rw [List.all_map, List.all_eq_true]
    refine forall₂_congr fun event hevent => ?_
    rw [← verifyExtensionEventSignature_texts (hnormal event hevent) hkey]
    exact Iff.rfl
  rw [hsigned, hchain, hverified, sameChecks_texts, validateReceipt_texts hparsed]
  constructor
  · rintro ⟨hvalid, hall, hresult, hchecks, hlinked, hsignatures⟩
    exact ⟨hvalid, hall, hresult, hchecks, hlinked, hsignatures⟩
  · rintro ⟨hvalid, hall, hresult, hchecks, hlinked, hsignatures⟩
    exact ⟨hvalid, hall, hresult, hchecks, hlinked, hsignatures⟩

end laws

/-! ### A receipt of one event -/

def typedField : SubmittedIt.CapturedField :=
  .value .text (ascii "a") (ascii "n") [ascii "x", ascii "y"]

def typedExcluded : SubmittedIt.ExcludedFieldDescriptor :=
  ⟨.password, ascii "p", none, .password⟩

theorem typedField_consent : (∃ field ∈ [typedField], field.isFile = true) → false = true := by
  rintro ⟨field, hfield, hfile⟩
  obtain rfl := List.mem_singleton.mp hfield
  exact hfile

theorem typedField_disjoint : ∀ field ∈ [typedField], ∀ excluded ∈ [typedExcluded],
    field.fieldId ≠ excluded.fieldId := by
  decide

def typedPage : Url := ⟨⟨true, ascii "a.example", none⟩, ascii "/", none⟩

def typedEvent : SubmittedIt.LifecycleEventEnvelope where
  authoritySignature := none
  chainAnchor := none
  core := {
    occurredAt := 1767225600000
    previousEventHash := ZERO_HASH
    receiptId := 0x1111111111111111111111111111111111111111111111111111111111111111
    schemaVersion := CURRENT_SCHEMA_VERSION
    body := .attempted {
      capturedFields := [typedField]
      excludedFields := [typedExcluded]
      formDescriptor := ⟨typedPage, .textPlain, none, none, ascii "POST"⟩
      origin := ⟨typedPage.origin, typedPage, rfl⟩
      fileMetadataIncluded := false
      submissionAttempt := ⟨.textPlain, ascii "POST", typedPage, .formSubmit⟩
      captured_nodup := List.nodup_singleton _
      excluded_nodup := List.nodup_singleton _
      consent := typedField_consent
      disjoint := typedField_disjoint } }
  eventHash := sampleHash
  extensionSignature := none
  authority_stage := nofun

/-- The attempted receipt, typed. -/
def typedReceipt : Extension.Receipt where
  createdAt := 1767225600000
  currentStage := .entered .attempted
  derivedStatus := .pendingAcceptance
  events := [typedEvent]
  extensionPublicKey := ⟨ascii "key", ascii "AA"⟩
  receiptId := 0x1111111111111111111111111111111111111111111111111111111111111111
  schemaVersion := CURRENT_SCHEMA_VERSION
  verification := ⟨[], .notVerified, none⟩

theorem typedReceipt_texts : textsOfReceipt typedReceipt = attemptedReceipt := by
  decide +kernel

/-- The receipt is accepted as texts, so its typed form is. -/
theorem typedReceipt_accepted (P : Extension.StoragePlatform) :
    Extension.validateReceipt (onTexts sampleWebPlatform (fun _ => sampleHash) sampleCrypto P)
      typedReceipt = .ok typedReceipt := by
  have hvalid : validateReceipt sampleReceiptPlatform (fun _ => sampleHash)
      (textsOfReceipt typedReceipt).value = .ok (textsOfReceipt typedReceipt) := by
    rw [typedReceipt_texts]
    decide +kernel
  exact (validateReceipt_texts (W := sampleWebPlatform) (validateReceipt_eq_ok.mp hvalid).1).mp
    hvalid

end SubmittedIt.Protocol
