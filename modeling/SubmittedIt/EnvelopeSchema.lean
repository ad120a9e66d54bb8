/-
SubmittedIt/EnvelopeSchema.lean

The parsers of event envelopes and receipts (packages/receipt-core, schema.ts).

As for event cores, every record is parsed to itself and told apart by its
canonical form.

Main results: `parseEventEnvelope_parses` and `parseReceiptStructure_parses`.
-/
import SubmittedIt.EventCores

namespace SubmittedIt.Protocol

open JsValue (member hasOwn)

open Extension (VerificationCheckName VerificationCheckResult VerificationResult
  DerivedReceiptStatus)

/-! ### Signatures and anchors -/

def keyAlgorithmText (_ : Unit) : Text := ascii "ECDSA_P256_SHA256"

def keyEncodingText (_ : Unit) : Text := ascii "SPKI_BASE64URL"

def signatureEncodingText (_ : Unit) : Text := ascii "P1363_BASE64URL"

/-- `PublicKeyDescriptor`; its algorithm and encoding are fixed. -/
@[ext] structure PublicKeyDescriptor where
  keyId : Text
  value : Text
  deriving DecidableEq

def PublicKeyDescriptor.write (key : PublicKeyDescriptor) : JsValue :=
  record [(ascii "algorithm", writeEnum keyAlgorithmText ()),
    (ascii "encoding", writeEnum keyEncodingText ()), (ascii "keyId", .string key.keyId),
    (ascii "value", .string key.value)]

/-- `SignatureEnvelope`; its algorithm and encoding are fixed. -/
@[ext] structure SignatureEnvelope where
  keyId : Text
  payloadHash : Text
  signature : Text
  signer : SignatureSigner
  deriving DecidableEq

def SignatureEnvelope.value (envelope : SignatureEnvelope) : JsValue :=
  record [(ascii "algorithm", writeEnum keyAlgorithmText ()),
    (ascii "encoding", writeEnum signatureEncodingText ()),
    (ascii "keyId", .string envelope.keyId), (ascii "payloadHash", .string envelope.payloadHash),
    (ascii "signature", .string envelope.signature),
    (ascii "signer", writeEnum signatureSignerText envelope.signer)]

/-- `ChainAnchorMetadata`. -/
@[ext] structure ChainAnchorMetadata where
  anchoredAt : Text
  blockNumber : Text
  chainId : Nat
  contractAddress : Text
  transactionHash : Text
  deriving DecidableEq

def ChainAnchorMetadata.value (anchor : ChainAnchorMetadata) : JsValue :=
  record [(ascii "anchoredAt", .string anchor.anchoredAt),
    (ascii "blockNumber", .string anchor.blockNumber), (ascii "chainId", writeNat anchor.chainId),
    (ascii "contractAddress", .string anchor.contractAddress),
    (ascii "transactionHash", .string anchor.transactionHash)]

/-- `LifecycleEventEnvelope`. -/
@[ext] structure LifecycleEventEnvelope where
  authoritySignature : Option SignatureEnvelope
  chainAnchor : Option ChainAnchorMetadata
  core : LifecycleEventCore
  eventHash : Text
  extensionSignature : Option SignatureEnvelope
  deriving DecidableEq

def LifecycleEventEnvelope.value (event : LifecycleEventEnvelope) : JsValue :=
  record [(ascii "authoritySignature",
      writeOption SignatureEnvelope.value event.authoritySignature),
    (ascii "chainAnchor", writeOption ChainAnchorMetadata.value event.chainAnchor),
    (ascii "core", event.core.value), (ascii "eventHash", .string event.eventHash),
    (ascii "extensionSignature", writeOption SignatureEnvelope.value event.extensionSignature)]

/-! ### Verification states and receipts -/

def verificationCheckNameText : VerificationCheckName → Text
  | .decryption => ascii "DECRYPTION"
  | .schema => ascii "SCHEMA"
  | .eventHash => ascii "EVENT_HASH"
  | .eventLink => ascii "EVENT_LINK"
  | .extensionSignature => ascii "EXTENSION_SIGNATURE"
  | .authoritySignature => ascii "AUTHORITY_SIGNATURE"
  | .chainAnchor => ascii "CHAIN_ANCHOR"

/-- `VERIFICATION_CHECK_NAMES`. -/
def VERIFICATION_CHECK_NAMES : List VerificationCheckName :=
  [.decryption, .schema, .eventHash, .eventLink, .extensionSignature, .authoritySignature,
    .chainAnchor]

def verificationCheckResultText : VerificationCheckResult → Text
  | .notRun => ascii "NOT_RUN"
  | .passed => ascii "PASSED"
  | .failed => ascii "FAILED"

/-- `VERIFICATION_RESULTS`. -/
def VERIFICATION_RESULTS : List VerificationCheckResult := [.notRun, .passed, .failed]

def verificationResultName : VerificationResult → Text
  | .notVerified => ascii "NOT_VERIFIED"
  | .verified => ascii "VERIFIED"
  | .failed => ascii "FAILED"

def lifecycleStageText : LifecycleStage → Text
  | .none => ascii "NONE"
  | .entered stage => eventStageText stage

/-- `LIFECYCLE_STAGES`. -/
def LIFECYCLE_STAGES : List LifecycleStage := .none :: EVENT_STAGES.map .entered

def derivedReceiptStatusText : DerivedReceiptStatus → Text
  | .prepared => ascii "PREPARED"
  | .pendingAcceptance => ascii "PENDING_ACCEPTANCE"
  | .accepted => ascii "ACCEPTED"
  | .rejected => ascii "REJECTED"
  | .verificationFailed => ascii "VERIFICATION_FAILED"

/-- `DERIVED_RECEIPT_STATUSES`. -/
def DERIVED_RECEIPT_STATUSES : List DerivedReceiptStatus :=
  [.prepared, .pendingAcceptance, .accepted, .rejected, .verificationFailed]

/-- `VerificationCheck`. -/
@[ext] structure VerificationCheck where
  check : VerificationCheckName
  detail : Option Text
  result : VerificationCheckResult
  deriving DecidableEq

def VerificationCheck.value (check : VerificationCheck) : JsValue :=
  record [(ascii "check", writeEnum verificationCheckNameText check.check),
    (ascii "detail", writeOption .string check.detail),
    (ascii "result", writeEnum verificationCheckResultText check.result)]

/-- `VerificationState`. -/
@[ext] structure VerificationState where
  checks : List VerificationCheck
  result : VerificationResult
  verifiedAt : Option Text
  deriving DecidableEq

def VerificationState.value (state : VerificationState) : JsValue :=
  record [(ascii "checks", writeList VerificationCheck.value state.checks),
    (ascii "result", writeEnum verificationResultName state.result),
    (ascii "verifiedAt", writeOption .string state.verifiedAt)]

/-- `Receipt`. -/
@[ext] structure Receipt where
  createdAt : Text
  currentStage : LifecycleStage
  derivedStatus : DerivedReceiptStatus
  events : List LifecycleEventEnvelope
  extensionPublicKey : PublicKeyDescriptor
  receiptId : Text
  schemaVersion : Text
  verification : VerificationState
  deriving DecidableEq

def Receipt.value (receipt : Receipt) : JsValue :=
  record [(ascii "createdAt", .string receipt.createdAt),
    (ascii "currentStage", writeEnum lifecycleStageText receipt.currentStage),
    (ascii "derivedStatus", writeEnum derivedReceiptStatusText receipt.derivedStatus),
    (ascii "events", writeList LifecycleEventEnvelope.value receipt.events),
    (ascii "extensionPublicKey", receipt.extensionPublicKey.write),
    (ascii "receiptId", .string receipt.receiptId),
    (ascii "schemaVersion", .string receipt.schemaVersion),
    (ascii "verification", receipt.verification.value)]

/-! ### Parsers -/

section schema

variable (Q : ReceiptPlatform)

/-- `parsePublicKeyDescriptor`. -/
def parsePublicKeyDescriptor (input : JsValue) (path : Text) :
    Except ReceiptProtocolError PublicKeyDescriptor := do
  let value ← asRecord input path
  assertKeys value ["algorithm", "encoding", "keyId", "value"] [] path
  let _ ← field (parseEnum [()] keyAlgorithmText) "algorithm" value path
  let _ ← field (parseEnum [()] keyEncodingText) "encoding" value path
  let keyId ← field (normalizeNonEmptyText Q) "keyId" value path
  let key ← field normalizeBase64Url "value" value path
  return { keyId, value := key }

/-- `parseSignatureEnvelope`. -/
def parseSignatureEnvelope (input : JsValue) (path : Text) :
    Except ReceiptProtocolError SignatureEnvelope := do
  let value ← asRecord input path
  assertKeys value ["algorithm", "encoding", "keyId", "payloadHash", "signature", "signer"] [] path
  let _ ← field (parseEnum [()] keyAlgorithmText) "algorithm" value path
  let _ ← field (parseEnum [()] signatureEncodingText) "encoding" value path
  let keyId ← field (normalizeNonEmptyText Q) "keyId" value path
  let payloadHash ← field normalizeHash "payloadHash" value path
  let signature ← field normalizeBase64Url "signature" value path
  let signer ← field (parseEnum [.extension, .authority] signatureSignerText) "signer" value path
  return { keyId, payloadHash, signature, signer }

/-- `parseChainAnchorMetadata`. -/
def parseChainAnchorMetadata (input : JsValue) (path : Text) :
    Except ReceiptProtocolError ChainAnchorMetadata := do
  let value ← asRecord input path
  assertKeys value ["anchoredAt", "blockNumber", "chainId", "contractAddress", "transactionHash"] []
    path
  let anchoredAt ← field normalizeTimestamp "anchoredAt" value path
  let blockNumber ← field normalizeDecimalString "blockNumber" value path
  let chainId ← field normalizePositiveSafeInteger "chainId" value path
  let contractAddress ← field normalizeAddress "contractAddress" value path
  let transactionHash ← field normalizeHash "transactionHash" value path
  return { anchoredAt, blockNumber, chainId, contractAddress, transactionHash }

/-- `parseEventEnvelope`. -/
def parseEventEnvelope (input : JsValue) (path : Text) :
    Except ReceiptProtocolError LifecycleEventEnvelope := do
  let value ← asRecord input path
  assertKeys value ["core", "eventHash"] ["authoritySignature", "chainAnchor", "extensionSignature"]
    path
  let core ← field (parseEventCore Q) "core" value path
  let extensionSignature ← optionalField (parseSignatureEnvelope Q) "extensionSignature" value path
  let authoritySignature ← optionalField (parseSignatureEnvelope Q) "authoritySignature" value path
  refuseIf (∃ signature ∈ extensionSignature, signature.signer ≠ .extension) "SIGNER_ROLE_MISMATCH"
    (ascii "extensionSignature must use signer EXTENSION.")
    (path ++ ascii ".extensionSignature.signer")
  refuseIf (∃ signature ∈ authoritySignature, signature.signer ≠ .authority) "SIGNER_ROLE_MISMATCH"
    (ascii "authoritySignature must use signer AUTHORITY.")
    (path ++ ascii ".authoritySignature.signer")
  refuseIf (authoritySignature.isSome = true ∧ core.stage.isAuthority = false)
    "AUTHORITY_SIGNATURE_STAGE_MISMATCH"
    (ascii "authoritySignature is permitted only on authority events.") path
  let chainAnchor ← optionalField parseChainAnchorMetadata "chainAnchor" value path
  let eventHash ← field normalizeHash "eventHash" value path
  return { authoritySignature, chainAnchor, core, eventHash, extensionSignature }

/-- `parseVerificationCheck`. -/
def parseVerificationCheck (input : JsValue) (path : Text) :
    Except ReceiptProtocolError VerificationCheck := do
  let value ← asRecord input path
  assertKeys value ["check", "result"] ["detail"] path
  let check ← field (parseEnum VERIFICATION_CHECK_NAMES verificationCheckNameText) "check" value
    path
  let detail ← optionalField (normalizeOptionalText Q) "detail" value path
  let result ← field (parseEnum VERIFICATION_RESULTS verificationCheckResultText) "result" value
    path
  return { check, detail, result }

/-- The order of checks. -/
def compareChecks (first second : VerificationCheck) : Ordering :=
  compareCanonicalText (verificationCheckNameText first.check)
    (verificationCheckNameText second.check)

/-- No check is there twice. -/
def assertDistinctChecks (checks : List VerificationCheck) (path : Text) :
    Except ReceiptProtocolError Unit :=
  match firstRepeated [] (checks.map fun check => verificationCheckNameText check.check) with
  | some name => protocolError "DUPLICATE_VERIFICATION_CHECK"
      (ascii "contains duplicate check " ++ name ++ ascii ".") (path ++ ascii ".checks")
  | none => .ok ()

/-- `parseVerificationState`. -/
def parseVerificationState (input : JsValue) (path : Text) :
    Except ReceiptProtocolError VerificationState := do
  let value ← asRecord input path
  assertKeys value ["checks", "result"] ["verifiedAt"] path
  let parsed ← field (parseList (parseVerificationCheck Q)) "checks" value path
  let checks := JsValue.sortBy compareChecks parsed
  assertDistinctChecks checks path
  let result ← field (parseEnum [.notVerified, .verified, .failed] verificationResultName) "result"
    value path
  let hasFailure := checks.any fun check => check.result = .failed
  let allPassed := checks.length > 0 && checks.all fun check => check.result = .passed
  refuseIf (result = .failed ∧ hasFailure = false) "VERIFICATION_STATE_MISMATCH"
    (ascii "FAILED requires a failed check.") path
  refuseIf (result = .verified ∧ allPassed = false) "VERIFICATION_STATE_MISMATCH"
    (ascii "VERIFIED requires all checks to pass.") path
  refuseIf (result = .notVerified ∧ hasFailure = true) "VERIFICATION_STATE_MISMATCH"
    (ascii "NOT_VERIFIED cannot contain a failed check.") path
  refuseIf (result ≠ .notVerified ∧ hasOwn (ascii "verifiedAt") value = false)
    "MISSING_VERIFICATION_TIME" (verificationResultName result ++ ascii " requires verifiedAt.")
    path
  let verifiedAt ← optionalField normalizeTimestamp "verifiedAt" value path
  return { checks, result, verifiedAt }

/-- `parseReceiptStructure`. -/
def parseReceiptStructure (input : JsValue) (path : Text) :
    Except ReceiptProtocolError Receipt := do
  let value ← asRecord input path
  assertKeys value ["createdAt", "currentStage", "derivedStatus", "events", "extensionPublicKey",
    "receiptId", "schemaVersion", "verification"] [] path
  let createdAt ← field normalizeTimestamp "createdAt" value path
  let currentStage ← field (parseEnum LIFECYCLE_STAGES lifecycleStageText) "currentStage" value path
  let derivedStatus ← field (parseEnum DERIVED_RECEIPT_STATUSES derivedReceiptStatusText)
    "derivedStatus" value path
  let events ← field (parseList (parseEventEnvelope Q)) "events" value path
  let extensionPublicKey ← field (parsePublicKeyDescriptor Q) "extensionPublicKey" value path
  let receiptId ← field normalizeHash "receiptId" value path
  let schemaVersion ← field normalizeSchemaVersion "schemaVersion" value path
  let verification ← field (parseVerificationState Q) "verification" value path
  return {
    createdAt, currentStage, derivedStatus, events, extensionPublicKey, receiptId, schemaVersion,
    verification }

end schema

/-! ### Enumerations -/

section laws

variable {Q : ReceiptPlatform}

theorem unitText_parses {text : Unit → Text} (h : isVisible (text ()) = true) :
    Parses Q (parseEnum [()] text) (writeEnum text) :=
  parseEnum_parses _ (fun _ _ _ => rfl) fun _ => h

theorem signatureSigner_parses :
    Parses Q (parseEnum [.extension, .authority] signatureSignerText)
      (writeEnum signatureSignerText) :=
  parseEnum_parses _ (injective_of_nodup [.extension, .authority]
    (by rintro (_ | _) <;> decide) (by decide)) (by rintro (_ | _) <;> rfl)

theorem verificationCheckNameText_injective : Function.Injective verificationCheckNameText :=
  injective_of_nodup VERIFICATION_CHECK_NAMES (by rintro (_ | _) <;> decide) (by decide)

theorem verificationCheckName_parses :
    Parses Q (parseEnum VERIFICATION_CHECK_NAMES verificationCheckNameText)
      (writeEnum verificationCheckNameText) :=
  parseEnum_parses _ verificationCheckNameText_injective (by rintro (_ | _) <;> rfl)

theorem verificationCheckResult_parses :
    Parses Q (parseEnum VERIFICATION_RESULTS verificationCheckResultText)
      (writeEnum verificationCheckResultText) :=
  parseEnum_parses _ (injective_of_nodup VERIFICATION_RESULTS
    (by rintro (_ | _) <;> decide) (by decide)) (by rintro (_ | _) <;> rfl)

theorem verificationResult_parses :
    Parses Q (parseEnum [.notVerified, .verified, .failed] verificationResultName)
      (writeEnum verificationResultName) :=
  parseEnum_parses _ (injective_of_nodup [.notVerified, .verified, .failed]
    (by rintro (_ | _) <;> decide) (by decide)) (by rintro (_ | _) <;> rfl)

theorem lifecycleStage_parses :
    Parses Q (parseEnum LIFECYCLE_STAGES lifecycleStageText) (writeEnum lifecycleStageText) :=
  parseEnum_parses _ (injective_of_nodup LIFECYCLE_STAGES
    (by rintro (_ | _ | _) <;> decide) (by decide)) (by rintro (_ | _ | _) <;> rfl)

theorem derivedReceiptStatus_parses :
    Parses Q (parseEnum DERIVED_RECEIPT_STATUSES derivedReceiptStatusText)
      (writeEnum derivedReceiptStatusText) :=
  parseEnum_parses _ (injective_of_nodup DERIVED_RECEIPT_STATUSES
    (by rintro (_ | _) <;> decide) (by decide)) (by rintro (_ | _) <;> rfl)

/-! ### Signatures and anchors -/

theorem parsePublicKeyDescriptor_eq_ok {v : JsValue} {p : Text} {x : PublicKeyDescriptor} :
    parsePublicKeyDescriptor Q v p = .ok x ↔ ∃ value, v = .object value ∧ ∀ q,
      assertKeys value ["algorithm", "encoding", "keyId", "value"] [] q = .ok () ∧
      field (parseEnum [()] keyAlgorithmText) "algorithm" value q = .ok () ∧
      field (parseEnum [()] keyEncodingText) "encoding" value q = .ok () ∧
      field (normalizeNonEmptyText Q) "keyId" value q = .ok x.keyId ∧
      field normalizeBase64Url "value" value q = .ok x.value := by
  simp only [parsePublicKeyDescriptor, Transaction.bind_eq_ok, asRecord_eq_ok]
  constructor
  · rintro ⟨value, hvalue, _, hkeys, _, h1, _, h2, keyId, h3, text, h4, h⟩
    obtain rfl := Except.ok.inj h
    refine ⟨value, hvalue, fun q => ⟨assertKeys_anywhere hkeys q, ?_, ?_, ?_, ?_⟩⟩
    · exact field_anywhere (unitText_parses (Q := Q) rfl).anywhere h1 q
    · exact field_anywhere (unitText_parses (Q := Q) rfl).anywhere h2 q
    · exact field_anywhere normalizeNonEmptyText_parses.anywhere h3 q
    · exact field_anywhere normalizeBase64Url_pathless h4 q
  · rintro ⟨value, hvalue, h⟩
    obtain ⟨hkeys, h1, h2, h3, h4⟩ := h p
    exact ⟨value, hvalue, (), hkeys, _, h1, _, h2, _, h3, _, h4, rfl⟩

theorem parsePublicKeyDescriptor_parses :
    Parses Q (parsePublicKeyDescriptor Q) PublicKeyDescriptor.write where
  anywhere _ _ _ h _ := parsePublicKeyDescriptor_eq_ok.mpr (parsePublicKeyDescriptor_eq_ok.mp h)
  again {v p x} h q := by
    obtain ⟨value, -, h⟩ := parsePublicKeyDescriptor_eq_ok.mp h
    obtain ⟨-, h1, h2, h3, h4⟩ := h p
    refine parsePublicKeyDescriptor_eq_ok.mpr
      ⟨_, rfl, fun q => ⟨assertKeys_fits rfl q, ?_, ?_, ?_, ?_⟩⟩
    · exact field_again (unitText_parses (Q := Q) rfl) h1 rfl rfl q
    · exact field_again (unitText_parses (Q := Q) rfl) h2 rfl rfl q
    · exact field_again normalizeNonEmptyText_parses h3 rfl rfl q
    · exact field_again (normalizeBase64Url_parses (Q := Q)) h4 rfl rfl q
  canonical {v p x} h := by
    obtain ⟨value, -, h⟩ := parsePublicKeyDescriptor_eq_ok.mp h
    obtain ⟨-, h1, h2, h3, h4⟩ := h p
    refine canonical_record rfl ⟨?_, ?_, ?_, ?_, trivial⟩
    · exact field_canonical (unitText_parses (Q := Q) rfl) h1
    · exact field_canonical (unitText_parses (Q := Q) rfl) h2
    · exact field_canonical normalizeNonEmptyText_parses h3
    · exact field_canonical (normalizeBase64Url_parses (Q := Q)) h4
  distinct {v p w q x y} hx hy hsame := by
    obtain ⟨value, -, hx⟩ := parsePublicKeyDescriptor_eq_ok.mp hx
    obtain ⟨value', -, hy⟩ := parsePublicKeyDescriptor_eq_ok.mp hy
    obtain ⟨-, hx1, hx2, hx3, hx4⟩ := hx []
    obtain ⟨-, hy1, hy2, hy3, hy4⟩ := hy []
    have hkey := same_member (Q := Q) rfl rfl hsame
    have h3 := normalizeNonEmptyText_parses.distinct hx3 hy3 (hkey (ascii "keyId"))
    have h4 := (normalizeBase64Url_parses (Q := Q)).distinct hx4 hy4 (hkey (ascii "value"))
    exact PublicKeyDescriptor.ext h3 h4

theorem parseSignatureEnvelope_eq_ok {v : JsValue} {p : Text} {x : SignatureEnvelope} :
    parseSignatureEnvelope Q v p = .ok x ↔ ∃ value, v = .object value ∧ ∀ q,
      assertKeys value
        ["algorithm", "encoding", "keyId", "payloadHash", "signature", "signer"] [] q = .ok () ∧
      field (parseEnum [()] keyAlgorithmText) "algorithm" value q = .ok () ∧
      field (parseEnum [()] signatureEncodingText) "encoding" value q = .ok () ∧
      field (normalizeNonEmptyText Q) "keyId" value q = .ok x.keyId ∧
      field normalizeHash "payloadHash" value q = .ok x.payloadHash ∧
      field normalizeBase64Url "signature" value q = .ok x.signature ∧
      field (parseEnum [.extension, .authority] signatureSignerText) "signer" value q =
        .ok x.signer := by
  simp only [parseSignatureEnvelope, Transaction.bind_eq_ok, asRecord_eq_ok]
  constructor
  · rintro ⟨value, hvalue, _, hkeys, _, h1, _, h2, keyId, h3, payloadHash, h4, signature, h5,
      signer, h6, h⟩
    obtain rfl := Except.ok.inj h
    refine ⟨value, hvalue, fun q => ⟨assertKeys_anywhere hkeys q, ?_, ?_, ?_, ?_, ?_, ?_⟩⟩
    · exact field_anywhere (unitText_parses (Q := Q) rfl).anywhere h1 q
    · exact field_anywhere (unitText_parses (Q := Q) rfl).anywhere h2 q
    · exact field_anywhere normalizeNonEmptyText_parses.anywhere h3 q
    · exact field_anywhere normalizeHash_pathless h4 q
    · exact field_anywhere normalizeBase64Url_pathless h5 q
    · exact field_anywhere (signatureSigner_parses (Q := Q)).anywhere h6 q
  · rintro ⟨value, hvalue, h⟩
    obtain ⟨hkeys, h1, h2, h3, h4, h5, h6⟩ := h p
    exact ⟨value, hvalue, (), hkeys, _, h1, _, h2, _, h3, _, h4, _, h5, _, h6, rfl⟩

theorem parseSignatureEnvelope_parses :
    Parses Q (parseSignatureEnvelope Q) SignatureEnvelope.value where
  anywhere _ _ _ h _ := parseSignatureEnvelope_eq_ok.mpr (parseSignatureEnvelope_eq_ok.mp h)
  again {v p x} h q := by
    obtain ⟨value, -, h⟩ := parseSignatureEnvelope_eq_ok.mp h
    obtain ⟨-, h1, h2, h3, h4, h5, h6⟩ := h p
    refine parseSignatureEnvelope_eq_ok.mpr
      ⟨_, rfl, fun q => ⟨assertKeys_fits rfl q, ?_, ?_, ?_, ?_, ?_, ?_⟩⟩
    · exact field_again (unitText_parses (Q := Q) rfl) h1 rfl rfl q
    · exact field_again (unitText_parses (Q := Q) rfl) h2 rfl rfl q
    · exact field_again normalizeNonEmptyText_parses h3 rfl rfl q
    · exact field_again (normalizeHash_parses (Q := Q)) h4 rfl rfl q
    · exact field_again (normalizeBase64Url_parses (Q := Q)) h5 rfl rfl q
    · exact field_again (signatureSigner_parses (Q := Q)) h6 rfl rfl q
  canonical {v p x} h := by
    obtain ⟨value, -, h⟩ := parseSignatureEnvelope_eq_ok.mp h
    obtain ⟨-, h1, h2, h3, h4, h5, h6⟩ := h p
    refine canonical_record rfl ⟨?_, ?_, ?_, ?_, ?_, ?_, trivial⟩
    · exact field_canonical (unitText_parses (Q := Q) rfl) h1
    · exact field_canonical (unitText_parses (Q := Q) rfl) h2
    · exact field_canonical normalizeNonEmptyText_parses h3
    · exact field_canonical (normalizeHash_parses (Q := Q)) h4
    · exact field_canonical (normalizeBase64Url_parses (Q := Q)) h5
    · exact field_canonical (signatureSigner_parses (Q := Q)) h6
  distinct {v p w q x y} hx hy hsame := by
    obtain ⟨value, -, hx⟩ := parseSignatureEnvelope_eq_ok.mp hx
    obtain ⟨value', -, hy⟩ := parseSignatureEnvelope_eq_ok.mp hy
    obtain ⟨-, hx1, hx2, hx3, hx4, hx5, hx6⟩ := hx []
    obtain ⟨-, hy1, hy2, hy3, hy4, hy5, hy6⟩ := hy []
    have hkey := same_member (Q := Q) rfl rfl hsame
    have h3 := normalizeNonEmptyText_parses.distinct hx3 hy3 (hkey (ascii "keyId"))
    have h4 := (normalizeHash_parses (Q := Q)).distinct hx4 hy4 (hkey (ascii "payloadHash"))
    have h5 := (normalizeBase64Url_parses (Q := Q)).distinct hx5 hy5 (hkey (ascii "signature"))
    have h6 := (signatureSigner_parses (Q := Q)).distinct hx6 hy6 (hkey (ascii "signer"))
    exact SignatureEnvelope.ext h3 h4 h5 h6

theorem parseVerificationCheck_eq_ok {v : JsValue} {p : Text} {x : VerificationCheck} :
    parseVerificationCheck Q v p = .ok x ↔ ∃ value, v = .object value ∧ ∀ q,
      assertKeys value ["check", "result"] ["detail"] q = .ok () ∧
      field (parseEnum VERIFICATION_CHECK_NAMES verificationCheckNameText) "check" value q =
        .ok x.check ∧
      optionalField (normalizeOptionalText Q) "detail" value q = .ok x.detail ∧
      field (parseEnum VERIFICATION_RESULTS verificationCheckResultText) "result" value q =
        .ok x.result := by
  simp only [parseVerificationCheck, Transaction.bind_eq_ok, asRecord_eq_ok]
  constructor
  · rintro ⟨value, hvalue, _, hkeys, check, h1, detail, h2, result, h3, h⟩
    obtain rfl := Except.ok.inj h
    refine ⟨value, hvalue, fun q => ⟨assertKeys_anywhere hkeys q, ?_, ?_, ?_⟩⟩
    · exact field_anywhere (verificationCheckName_parses (Q := Q)).anywhere h1 q
    · exact optionalField_anywhere normalizeOptionalText_parses.anywhere h2 q
    · exact field_anywhere (verificationCheckResult_parses (Q := Q)).anywhere h3 q
  · rintro ⟨value, hvalue, h⟩
    obtain ⟨hkeys, h1, h2, h3⟩ := h p
    exact ⟨value, hvalue, (), hkeys, _, h1, _, h2, _, h3, rfl⟩

theorem parseVerificationCheck_parses :
    Parses Q (parseVerificationCheck Q) VerificationCheck.value where
  anywhere _ _ _ h _ := parseVerificationCheck_eq_ok.mpr (parseVerificationCheck_eq_ok.mp h)
  again {v p x} h q := by
    obtain ⟨value, -, h⟩ := parseVerificationCheck_eq_ok.mp h
    obtain ⟨-, h1, h2, h3⟩ := h p
    refine parseVerificationCheck_eq_ok.mpr ⟨_, rfl, fun q => ⟨assertKeys_fits rfl q, ?_, ?_, ?_⟩⟩
    · exact field_again (verificationCheckName_parses (Q := Q)) h1 rfl rfl q
    · exact optionalField_again normalizeOptionalText_parses h2 rfl rfl (fun _ => rfl) q
    · exact field_again (verificationCheckResult_parses (Q := Q)) h3 rfl rfl q
  canonical {v p x} h := by
    obtain ⟨value, -, h⟩ := parseVerificationCheck_eq_ok.mp h
    obtain ⟨-, h1, h2, h3⟩ := h p
    refine canonical_record rfl ⟨?_, ?_, ?_, trivial⟩
    · exact field_canonical (verificationCheckName_parses (Q := Q)) h1
    · exact optionalField_canonical normalizeOptionalText_parses h2
    · exact field_canonical (verificationCheckResult_parses (Q := Q)) h3
  distinct {v p w q x y} hx hy hsame := by
    obtain ⟨value, -, hx⟩ := parseVerificationCheck_eq_ok.mp hx
    obtain ⟨value', -, hy⟩ := parseVerificationCheck_eq_ok.mp hy
    obtain ⟨-, hx1, hx2, hx3⟩ := hx []
    obtain ⟨-, hy1, hy2, hy3⟩ := hy []
    have hkey := same_member (Q := Q) rfl rfl hsame
    have h1 := (verificationCheckName_parses (Q := Q)).distinct hx1 hy1 (hkey (ascii "check"))
    have h2 := optionalField_distinct normalizeOptionalText_parses hx2 hy2 (fun _ => rfl)
      (hkey (ascii "detail"))
    have h3 := (verificationCheckResult_parses (Q := Q)).distinct hx3 hy3 (hkey (ascii "result"))
    exact VerificationCheck.ext h1 h2 h3

theorem parseChainAnchorMetadata_eq_ok {v : JsValue} {p : Text} {x : ChainAnchorMetadata} :
    parseChainAnchorMetadata v p = .ok x ↔ ∃ value, v = .object value ∧ ∀ q,
      assertKeys value
        ["anchoredAt", "blockNumber", "chainId", "contractAddress", "transactionHash"] []
        q = .ok () ∧
      field normalizeTimestamp "anchoredAt" value q = .ok x.anchoredAt ∧
      field normalizeDecimalString "blockNumber" value q = .ok x.blockNumber ∧
      field normalizePositiveSafeInteger "chainId" value q = .ok x.chainId ∧
      field normalizeAddress "contractAddress" value q = .ok x.contractAddress ∧
      field normalizeHash "transactionHash" value q = .ok x.transactionHash := by
  simp only [parseChainAnchorMetadata, Transaction.bind_eq_ok, asRecord_eq_ok]
  constructor
  · rintro ⟨value, hvalue, _, hkeys, anchoredAt, h1, blockNumber, h2, chainId, h3,
      contractAddress, h4, transactionHash, h5, h⟩
    obtain rfl := Except.ok.inj h
    refine ⟨value, hvalue, fun q => ⟨assertKeys_anywhere hkeys q, ?_, ?_, ?_, ?_, ?_⟩⟩
    · exact field_anywhere normalizeTimestamp_pathless h1 q
    · exact field_anywhere normalizeDecimalString_pathless h2 q
    · exact field_anywhere normalizePositiveSafeInteger_pathless h3 q
    · exact field_anywhere normalizeAddress_pathless h4 q
    · exact field_anywhere normalizeHash_pathless h5 q
  · rintro ⟨value, hvalue, h⟩
    obtain ⟨hkeys, h1, h2, h3, h4, h5⟩ := h p
    exact ⟨value, hvalue, (), hkeys, _, h1, _, h2, _, h3, _, h4, _, h5, rfl⟩

theorem parseChainAnchorMetadata_parses :
    Parses Q parseChainAnchorMetadata ChainAnchorMetadata.value where
  anywhere _ _ _ h _ := parseChainAnchorMetadata_eq_ok.mpr (parseChainAnchorMetadata_eq_ok.mp h)
  again {v p x} h q := by
    obtain ⟨value, -, h⟩ := parseChainAnchorMetadata_eq_ok.mp h
    obtain ⟨-, h1, h2, h3, h4, h5⟩ := h p
    refine parseChainAnchorMetadata_eq_ok.mpr
      ⟨_, rfl, fun q => ⟨assertKeys_fits rfl q, ?_, ?_, ?_, ?_, ?_⟩⟩
    · exact field_again (normalizeTimestamp_parses (Q := Q)) h1 rfl rfl q
    · exact field_again (normalizeDecimalString_parses (Q := Q)) h2 rfl rfl q
    · exact field_again (normalizePositiveSafeInteger_parses (Q := Q)) h3 rfl rfl q
    · exact field_again (normalizeAddress_parses (Q := Q)) h4 rfl rfl q
    · exact field_again (normalizeHash_parses (Q := Q)) h5 rfl rfl q
  canonical {v p x} h := by
    obtain ⟨value, -, h⟩ := parseChainAnchorMetadata_eq_ok.mp h
    obtain ⟨-, h1, h2, h3, h4, h5⟩ := h p
    refine canonical_record rfl ⟨?_, ?_, ?_, ?_, ?_, trivial⟩
    · exact field_canonical (normalizeTimestamp_parses (Q := Q)) h1
    · exact field_canonical (normalizeDecimalString_parses (Q := Q)) h2
    · exact field_canonical (normalizePositiveSafeInteger_parses (Q := Q)) h3
    · exact field_canonical (normalizeAddress_parses (Q := Q)) h4
    · exact field_canonical (normalizeHash_parses (Q := Q)) h5
  distinct {v p w q x y} hx hy hsame := by
    obtain ⟨value, -, hx⟩ := parseChainAnchorMetadata_eq_ok.mp hx
    obtain ⟨value', -, hy⟩ := parseChainAnchorMetadata_eq_ok.mp hy
    obtain ⟨-, hx1, hx2, hx3, hx4, hx5⟩ := hx []
    obtain ⟨-, hy1, hy2, hy3, hy4, hy5⟩ := hy []
    have hkey := same_member (Q := Q) rfl rfl hsame
    have h1 := (normalizeTimestamp_parses (Q := Q)).distinct hx1 hy1 (hkey (ascii "anchoredAt"))
    have h2 := (normalizeDecimalString_parses (Q := Q)).distinct hx2 hy2
      (hkey (ascii "blockNumber"))
    have h3 := (normalizePositiveSafeInteger_parses (Q := Q)).distinct hx3 hy3
      (hkey (ascii "chainId"))
    have h4 := (normalizeAddress_parses (Q := Q)).distinct hx4 hy4 (hkey (ascii "contractAddress"))
    have h5 := (normalizeHash_parses (Q := Q)).distinct hx5 hy5 (hkey (ascii "transactionHash"))
    exact ChainAnchorMetadata.ext h1 h2 h3 h4 h5

/-! ### Event envelopes -/

/-- What the parser checks between the parts of an envelope. -/
structure LifecycleEventEnvelope.Consistent (event : LifecycleEventEnvelope) : Prop where
  extension_signer : ¬∃ signature ∈ event.extensionSignature, signature.signer ≠ .extension
  authority_signer : ¬∃ signature ∈ event.authoritySignature, signature.signer ≠ .authority
  authority_stage :
    ¬(event.authoritySignature.isSome = true ∧ event.core.stage.isAuthority = false)

theorem parseEventEnvelope_eq_ok {v : JsValue} {p : Text} {x : LifecycleEventEnvelope} :
    parseEventEnvelope Q v p = .ok x ↔ x.Consistent ∧ ∃ value, v = .object value ∧ ∀ q,
      assertKeys value ["core", "eventHash"]
        ["authoritySignature", "chainAnchor", "extensionSignature"] q = .ok () ∧
      field (parseEventCore Q) "core" value q = .ok x.core ∧
      optionalField (parseSignatureEnvelope Q) "extensionSignature" value q =
        .ok x.extensionSignature ∧
      optionalField (parseSignatureEnvelope Q) "authoritySignature" value q =
        .ok x.authoritySignature ∧
      optionalField parseChainAnchorMetadata "chainAnchor" value q = .ok x.chainAnchor ∧
      field normalizeHash "eventHash" value q = .ok x.eventHash := by
  simp only [parseEventEnvelope, Transaction.bind_eq_ok, asRecord_eq_ok, refuseIf_eq_ok]
  constructor
  · rintro ⟨value, hvalue, _, hkeys, core, h1, extensionSignature, h2, authoritySignature, h3, _,
      hextension, _, hauthority, _, hstage, chainAnchor, h4, eventHash, h5, h⟩
    obtain rfl := Except.ok.inj h
    refine ⟨⟨hextension, hauthority, hstage⟩, value, hvalue, fun q =>
      ⟨assertKeys_anywhere hkeys q, ?_, ?_, ?_, ?_, ?_⟩⟩
    · exact field_anywhere parseEventCore_parses.anywhere h1 q
    · exact optionalField_anywhere parseSignatureEnvelope_parses.anywhere h2 q
    · exact optionalField_anywhere parseSignatureEnvelope_parses.anywhere h3 q
    · exact optionalField_anywhere (parseChainAnchorMetadata_parses (Q := Q)).anywhere h4 q
    · exact field_anywhere (normalizeHash_parses (Q := Q)).anywhere h5 q
  · rintro ⟨⟨hextension, hauthority, hstage⟩, value, hvalue, h⟩
    obtain ⟨hkeys, h1, h2, h3, h4, h5⟩ := h p
    exact ⟨value, hvalue, (), hkeys, _, h1, _, h2, _, h3, (), hextension, (), hauthority, (),
      hstage, _, h4, _, h5, rfl⟩

/-- **Event envelopes are parsed to themselves, and different ones have
different canonical forms.** -/
theorem parseEventEnvelope_parses :
    Parses Q (parseEventEnvelope Q) LifecycleEventEnvelope.value where
  anywhere _ _ _ h _ := parseEventEnvelope_eq_ok.mpr (parseEventEnvelope_eq_ok.mp h)
  again {v p x} h q := by
    obtain ⟨hconsistent, value, -, h⟩ := parseEventEnvelope_eq_ok.mp h
    obtain ⟨-, h1, h2, h3, h4, h5⟩ := h p
    refine parseEventEnvelope_eq_ok.mpr
      ⟨hconsistent, _, rfl, fun q => ⟨assertKeys_fits rfl q, ?_, ?_, ?_, ?_, ?_⟩⟩
    · exact field_again parseEventCore_parses h1 rfl rfl q
    · exact optionalField_again parseSignatureEnvelope_parses h2 rfl rfl (fun _ => rfl) q
    · exact optionalField_again parseSignatureEnvelope_parses h3 rfl rfl (fun _ => rfl) q
    · exact optionalField_again (parseChainAnchorMetadata_parses (Q := Q)) h4 rfl rfl
        (fun _ => rfl) q
    · exact field_again (normalizeHash_parses (Q := Q)) h5 rfl rfl q
  canonical {v p x} h := by
    obtain ⟨-, value, -, h⟩ := parseEventEnvelope_eq_ok.mp h
    obtain ⟨-, h1, h2, h3, h4, -⟩ := h p
    refine canonical_record rfl ⟨?_, ?_, ?_, .inr ⟨_, rfl⟩, ?_, trivial⟩
    · exact optionalField_canonical parseSignatureEnvelope_parses h3
    · exact optionalField_canonical parseChainAnchorMetadata_parses h4
    · exact field_canonical parseEventCore_parses h1
    · exact optionalField_canonical parseSignatureEnvelope_parses h2
  distinct {v p w q x y} hx hy hsame := by
    obtain ⟨-, value, -, hx⟩ := parseEventEnvelope_eq_ok.mp hx
    obtain ⟨-, value', -, hy⟩ := parseEventEnvelope_eq_ok.mp hy
    obtain ⟨-, hx1, hx2, hx3, hx4, hx5⟩ := hx []
    obtain ⟨-, hy1, hy2, hy3, hy4, hy5⟩ := hy []
    have hkey := same_member (Q := Q) rfl rfl hsame
    have h1 := parseEventCore_parses.distinct hx1 hy1 (hkey (ascii "core"))
    have h2 := optionalField_distinct parseSignatureEnvelope_parses hx2 hy2 (fun _ => rfl)
      (hkey (ascii "extensionSignature"))
    have h3 := optionalField_distinct parseSignatureEnvelope_parses hx3 hy3 (fun _ => rfl)
      (hkey (ascii "authoritySignature"))
    have h4 := optionalField_distinct (parseChainAnchorMetadata_parses (Q := Q)) hx4 hy4
      (fun _ => rfl) (hkey (ascii "chainAnchor"))
    have h5 := (normalizeHash_parses (Q := Q)).distinct hx5 hy5 (hkey (ascii "eventHash"))
    exact LifecycleEventEnvelope.ext h3 h4 h1 h5 h2

/-! ### Verification states -/

instance : Std.TransCmp compareChecks :=
  inferInstanceAs (Std.TransCmp (compareOn fun check : VerificationCheck =>
    verificationCheckNameText check.check))

theorem assertDistinctChecks_eq_ok {checks : List VerificationCheck} {p : Text} {u : Unit} :
    assertDistinctChecks checks p = .ok u ↔
      (checks.map fun check => verificationCheckNameText check.check).Nodup := by
  unfold assertDistinctChecks
  split
  · next name hrepeated =>
    refine ⟨nofun, fun hnodup => ?_⟩
    rw [firstRepeated_eq_none.mpr ⟨hnodup, fun _ _ => List.not_mem_nil⟩] at hrepeated
    cases hrepeated
  · next hrepeated => exact ⟨fun _ => (firstRepeated_eq_none.mp hrepeated).1, fun _ => rfl⟩

theorem optionalField_isSome {α : Type} {parse : JsValue → Text → Except ReceiptProtocolError α}
    {key : String} {value : List (Text × JsValue)} {p : Text} {x : Option α}
    (h : optionalField parse key value p = .ok x) : hasOwn (ascii key) value = x.isSome := by
  unfold optionalField at h
  split at h
  · next hown =>
    obtain ⟨a, -, rfl⟩ := map_eq_ok.mp h
    exact hown
  · next hown =>
    cases h
    exact Bool.not_eq_true _ ▸ hown

/-- What the parser checks between the parts of a verification state. -/
structure VerificationState.Consistent (state : VerificationState) : Prop where
  sorted : state.checks.Pairwise fun a b => (compareChecks a b).isLE = true
  distinct : (state.checks.map fun check => verificationCheckNameText check.check).Nodup
  failed :
    ¬(state.result = .failed ∧ (state.checks.any fun check => check.result = .failed) = false)
  verified : ¬(state.result = .verified ∧ (state.checks.length > 0 &&
    state.checks.all fun check => check.result = .passed) = false)
  open_result :
    ¬(state.result = .notVerified ∧ (state.checks.any fun check => check.result = .failed) = true)
  time : ¬(state.result ≠ .notVerified ∧ state.verifiedAt.isSome = false)

theorem parseVerificationState_eq_ok {v : JsValue} {p : Text} {x : VerificationState} :
    parseVerificationState Q v p = .ok x ↔ x.Consistent ∧ ∃ value parsed, v = .object value ∧
      x.checks.Perm parsed ∧ ∀ q, assertKeys value ["checks", "result"] ["verifiedAt"] q = .ok () ∧
      field (parseList (parseVerificationCheck Q)) "checks" value q = .ok parsed ∧
      field (parseEnum [.notVerified, .verified, .failed] verificationResultName) "result" value q =
        .ok x.result ∧
      optionalField normalizeTimestamp "verifiedAt" value q = .ok x.verifiedAt := by
  simp only [parseVerificationState, Transaction.bind_eq_ok, asRecord_eq_ok, refuseIf_eq_ok,
    assertDistinctChecks_eq_ok]
  constructor
  · rintro ⟨value, hvalue, _, hkeys, parsed, h1, _, hnodup, result, h2, _, hfailed, _, hverified, _,
      hopen, _, htime, verifiedAt, h3, h⟩
    obtain rfl := Except.ok.inj h
    rw [optionalField_isSome h3] at htime
    refine ⟨⟨JsValue.sortBy_pairwise compareChecks parsed, hnodup, hfailed, hverified, hopen,
      htime⟩, value, parsed, hvalue, JsValue.perm_sortBy _ _, fun q =>
      ⟨assertKeys_anywhere hkeys q, ?_, ?_, ?_⟩⟩
    · exact field_anywhere (parseList_parses parseVerificationCheck_parses).anywhere h1 q
    · exact field_anywhere (verificationResult_parses (Q := Q)).anywhere h2 q
    · exact optionalField_anywhere (normalizeTimestamp_parses (Q := Q)).anywhere h3 q
  · rintro ⟨⟨hsorted, hnodup, hfailed, hverified, hopen, htime⟩, value, parsed, hvalue, hperm, h⟩
    obtain ⟨hkeys, h1, h2, h3⟩ := h p
    have hsort : JsValue.sortBy compareChecks parsed = x.checks := by
      refine (JsValue.eq_of_perm_of_sorted compareChecks hsorted
        (JsValue.sortBy_pairwise compareChecks parsed)
        (hperm.trans (JsValue.perm_sortBy _ _).symm) fun a ha b hb hab => ?_).symm
      exact List.inj_on_of_nodup_map hnodup ha hb (eq_of_compareCanonicalText hab)
    rw [← optionalField_isSome h3] at htime
    refine ⟨value, hvalue, (), hkeys, parsed, h1, (), ?_, _, h2, (), ?_, (), ?_, (), ?_, (), htime,
      _, h3, ?_⟩
    · rwa [hsort]
    · rwa [hsort]
    · rwa [hsort]
    · rwa [hsort]
    · rw [hsort]
      rfl

theorem parseVerificationState_parses :
    Parses Q (parseVerificationState Q) VerificationState.value where
  anywhere _ _ _ h _ := parseVerificationState_eq_ok.mpr (parseVerificationState_eq_ok.mp h)
  again {v p x} h q := by
    obtain ⟨hconsistent, value, parsed, -, hperm, h⟩ := parseVerificationState_eq_ok.mp h
    obtain ⟨-, h1, h2, h3⟩ := h p
    refine parseVerificationState_eq_ok.mpr
      ⟨hconsistent, _, x.checks, rfl, List.Perm.refl _, fun q =>
        ⟨assertKeys_fits rfl q, ?_, ?_, ?_⟩⟩
    · obtain ⟨items, -, hitems⟩ := (parseList_eq_ok parseVerificationCheck_parses.anywhere).mp h1
      unfold field
      rw [member_definedMembers rfl]
      exact parseList_again parseVerificationCheck_parses hitems hperm.subset _
    · exact field_again (verificationResult_parses (Q := Q)) h2 rfl rfl q
    · exact optionalField_again (normalizeTimestamp_parses (Q := Q)) h3 rfl rfl (fun _ => rfl) q
  canonical {v p x} h := by
    obtain ⟨-, value, parsed, -, hperm, h⟩ := parseVerificationState_eq_ok.mp h
    obtain ⟨-, h1, -, h3⟩ := h p
    refine canonical_record rfl ⟨.inr ?_, .inr ⟨_, rfl⟩, ?_, trivial⟩
    · obtain ⟨items, -, hitems⟩ := (parseList_eq_ok parseVerificationCheck_parses.anywhere).mp h1
      refine canonical_list fun x hx => ?_
      obtain ⟨_, -, hx⟩ := exists_of_forall₂ hitems (hperm.subset hx)
      exact parseVerificationCheck_parses.canonical (hx [])
    · exact optionalField_canonical normalizeTimestamp_parses h3
  distinct {v p w q x y} hx hy hsame := by
    obtain ⟨-, value, parsed, -, hperm, hx⟩ := parseVerificationState_eq_ok.mp hx
    obtain ⟨-, value', parsed', -, hperm', hy⟩ := parseVerificationState_eq_ok.mp hy
    obtain ⟨-, hx1, hx2, hx3⟩ := hx []
    obtain ⟨-, hy1, hy2, hy3⟩ := hy []
    have hkey := same_member (Q := Q) rfl rfl hsame
    have h1 : x.checks = y.checks := by
      obtain ⟨items, -, hitems⟩ := (parseList_eq_ok parseVerificationCheck_parses.anywhere).mp hx1
      obtain ⟨items', -, hitems'⟩ := (parseList_eq_ok parseVerificationCheck_parses.anywhere).mp hy1
      obtain ⟨_, harray, hchecks⟩ := hkey (ascii "checks")
      cases harray
      refine distinct_list (fun a ha b hb => ?_) hchecks
      obtain ⟨_, -, ha⟩ := exists_of_forall₂ hitems (hperm.subset ha)
      obtain ⟨_, -, hb⟩ := exists_of_forall₂ hitems' (hperm'.subset hb)
      exact parseVerificationCheck_parses.distinct (ha []) (hb [])
    have h2 := (verificationResult_parses (Q := Q)).distinct hx2 hy2 (hkey (ascii "result"))
    have h3 := optionalField_distinct (normalizeTimestamp_parses (Q := Q)) hx3 hy3 (fun _ => rfl)
      (hkey (ascii "verifiedAt"))
    exact VerificationState.ext h1 h2 h3

/-! ### Receipts -/

theorem parseReceiptStructure_eq_ok {v : JsValue} {p : Text} {x : Receipt} :
    parseReceiptStructure Q v p = .ok x ↔ ∃ value, v = .object value ∧ ∀ q,
      assertKeys value
        ["createdAt", "currentStage", "derivedStatus", "events", "extensionPublicKey",
          "receiptId", "schemaVersion", "verification"] [] q = .ok () ∧
      field normalizeTimestamp "createdAt" value q = .ok x.createdAt ∧
      field (parseEnum LIFECYCLE_STAGES lifecycleStageText) "currentStage" value q =
        .ok x.currentStage ∧
      field (parseEnum DERIVED_RECEIPT_STATUSES derivedReceiptStatusText) "derivedStatus" value q =
        .ok x.derivedStatus ∧
      field (parseList (parseEventEnvelope Q)) "events" value q = .ok x.events ∧
      field (parsePublicKeyDescriptor Q) "extensionPublicKey" value q = .ok x.extensionPublicKey ∧
      field normalizeHash "receiptId" value q = .ok x.receiptId ∧
      field normalizeSchemaVersion "schemaVersion" value q = .ok x.schemaVersion ∧
      field (parseVerificationState Q) "verification" value q = .ok x.verification := by
  simp only [parseReceiptStructure, Transaction.bind_eq_ok, asRecord_eq_ok]
  constructor
  · rintro ⟨value, hvalue, _, hkeys, createdAt, h1, currentStage, h2, derivedStatus, h3, events,
      h4, extensionPublicKey, h5, receiptId, h6, schemaVersion, h7, verification, h8, h⟩
    obtain rfl := Except.ok.inj h
    refine ⟨value, hvalue, fun q => ⟨assertKeys_anywhere hkeys q, ?_, ?_, ?_, ?_, ?_, ?_, ?_, ?_⟩⟩
    · exact field_anywhere normalizeTimestamp_pathless h1 q
    · exact field_anywhere (lifecycleStage_parses (Q := Q)).anywhere h2 q
    · exact field_anywhere (derivedReceiptStatus_parses (Q := Q)).anywhere h3 q
    · exact field_anywhere (parseList_parses parseEventEnvelope_parses).anywhere h4 q
    · exact field_anywhere parsePublicKeyDescriptor_parses.anywhere h5 q
    · exact field_anywhere normalizeHash_pathless h6 q
    · exact field_anywhere normalizeSchemaVersion_pathless h7 q
    · exact field_anywhere parseVerificationState_parses.anywhere h8 q
  · rintro ⟨value, hvalue, h⟩
    obtain ⟨hkeys, h1, h2, h3, h4, h5, h6, h7, h8⟩ := h p
    exact ⟨value, hvalue, (), hkeys, _, h1, _, h2, _, h3, _, h4, _, h5, _, h6, _, h7, _, h8, rfl⟩

/-- **Receipts are parsed to themselves, and different ones have different canonical
forms.** -/
theorem parseReceiptStructure_parses : Parses Q (parseReceiptStructure Q) Receipt.value where
  anywhere _ _ _ h _ := parseReceiptStructure_eq_ok.mpr (parseReceiptStructure_eq_ok.mp h)
  again {v p x} h q := by
    obtain ⟨value, -, h⟩ := parseReceiptStructure_eq_ok.mp h
    obtain ⟨-, h1, h2, h3, h4, h5, h6, h7, h8⟩ := h p
    refine parseReceiptStructure_eq_ok.mpr
      ⟨_, rfl, fun q => ⟨assertKeys_fits rfl q, ?_, ?_, ?_, ?_, ?_, ?_, ?_, ?_⟩⟩
    · exact field_again (normalizeTimestamp_parses (Q := Q)) h1 rfl rfl q
    · exact field_again (lifecycleStage_parses (Q := Q)) h2 rfl rfl q
    · exact field_again (derivedReceiptStatus_parses (Q := Q)) h3 rfl rfl q
    · exact field_again (parseList_parses parseEventEnvelope_parses) h4 rfl rfl q
    · exact field_again parsePublicKeyDescriptor_parses h5 rfl rfl q
    · exact field_again (normalizeHash_parses (Q := Q)) h6 rfl rfl q
    · exact field_again (normalizeSchemaVersion_parses (Q := Q)) h7 rfl rfl q
    · exact field_again parseVerificationState_parses h8 rfl rfl q
  canonical {v p x} h := by
    obtain ⟨value, -, h⟩ := parseReceiptStructure_eq_ok.mp h
    obtain ⟨-, h1, h2, h3, h4, h5, h6, h7, h8⟩ := h p
    refine canonical_record rfl ⟨?_, ?_, ?_, ?_, ?_, ?_, ?_, ?_, trivial⟩
    · exact field_canonical (normalizeTimestamp_parses (Q := Q)) h1
    · exact field_canonical (lifecycleStage_parses (Q := Q)) h2
    · exact field_canonical (derivedReceiptStatus_parses (Q := Q)) h3
    · exact field_canonical (parseList_parses parseEventEnvelope_parses) h4
    · exact field_canonical parsePublicKeyDescriptor_parses h5
    · exact field_canonical (normalizeHash_parses (Q := Q)) h6
    · exact field_canonical (normalizeSchemaVersion_parses (Q := Q)) h7
    · exact field_canonical parseVerificationState_parses h8
  distinct {v p w q x y} hx hy hsame := by
    obtain ⟨value, -, hx⟩ := parseReceiptStructure_eq_ok.mp hx
    obtain ⟨value', -, hy⟩ := parseReceiptStructure_eq_ok.mp hy
    obtain ⟨-, hx1, hx2, hx3, hx4, hx5, hx6, hx7, hx8⟩ := hx []
    obtain ⟨-, hy1, hy2, hy3, hy4, hy5, hy6, hy7, hy8⟩ := hy []
    have hkey := same_member (Q := Q) rfl rfl hsame
    have h1 := (normalizeTimestamp_parses (Q := Q)).distinct hx1 hy1 (hkey (ascii "createdAt"))
    have h2 := (lifecycleStage_parses (Q := Q)).distinct hx2 hy2 (hkey (ascii "currentStage"))
    have h3 := (derivedReceiptStatus_parses (Q := Q)).distinct hx3 hy3
      (hkey (ascii "derivedStatus"))
    have h4 := (parseList_parses parseEventEnvelope_parses).distinct hx4 hy4 (hkey (ascii "events"))
    have h5 := parsePublicKeyDescriptor_parses.distinct hx5 hy5 (hkey (ascii "extensionPublicKey"))
    have h6 := (normalizeHash_parses (Q := Q)).distinct hx6 hy6 (hkey (ascii "receiptId"))
    have h7 := (normalizeSchemaVersion_parses (Q := Q)).distinct hx7 hy7
      (hkey (ascii "schemaVersion"))
    have h8 := parseVerificationState_parses.distinct hx8 hy8 (hkey (ascii "verification"))
    exact Receipt.ext h1 h2 h3 h4 h5 h6 h7 h8

end laws

end SubmittedIt.Protocol
