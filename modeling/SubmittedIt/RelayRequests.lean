/-
SubmittedIt/RelayRequests.lean

A request for an anchor, from the extension to the relay (apps/extension/lib,
relay-client.ts; apps/web/lib/relay: http.ts, validation.ts, crypto.ts and the
validation of relay-service.ts).

The relay verifies a signature with `node:crypto`, the extension with Web Crypto,
and they read base64url differently: the relay decodes a key as it comes when it
verifies, and asks for its canonical text when it derives the fingerprint.
Together the two checks of the relay are the one of the extension.

Main result: `relayRequests_admitted_iff`, which requests the relay admits.
-/
import SubmittedIt.AnchorAttachment
import SubmittedIt.JsonTexts
import SubmittedIt.RelayValidation

namespace SubmittedIt.Protocol

open JsValue (member hasOwn)

open Relay (base64UrlBytes encodeBase64Url)

open Transaction

/-! ### Data -/

/-- `node:crypto`: keys of SPKI documents, signatures of ECDSA over SHA-256 in
the form of IEEE P1363, and SHA-256; `none` where it throws. -/
structure NodeCrypto where
  KeyObject : Type
  createPublicKey : List UInt8 → Option KeyObject
  /-- The type of the key is `ec` and its curve `prime256v1`. -/
  isP256 : KeyObject → Bool
  verify : KeyObject → (data signature : List UInt8) → Option Bool
  sha256 : List UInt8 → List UInt8

/-- `node:crypto` and Web Crypto take the same documents for keys of P-256, and
verify the same signatures with them. -/
structure NodeCrypto.Agrees (N : NodeCrypto) (C : CryptoProvider) : Prop where
  key : ∀ bytes, (C.importKey bytes).isSome = true ↔
    ∃ key, N.createPublicKey bytes = some key ∧ N.isP256 key = true
  signature : ∀ bytes imported key signature data, C.importKey bytes = some imported →
    N.createPublicKey bytes = some key → signature.length = 64 →
      (C.verify imported signature data = some true ↔ N.verify key data signature = some true)

/-- `RelayErrorCode`, the codes that are raised for a request itself. -/
inductive RequestErrorCode
  | invalidContentType
  | payloadTooLarge
  | malformedJson
  | invalidSchema
  | invalidEventHash
  | blobNotFound
  | keyFingerprintMismatch
  | invalidSignature
  deriving DecidableEq

/-- What the relay throws before it looks at its operations. -/
inductive RelayFault
  | service (code : RequestErrorCode) (publicMessage : String) (status : Nat)
  | protocol (error : ReceiptProtocolError)
  deriving DecidableEq

/-- `throw new RelayServiceError(…)`. -/
def refuse {α : Type} (code : RequestErrorCode) (publicMessage : String) (status : Nat) :
    Except RelayFault α :=
  .error (.service code publicMessage status)

/-- Refuse where the condition holds. -/
def refuseWhen (condition : Prop) [Decidable condition] (code : RequestErrorCode)
    (publicMessage : String) (status : Nat) : Except RelayFault Unit :=
  if condition then refuse code publicMessage status else .ok ()

/-- Refuse where there is no value. -/
def refuseNone {α : Type} (code : RequestErrorCode) (publicMessage : String) (status : Nat) :
    Option α → Except RelayFault α
  | some x => .ok x
  | none => refuse code publicMessage status

/-- A `Request` as far as it is read: its headers and the chunks of its body. -/
structure HttpRequest where
  contentType : Option Text
  contentLength : Option Text
  body : Option (List (List UInt8))

/-- `RelayEventRequest`. -/
@[ext] structure RelayEventRequest where
  blobId : Text
  event : LifecycleEventEnvelope
  extensionPublicKey : PublicKeyDescriptor
  idempotencyKey : Option Text
  deriving DecidableEq

/-- `ExtensionKeyFingerprint`. -/
structure ExtensionKeyFingerprint where
  bytes32 : Text
  display : Text
  deriving DecidableEq

/-- The row of an active blob, as `#validateRequest` reads it. -/
structure BlobBinding where
  receiptId : Text
  extensionKeyId : Text
  deriving DecidableEq

/-- `ValidatedRelayEvent`. -/
structure ValidatedRelayEvent where
  request : RelayEventRequest
  eventHash : Text
  extensionKeyFingerprint : Text
  extensionKeyHash : Text
  requestFingerprint : Text
  deriving DecidableEq

/-! ### http.ts -/

/-- `MAX_RELAY_REQUEST_BYTES`. -/
def MAX_RELAY_REQUEST_BYTES : Nat := 196608

/-- The loop of `readLimitedBytes`. -/
def readChunks (limit : Nat) : List (List UInt8) → (total : Nat) → List (List UInt8) →
    Except RelayFault (List UInt8)
  | [], _, chunks => .ok chunks.flatten
  | chunk :: rest, total, chunks =>
    if total + chunk.length > limit then
      refuse .payloadTooLarge
        ("The request exceeds the documented " ++ toString limit ++ "-byte limit.") 413
    else readChunks limit rest (total + chunk.length) (chunks ++ [chunk])

/-- `readLimitedBytes`. -/
def readLimitedBytes (request : HttpRequest) (limit : Nat) : Except RelayFault (List UInt8) := do
  refuseWhen (∃ length ∈ request.contentLength, (length ≠ [] ∧ length.all Json.isDigit = true) ∧
      JsValue.digitsValue length > limit) .payloadTooLarge
    ("The request exceeds the documented " ++ toString limit ++ "-byte limit.") 413
  match request.body with
  | none => return []
  | some chunks => readChunks limit chunks 0 []

/-- The media type of a `content-type` header; of its letters only those of
ASCII are folded, and no other folds to one that the relay looks for. -/
def mediaType (header : Text) : Text := (trim (header.takeWhile (· ≠ 59))).map lowerUnit

section requests

variable (W : WebPlatform) (keccak256 : List UInt8 → HashHex) (N : NodeCrypto)

/-- `readRelayJson`. -/
def readRelayJson (request : HttpRequest) (limit : Nat) : Except RelayFault JsValue := do
  refuseWhen (request.contentType.map mediaType ≠ some (ascii "application/json"))
    .invalidContentType "This endpoint accepts application/json only." 415
  let bytes ← readLimitedBytes request limit
  let text ← refuseNone .malformedJson "The request body must use valid UTF-8 JSON." 400
    (utf8Text bytes)
  refuseNone .malformedJson "The request body must contain valid JSON." 400 (JsValue.parse text)

/-! ### crypto.ts -/

/-- `digest.toString("hex")`. -/
def hexText (bytes : List UInt8) : Text :=
  bytes.flatMap fun byte => [Json.hexDigit (byte.toNat / 16), Json.hexDigit (byte.toNat % 16)]

/-- What the receipt protocol throws is thrown on. -/
def throwOn {α : Type} : Except ReceiptProtocolError α → Except RelayFault α
  | .ok x => .ok x
  | .error e => .error (.protocol e)

/-- `fingerprintRequest`. -/
def fingerprintRequest (value : JsValue) : Except RelayFault Text := do
  let text ← throwOn (canonicalize W.toTextPlatform value)
  return hexText (N.sha256 (utf8Bytes text))

/-- The fingerprint of a key. -/
def fingerprintOf (descriptor : PublicKeyDescriptor) : ExtensionKeyFingerprint :=
  let digest := N.sha256 (base64UrlBytes descriptor.value)
  { bytes32 := ascii "0x" ++ hexText digest
    display := ascii "sha256:" ++ encodeBase64Url digest }

/-- `deriveExtensionKeyFingerprint`. -/
def deriveExtensionKeyFingerprint (descriptorInput : JsValue) :
    Except RelayFault ExtensionKeyFingerprint := do
  let descriptor ← throwOn
    (parsePublicKeyDescriptor W.toReceiptPlatform descriptorInput (ascii "$.extensionPublicKey"))
  let spki := base64UrlBytes descriptor.value
  refuseWhen (encodeBase64Url spki ≠ descriptor.value) .keyFingerprintMismatch
    "The extension public key does not use canonical SPKI base64url encoding." 409
  let key ← refuseNone .keyFingerprintMismatch
    "The extension public key is not a valid SPKI descriptor." 409 (N.createPublicKey spki)
  refuseWhen (N.isP256 key = false) .keyFingerprintMismatch
    "The extension public key must use ECDSA P-256." 409
  return fingerprintOf N descriptor

/-- `signingPreimage`. -/
def signingPreimage (event : LifecycleEventEnvelope) :
    Except ReceiptProtocolError (List UInt8) := do
  let payload ← createExtensionSignaturePayload W.toReceiptPlatform keccak256 event.value
  let preimage ←
    createDomainSeparatedPreimage W.toTextPlatform HashDomain.extensionSignature.text payload
  return utf8Bytes preimage

/-- `verifyExtensionSignature`: `false` also where something throws. -/
def verifyExtensionSignature (eventInput descriptorInput : JsValue) : Bool :=
  let verified := do
    let event ← accept (parseEventEnvelope W.toReceiptPlatform) eventInput
    let descriptor ← accept (parsePublicKeyDescriptor W.toReceiptPlatform) descriptorInput
    let signature ← event.extensionSignature
    ensure (signature.signer = .extension ∧ signature.keyId = descriptor.keyId)
    let payloadHash ←
      (hashExtensionSignaturePayload W.toReceiptPlatform keccak256 event.value).toOption
    ensure (signature.payloadHash = payloadHash)
    let signatureBytes := base64UrlBytes signature.signature
    ensure (signatureBytes.length = 64 ∧ encodeBase64Url signatureBytes = signature.signature)
    let publicKey ← N.createPublicKey (base64UrlBytes descriptor.value)
    ensure (N.isP256 publicKey = true)
    let preimage ← (signingPreimage W keccak256 event).toOption
    N.verify publicKey preimage signatureBytes
  verified = some true

/-! ### validation.ts -/

namespace Validation

/-- `hasExactKeys`, with optional keys. -/
def hasKeys (value : List (Text × JsValue)) (required optional : List String) : Bool :=
  (required.all fun key => hasOwn (ascii key) value) &&
    value.all fun m => ((required ++ optional).map ascii).contains m.1

/-- `IDEMPOTENCY_KEY_PATTERN`. -/
def isIdempotencyKey (text : Text) : Bool :=
  16 ≤ text.length && text.length ≤ 128 &&
    text.all fun u => isAlphanumeric u || (ascii "._~-").contains u

/-- `idempotencyKey`, where there is one. -/
def readIdempotencyKey : JsValue → Option (Option Text)
  | .undefined => some none
  | value => (readTextIf (fun text => isIdempotencyKey text = true) value).map some

/-- `isRelayStage`. -/
def isRelayStage (stage : EventStage) : Bool :=
  stage = .attempted || stage = .siteConfirmed

/-- What the receipt protocol throws in `parseRelayEventRequest`. -/
def orInvalid {α : Type} : Except ReceiptProtocolError α → Except RelayFault α
  | .ok x => .ok x
  | .error _ => refuse .invalidSchema
      "The signed receipt event does not match the SubmittedIt receipt protocol." 400

/-- `parseRelayEventRequest`. -/
def parseRelayEventRequest (input : JsValue) : Except RelayFault RelayEventRequest := do
  let invalid := "The relay request schema is invalid or contains unsupported fields."
  let value ← refuseNone .invalidSchema invalid 400 (accept asRecord input)
  refuseWhen (hasKeys value ["blobId", "event", "extensionPublicKey"] ["idempotencyKey"] = false)
    .invalidSchema invalid 400
  let blobId ← refuseNone .invalidSchema invalid 400 (readTextIf
    (fun text => Relay.isRelayOpaqueId text = true) (member (ascii "blobId") value))
  let idempotencyKey ← refuseNone .invalidSchema invalid 400
    (readIdempotencyKey (member (ascii "idempotencyKey") value))
  let event ← orInvalid
    (parseEventEnvelope W.toReceiptPlatform (member (ascii "event") value) (ascii "$.event"))
  let extensionPublicKey ← orInvalid (parsePublicKeyDescriptor W.toReceiptPlatform
    (member (ascii "extensionPublicKey") value) (ascii "$.extensionPublicKey"))
  refuseWhen (isRelayStage event.core.stage = false ∨ event.extensionSignature = none ∨
      event.authoritySignature ≠ none ∨ event.chainAnchor ≠ none) .invalidSchema
    "This checkpoint relays signed Attempted and Site confirmed events without an existing chain anchor."
    400
  let expected ← orInvalid (hashEventCore W.toReceiptPlatform keccak256 event.core.value)
  refuseWhen (expected ≠ event.eventHash) .invalidEventHash
    "The supplied event hash does not match the canonical event core." 409
  return { blobId, event, extensionPublicKey, idempotencyKey }

end Validation

/-! ### relay-service.ts -/

/-- `#validateRequest`, where `blobs` are the active blobs by their public
identifiers. -/
def validateRequest (blobs : Text → Option BlobBinding) (request : RelayEventRequest) :
    Except RelayFault ValidatedRelayEvent := do
  let blob ← refuseNone .blobNotFound "The referenced encrypted receipt blob does not exist." 404
    (blobs request.blobId)
  refuseWhen (blob.receiptId ≠ request.event.core.receiptId) .invalidSchema
    "The encrypted blob and signed event refer to different receipt IDs." 409
  refuseWhen (blob.extensionKeyId ≠ request.extensionPublicKey.keyId ∨
      request.event.extensionSignature.map (·.keyId) ≠ some request.extensionPublicKey.keyId)
    .keyFingerprintMismatch
    "The encrypted blob, signature, and extension public key identities do not match." 409
  refuseWhen (verifyExtensionSignature W keccak256 N request.event.value
      request.extensionPublicKey.write = false) .invalidSignature
    "The extension signature does not verify for the canonical event." 401
  let keyFingerprint ← deriveExtensionKeyFingerprint W N request.extensionPublicKey.write
  let requestFingerprint ← fingerprintRequest W N (.object [
    (ascii "blobId", .string request.blobId), (ascii "event", request.event.value),
    (ascii "extensionPublicKey", request.extensionPublicKey.write)])
  return {
    request, requestFingerprint
    eventHash := request.event.eventHash
    extensionKeyFingerprint := keyFingerprint.display
    extensionKeyHash := keyFingerprint.bytes32 }

/-- The `POST` of the events route, up to the point where `relay` looks at its
operations and the chain. -/
def admitRelayRequest (blobs : Text → Option BlobBinding) (request : HttpRequest) :
    Except RelayFault ValidatedRelayEvent := do
  let body ← readRelayJson request MAX_RELAY_REQUEST_BYTES
  let parsed ← Validation.parseRelayEventRequest W keccak256 body
  validateRequest W keccak256 N blobs parsed

/-! ### relay-client.ts -/

/-- The properties of the body of `requestRelayAnchor`. -/
def relayAnchorMembers (blobId : Text) (event : LifecycleEventEnvelope)
    (extensionPublicKey : PublicKeyDescriptor) (idempotencyKey : Text) : List (Text × JsValue) :=
  [(ascii "blobId", .string blobId), (ascii "event", event.value),
    (ascii "extensionPublicKey", extensionPublicKey.write),
    (ascii "idempotencyKey", .string idempotencyKey)]

/-- The body that `requestRelayAnchor` posts. -/
def relayAnchorBody (blobId : Text) (eventInput keyInput : JsValue) (idempotencyKey : Text) :
    Except ReceiptProtocolError (Option Text) := do
  let event ← parseEventEnvelope W.toReceiptPlatform eventInput (ascii "$.event")
  let extensionPublicKey ←
    parsePublicKeyDescriptor W.toReceiptPlatform keyInput (ascii "$.extensionPublicKey")
  return jsonText (.object (relayAnchorMembers blobId event extensionPublicKey idempotencyKey))

end requests

section laws

variable {W : WebPlatform} {keccak256 : List UInt8 → HashHex} {N : NodeCrypto} {C : CryptoProvider}

/-! ### Refusals -/

theorem refuseWhen_eq_ok {condition : Prop} [Decidable condition] {code : RequestErrorCode}
    {publicMessage : String} {status : Nat} {u : Unit} :
    refuseWhen condition code publicMessage status = .ok u ↔ ¬condition := by
  unfold refuseWhen
  split
  · next h => simp [refuse, h]
  · next h => simp [h]

theorem refuseNone_eq_ok {α : Type} {code : RequestErrorCode} {publicMessage : String}
    {status : Nat} {x : Option α} {a : α} :
    refuseNone code publicMessage status x = .ok a ↔ x = some a := by
  cases x with
  | none => simp [refuseNone, refuse]
  | some b => simp [refuseNone]

theorem throwOn_eq_ok {α : Type} {x : Except ReceiptProtocolError α} {a : α} :
    throwOn x = .ok a ↔ x = .ok a := by
  cases x with
  | error e => simp [throwOn]
  | ok b => simp [throwOn]

theorem Validation.orInvalid_eq_ok {α : Type} {x : Except ReceiptProtocolError α} {a : α} :
    Validation.orInvalid x = .ok a ↔ x = .ok a := by
  cases x with
  | error e => simp [Validation.orInvalid, refuse]
  | ok b => simp [Validation.orInvalid]

/-! ### Reading a body -/

/-- **The chunks are read whole**, if they are not too long together. -/
theorem readChunks_eq_ok {limit total : Nat} {rest chunks : List (List UInt8)}
    {bytes : List UInt8} (h : total ≤ limit) : readChunks limit rest total chunks = .ok bytes ↔
      total + rest.flatten.length ≤ limit ∧ bytes = chunks.flatten ++ rest.flatten := by
  induction rest generalizing total chunks with
  | nil =>
    rw [readChunks, List.flatten_nil, List.length_nil, List.append_nil]
    exact ⟨fun hread => ⟨h, (Except.ok.inj hread).symm⟩, fun hread => congrArg _ hread.2.symm⟩
  | cons chunk rest ih =>
    have hlength : (chunk :: rest).flatten.length = chunk.length + rest.flatten.length := by
      rw [List.flatten_cons, List.length_append]
    rw [readChunks, hlength]
    split
    · next hlong =>
      constructor
      · intro hread
        cases hread
      · rintro ⟨hsize, -⟩
        omega
    · next hshort =>
      rw [ih (Nat.le_of_not_lt hshort), List.flatten_append, List.flatten_cons]
      simp [Nat.add_assoc]

/-- The request carries the text, in whatever chunks it arrives. -/
structure HttpRequest.Carries (request : HttpRequest) (text : Text) : Prop where
  contentType : request.contentType = some (ascii "application/json")
  contentLength : ∀ length ∈ request.contentLength, length = Json.decimal (utf8Bytes text).length
  body : ∃ chunks, request.body = some chunks ∧ chunks.flatten = utf8Bytes text

theorem readLimitedBytes_carried {request : HttpRequest} {text : Text} (h : request.Carries text)
    {limit : Nat} {bytes : List UInt8} : readLimitedBytes request limit = .ok bytes ↔
      (utf8Bytes text).length ≤ limit ∧ bytes = utf8Bytes text := by
  obtain ⟨chunks, hbody, hchunks⟩ := h.body
  simp only [readLimitedBytes, bind_eq_ok, refuseWhen_eq_ok, hbody]
  rw [readChunks_eq_ok (Nat.zero_le limit), hchunks, Nat.zero_add, List.flatten_nil,
    List.nil_append]
  constructor
  · rintro ⟨-, -, hread⟩
    exact hread
  · intro hread
    refine ⟨(), ?_, hread⟩
    rintro ⟨length, hlength, -, hlong⟩
    rw [h.contentLength length hlength, JsValue.digitsValue_decimal] at hlong
    exact absurd hread.1 (Nat.not_le_of_lt hlong)

theorem readRelayJson_carried {request : HttpRequest} {text : Text} (h : request.Carries text)
    (htext : utf8Text (utf8Bytes text) = some text) {limit : Nat} {v : JsValue} :
    readRelayJson request limit = .ok v ↔
      (utf8Bytes text).length ≤ limit ∧ JsValue.parse text = some v := by
  have htype : mediaType (ascii "application/json") = ascii "application/json" := by decide
  simp only [readRelayJson, bind_eq_ok, refuseWhen_eq_ok, refuseNone_eq_ok,
    readLimitedBytes_carried h, h.contentType, Option.map_some, htype]
  constructor
  · rintro ⟨-, -, bytes, ⟨hsize, rfl⟩, found, hfound, hparse⟩
    obtain rfl := Option.some.inj (htext.symm.trans hfound)
    exact ⟨hsize, hparse⟩
  · rintro ⟨hsize, hparse⟩
    exact ⟨(), not_not.mpr rfl, _, ⟨hsize, rfl⟩, text, htext, hparse⟩

/-! ### Keys and signatures -/

/-- A key that is parsed is not empty. -/
theorem publicKey_value_ne_nil {w : JsValue} {p : Text} {descriptor : PublicKeyDescriptor}
    (h : parsePublicKeyDescriptor W.toReceiptPlatform w p = .ok descriptor) :
    descriptor.value ≠ [] := by
  obtain ⟨value, -, h⟩ := parsePublicKeyDescriptor_eq_ok.mp h
  obtain ⟨-, -, -, -, hvalue⟩ := h p
  exact (normalizeBase64Url_eq_ok.mp hvalue).2.1

theorem deriveExtensionKeyFingerprint_eq_ok {w : JsValue} {fingerprint : ExtensionKeyFingerprint} :
    deriveExtensionKeyFingerprint W N w = .ok fingerprint ↔ ∃ descriptor,
      parsePublicKeyDescriptor W.toReceiptPlatform w (ascii "$.extensionPublicKey") =
        .ok descriptor ∧
      encodeBase64Url (base64UrlBytes descriptor.value) = descriptor.value ∧
      (∃ key, N.createPublicKey (base64UrlBytes descriptor.value) = some key ∧
        N.isP256 key = true) ∧
      fingerprint = fingerprintOf N descriptor := by
  simp only [deriveExtensionKeyFingerprint, bind_eq_ok, throwOn_eq_ok, refuseWhen_eq_ok,
    refuseNone_eq_ok, not_not, Bool.not_eq_false]
  constructor
  · rintro ⟨descriptor, hdescriptor, -, hcanonical, key, hkey, -, hcurve, h⟩
    exact ⟨descriptor, hdescriptor, hcanonical, ⟨key, hkey, hcurve⟩, (Except.ok.inj h).symm⟩
  · rintro ⟨descriptor, hdescriptor, hcanonical, ⟨key, hkey, hcurve⟩, rfl⟩
    exact ⟨descriptor, hdescriptor, (), hcanonical, key, hkey, (), hcurve, rfl⟩

/-- What is signed is the same on both sides. -/
theorem extensionSigningPreimage_eq_some {event : LifecycleEventEnvelope} {v : JsValue} {p : Text}
    (h : parseEventEnvelope W.toReceiptPlatform v p = .ok event) {preimage : List UInt8} :
    extensionSigningPreimage W keccak256 event = some preimage ↔
      signingPreimage W keccak256 event = .ok preimage := by
  have hagain := (parseEventEnvelope_parses (Q := W.toReceiptPlatform)).again h
  simp only [extensionSigningPreimage, signingPreimage, Option.bind_eq_bind,
    Option.bind_eq_some_iff, accept_eq_some, ensure_eq_some, toOption_eq_some, bind_eq_ok, hagain]
  constructor
  · rintro ⟨found, hfound, -, -, -, -, payload, hpayload, text, htext, hbytes⟩
    obtain rfl := Except.ok.inj hfound
    exact ⟨payload, hpayload, text, htext, congrArg _ (Option.some.inj hbytes)⟩
  · rintro ⟨payload, hpayload, text, htext, hbytes⟩
    -- the payload is made only of an event with the hash of its core
    obtain ⟨found, hfound, -⟩ := bind_eq_ok.mp hpayload
    obtain ⟨hfound, hhash⟩ := parseHashedEventEnvelope_eq_ok.mp hfound
    obtain rfl := Except.ok.inj ((hagain _).symm.trans hfound)
    exact ⟨event, rfl, _, hhash, (), rfl, payload, hpayload, text, htext,
      congrArg _ (Except.ok.inj hbytes)⟩

/-- **The two checks of the relay are the one of the extension.** -/
theorem verifyExtensionSignature_agrees (hagree : N.Agrees C) {v w : JsValue} :
    verifyExtensionEventSignature W keccak256 C v w = true ↔
      verifyExtensionSignature W keccak256 N v w = true ∧
        ∃ fingerprint, deriveExtensionKeyFingerprint W N w = .ok fingerprint := by
  have hpathless := (parsePublicKeyDescriptor_parses (Q := W.toReceiptPlatform)).anywhere
  simp only [verifyExtensionEventSignature, verifyExtensionSignature, decide_eq_true_eq,
    Option.bind_eq_bind, Option.bind_eq_some_iff, accept_eq_some, ensure_eq_some,
    toOption_eq_some, deriveExtensionKeyFingerprint_eq_ok]
  simp only [importVerificationKey, Option.bind_eq_bind, Option.bind_eq_some_iff, accept_eq_some,
    toOption_eq_some]
  constructor
  · rintro ⟨event, hevent, ⟨descriptor, imported⟩, ⟨found, hdescriptor, bytes, hbytes, key',
      himported, hpair⟩, signature, hsignature, u, hsigner, payloadHash, hpayloadHash, u', hsame,
      signatureBytes, hsignatureBytes, u'', hlength, preimage, hpreimage, hverified⟩
    obtain ⟨rfl, rfl⟩ := Prod.mk.inj (Option.some.inj hpair)
    obtain ⟨-, hvalue⟩ := base64UrlToBytes_eq_ok.mp hbytes
    obtain ⟨-, hsignatureText⟩ := base64UrlToBytes_eq_ok.mp hsignatureBytes
    have hback : base64UrlBytes found.value = bytes := by
      rw [hvalue, base64UrlBytes_bytesToBase64Url]
    have hsignatureBack : base64UrlBytes signature.signature = signatureBytes := by
      rw [hsignatureText, base64UrlBytes_bytesToBase64Url]
    obtain ⟨key, hkey, hcurve⟩ := (hagree.key bytes).mp (by rw [himported]; rfl)
    have hnode := (hagree.signature bytes _ key signatureBytes preimage himported hkey hlength).mp
      hverified
    refine ⟨⟨event, hevent, found, hdescriptor, signature, hsignature, u, hsigner, payloadHash,
      hpayloadHash, u', hsame, (), ?_, key, ?_, (), hcurve, preimage,
      (extensionSigningPreimage_eq_some hevent).mp hpreimage, ?_⟩, _, found,
      hpathless hdescriptor _, ?_, ⟨key, ?_, hcurve⟩, rfl⟩
    · rw [hsignatureBack]
      exact ⟨hlength, by rw [hsignatureText, bytesToBase64Url_eq]⟩
    · rw [hback]
      exact hkey
    · rw [hsignatureBack]
      exact hnode
    · rw [hback, hvalue, bytesToBase64Url_eq]
    · rw [hback]
      exact hkey
  · rintro ⟨⟨event, hevent, descriptor, hdescriptor, signature, hsignature, u, hsigner,
      payloadHash, hpayloadHash, u', hsame, -, ⟨hlength, hsignatureText⟩, key, hkey, -, hcurve,
      preimage, hpreimage, hverified⟩, -, descriptor', hdescriptor', hcanonical, -, -⟩
    obtain rfl := Except.ok.inj ((hpathless hdescriptor _).symm.trans hdescriptor')
    have himport := (hagree.key (base64UrlBytes descriptor.value)).mpr ⟨key, hkey, hcurve⟩
    obtain ⟨imported, himported⟩ := Option.isSome_iff_exists.mp himport
    have hvalue : base64UrlBytes descriptor.value ≠ [] := by
      intro hnil
      rw [hnil] at hcanonical
      exact publicKey_value_ne_nil hdescriptor hcanonical.symm
    have hsignatureBytes : base64UrlBytes signature.signature ≠ [] := by
      intro hnil
      rw [hnil] at hlength
      cases hlength
    refine ⟨event, hevent, (descriptor, imported), ⟨descriptor, hdescriptor, _,
      base64UrlToBytes_eq_ok.mpr ⟨hvalue, ?_⟩, imported, himported, rfl⟩, signature, hsignature, u,
      hsigner, payloadHash, hpayloadHash, u', hsame, _,
      base64UrlToBytes_eq_ok.mpr ⟨hsignatureBytes, ?_⟩, (), hlength, preimage,
      (extensionSigningPreimage_eq_some hevent).mpr hpreimage,
      (hagree.signature _ imported key _ preimage himported hkey hlength).mpr hverified⟩
    · rw [bytesToBase64Url_eq, hcanonical]
    · rw [bytesToBase64Url_eq, hsignatureText]

/-! ### Requests -/

section request

variable {event : LifecycleEventEnvelope} {key : PublicKeyDescriptor} {v w : JsValue} {p q : Text}

/-- What the relay reads of the body of a request. -/
theorem parseRelayEventRequest_body
    (hevent : parseEventEnvelope W.toReceiptPlatform v p = .ok event)
    (hkey : parsePublicKeyDescriptor W.toReceiptPlatform w q = .ok key)
    {blobId idempotencyKey : Text} {request : RelayEventRequest} :
    Validation.parseRelayEventRequest W keccak256
        (.object (relayAnchorMembers blobId event key idempotencyKey)) = .ok request ↔
      Relay.isRelayOpaqueId blobId = true ∧ Validation.isIdempotencyKey idempotencyKey = true ∧
      (Validation.isRelayStage event.core.stage = true ∧ event.extensionSignature ≠ none ∧
        event.authoritySignature = none ∧ event.chainAnchor = none) ∧
      hashEventCore W.toReceiptPlatform keccak256 event.core.value = .ok event.eventHash ∧
      request = ⟨blobId, event, key, some idempotencyKey⟩ := by
  have heventAgain := (parseEventEnvelope_parses (Q := W.toReceiptPlatform)).again hevent
  have hkeyAgain := (parsePublicKeyDescriptor_parses (Q := W.toReceiptPlatform)).again hkey
  have hkeys : Validation.hasKeys (relayAnchorMembers blobId event key idempotencyKey)
      ["blobId", "event", "extensionPublicKey"] ["idempotencyKey"] = true := rfl
  have hblobId : member (ascii "blobId") (relayAnchorMembers blobId event key idempotencyKey) =
      .string blobId := rfl
  have hidempotencyKey : Validation.readIdempotencyKey (member (ascii "idempotencyKey")
      (relayAnchorMembers blobId event key idempotencyKey)) =
        (readTextIf (fun text => Validation.isIdempotencyKey text = true)
          (.string idempotencyKey)).map some := rfl
  have heventMember : member (ascii "event")
      (relayAnchorMembers blobId event key idempotencyKey) = event.value := rfl
  have hkeyMember : member (ascii "extensionPublicKey")
      (relayAnchorMembers blobId event key idempotencyKey) = key.write := rfl
  simp only [Validation.parseRelayEventRequest, bind_eq_ok, refuseWhen_eq_ok, refuseNone_eq_ok,
    Validation.orInvalid_eq_ok, accept_asRecord, JsValue.object.injEq, not_not, not_or,
    Bool.not_eq_false]
  constructor
  · rintro ⟨value, rfl, -, -, blobId', hblob, idempotencyKey', hidempotency, event', hevent', key',
      hkey', -, ⟨hstage, hsigned, hauthority, hanchor⟩, hash, hhash, -, hsame, h⟩
    rw [hblobId, readTextIf_eq_some] at hblob
    obtain ⟨hblob, hopaqueId⟩ := hblob
    obtain rfl := JsValue.string.inj hblob
    rw [hidempotencyKey, Option.map_eq_some_iff] at hidempotency
    obtain ⟨text, htext, rfl⟩ := hidempotency
    obtain ⟨htext, hpattern⟩ := readTextIf_eq_some.mp htext
    obtain rfl := JsValue.string.inj htext
    rw [heventMember, heventAgain] at hevent'
    obtain rfl := Except.ok.inj hevent'
    rw [hkeyMember, hkeyAgain] at hkey'
    obtain rfl := Except.ok.inj hkey'
    exact ⟨hopaqueId, hpattern, ⟨hstage, hsigned, hauthority, hanchor⟩, hsame ▸ hhash,
      (Except.ok.inj h).symm⟩
  · rintro ⟨hopaqueId, hpattern, hadmits, hhash, rfl⟩
    refine ⟨_, rfl, (), hkeys, blobId, ?_, some idempotencyKey, ?_, event, ?_, key, ?_, (),
      hadmits, _, hhash, (), rfl, rfl⟩
    · rw [hblobId]
      exact readTextIf_eq_some.mpr ⟨rfl, hopaqueId⟩
    · rw [hidempotencyKey, readTextIf_eq_some.mpr ⟨rfl, hpattern⟩]
      rfl
    · rw [heventMember, heventAgain]
    · rw [hkeyMember, hkeyAgain]

/-- The body of a request has a text, from which it is read back. -/
theorem relayAnchorBody_exists
    (hevent : parseEventEnvelope W.toReceiptPlatform v (ascii "$.event") = .ok event)
    (hkey : parsePublicKeyDescriptor W.toReceiptPlatform w (ascii "$.extensionPublicKey") =
      .ok key) (blobId idempotencyKey : Text) :
    ∃ text, relayAnchorBody W blobId v w idempotencyKey = .ok (some text) ∧
      utf8Text (utf8Bytes text) = some text ∧
      JsValue.parse text = some (.object (relayAnchorMembers blobId event key idempotencyKey)) := by
  have htidy : Tidy (record (relayAnchorMembers blobId event key idempotencyKey)) :=
    tidy_record rfl ⟨.inr (tidy_string _), .inr event.tidy, .inr key.tidy, .inr (tidy_string _),
      trivial⟩
  obtain ⟨j, hj⟩ : ∃ j, Canonical W.toTextPlatform
      (record (relayAnchorMembers blobId event key idempotencyKey)) j :=
    canonical_record rfl ⟨.inr ⟨_, rfl⟩,
      .inr ((parseEventEnvelope_parses (Q := W.toReceiptPlatform)).canonical hevent),
      .inr ((parsePublicKeyDescriptor_parses (Q := W.toReceiptPlatform)).canonical hkey),
      .inr ⟨_, rfl⟩, trivial⟩
  obtain ⟨text, htext, hback, hparse⟩ := jsonText_tidy htidy hj
  exact ⟨text, bind_eq_ok.mpr ⟨event, hevent, bind_eq_ok.mpr ⟨key, hkey, congrArg _ htext⟩⟩,
    hback, hparse⟩

end request

/-- What the relay asks of a request for an event, besides its size. -/
structure Admissible (W : WebPlatform) (keccak256 : List UInt8 → HashHex) (C : CryptoProvider)
    (blobs : Text → Option BlobBinding) (request : RelayEventRequest) : Prop where
  blobId : isOpaqueId request.blobId = true
  idempotencyKey : ∀ text ∈ request.idempotencyKey, Validation.isIdempotencyKey text = true
  stage : request.event.core.stage = .attempted ∨ request.event.core.stage = .siteConfirmed
  unanchored : request.event.chainAnchor = none
  blob : blobs request.blobId =
    some ⟨request.event.core.receiptId, request.extensionPublicKey.keyId⟩
  verified : verifyExtensionEventSignature W keccak256 C request.event.value
    request.extensionPublicKey.write = true

/-- What `#validateRequest` returns. -/
theorem validateRequest_eq_ok {blobs : Text → Option BlobBinding} {request : RelayEventRequest}
    {validated : ValidatedRelayEvent} :
    validateRequest W keccak256 N blobs request = .ok validated ↔
      blobs request.blobId =
        some ⟨request.event.core.receiptId, request.extensionPublicKey.keyId⟩ ∧
      request.event.extensionSignature.map (·.keyId) = some request.extensionPublicKey.keyId ∧
      verifyExtensionSignature W keccak256 N request.event.value
        request.extensionPublicKey.write = true ∧
      ∃ fingerprint, deriveExtensionKeyFingerprint W N request.extensionPublicKey.write =
        .ok fingerprint ∧
      ∃ requestFingerprint, fingerprintRequest W N (.object [
          (ascii "blobId", .string request.blobId), (ascii "event", request.event.value),
          (ascii "extensionPublicKey", request.extensionPublicKey.write)]) =
        .ok requestFingerprint ∧
      validated = ⟨request, request.event.eventHash, fingerprint.display, fingerprint.bytes32,
        requestFingerprint⟩ := by
  simp only [validateRequest, bind_eq_ok, refuseWhen_eq_ok, refuseNone_eq_ok, not_not, not_or,
    Bool.not_eq_false]
  constructor
  · rintro ⟨⟨receiptId, keyId⟩, hblob, -, rfl, -, ⟨rfl, hsignature⟩, -, hverified, fingerprint,
      hfingerprint, requestFingerprint, hrequest, h⟩
    exact ⟨hblob, hsignature, hverified, fingerprint, hfingerprint, requestFingerprint, hrequest,
      (Except.ok.inj h).symm⟩
  · rintro ⟨hblob, hsignature, hverified, fingerprint, hfingerprint, requestFingerprint, hrequest,
      rfl⟩
    exact ⟨_, hblob, (), rfl, (), ⟨rfl, hsignature⟩, (), hverified, fingerprint, hfingerprint,
      requestFingerprint, hrequest, rfl⟩

section request

variable {event : LifecycleEventEnvelope} {key : PublicKeyDescriptor} {v w : JsValue} {p q : Text}

/-- A signature that verifies names the key, and the event has the hash of its
core. -/
theorem signed_of_verified
    (hevent : parseEventEnvelope W.toReceiptPlatform v p = .ok event)
    (hkey : parsePublicKeyDescriptor W.toReceiptPlatform w q = .ok key)
    (h : verifyExtensionSignature W keccak256 N event.value key.write = true) :
    (∃ signature, event.extensionSignature = some signature ∧ signature.keyId = key.keyId) ∧
      hashEventCore W.toReceiptPlatform keccak256 event.core.value = .ok event.eventHash := by
  have heventAgain := (parseEventEnvelope_parses (Q := W.toReceiptPlatform)).again hevent
  have hkeyAgain := (parsePublicKeyDescriptor_parses (Q := W.toReceiptPlatform)).again hkey
  simp only [verifyExtensionSignature, decide_eq_true_eq, Option.bind_eq_bind,
    Option.bind_eq_some_iff, accept_eq_some, ensure_eq_some, toOption_eq_some, heventAgain,
    hkeyAgain] at h
  obtain ⟨found, hfound, descriptor, hdescriptor, signature, hsignature, -, ⟨-, hkeyId⟩,
    payloadHash, hpayloadHash, -⟩ := h
  obtain rfl := Except.ok.inj hfound
  obtain rfl := Except.ok.inj hdescriptor
  refine ⟨⟨signature, hsignature, hkeyId⟩, ?_⟩
  obtain ⟨payload, hpayload, -⟩ := bind_eq_ok.mp hpayloadHash
  obtain ⟨found, hfound, -⟩ := bind_eq_ok.mp hpayload
  obtain ⟨hfound, hhash⟩ := parseHashedEventEnvelope_eq_ok.mp hfound
  obtain rfl := Except.ok.inj ((heventAgain _).symm.trans hfound)
  exact hhash

/-- An event that is relayed has no authority's signature. -/
theorem unsigned_of_relayStage
    (hevent : parseEventEnvelope W.toReceiptPlatform v p = .ok event)
    (hstage : event.core.stage = .attempted ∨ event.core.stage = .siteConfirmed) :
    event.authoritySignature = none := by
  obtain ⟨hconsistent, -⟩ := parseEventEnvelope_eq_ok.mp hevent
  have hauthority : event.core.stage.isAuthority = false := by
    rcases hstage with h | h <;> rw [h] <;> rfl
  have hnone := hconsistent.authority_stage
  cases hsignature : event.authoritySignature with
  | none => rfl
  | some signature => exact absurd ⟨by rw [hsignature]; rfl, hauthority⟩ hnone

theorem fingerprintRequest_exists
    (hevent : parseEventEnvelope W.toReceiptPlatform v p = .ok event)
    (hkey : parsePublicKeyDescriptor W.toReceiptPlatform w q = .ok key) (blobId : Text) :
    ∃ fingerprint, fingerprintRequest W N (.object [(ascii "blobId", .string blobId),
      (ascii "event", event.value), (ascii "extensionPublicKey", key.write)]) =
        .ok fingerprint := by
  obtain ⟨j, hj⟩ : ∃ j, Canonical W.toTextPlatform (record [(ascii "blobId", .string blobId),
      (ascii "event", event.value), (ascii "extensionPublicKey", key.write)]) j :=
    canonical_record rfl ⟨.inr ⟨_, rfl⟩,
      .inr ((parseEventEnvelope_parses (Q := W.toReceiptPlatform)).canonical hevent),
      .inr ((parsePublicKeyDescriptor_parses (Q := W.toReceiptPlatform)).canonical hkey), trivial⟩
  have htext := canonicalize_eq_ok.mpr ⟨j, hj, rfl⟩
  exact ⟨_, bind_eq_ok.mpr ⟨_, throwOn_eq_ok.mpr htext, rfl⟩⟩

/-- What the relay makes of the text of a request. -/
theorem admitRelayRequest_body
    (hevent : parseEventEnvelope W.toReceiptPlatform v p = .ok event)
    (hkey : parsePublicKeyDescriptor W.toReceiptPlatform w q = .ok key)
    {blobs : Text → Option BlobBinding} {blobId idempotencyKey text : Text}
    {request : HttpRequest} (hcarries : request.Carries text)
    (hback : utf8Text (utf8Bytes text) = some text)
    (hparse : JsValue.parse text =
      some (.object (relayAnchorMembers blobId event key idempotencyKey)))
    (validated : ValidatedRelayEvent) :
    admitRelayRequest W keccak256 N blobs request = .ok validated ↔
      (utf8Bytes text).length ≤ MAX_RELAY_REQUEST_BYTES ∧
      (Relay.isRelayOpaqueId blobId = true ∧ Validation.isIdempotencyKey idempotencyKey = true ∧
        (Validation.isRelayStage event.core.stage = true ∧ event.extensionSignature ≠ none ∧
          event.authoritySignature = none ∧ event.chainAnchor = none) ∧
        hashEventCore W.toReceiptPlatform keccak256 event.core.value = .ok event.eventHash) ∧
      validateRequest W keccak256 N blobs ⟨blobId, event, key, some idempotencyKey⟩ =
        .ok validated := by
  simp only [admitRelayRequest, bind_eq_ok, readRelayJson_carried hcarries hback, hparse]
  constructor
  · rintro ⟨body, ⟨hsize, hvalue⟩, parsed, hparsed, hvalidated⟩
    obtain rfl := Option.some.inj hvalue
    obtain ⟨hopaqueId, hpattern, hadmits, hhash, rfl⟩ :=
      (parseRelayEventRequest_body hevent hkey).mp hparsed
    exact ⟨hsize, ⟨hopaqueId, hpattern, hadmits, hhash⟩, hvalidated⟩
  · rintro ⟨hsize, ⟨hopaqueId, hpattern, hadmits, hhash⟩, hvalidated⟩
    exact ⟨_, ⟨hsize, rfl⟩, _, (parseRelayEventRequest_body hevent hkey).mpr
      ⟨hopaqueId, hpattern, hadmits, hhash, rfl⟩, hvalidated⟩

/-- The relay admits the text of a request that is short enough and admissible. -/
theorem admitRelayRequest_iff (hagree : N.Agrees C)
    (hevent : parseEventEnvelope W.toReceiptPlatform v p = .ok event)
    (hkey : parsePublicKeyDescriptor W.toReceiptPlatform w q = .ok key)
    {blobs : Text → Option BlobBinding} {blobId idempotencyKey text : Text}
    {request : HttpRequest} (hcarries : request.Carries text)
    (hback : utf8Text (utf8Bytes text) = some text)
    (hparse : JsValue.parse text =
      some (.object (relayAnchorMembers blobId event key idempotencyKey))) :
    (∃ validated, admitRelayRequest W keccak256 N blobs request = .ok validated) ↔
      (utf8Bytes text).length ≤ MAX_RELAY_REQUEST_BYTES ∧
        Admissible W keccak256 C blobs ⟨blobId, event, key, some idempotencyKey⟩ := by
  simp only [admitRelayRequest_body hevent hkey hcarries hback hparse, validateRequest_eq_ok]
  constructor
  · rintro ⟨validated, hsize, ⟨hopaqueId, hpattern, ⟨hstage, -, -, hanchor⟩, -⟩, hblob, -,
      hverified, fingerprint, hfingerprint, -⟩
    refine ⟨hsize, isRelayOpaqueId_eq blobId ▸ hopaqueId, ?_, ?_, hanchor, hblob, ?_⟩
    · rintro _ ⟨⟩
      exact hpattern
    · rw [Validation.isRelayStage, Bool.or_eq_true, decide_eq_true_eq, decide_eq_true_eq] at hstage
      exact hstage
    · exact (verifyExtensionSignature_agrees hagree).mpr ⟨hverified, fingerprint, hfingerprint⟩
  · rintro ⟨hsize, hadmissible⟩
    obtain ⟨hverified, fingerprint, hfingerprint⟩ :=
      (verifyExtensionSignature_agrees hagree).mp hadmissible.verified
    obtain ⟨⟨signature, hsignature, hkeyId⟩, hhash⟩ := signed_of_verified hevent hkey hverified
    obtain ⟨requestFingerprint, hrequest⟩ := fingerprintRequest_exists (N := N) hevent hkey blobId
    refine ⟨_, hsize, ⟨(isRelayOpaqueId_eq blobId).symm ▸ hadmissible.blobId,
      hadmissible.idempotencyKey _ rfl, ⟨?_, ?_, unsigned_of_relayStage hevent hadmissible.stage,
        hadmissible.unanchored⟩, hhash⟩, hadmissible.blob, ?_, hverified, fingerprint,
      hfingerprint, requestFingerprint, hrequest, rfl⟩
    · rw [Validation.isRelayStage, Bool.or_eq_true, decide_eq_true_eq, decide_eq_true_eq]
      exact hadmissible.stage
    · rw [hsignature]
      exact Option.some_ne_none signature
    · show event.extensionSignature.map (·.keyId) = some key.keyId
      rw [hsignature, Option.map_some, hkeyId]

/-- **The relay admits what the extension verifies.**  A request for an event,
as the extension posts it, is admitted exactly if it is short enough and the
event is one that is relayed, for a blob of its receipt and its key, with a
signature that the extension verifies; and it is read as it was made. -/
theorem relayRequests_admitted_iff (hagree : N.Agrees C)
    (hevent : parseEventEnvelope W.toReceiptPlatform v (ascii "$.event") = .ok event)
    (hkey : parsePublicKeyDescriptor W.toReceiptPlatform w (ascii "$.extensionPublicKey") =
      .ok key) (blobs : Text → Option BlobBinding) (blobId idempotencyKey : Text) :
    ∃ text, relayAnchorBody W blobId v w idempotencyKey = .ok (some text) ∧
      ∀ request : HttpRequest, request.Carries text →
        ((∃ validated, admitRelayRequest W keccak256 N blobs request = .ok validated) ↔
          (utf8Bytes text).length ≤ MAX_RELAY_REQUEST_BYTES ∧
            Admissible W keccak256 C blobs ⟨blobId, event, key, some idempotencyKey⟩) ∧
        ∀ validated, admitRelayRequest W keccak256 N blobs request = .ok validated →
          validated.request = ⟨blobId, event, key, some idempotencyKey⟩ ∧
          validated.eventHash = event.eventHash ∧
          validated.extensionKeyFingerprint = (fingerprintOf N key).display ∧
          validated.extensionKeyHash = (fingerprintOf N key).bytes32 := by
  obtain ⟨text, hbody, hback, hparse⟩ := relayAnchorBody_exists hevent hkey blobId idempotencyKey
  have hkeyAgain := (parsePublicKeyDescriptor_parses (Q := W.toReceiptPlatform)).again hkey
  refine ⟨text, hbody, fun request hcarries =>
    ⟨admitRelayRequest_iff hagree hevent hkey hcarries hback hparse, fun validated h => ?_⟩⟩
  rw [admitRelayRequest_body hevent hkey hcarries hback hparse] at h
  obtain ⟨-, -, hvalidated⟩ := h
  obtain ⟨-, -, -, fingerprint, hfingerprint, -, -, rfl⟩ := validateRequest_eq_ok.mp hvalidated
  obtain ⟨descriptor, hdescriptor, -, -, rfl⟩ := deriveExtensionKeyFingerprint_eq_ok.mp hfingerprint
  obtain rfl := Except.ok.inj ((hkeyAgain _).symm.trans hdescriptor)
  exact ⟨rfl, rfl, rfl, rfl⟩

end request

end laws

/-! ### A request for one event -/

/-- A runtime that takes every document for a key and accepts the signature of zero
bytes. -/
def sampleNode : NodeCrypto where
  KeyObject := Unit
  createPublicKey _ := some ()
  isP256 _ := true
  verify _ _ signature := some (signature == List.replicate 64 0)
  sha256 _ := List.replicate 32 0

theorem sampleNode_agrees : sampleNode.Agrees sampleCrypto where
  key _ := ⟨fun _ => ⟨(), rfl, rfl⟩, fun _ => rfl⟩
  signature _ _ _ _ _ _ _ _ := Iff.rfl

/-- The text, in one chunk. -/
def sampleRequest (text : Text) : HttpRequest where
  contentType := some (ascii "application/json")
  contentLength := none
  body := some [utf8Bytes text]

theorem sampleRequest_carries (text : Text) : (sampleRequest text).Carries text where
  contentType := rfl
  contentLength length hlength := by cases hlength
  body := ⟨_, rfl, by rw [List.flatten_singleton]⟩

/-- The events that the sample's parts are parsed to. -/
theorem sampleSignedEvent_parsed :
    parseEventEnvelope sampleWebPlatform.toReceiptPlatform sampleSignedEvent.value
      (ascii "$.event") = .ok sampleSignedEvent := by
  decide +kernel

theorem sampleKey_parsed :
    parsePublicKeyDescriptor sampleWebPlatform.toReceiptPlatform
      sampleSignedReceipt.extensionPublicKey.write (ascii "$.extensionPublicKey") =
        .ok sampleSignedReceipt.extensionPublicKey := by
  decide +kernel

/-- The blob of the sample. -/
def sampleBlobs (_ : Text) : Option BlobBinding :=
  some ⟨sampleSignedEvent.core.receiptId, sampleSignedReceipt.extensionPublicKey.keyId⟩

/-- The event with a signature of other bytes. -/
def sampleForgedEvent : LifecycleEventEnvelope :=
  { sampleSignedEvent with
    extensionSignature := sampleSignedEvent.extensionSignature.map fun signature =>
      { signature with signature := 66 :: List.replicate 85 65 } }

theorem sampleForgedEvent_parsed :
    parseEventEnvelope sampleWebPlatform.toReceiptPlatform sampleForgedEvent.value
      (ascii "$.event") = .ok sampleForgedEvent := by
  decide +kernel

/-- The signed event is admitted, the forged one is not. -/
theorem relayRequests_admitted_sample :
    (∃ text validated,
      relayAnchorBody sampleWebPlatform (List.replicate 43 65) sampleSignedEvent.value
          sampleSignedReceipt.extensionPublicKey.write (ascii "0123456789abcdef") =
        .ok (some text) ∧
      admitRelayRequest sampleWebPlatform sampleKeccak sampleNode sampleBlobs
        (sampleRequest text) = .ok validated ∧ validated.request.event = sampleSignedEvent) ∧
    ∃ text,
      relayAnchorBody sampleWebPlatform (List.replicate 43 65) sampleForgedEvent.value
          sampleSignedReceipt.extensionPublicKey.write (ascii "0123456789abcdef") =
        .ok (some text) ∧
      ∀ validated, admitRelayRequest sampleWebPlatform sampleKeccak sampleNode sampleBlobs
        (sampleRequest text) ≠ .ok validated := by
  constructor
  · have hshort : ((relayAnchorBody sampleWebPlatform (List.replicate 43 65)
        sampleSignedEvent.value sampleSignedReceipt.extensionPublicKey.write
        (ascii "0123456789abcdef")).toOption.join.all
          fun text => (utf8Bytes text).length ≤ 8192) = true := by
      decide +kernel
    obtain ⟨text, hbody, hadmitted⟩ := @relayRequests_admitted_iff sampleWebPlatform sampleKeccak
      sampleNode sampleCrypto _ _ _ _ sampleNode_agrees sampleSignedEvent_parsed sampleKey_parsed
      sampleBlobs (List.replicate 43 65) (ascii "0123456789abcdef")
    obtain ⟨hiff, hread⟩ := hadmitted _ (sampleRequest_carries text)
    have hsize : (utf8Bytes text).length ≤ 8192 := by
      rw [hbody] at hshort
      exact of_decide_eq_true hshort
    have hverified : verifyExtensionEventSignature sampleWebPlatform sampleKeccak sampleCrypto
        sampleSignedEvent.value sampleSignedReceipt.extensionPublicKey.write = true := by
      decide +kernel
    obtain ⟨validated, hvalidated⟩ := hiff.mpr ⟨hsize.trans (by decide), by decide, by
      rintro _ ⟨⟩
      decide, .inl rfl, rfl, rfl, hverified⟩
    exact ⟨text, validated, hbody, hvalidated, congrArg (·.event) (hread validated hvalidated).1⟩
  · obtain ⟨text, hbody, hadmitted⟩ := @relayRequests_admitted_iff sampleWebPlatform sampleKeccak
      sampleNode sampleCrypto _ _ _ _ sampleNode_agrees sampleForgedEvent_parsed sampleKey_parsed
      sampleBlobs (List.replicate 43 65) (ascii "0123456789abcdef")
    refine ⟨text, hbody, fun validated hvalidated => ?_⟩
    obtain ⟨-, -, -, -, -, -, hverified⟩ :=
      (hadmitted _ (sampleRequest_carries text)).1.mp ⟨validated, hvalidated⟩
    have hrefused : verifyExtensionEventSignature sampleWebPlatform sampleKeccak sampleCrypto
        sampleForgedEvent.value sampleSignedReceipt.extensionPublicKey.write = false := by
      decide +kernel
    rw [hrefused] at hverified
    cases hverified

end SubmittedIt.Protocol
