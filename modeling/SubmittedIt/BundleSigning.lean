/-
SubmittedIt/BundleSigning.lean

Signing the events of a receipt (apps/extension/lib: crypto.ts and
private-receipt.ts).

An installation signs with a key that it generated and that never leaves Web
Crypto.  A stored receipt becomes a bundle whose events are its events, signed; of
a bundle that exists already, the signed events are kept as they are, with their
anchors, and only what is new is signed.

`SigningIdentity` is what the generation of an identity leaves, and `SignedBy` what
signing an event leaves.

Main results: `signExtensionEvent_signable` and `verifyPrivateReceiptBundle_secured`.
-/
import SubmittedIt.AnchorAttachment
import SubmittedIt.CaptureRequests

namespace SubmittedIt.Protocol

open JsValue (member hasOwn)

open Extension (ReceiptOwnership VerificationCheckName VerificationCheckResult VerificationResult)

/-! ### Web Crypto -/

/-- `KeyType`. -/
inductive KeyType
  | privateKey
  | publicKey
  | secretKey
  deriving DecidableEq

/-- `KeyUsage`. -/
inductive KeyUsage
  | decrypt
  | deriveBits
  | deriveKey
  | encrypt
  | sign
  | unwrapKey
  | verify
  | wrapKey
  deriving DecidableEq

/-- What a `CryptoKey` tells of itself. -/
structure CryptoKeyProperties where
  keyType : KeyType
  extractable : Bool
  algorithmName : Option String
  namedCurve : Option String
  usages : List KeyUsage
  deriving DecidableEq

/-- Web Crypto with keys that sign: ECDSA over P-256, `generateKey` for pairs whose
private key is not extractable, `exportKey` as SPKI and `digest` with SHA-256.  What
is drawn at random is an argument. -/
structure SigningProvider extends CryptoProvider where
  Key : Type
  properties : Key → CryptoKeyProperties
  generateKey : (draw : Nat) → Option (Key × Key)
  exportKey : Key → Option (List UInt8)
  digest : List UInt8 → Option (List UInt8)
  sign : Key → (data : List UInt8) → (draw : Nat) → Option (List UInt8)

/-- `InstallationIdentityRecord`. -/
structure InstallationIdentityRecord (Key : Type) where
  storageVersion : Nat
  createdAt : Text
  fingerprint : Text
  privateKey : Key
  publicKey : PublicKeyDescriptor

/-- The checks of a private key: its usages, sorted and joined, are `sign` only where
there is no other. -/
def CryptoKeyProperties.signs (key : CryptoKeyProperties) : Prop :=
  key.keyType = .privateKey ∧ key.extractable = false ∧ key.algorithmName = some "ECDSA" ∧
    key.namedCurve = some "P-256" ∧ key.usages = [.sign]

instance (key : CryptoKeyProperties) : Decidable key.signs :=
  inferInstanceAs (Decidable (_ ∧ _ ∧ _ ∧ _ ∧ _))

section signing

variable (W : WebPlatform) (keccak256 : List UInt8 → HashHex) (S : SigningProvider)

/-! ### crypto.ts -/

/-- `validateInstallationIdentityRecord`. -/
def validateInstallationIdentityRecord (value : InstallationIdentityRecord S.Key) :
    Option (InstallationIdentityRecord S.Key) := do
  ensure (value.storageVersion = 1)
  ensure ((isoTime value.createdAt).isSome = true)
  ensure ((ascii "sha256:").isPrefixOf value.fingerprint = true)
  ensure (S.properties value.privateKey).signs
  let publicKey ← (parsePublicKeyDescriptor W.toReceiptPlatform value.publicKey.write
    (ascii "$.publicKey")).toOption
  return { value with publicKey }

/-- `generateInstallationIdentity`. -/
def generateInstallationIdentity (createdAt : Text) (draw : Nat) :
    Except ExtensionError (InstallationIdentityRecord S.Key) := do
  let pair ← orThrow .operation (S.generateKey draw)
  throwIf ((S.properties pair.1).extractable = true ∨ (S.properties pair.2).extractable = false)
    "Chromium did not create the required non-extractable private signing key."
  let spki ← orThrow .operation (S.exportKey pair.2)
  let fingerprintBytes ← orThrow .operation (S.digest spki)
  let fingerprintBase64Url := bytesToBase64Url fingerprintBytes
  let keyId := ascii "submittedit-extension-p256-" ++ fingerprintBase64Url.take 24
  let publicKey ← rethrow (parsePublicKeyDescriptor W.toReceiptPlatform
    (PublicKeyDescriptor.write ⟨keyId, bytesToBase64Url spki⟩) (ascii "$.publicKey"))
  return {
    storageVersion := 1, createdAt, fingerprint := ascii "sha256:" ++ fingerprintBase64Url,
    privateKey := pair.1, publicKey }

/-- The event with a signature of the extension. -/
def LifecycleEventEnvelope.withSignature (event : LifecycleEventEnvelope)
    (signature : SignatureEnvelope) : LifecycleEventEnvelope :=
  { event with extensionSignature := some signature }

/-- `signExtensionEvent` of an event without a signature. -/
def signBareEvent (event : LifecycleEventEnvelope) (identity : InstallationIdentityRecord S.Key)
    (draw : Nat) : Except ExtensionError LifecycleEventEnvelope := do
  -- the event is parsed and hashed, so that its preimage does not throw
  let preimage ← orThrow .operation (extensionSigningPreimage W keccak256 event)
  let signatureBytes ← orThrow .operation (S.sign identity.privateKey preimage draw)
  throwIf (signatureBytes.length ≠ 64)
    "Chromium returned an unsupported ECDSA signature encoding."
  let payloadHash ← rethrow
    (hashExtensionSignaturePayload W.toReceiptPlatform keccak256 event.value)
  let extensionSignature ← rethrow (parseSignatureEnvelope W.toReceiptPlatform
    (SignatureEnvelope.value ⟨identity.publicKey.keyId, payloadHash,
      bytesToBase64Url signatureBytes, .extension⟩) (ascii "$.extensionSignature"))
  let signed ← rethrow (parseEventEnvelope W.toReceiptPlatform
    (event.withSignature extensionSignature).value (ascii "$.event"))
  throwIf (verifyExtensionEventSignature W keccak256 S.toCryptoProvider signed.value
      identity.publicKey.write = false) "The generated extension signature did not verify."
  return signed

/-- `signExtensionEvent`. -/
def signExtensionEvent (eventInput : JsValue) (identityInput : InstallationIdentityRecord S.Key)
    (draw : Nat) : Except ExtensionError LifecycleEventEnvelope := do
  let identity ← orThrow (.message "The extension signing identity is missing or invalid.")
    (validateInstallationIdentityRecord W S identityInput)
  let event ← rethrow (parseEventEnvelope W.toReceiptPlatform eventInput (ascii "$.event"))
  throwIf (event.core.stage ≠ .attempted ∧ event.core.stage ≠ .siteConfirmed)
    "The local extension signs only Attempted and Site confirmed events."
  throwIf (event.authoritySignature.isSome = true ∨ event.chainAnchor.isSome = true)
    "The extension refused to sign an event with unrelated evidence attached."
  let expected ← rethrow (hashEventCore W.toReceiptPlatform keccak256 event.core.value)
  throwIf (event.eventHash ≠ expected) "Stored event hash does not match its canonical core."
  if event.extensionSignature.isSome = true then do
    throwIf (verifyExtensionEventSignature W keccak256 S.toCryptoProvider event.value
        identity.publicKey.write = false)
      "The event already contains an invalid extension signature."
    return event
  else signBareEvent W keccak256 S event identity draw

/-! ### private-receipt.ts -/

/-- `existingByHash.get(eventHash)`: of two events with one hash, the last. -/
def PrivateReceiptBundle.byHash (existing : PrivateReceiptBundle) (eventHash : Text) :
    Option LifecycleEventEnvelope :=
  existing.receipt.events.reverse.find? fun event => event.eventHash = eventHash

/-- The signed event of a bundle that is kept in place of an event. -/
def priorEvent (existing : Option PrivateReceiptBundle) (event : LifecycleEventEnvelope) :
    Except ExtensionError (Option LifecycleEventEnvelope) :=
  match existing with
  | none => .ok none
  | some bundle =>
    match bundle.byHash event.eventHash with
    | none => .ok none
    | some prior => do
      let same ← rethrow (sameCanonical W (withoutExtensionSignature prior).value event.value)
      let kept := same && verifyExtensionEventSignature W keccak256 S.toCryptoProvider prior.value
        bundle.receipt.extensionPublicKey.write
      return if kept = true then some prior else none

/-- An event as the bundle gets it: the one that is kept, or the event signed. -/
def signedEvent (identity : InstallationIdentityRecord S.Key)
    (existing : Option PrivateReceiptBundle) (draw : Nat) (event : LifecycleEventEnvelope) :
    Except ExtensionError LifecycleEventEnvelope := do
  let prior ← priorEvent W keccak256 S existing event
  match prior with
  | some prior => return prior
  | none => signExtensionEvent W keccak256 S event.value identity draw

/-- `signedEventsForOperational`, from an event on; each event is signed with a draw of
its own. -/
def signedEventsForOperational (identity : InstallationIdentityRecord S.Key)
    (existing : Option PrivateReceiptBundle) : (draw : Nat) → List LifecycleEventEnvelope →
    Except ExtensionError (List LifecycleEventEnvelope)
  | _, [] => .ok []
  | draw, event :: rest => do
    let signed ← signedEvent W keccak256 S identity existing draw event
    let events ← signedEventsForOperational identity existing (draw + 1) rest
    return signed :: events

/-- `existingInput`, where it is not null. -/
def readExisting (existingInput : JsValue) : Except ExtensionError (Option PrivateReceiptBundle) :=
  match existingInput with
  | .null => .ok none
  | input => (verifyPrivateReceiptBundle W keccak256 S.toCryptoProvider input).map some

/-- The bundle of a receipt, signed. -/
def securedBundle (operational : StoredAttemptReceipt)
    (identity : InstallationIdentityRecord S.Key) (existing : Option PrivateReceiptBundle)
    (now : Text) (draw : Nat) : Except ExtensionError PrivateReceiptBundle := do
  let events ← signedEventsForOperational W keccak256 S identity existing draw
    (operationalEvents operational)
  let extensionPublicKey ← rethrow (parsePublicKeyDescriptor W.toReceiptPlatform
    identity.publicKey.write (ascii "$.extensionPublicKey"))
  let receipt ← rethrow (createReceipt keccak256 W.toReceiptPlatform {
    createdAt := operational.capturedAt
    events
    extensionPublicKey
    receiptId := operational.receiptId
    schemaVersion := operational.event.envelope.core.schemaVersion
    verification := verificationState now events })
  verifyPrivateReceiptBundle W keccak256 S.toCryptoProvider
    (PrivateReceiptBundle.value ⟨operational, .local, receipt⟩)

/-- What `createOrUpdatePrivateReceiptBundle` makes of its arguments, parsed. -/
def updateBundle (operational : StoredAttemptReceipt)
    (identity : InstallationIdentityRecord S.Key) (existing : Option PrivateReceiptBundle)
    (now : Text) (draw : Nat) : Except ExtensionError PrivateReceiptBundle :=
  match existing with
  | none => securedBundle W keccak256 S operational identity none now draw
  | some bundle => do
    throwIf (bundle.operational.receiptId ≠ operational.receiptId)
      "SubmittedIt refused a cross-receipt encrypted update."
    let unchanged ← rethrow (sameCanonical W bundle.operational.value operational.value)
    if unchanged = true then return bundle
    else do
      throwIf (bundle.ownership = .imported)
        "Imported receipts are read-only because their original signing key was not imported."
      let sameKey ← rethrow (sameCanonical W bundle.receipt.extensionPublicKey.write
        identity.publicKey.write)
      throwIf (sameKey = false)
        "The current installation cannot sign as the receipt's original identity."
      securedBundle W keccak256 S operational identity (some bundle) now draw

/-- `createOrUpdatePrivateReceiptBundle`. -/
def createOrUpdatePrivateReceiptBundle (operationalInput : JsValue)
    (identity : InstallationIdentityRecord S.Key) (existingInput : JsValue) (now : Text)
    (draw : Nat) : Except ExtensionError PrivateReceiptBundle := do
  let operational ← orThrow
    (.message "SubmittedIt refused to secure invalid operational receipt evidence.")
    (validateStoredAttemptReceipt W keccak256 operationalInput)
  let existing ← readExisting W keccak256 S existingInput
  updateBundle W keccak256 S operational identity existing now draw

end signing

section laws

open Transaction

variable {W : WebPlatform} {keccak256 : List UInt8 → HashHex} {S : SigningProvider}
  {C : CryptoProvider} {Q : ReceiptPlatform}

/-! ### What is signed -/

/-- The event is parsed to itself, and its hash is that of its core. -/
structure Hashed (Q : ReceiptPlatform) (keccak256 : List UInt8 → HashHex)
    (event : LifecycleEventEnvelope) : Prop where
  normal : Normal Q event
  hash : hashEventCore Q keccak256 event.core.value = .ok event.eventHash

/-- The payload that is signed for an event. -/
def signaturePayload (event : LifecycleEventEnvelope) : JsValue :=
  record [(ascii "eventHash", .string event.eventHash),
    (ascii "receiptId", .string event.core.receiptId),
    (ascii "schemaVersion", .string event.core.schemaVersion),
    (ascii "stage", writeEnum eventStageText event.core.stage)]

theorem signaturePayload_canonical (event : LifecycleEventEnvelope) :
    ∃ j, Canonical Q.toTextPlatform (signaturePayload event) j := by
  apply canonical_record rfl
  exact ⟨.inr ⟨_, rfl⟩, .inr ⟨_, rfl⟩, .inr ⟨_, rfl⟩, .inr ⟨_, rfl⟩, trivial⟩

theorem Hashed.payload {event : LifecycleEventEnvelope} (h : Hashed Q keccak256 event) :
    createExtensionSignaturePayload Q keccak256 event.value = .ok (signaturePayload event) := by
  simp only [createExtensionSignaturePayload, bind_eq_ok, parseHashedEventEnvelope_eq_ok]
  exact ⟨event, ⟨h.normal _, h.hash⟩, rfl⟩

/-- The hash of the payload of an event. -/
theorem Hashed.payloadHash {event : LifecycleEventEnvelope} (h : Hashed Q keccak256 event) :
    hashExtensionSignaturePayload Q keccak256 event.value =
      hashCanonical Q.toTextPlatform keccak256 HashDomain.extensionSignature.text
        (signaturePayload event) := by
  rw [hashExtensionSignaturePayload, h.payload]
  rfl

/-- The payload has a preimage in every domain. -/
theorem payload_preimage (domain : Text) (event : LifecycleEventEnvelope) :
    ∃ preimage, createDomainSeparatedPreimage Q.toTextPlatform domain (signaturePayload event) =
      .ok preimage := by
  obtain ⟨j, hj⟩ := signaturePayload_canonical (Q := Q) event
  exact ⟨_, createDomainSeparatedPreimage_eq_ok.mpr
    ⟨_, canonicalize_eq_ok.mpr ⟨j, hj, rfl⟩, rfl⟩⟩

theorem hashCanonical_payload (keccak256 : List UInt8 → HashHex) (domain : Text)
    (event : LifecycleEventEnvelope) :
    ∃ word, hashCanonical Q.toTextPlatform keccak256 domain (signaturePayload event) =
      .ok (hashText word) := by
  obtain ⟨preimage, hpreimage⟩ := payload_preimage (Q := Q) domain event
  exact ⟨_, bind_eq_ok.mpr ⟨preimage, hpreimage, rfl⟩⟩

/-- The bytes that are signed for an event. -/
theorem Hashed.preimage {event : LifecycleEventEnvelope}
    (h : Hashed W.toReceiptPlatform keccak256 event) {preimage : Text}
    (hpreimage : createDomainSeparatedPreimage W.toTextPlatform HashDomain.extensionSignature.text
      (signaturePayload event) = .ok preimage) :
    extensionSigningPreimage W keccak256 event = some (utf8Bytes preimage) := by
  simp only [extensionSigningPreimage, Option.bind_eq_bind, Option.bind_eq_some_iff,
    accept_eq_some, ensure_eq_some, toOption_eq_some]
  exact ⟨event, h.normal _, _, h.hash, (), rfl, _, h.payload, preimage, hpreimage, rfl⟩

/-! ### Signatures -/

/-- **An event is parsed with its signature.** -/
theorem Normal.withSignature {event : LifecycleEventEnvelope} (h : Normal Q event)
    {signature : SignatureEnvelope}
    (hsignature : ∀ q, parseSignatureEnvelope Q signature.value q = .ok signature)
    (hsigner : signature.signer = .extension) : Normal Q (event.withSignature signature) := by
  intro q
  obtain ⟨hconsistent, value, -, hfields⟩ := parseEventEnvelope_eq_ok.mp (h q)
  obtain ⟨-, h1, -, h3, h4, h5⟩ := hfields q
  have hconsistent' : (event.withSignature signature).Consistent := by
    refine ⟨?_, hconsistent.authority_signer, hconsistent.authority_stage⟩
    rintro ⟨found, hfound, hother⟩
    obtain rfl := Option.some.inj hfound
    exact hother hsigner
  have hread : ∀ q, optionalField (parseSignatureEnvelope Q) "extensionSignature"
      (definedMembers [(ascii "authoritySignature",
          writeOption SignatureEnvelope.value event.authoritySignature),
        (ascii "chainAnchor", writeOption ChainAnchorMetadata.value event.chainAnchor),
        (ascii "core", event.core.value), (ascii "eventHash", .string event.eventHash),
        (ascii "extensionSignature", signature.value)]) q = .ok (some signature) := by
    intro q
    rw [optionalField_definedMembers rfl rfl]
    show (parseSignatureEnvelope Q signature.value _).map some = _
    rw [hsignature]
    rfl
  refine parseEventEnvelope_eq_ok.mpr
    ⟨hconsistent', _, rfl, fun q => ⟨assertKeys_fits rfl q, ?_, hread q, ?_, ?_, ?_⟩⟩
  · exact field_again parseEventCore_parses h1 rfl rfl q
  · exact optionalField_again parseSignatureEnvelope_parses h3 rfl rfl (fun _ => rfl) q
  · exact optionalField_again (parseChainAnchorMetadata_parses (Q := Q)) h4 rfl rfl
      (fun _ => rfl) q
  · exact field_again (normalizeHash_parses (Q := Q)) h5 rfl rfl q

/-- A signed event has the hash of its core. -/
theorem Hashed.withSignature {event : LifecycleEventEnvelope} (h : Hashed Q keccak256 event)
    {signature : SignatureEnvelope}
    (hsignature : ∀ q, parseSignatureEnvelope Q signature.value q = .ok signature)
    (hsigner : signature.signer = .extension) :
    Hashed Q keccak256 (event.withSignature signature) :=
  ⟨h.normal.withSignature hsignature hsigner, h.hash⟩

/-- **When the signature of an event verifies.** -/
theorem Hashed.verified_iff {event : LifecycleEventEnvelope}
    (h : Hashed W.toReceiptPlatform keccak256 event) {key : JsValue}
    {descriptor : PublicKeyDescriptor} {verificationKey : C.VerificationKey}
    (hkey : importVerificationKey W C key = some (descriptor, verificationKey)) :
    verifyExtensionEventSignature W keccak256 C event.value key = true ↔
      ∃ signature, event.extensionSignature = some signature ∧
        (signature.signer = .extension ∧ signature.keyId = descriptor.keyId) ∧
        hashExtensionSignaturePayload W.toReceiptPlatform keccak256 event.value =
          .ok signature.payloadHash ∧
        ∃ bytes, base64UrlToBytes signature.signature "$.extensionSignature.signature" =
            .ok bytes ∧ bytes.length = 64 ∧
          ∃ preimage, extensionSigningPreimage W keccak256 event = some preimage ∧
            C.verify verificationKey bytes preimage = some true := by
  have hparsed : accept (parseEventEnvelope W.toReceiptPlatform) event.value = some event :=
    accept_eq_some.mpr (h.normal _)
  simp only [verifyExtensionEventSignature, decide_eq_true_eq, Option.bind_eq_bind,
    Option.bind_eq_some_iff, ensure_eq_some, hparsed, hkey, toOption_eq_some, Option.some.injEq]
  constructor
  · rintro ⟨_, rfl, _, rfl, signature, hsignature, _, hsigner, _, hpayload, _, rfl, bytes, hbytes,
      _, hlength, preimage, hpreimage, hverified⟩
    exact ⟨signature, hsignature, hsigner, hpayload, bytes, hbytes, hlength, preimage, hpreimage,
      hverified⟩
  · rintro ⟨signature, hsignature, hsigner, hpayload, bytes, hbytes, hlength, preimage, hpreimage,
      hverified⟩
    exact ⟨_, rfl, _, rfl, signature, hsignature, (), hsigner, _, hpayload, (), rfl, bytes, hbytes,
      (), hlength, preimage, hpreimage, hverified⟩

/-! ### Identities -/

/-- What an installation signs verifies with its public key. -/
structure SigningIdentity (W : WebPlatform) (S : SigningProvider)
    (identity : InstallationIdentityRecord S.Key) : Prop where
  valid : validateInstallationIdentityRecord W S identity = some identity
  normal : ∀ q, parsePublicKeyDescriptor W.toReceiptPlatform identity.publicKey.write q =
    .ok identity.publicKey
  signs : ∃ key, importVerificationKey W S.toCryptoProvider identity.publicKey.write =
      some (identity.publicKey, key) ∧ ∀ data draw, ∃ signature,
        S.sign identity.privateKey data draw = some signature ∧ signature.length = 64 ∧
          S.verify key signature data = some true

/-- What Web Crypto documents of the pairs that it generates. -/
structure SigningProvider.Lawful (S : SigningProvider) : Prop where
  properties : ∀ {draw pair}, S.generateKey draw = some pair →
    (S.properties pair.1).signs
  pairs : ∀ {draw pair spki}, S.generateKey draw = some pair → S.exportKey pair.2 = some spki →
    spki ≠ [] ∧ ∃ key, S.importKey spki = some key ∧ ∀ data draw, ∃ signature,
      S.sign pair.1 data draw = some signature ∧ signature.length = 64 ∧
        S.verify key signature data = some true

/-- **An identity that was generated signs.** -/
theorem generateInstallationIdentity_signs (hS : S.Lawful) {createdAt : Text} {draw : Nat}
    {identity : InstallationIdentityRecord S.Key} (hcreated : (isoTime createdAt).isSome = true)
    (h : generateInstallationIdentity W S createdAt draw = .ok identity) :
    SigningIdentity W S identity := by
  simp only [generateInstallationIdentity, bind_eq_ok, orThrow_eq_ok, rethrow_eq_ok,
    throwIf_eq_ok] at h
  obtain ⟨pair, hpair, _, -, spki, hspki, fingerprint, -, publicKey, hkey, h⟩ := h
  obtain rfl := Except.ok.inj h
  obtain ⟨hne, key, himported, hsigns⟩ := hS.pairs hpair hspki
  have hnormal := parsePublicKeyDescriptor_parses.again hkey
  obtain ⟨value, hvalue, hfields⟩ := parsePublicKeyDescriptor_eq_ok.mp hkey
  obtain rfl := JsValue.object.inj hvalue
  obtain ⟨-, -, -, -, hfound⟩ := hfields []
  have hsame : publicKey.value = bytesToBase64Url spki :=
    (JsValue.string.inj (normalizeBase64Url_eq_ok.mp hfound).1).symm
  refine ⟨?_, hnormal, key, ?_, hsigns⟩
  · simp only [validateInstallationIdentityRecord, Option.bind_eq_bind, Option.bind_eq_some_iff,
      ensure_eq_some, toOption_eq_some]
    exact ⟨(), trivial, (), hcreated, (), rfl, (), hS.properties hpair, publicKey, hnormal _, rfl⟩
  · simp only [importVerificationKey, Option.bind_eq_bind, Option.bind_eq_some_iff, accept_eq_some,
      toOption_eq_some]
    exact ⟨publicKey, hnormal _, spki, base64UrlToBytes_eq_ok.mpr ⟨hne, hsame⟩, key, himported,
      rfl⟩

/-- The event, signed with the key. -/
structure SignedBy (W : WebPlatform) (keccak256 : List UInt8 → HashHex) (C : CryptoProvider)
    (key : PublicKeyDescriptor) (event signed : LifecycleEventEnvelope) : Prop where
  normal : Normal W.toReceiptPlatform signed
  same : withoutExtensionSignature signed = event
  verified : verifyExtensionEventSignature W keccak256 C signed.value key.write = true

theorem keyId_normal {key : PublicKeyDescriptor}
    (h : ∀ q, parsePublicKeyDescriptor Q key.write q = .ok key) :
    ∀ q, normalizeNonEmptyText Q (.string key.keyId) q = .ok key.keyId := by
  obtain ⟨value, hvalue, hfields⟩ := parsePublicKeyDescriptor_eq_ok.mp (h [])
  obtain rfl := JsValue.object.inj hvalue
  obtain ⟨-, -, -, hkeyId, -⟩ := hfields []
  exact normalizeNonEmptyText_parses.again hkeyId

theorem normalizeBase64Url_bytes {bytes : List UInt8} (h : bytes ≠ []) (q : Text) :
    normalizeBase64Url (.string (bytesToBase64Url bytes)) q = .ok (bytesToBase64Url bytes) := by
  have hall : ∀ n < 64, (isAlphanumeric (Relay.sextetText n) || Relay.sextetText n = 95 ||
      Relay.sextetText n = 45) = true := by decide
  refine normalizeBase64Url_eq_ok.mpr ⟨rfl, ?_, ?_⟩
  · intro hnil
    have hnone : bytesToBase64Url [] = [] := rfl
    exact h (bytesToBase64Url_injective (hnil.trans hnone.symm))
  · rw [bytesToBase64Url_eq, encodeBase64Url_eq, List.all_map, List.all_eq_true]
    exact fun n hn => hall n (sextets_lt bytes n hn)

/-- What signing an event without a signature gives. -/
theorem signBareEvent_eq_ok {identity : InstallationIdentityRecord S.Key}
    (hidentity : SigningIdentity W S identity) {event : LifecycleEventEnvelope}
    (hevent : Hashed W.toReceiptPlatform keccak256 event) (draw : Nat) : ∃ signature,
      signBareEvent W keccak256 S event identity draw = .ok (event.withSignature signature) ∧
      Normal W.toReceiptPlatform (event.withSignature signature) ∧
      verifyExtensionEventSignature W keccak256 S.toCryptoProvider
        (event.withSignature signature).value identity.publicKey.write = true := by
  obtain ⟨key, hkey, hsigns⟩ := hidentity.signs
  obtain ⟨preimage, hpreimage⟩ := payload_preimage (Q := W.toReceiptPlatform)
    HashDomain.extensionSignature.text event
  obtain ⟨word, hpayload⟩ := hashCanonical_payload (Q := W.toReceiptPlatform) keccak256
    HashDomain.extensionSignature.text event
  obtain ⟨bytes, hsigned, hlength, hverify⟩ := hsigns (utf8Bytes preimage) draw
  have hne : bytes ≠ [] := by
    rintro rfl
    cases hlength
  let signature : SignatureEnvelope :=
    ⟨identity.publicKey.keyId, hashText word, bytesToBase64Url bytes, .extension⟩
  have hsignature : ∀ q, parseSignatureEnvelope W.toReceiptPlatform signature.value q =
      .ok signature := by
    refine fun q => parseSignatureEnvelope_eq_ok.mpr ⟨_, rfl, fun q =>
      ⟨assertKeys_fits rfl q, rfl, rfl, ?_, ?_, ?_, rfl⟩⟩
    · exact field_written rfl rfl (keyId_normal hidentity.normal) q
    · exact field_written rfl rfl (Capture.normalizeHash_hashText word) q
    · exact field_written rfl rfl (normalizeBase64Url_bytes hne) q
  have hhashed := hevent.withSignature hsignature rfl
  have hverified : verifyExtensionEventSignature W keccak256 S.toCryptoProvider
      (event.withSignature signature).value identity.publicKey.write = true := by
    refine (hhashed.verified_iff hkey).mpr ⟨signature, rfl, ⟨rfl, rfl⟩, ?_, bytes, ?_, hlength, _,
      hhashed.preimage hpreimage, hverify⟩
    · exact hhashed.payloadHash.trans hpayload
    · exact base64UrlToBytes_bytesToBase64Url hne _
  refine ⟨signature, ?_, hhashed.normal, hverified⟩
  simp only [signBareEvent, bind_eq_ok, orThrow_eq_ok, throwIf_eq_ok, rethrow_eq_ok, not_not,
    Bool.not_eq_false]
  exact ⟨_, hevent.preimage hpreimage, bytes, hsigned, (), hlength, hashText word,
    hevent.payloadHash.trans hpayload, signature, hsignature _, _, hhashed.normal _, (),
    hverified, rfl⟩

theorem bare_eq_true {event : LifecycleEventEnvelope} (h : event.bare = true) :
    event.extensionSignature = none ∧ event.authoritySignature = none ∧
      event.chainAnchor = none := by
  simp only [LifecycleEventEnvelope.bare, Bool.and_eq_true, Option.isNone_iff_eq_none] at h
  exact ⟨h.1.1, h.1.2, h.2⟩

/-- An event that the extension can sign. -/
structure Signable (W : WebPlatform) (keccak256 : List UInt8 → HashHex)
    (event : LifecycleEventEnvelope) : Prop extends
    Hashed W.toReceiptPlatform keccak256 event where
  bare : event.bare = true
  stage : event.core.stage = .attempted ∨ event.core.stage = .siteConfirmed

/-- **An event that the extension can sign, it signs.** -/
theorem signExtensionEvent_signable {identity : InstallationIdentityRecord S.Key}
    (hidentity : SigningIdentity W S identity) {event : LifecycleEventEnvelope}
    (hevent : Signable W keccak256 event) (draw : Nat) : ∃ signed,
      signExtensionEvent W keccak256 S event.value identity draw = .ok signed ∧
      SignedBy W keccak256 S.toCryptoProvider identity.publicKey event signed ∧
      signed.chainAnchor = none := by
  obtain ⟨hextension, hauthority, hanchor⟩ := bare_eq_true hevent.bare
  obtain ⟨signature, hsigned, hnormal, hverified⟩ :=
    signBareEvent_eq_ok hidentity hevent.toHashed draw
  have hsame : withoutExtensionSignature (event.withSignature signature) = event :=
    LifecycleEventEnvelope.ext rfl hanchor.symm rfl rfl hextension.symm
  have hstage : ¬(event.core.stage ≠ .attempted ∧ event.core.stage ≠ .siteConfirmed) :=
    fun hother => hevent.stage.elim hother.1 hother.2
  have hnone : ¬(event.authoritySignature.isSome = true ∨ event.chainAnchor.isSome = true) := by
    rw [hauthority, hanchor]
    exact fun hsome => hsome.elim Bool.noConfusion Bool.noConfusion
  refine ⟨_, ?_, ⟨hnormal, hsame, hverified⟩, hanchor⟩
  simp only [signExtensionEvent, bind_eq_ok, orThrow_eq_ok, rethrow_eq_ok, throwIf_eq_ok, not_not]
  refine ⟨identity, hidentity.valid, event, hevent.normal _, (), hstage, (), hnone, _, hevent.hash,
    (), rfl, ?_⟩
  rw [hextension]
  exact hsigned

/-! ### The events of a stored receipt -/

/-- What the events after the first share with it, and the stage that they leave. -/
theorem replay_shared {events : List LifecycleEventEnvelope} {chain last : ChainState}
    (hnormal : ∀ event ∈ events, Normal Q event) (hindex : chain.index ≠ 0)
    (h : replay (chainStep Q keccak256) chain (events.map (·.value)) = .ok last) :
    last.receiptId = chain.receiptId ∧
      last.currentStage =
        ((events.getLast?.map fun event => .entered event.core.stage).getD chain.currentStage) ∧
      ∀ event ∈ events, hashEventCore Q keccak256 event.core.value = .ok event.eventHash ∧
        some event.core.receiptId = chain.receiptId ∧
        some event.core.schemaVersion = chain.schemaVersion := by
  induction events generalizing chain with
  | nil =>
    obtain rfl := Except.ok.inj h
    exact ⟨rfl, rfl, fun event hevent => absurd hevent List.not_mem_nil⟩
  | cons event rest ih =>
    obtain ⟨hfirst, hrest⟩ := List.forall_mem_cons.mp hnormal
    obtain ⟨next, hstep, hreplay⟩ := replay_cons_ok.mp h
    obtain ⟨found, hfound, haccepts, rfl⟩ := chainStep_eq_ok.mp hstep
    obtain rfl := Except.ok.inj ((hfirst []).symm.trans (hfound []))
    obtain ⟨-, -, hid, hversion⟩ := haccepts.later hindex
    -- the variables keep what the first event set
    have hpushId : (chain.push event).receiptId = chain.receiptId := if_neg hindex
    have hpushVersion : (chain.push event).schemaVersion = chain.schemaVersion := if_neg hindex
    obtain ⟨hlastId, hstage, hshared⟩ := ih hrest (Nat.succ_ne_zero _) hreplay
    rw [hpushId] at hlastId hshared
    rw [hpushVersion] at hshared
    refine ⟨hlastId, ?_, List.forall_mem_cons.mpr ⟨⟨haccepts.hashed, hid, hversion⟩, hshared⟩⟩
    rw [hstage, List.getLast?_cons]
    rcases rest.getLast? with - | found
    · rfl
    · rfl

/-- **What the events of a chain share.** -/
theorem validateEventChain_shared {first : LifecycleEventEnvelope}
    {rest : List LifecycleEventEnvelope} {result : EventChainResult}
    (hnormal : ∀ event ∈ first :: rest, Normal Q event)
    (h : validateEventChain Q keccak256 ((first :: rest).map (·.value)) = .ok result) :
    result.receiptId = some first.core.receiptId ∧
      result.currentStage = .entered (rest.getLast?.getD first).core.stage ∧
      ∀ event ∈ first :: rest,
        hashEventCore Q keccak256 event.core.value = .ok event.eventHash ∧
        event.core.receiptId = first.core.receiptId ∧
        event.core.schemaVersion = first.core.schemaVersion := by
  obtain ⟨hfirst, hrest⟩ := List.forall_mem_cons.mp hnormal
  obtain ⟨last, hreplay, rfl⟩ := validateEventChain_eq_ok.mp h
  obtain ⟨next, hstep, hreplay⟩ := replay_cons_ok.mp hreplay
  obtain ⟨found, hfound, haccepts, rfl⟩ := chainStep_eq_ok.mp hstep
  obtain rfl := Except.ok.inj ((hfirst []).symm.trans (hfound []))
  obtain ⟨hid, hstage, hshared⟩ := replay_shared hrest (Nat.succ_ne_zero _) hreplay
  refine ⟨hid, ?_, List.forall_mem_cons.mpr ⟨⟨haccepts.hashed, rfl, rfl⟩, fun event hevent => ?_⟩⟩
  · show last.currentStage = _
    rw [hstage]
    rcases rest.getLast? with - | found
    · rfl
    · rfl
  · obtain ⟨hhash, hsameId, hsameVersion⟩ := hshared event hevent
    exact ⟨hhash, Option.some.inj hsameId, Option.some.inj hsameVersion⟩

theorem isEventChain_iff {events : List LifecycleEventEnvelope} :
    isEventChain W keccak256 events = true ↔ ∃ result,
      validateEventChain W.toReceiptPlatform keccak256 (events.map (·.value)) = .ok result := by
  unfold isEventChain
  generalize validateEventChain W.toReceiptPlatform keccak256 (events.map (·.value)) = x
  rcases x with e | result
  · constructor
    · intro h
      cases h
    · rintro ⟨result, h⟩
      cases h
  · exact ⟨fun _ => ⟨result, rfl⟩, fun _ => rfl⟩

theorem AttemptedEvent.core_stage (event : AttemptedEvent) :
    event.envelope.core.stage = .attempted :=
  congrArg EventBody.stage event.stage

theorem ConfirmedEvent.core_stage (event : ConfirmedEvent) :
    event.envelope.core.stage = .siteConfirmed :=
  congrArg EventBody.stage event.stage

/-- What is known of the events of a stored receipt. -/
structure OperationalChain (W : WebPlatform) (keccak256 : List UInt8 → HashHex)
    (operational : StoredAttemptReceipt) (result : EventChainResult) : Prop where
  chain : validateEventChain W.toReceiptPlatform keccak256
    ((operationalEvents operational).map (·.value)) = .ok result
  receiptId : result.receiptId = some operational.receiptId
  currentStage : result.currentStage = .entered operational.currentStage
  signable : ∀ event ∈ operationalEvents operational, Signable W keccak256 event
  shared : ∀ event ∈ operationalEvents operational,
    event.core.receiptId = operational.receiptId ∧
      event.core.schemaVersion = operational.event.envelope.core.schemaVersion

/-- The events of a stored receipt are parsed to themselves, are without signatures and
of stages that the extension signs. -/
theorem operationalEvents_parsed {v : JsValue} {operational : StoredAttemptReceipt}
    (h : validateStoredAttemptReceipt W keccak256 v = some operational) :
    ∀ event ∈ operationalEvents operational,
      Normal W.toReceiptPlatform event ∧ event.bare = true ∧
        (event.core.stage = .attempted ∨ event.core.stage = .siteConfirmed) := by
  obtain ⟨value, -, -, -, -, hbase, -, hconfirms⟩ := validateStoredAttemptReceipt_eq_some.mp h
  obtain ⟨hagrees, -, -, -, -, -, -, -, -, -, -, -, -, hevent⟩ := parseAttemptBase_eq_some.mp hbase
  have hattempted := And.intro
    (parseEventEnvelope_parses.again (Q := W.toReceiptPlatform) (accept_eq_some.mp hevent))
    (And.intro hagrees.bare (Or.inl (b := operational.event.envelope.core.stage = .siteConfirmed)
      operational.event.core_stage))
  rcases operational with ⟨base, context, - | ⟨confirmed, evidence⟩⟩
  · exact List.forall_mem_cons.mpr ⟨hattempted, fun event hnone => absurd hnone List.not_mem_nil⟩
  · obtain ⟨-, hconfirmed, -⟩ := parseSiteConfirmed_eq_some.mp hconfirms
    obtain ⟨hbare, hconfirmed⟩ := readConfirmedEvent_eq_some.mp hconfirmed
    refine List.forall_mem_cons.mpr ⟨hattempted, List.forall_mem_cons.mpr ⟨?_, ?_⟩⟩
    · exact ⟨parseEventEnvelope_parses.again (accept_eq_some.mp hconfirmed), hbare,
        .inr confirmed.core_stage⟩
    · exact fun event hnone => absurd hnone List.not_mem_nil

theorem operational_isEventChain {v : JsValue} {operational : StoredAttemptReceipt}
    (h : validateStoredAttemptReceipt W keccak256 v = some operational) :
    isEventChain W keccak256 (operationalEvents operational) = true ∧
      operational.event.envelope.core.receiptId = operational.receiptId := by
  obtain ⟨value, -, -, -, -, hbase, -, hconfirms⟩ := validateStoredAttemptReceipt_eq_some.mp h
  obtain ⟨hagrees, -⟩ := parseAttemptBase_eq_some.mp hbase
  refine ⟨?_, hagrees.receiptId⟩
  rcases operational with ⟨base, context, - | ⟨confirmed, evidence⟩⟩
  · exact hagrees.chain
  · exact (parseSiteConfirmed_eq_some.mp hconfirms).1

theorem operational_chain {v : JsValue} {operational : StoredAttemptReceipt}
    (h : validateStoredAttemptReceipt W keccak256 v = some operational) :
    ∃ result, OperationalChain W keccak256 operational result := by
  have hparsed := operationalEvents_parsed h
  obtain ⟨hchain, hid⟩ := operational_isEventChain h
  obtain ⟨result, hresult⟩ := isEventChain_iff.mp hchain
  obtain ⟨hresultId, hstage, hshared⟩ :=
    validateEventChain_shared (fun event hevent => (hparsed event hevent).1) hresult
  rw [hid] at hresultId hshared
  refine ⟨result, hresult, hresultId, ?_, ?_, fun event hevent => (hshared event hevent).2⟩
  · rw [hstage]
    rcases operational with ⟨base, context, - | ⟨confirmed, evidence⟩⟩
    · exact congrArg _ base.event.core_stage
    · exact congrArg _ confirmed.core_stage
  · intro event hevent
    obtain ⟨hnormal, hbare, hsigned⟩ := hparsed event hevent
    exact ⟨⟨hnormal, (hshared event hevent).1⟩, hbare, hsigned⟩

/-! ### The chain of signed events -/

/-- Parsed events with one core and one hash. -/
structure SameCore (Q : ReceiptPlatform) (event event' : LifecycleEventEnvelope) : Prop where
  normal : Normal Q event
  normal' : Normal Q event'
  core : event'.core = event.core
  hash : event'.eventHash = event.eventHash

theorem SignedBy.sameCore {key : PublicKeyDescriptor} {event signed : LifecycleEventEnvelope}
    (h : SignedBy W keccak256 C key event signed) (hnormal : Normal W.toReceiptPlatform event) :
    SameCore W.toReceiptPlatform event signed :=
  ⟨hnormal, h.normal, (LifecycleEventEnvelope.ext_iff.mp h.same).2.2.1,
    (LifecycleEventEnvelope.ext_iff.mp h.same).2.2.2.1⟩

/-- **The chain of the events is theirs by cores and hashes.** -/
theorem validateEventChain_sameCore {events events' : List LifecycleEventEnvelope}
    (h : List.Forall₂ (SameCore Q) events events') {result : EventChainResult}
    (hchain : validateEventChain Q keccak256 (events.map (·.value)) = .ok result) :
    validateEventChain Q keccak256 (events'.map (·.value)) = .ok result := by
  obtain ⟨chain, hreplay, hresult⟩ := validateEventChain_eq_ok.mp hchain
  refine validateEventChain_eq_ok.mpr ⟨chain, ?_, hresult⟩
  clear hresult hchain
  generalize ChainState.initial = first at hreplay ⊢
  induction h generalizing first with
  | nil => exact hreplay
  | @cons event event' _ _ hfirst hrest ih =>
    obtain ⟨next, hstep, hreplay⟩ := replay_cons_ok.mp hreplay
    obtain ⟨found, hparsed, haccepts, rfl⟩ := chainStep_eq_ok.mp hstep
    obtain rfl := Except.ok.inj ((hfirst.normal []).symm.trans (hparsed []))
    have hpush : first.push event' = first.push event := by
      simp only [ChainState.push, hfirst.core, hfirst.hash]
    refine replay_cons_ok.mpr ⟨_, chainStep_eq_ok.mpr ⟨_, hfirst.normal', ?_, rfl⟩, ?_⟩
    · have ⟨hhashed, hunseen, hzero, hlater, htransition⟩ := haccepts
      rw [← hfirst.hash] at hunseen
      rw [← hfirst.core] at hzero hlater htransition
      exact ⟨by rw [hfirst.core, hfirst.hash, hhashed], hunseen, hzero, hlater, htransition⟩
    · rw [hpush]
      exact ih _ hreplay

/-! ### The checks of a bundle -/

/-- The checks of events, one of which may have an anchor. -/
def bundleChecks (anchored : Bool) : List VerificationCheck :=
  (if anchored then [⟨.chainAnchor, none, .passed⟩] else []) ++
    [⟨.eventHash, none, .passed⟩, ⟨.eventLink, none, .passed⟩,
      ⟨.extensionSignature, none, .passed⟩, ⟨.schema, none, .passed⟩]

theorem verificationState_eq (time : Text) (events : List LifecycleEventEnvelope) :
    verificationState time events =
      ⟨bundleChecks (events.any (·.chainAnchor.isSome)), .verified, some time⟩ := by
  rw [verificationState, expectedVerificationChecks]
  cases events.any (·.chainAnchor.isSome)
  · rfl
  · rfl

theorem bundleChecks_passed (anchored : Bool) :
    ∀ check ∈ bundleChecks anchored, check = ⟨check.check, none, .passed⟩ := by
  cases anchored
  · decide
  · decide

theorem bundleChecks_consistent (anchored : Bool) (time : Text) :
    VerificationState.Consistent ⟨bundleChecks anchored, .verified, some time⟩ where
  sorted := by
    show (bundleChecks anchored).Pairwise fun a b => (compareChecks a b).isLE = true
    cases anchored
    · decide
    · decide
  distinct := by
    show ((bundleChecks anchored).map fun check => verificationCheckNameText check.check).Nodup
    cases anchored
    · decide
    · decide
  failed h := VerificationResult.noConfusion h.1
  verified h := by
    have hpassed : (decide ((bundleChecks anchored).length > 0) &&
        (bundleChecks anchored).all fun check => check.result = .passed) = true := by
      cases anchored
      · rfl
      · rfl
    exact Bool.noConfusion (hpassed.symm.trans h.2)
  open_result h := VerificationResult.noConfusion h.1
  time h := Bool.noConfusion h.2

/-- **The state of a verified bundle is parsed**, with its time normalized. -/
theorem parseVerificationState_bundleChecks (anchored : Bool) {time normalized : Text}
    (htime : ∀ q, normalizeTimestamp (.string time) q = .ok normalized) (q : Text) :
    parseVerificationState Q
        (VerificationState.value ⟨bundleChecks anchored, .verified, some time⟩) q =
      .ok ⟨bundleChecks anchored, .verified, some normalized⟩ := by
  refine parseVerificationState_eq_ok.mpr ⟨bundleChecks_consistent anchored normalized, _,
    bundleChecks anchored, rfl, List.Perm.refl _, fun q => ⟨assertKeys_fits rfl q, ?_, rfl, ?_⟩⟩
  · refine (parseList_eq_ok parseVerificationCheck_parses.anywhere).mpr ⟨_, rfl, ?_⟩
    rw [List.forall₂_map_left_iff, List.forall₂_same]
    intro check hcheck q
    rw [bundleChecks_passed anchored check hcheck]
    exact parseVerificationCheck_passed check.check q
  · show (normalizeTimestamp (.string time) _).map some = _
    rw [htime]
    rfl

theorem deriveReceiptStatus_bundleChecks (anchored : Bool) (stage : EventStage) (time : Text) :
    deriveReceiptStatus (.entered stage) ⟨bundleChecks anchored, .verified, some time⟩ =
      .pendingAcceptance := by
  cases anchored
  · cases stage <;> rfl
  · cases stage <;> rfl

theorem checkPassed_bundleChecks {anchored : Bool} (time : Text) {name : VerificationCheckName}
    (h : ⟨name, none, .passed⟩ ∈ bundleChecks anchored) :
    checkPassed ⟨bundleChecks anchored, .verified, some time⟩ name = true := by
  refine List.any_eq_true.mpr ⟨_, h, ?_⟩
  rw [Bool.and_eq_true, decide_eq_true_eq, decide_eq_true_eq]
  exact ⟨rfl, rfl⟩

/-- **A receipt with the checks of its events has those that it needs.** -/
theorem requireChecks_bundleChecks {receipt : Receipt} {time : Text} {stage : EventStage}
    (hverification : receipt.verification =
      ⟨bundleChecks (receipt.events.any (·.chainAnchor.isSome)), .verified, some time⟩)
    (hstage : stage.isAuthority = false) : requireChecks receipt (.entered stage) = .ok () := by
  have hpassed : ∀ name,
      ⟨name, none, .passed⟩ ∈ bundleChecks (receipt.events.any (·.chainAnchor.isSome)) →
        requirePassedCheck receipt.verification name = .ok () := by
    intro name hname
    rw [requirePassedCheck, hverification, checkPassed_bundleChecks time hname]
    rfl
  have hlast : ∀ {check : VerificationCheck},
      check ∈ [(⟨.eventHash, none, .passed⟩ : VerificationCheck), ⟨.eventLink, none, .passed⟩,
        ⟨.extensionSignature, none, .passed⟩, ⟨.schema, none, .passed⟩] →
      check ∈ bundleChecks (receipt.events.any (·.chainAnchor.isSome)) :=
    fun h => List.mem_append_right _ h
  have hauthority : (decide (LifecycleStage.entered stage = .entered .authorityAccepted) ||
      decide (LifecycleStage.entered stage = .entered .authorityRejected)) = false := by
    revert hstage
    cases stage <;> decide
  simp only [requireChecks, bind_eq_ok, if_true, hauthority, hpassed .schema (hlast (by decide)),
    hpassed .eventHash (hlast (by decide)), hpassed .eventLink (hlast (by decide))]
  refine ⟨(), trivial, (), trivial, (), trivial, (), ?_, (), ?_, ?_⟩
  · split
    · exact hpassed .extensionSignature (hlast (by decide))
    · rfl
  · split
    · next hanchored =>
      apply hpassed .chainAnchor
      rw [hanchored]
      exact List.mem_cons_self
    · rfl
  · rfl

/-! ### The receipt of signed events -/

/-- The receipt of the events of a stored receipt, signed. -/
def signedReceipt (operational : StoredAttemptReceipt) (key : PublicKeyDescriptor)
    (events : List LifecycleEventEnvelope) (time : Text) : Receipt where
  createdAt := operational.capturedAt
  currentStage := .entered operational.currentStage
  derivedStatus := .pendingAcceptance
  events := events
  extensionPublicKey := key
  receiptId := operational.receiptId
  schemaVersion := operational.event.envelope.core.schemaVersion
  verification := verificationState time events

/-- The texts that the receipt takes over are normal. -/
theorem operational_texts {v : JsValue} {operational : StoredAttemptReceipt}
    (h : validateStoredAttemptReceipt W keccak256 v = some operational) (q : Text) :
    normalizeTimestamp (.string operational.capturedAt) q = .ok operational.capturedAt ∧
      normalizeHash (.string operational.receiptId) q = .ok operational.receiptId ∧
      normalizeSchemaVersion (.string operational.event.envelope.core.schemaVersion) q =
        .ok operational.event.envelope.core.schemaVersion := by
  obtain ⟨value, -, -, -, -, hbase, -, -⟩ := validateStoredAttemptReceipt_eq_some.mp h
  obtain ⟨hagrees, -, -, -, -, -, -, -, -, -, -, -, -, hevent⟩ := parseAttemptBase_eq_some.mp hbase
  obtain ⟨-, value, -, hfields⟩ := parseEventEnvelope_eq_ok.mp (accept_eq_some.mp hevent)
  obtain ⟨-, hcore, -⟩ := hfields []
  obtain ⟨core, -, hcore⟩ := parseEventCore_eq_ok.mp hcore
  obtain ⟨-, htime, -, hid, hversion, -⟩ := hcore []
  have htime := (normalizeTimestamp_parses (Q := W.toReceiptPlatform)).again htime q
  have hid := (normalizeHash_parses (Q := W.toReceiptPlatform)).again hid q
  rw [hagrees.occurredAt] at htime
  rw [hagrees.receiptId] at hid
  exact ⟨htime, hid, (normalizeSchemaVersion_parses (Q := W.toReceiptPlatform)).again hversion q⟩

/-- Events with a hash, signed with the key, one for each of the events. -/
def AllSigned (W : WebPlatform) (keccak256 : List UInt8 → HashHex) (C : CryptoProvider)
    (key : PublicKeyDescriptor) (events signed : List LifecycleEventEnvelope) : Prop :=
  List.Forall₂ (fun event signed => Hashed W.toReceiptPlatform keccak256 event ∧
    event.authoritySignature = none ∧ SignedBy W keccak256 C key event signed) events signed

theorem SignedBy.hashed {key : PublicKeyDescriptor} {event signed : LifecycleEventEnvelope}
    (h : SignedBy W keccak256 C key event signed)
    (hevent : Hashed W.toReceiptPlatform keccak256 event) :
    Hashed W.toReceiptPlatform keccak256 signed := by
  have hsame := h.sameCore hevent.normal
  refine ⟨h.normal, ?_⟩
  rw [hsame.core, hsame.hash]
  exact hevent.hash

theorem SignedBy.authoritySignature {key : PublicKeyDescriptor}
    {event signed : LifecycleEventEnvelope} (h : SignedBy W keccak256 C key event signed) :
    signed.authoritySignature = event.authoritySignature :=
  (LifecycleEventEnvelope.ext_iff.mp h.same).1

/-- A signature that verifies is one that a receipt accepts. -/
theorem SignedBy.payloads {key : PublicKeyDescriptor} {verificationKey : C.VerificationKey}
    (hkey : importVerificationKey W C key.write = some (key, verificationKey))
    {event signed : LifecycleEventEnvelope} (h : SignedBy W keccak256 C key event signed)
    (hevent : Hashed W.toReceiptPlatform keccak256 event)
    (hnone : event.authoritySignature = none) (p : Text) :
    validateEnvelopePayloads W.toReceiptPlatform keccak256 signed key.keyId p = .ok () := by
  obtain ⟨signature, hsignature, ⟨-, hkeyId⟩, hpayload, -⟩ :=
    ((h.hashed hevent).verified_iff hkey).mp h.verified
  unfold validateEnvelopePayloads
  rw [h.authoritySignature, hnone, hsignature]
  simp only [bind_eq_ok, refuseIf_eq_ok, not_not]
  exact ⟨(), hkeyId, _, hpayload, (), rfl, rfl⟩

theorem validateReceiptEvents_signed {key : PublicKeyDescriptor}
    {verificationKey : C.VerificationKey}
    (hkey : importVerificationKey W C key.write = some (key, verificationKey)) {receipt : Receipt}
    (hreceipt : receipt.extensionPublicKey = key) {events signed : List LifecycleEventEnvelope}
    (h : AllSigned W keccak256 C key events signed)
    (hshared : ∀ event ∈ events, event.core.receiptId = receipt.receiptId ∧
      event.core.schemaVersion = receipt.schemaVersion) (index : Nat) :
    validateReceiptEvents W.toReceiptPlatform keccak256 receipt signed index = .ok () := by
  induction h generalizing index with
  | nil => rfl
  | cons hfirst hrest ih =>
    obtain ⟨hhashed, hnone, hsigned⟩ := hfirst
    obtain ⟨⟨hid, hversion⟩, hshared⟩ := List.forall_mem_cons.mp hshared
    have hcore := (hsigned.sameCore hhashed.normal).core
    rw [validateReceiptEvents]
    simp only [bind_eq_ok, refuseIf_eq_ok, not_not]
    rw [hcore, hreceipt]
    exact ⟨(), hid, (), hversion, (), hsigned.payloads hkey hhashed hnone _, ih hshared _⟩

theorem AllSigned.sameCore {key : PublicKeyDescriptor}
    {events signed : List LifecycleEventEnvelope} (h : AllSigned W keccak256 C key events signed) :
    List.Forall₂ (SameCore W.toReceiptPlatform) events signed :=
  h.imp fun _ _ hsigned => hsigned.2.2.sameCore hsigned.1.normal

/-- **The receipt of signed events passes its checks.** -/
theorem checkReceipt_signed {operational : StoredAttemptReceipt} {result : EventChainResult}
    (hoperational : OperationalChain W keccak256 operational result) {key : PublicKeyDescriptor}
    {verificationKey : C.VerificationKey}
    (hkey : importVerificationKey W C key.write = some (key, verificationKey))
    {signed : List LifecycleEventEnvelope}
    (h : AllSigned W keccak256 C key (operationalEvents operational) signed) (time : Text) :
    checkReceipt W.toReceiptPlatform keccak256 (signedReceipt operational key signed time) =
      .ok () := by
  have hstage : operational.currentStage.isAuthority = false := by
    rw [StoredAttemptReceipt.currentStage]
    split <;> rfl
  simp only [checkReceipt, bind_eq_ok, refuseIf_eq_ok, not_not]
  refine ⟨result, validateEventChain_sameCore h.sameCore hoperational.chain, (), ?_, (),
    validateReceiptEvents_signed hkey rfl h hoperational.shared 0, (),
    hoperational.currentStage.symm, (), ?_, (), ?_, ?_⟩
  · rw [hoperational.receiptId]
    rintro ⟨found, hfound, hother⟩
    exact hother (Option.some.inj hfound).symm
  · show Extension.DerivedReceiptStatus.pendingAcceptance =
      deriveReceiptStatus result.currentStage (verificationState time signed)
    rw [hoperational.currentStage, verificationState_eq, deriveReceiptStatus_bundleChecks]
  · rw [hoperational.currentStage]
    rintro ⟨hauthority | hauthority, -⟩
    · rw [LifecycleStage.entered.inj hauthority] at hstage
      cases hstage
    · rw [LifecycleStage.entered.inj hauthority] at hstage
      cases hstage
  · show (if VerificationResult.verified = .verified then
      requireChecks (signedReceipt operational key signed time) result.currentStage
      else .ok ()) = .ok ()
    rw [hoperational.currentStage]
    exact requireChecks_bundleChecks (verificationState_eq time signed) hstage

theorem AllSigned.parsed {key : PublicKeyDescriptor} {events signed : List LifecycleEventEnvelope}
    (h : AllSigned W keccak256 C key events signed) (q : Text) :
    parseList (parseEventEnvelope W.toReceiptPlatform)
      (writeList LifecycleEventEnvelope.value signed) q = .ok signed := by
  refine (parseList_eq_ok parseEventEnvelope_parses.anywhere).mpr ⟨_, rfl, ?_⟩
  rw [List.forall₂_map_left_iff, List.forall₂_same]
  intro event hevent
  obtain ⟨_, -, -, -, hsigned⟩ := exists_of_forall₂ h hevent
  exact hsigned.normal

/-- What a receipt is signed of: a stored receipt, a key and a time, as they are
accepted. -/
structure Securable (W : WebPlatform) (keccak256 : List UInt8 → HashHex) (C : CryptoProvider)
    (v : JsValue) (operational : StoredAttemptReceipt) (key : PublicKeyDescriptor)
    (time : Text) : Prop where
  accepted : validateStoredAttemptReceipt W keccak256 v = some operational
  key_normal : ∀ q, parsePublicKeyDescriptor W.toReceiptPlatform key.write q = .ok key
  imported : ∃ verificationKey,
    importVerificationKey W C key.write = some (key, verificationKey)
  time_normal : ∀ q, normalizeTimestamp (.string time) q = .ok time

theorem parseReceiptStructure_signed {v : JsValue} {operational : StoredAttemptReceipt}
    {key : PublicKeyDescriptor} {time : Text} (h : Securable W keccak256 C v operational key time)
    {signed : List LifecycleEventEnvelope}
    (hsigned : AllSigned W keccak256 C key (operationalEvents operational) signed) (q : Text) :
    parseReceiptStructure W.toReceiptPlatform (signedReceipt operational key signed time).value q =
      .ok (signedReceipt operational key signed time) := by
  have hstage : operational.currentStage = .attempted ∨
      operational.currentStage = .siteConfirmed := by
    rw [StoredAttemptReceipt.currentStage]
    split
    · exact .inr rfl
    · exact .inl rfl
  refine parseReceiptStructure_eq_ok.mpr ⟨_, rfl, fun q => ⟨assertKeys_fits rfl q, ?_, ?_, rfl, ?_,
    ?_, ?_, ?_, ?_⟩⟩
  · exact (operational_texts h.accepted _).1
  · show parseEnum LIFECYCLE_STAGES lifecycleStageText
      (writeEnum lifecycleStageText (.entered operational.currentStage)) _ =
        .ok (.entered operational.currentStage)
    rcases hstage with hstage | hstage
    · rw [hstage]
      rfl
    · rw [hstage]
      rfl
  · exact hsigned.parsed _
  · exact h.key_normal _
  · exact (operational_texts h.accepted _).2.1
  · exact (operational_texts h.accepted _).2.2
  · show parseVerificationState W.toReceiptPlatform
      (VerificationState.value (verificationState time signed)) _ =
        .ok (verificationState time signed)
    rw [verificationState_eq]
    exact parseVerificationState_bundleChecks _ h.time_normal _

/-- **The receipt is created of the signed events.** -/
theorem createReceipt_signed {v : JsValue} {operational : StoredAttemptReceipt}
    {key : PublicKeyDescriptor} {time : Text} (h : Securable W keccak256 C v operational key time)
    {signed : List LifecycleEventEnvelope}
    (hsigned : AllSigned W keccak256 C key (operationalEvents operational) signed) :
    createReceipt keccak256 W.toReceiptPlatform
        ⟨operational.capturedAt, signed, key, operational.receiptId,
          operational.event.envelope.core.schemaVersion, verificationState time signed⟩ =
      .ok (signedReceipt operational key signed time) := by
  obtain ⟨result, hoperational⟩ := operational_chain h.accepted
  obtain ⟨verificationKey, hkey⟩ := h.imported
  have hstatus : deriveReceiptStatus (.entered operational.currentStage)
      (verificationState time signed) = .pendingAcceptance := by
    rw [verificationState_eq, deriveReceiptStatus_bundleChecks]
  simp only [createReceipt, bind_eq_ok]
  refine ⟨signed, hsigned.parsed _, result,
    validateEventChain_sameCore hsigned.sameCore hoperational.chain, ?_⟩
  rw [hoperational.currentStage, hstatus]
  exact validateReceipt_eq_ok.mpr
    ⟨parseReceiptStructure_signed h hsigned _, checkReceipt_signed hoperational hkey hsigned time⟩

theorem eventsMatch_signed {key : PublicKeyDescriptor}
    {events signed : List LifecycleEventEnvelope} (h : AllSigned W keccak256 C key events signed) :
    eventsMatch W signed events = .ok true := by
  induction h with
  | nil => rfl
  | cons hfirst hrest ih =>
    obtain ⟨hhashed, -, hsigned⟩ := hfirst
    rw [eventsMatch, if_pos (hsigned.sameCore hhashed.normal).hash, hsigned.same,
      sameCanonical_self (parseEventEnvelope_parses.canonical (hhashed.normal []))]
    exact ih

/-- The checks of a signed receipt are those of its events. -/
theorem sameCanonical_checks (time : Text) (events : List LifecycleEventEnvelope) :
    sameCanonical W
      (.array ((verificationState time events).checks.map fun check =>
        checkValue check.check check.result))
      (.array ((expectedVerificationChecks events).map fun check =>
        checkValue check .passed)) = .ok true := by
  have hmap : ((verificationState time events).checks.map fun check =>
      checkValue check.check check.result) =
      (expectedVerificationChecks events).map fun check => checkValue check .passed := by
    rw [verificationState, List.map_map]
    rfl
  rw [hmap]
  apply sameCanonical_self
  exact canonical_list (Q := W.toReceiptPlatform) fun check _ =>
    parseVerificationCheck_parses.canonical (parseVerificationCheck_passed check [])

/-- **A bundle of signed events is verified.** -/
theorem verifyPrivateReceiptBundle_secured {v : JsValue} {operational : StoredAttemptReceipt}
    {key : PublicKeyDescriptor} {time : Text} (h : Securable W keccak256 C v operational key time)
    {signed : List LifecycleEventEnvelope}
    (hsigned : AllSigned W keccak256 C key (operationalEvents operational) signed) :
    verifyPrivateReceiptBundle W keccak256 C
        (PrivateReceiptBundle.value
          ⟨operational, .local, signedReceipt operational key signed time⟩) =
      .ok ⟨operational, .local, signedReceipt operational key signed time⟩ := by
  obtain ⟨result, hoperational⟩ := operational_chain h.accepted
  obtain ⟨verificationKey, hkey⟩ := h.imported
  refine verifyPrivateReceiptBundle_eq_ok.mpr ⟨?_, ⟨result, ?_⟩, ?_⟩
  · refine parsePrivateReceiptBundle_eq_ok.mpr ⟨checkBundle_eq_ok.mpr
      ⟨receiptMatchesOperational_eq_ok.mpr ⟨⟨rfl, rfl, rfl, rfl, ?_⟩, ?_⟩, ?_, rfl, ?_⟩, _, rfl,
      rfl, rfl, rfl, rfl, ?_, ?_⟩
    · exact (List.Forall₂.length_eq hsigned).symm
    · exact eventsMatch_signed hsigned
    · intro event hevent
      obtain ⟨original, -, hhashed, hnone, hfound⟩ := exists_of_forall₂ hsigned hevent
      obtain ⟨signature, hsignature, -⟩ :=
        ((hfound.hashed hhashed).verified_iff hkey).mp hfound.verified
      rw [hfound.authoritySignature, hsignature]
      exact ⟨rfl, hnone⟩
    · exact sameCanonical_checks time signed
    · exact validateStoredAttemptReceipt_stored.again h.accepted
    · exact validateReceipt_eq_ok.mpr
        ⟨parseReceiptStructure_signed h hsigned _,
          checkReceipt_signed hoperational hkey hsigned time⟩
  · exact validateEventChain_sameCore hsigned.sameCore hoperational.chain
  · refine List.all_eq_true.mpr fun event hevent => ?_
    obtain ⟨original, -, -, -, hfound⟩ := exists_of_forall₂ hsigned hevent
    exact hfound.verified

end laws

end SubmittedIt.Protocol
