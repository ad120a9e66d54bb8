/-
SubmittedIt/EncryptedReceipts.lean

Encrypted receipts (apps/extension/lib, encrypted-receipt.ts and crypto.ts).

A bundle is encrypted as its canonical text; the metadata beside it are
authenticated as theirs.  Of AES-GCM is assumed that it decrypts what it
encrypted, and that nothing else is decrypted under a key than the messages
`sealed` under it.  Nonces and identifiers are drawn at random, so they are
arguments here.

Metadata that differ can have the same canonical text, where a key identifier
is not in normal form; decryption compares the identifiers at its end.

Main result: `decryptPrivateReceiptEnvelope_encrypted`.
-/
import SubmittedIt.ReceiptBundles
import SubmittedIt.PrivateReceipt

namespace SubmittedIt.Protocol

open JsValue (member)

open Relay (isReceiptId isSchemaVersionText)

open Extension (MAX_EXPORT_PACKAGE_BYTES)

/-! ### Fields -/

/-- `parseOpaqueId`. -/
def parseOpaqueId (value : JsValue) (path : String) : Except ExtensionError Text :=
  orThrow (.message (path ++ " must encode exactly 32 random bytes.")) (readOpaqueId value)

/-- `parseReceiptId`. -/
def parseReceiptId (value : JsValue) (path : String) : Except ExtensionError Text :=
  orThrow (.message (path ++ " must be a canonical 32-byte receipt ID."))
    (readTextIf (fun text => isReceiptId text = true) value)

/-- `parseCiphertext`. -/
def parseCiphertext (value : JsValue) (path : String) : Except ExtensionError Text :=
  match value with
  | .string text => do
    let bytes ← base64UrlToBytes text path
    throwIf (bytes.length < 16 ∨ bytes.length > MAX_EXPORT_PACKAGE_BYTES)
      (path ++ " is truncated or exceeds the encrypted-receipt limit.")
    return text
  | _ => .error (.message (path ++ " must be base64url ciphertext."))

/-- `parseIv`. -/
def parseIv (value : JsValue) (path : String) : Except ExtensionError Text :=
  match value with
  | .string text => do
    let bytes ← base64UrlToBytes text path
    throwIf (bytes.length ≠ 12) (path ++ " must be one 96-bit AES-GCM IV.")
    return text
  | _ => .error (.message (path ++ " must be one 96-bit AES-GCM IV."))

/-- `value === n`. -/
def readInteger (n : Int) : JsValue → Option Unit
  | .number (.integer found) => ensure (found = n)
  | _ => none

/-! ### Envelopes -/

/-- `EncryptedReceiptMetadata`; its algorithm, format and versions are fixed. -/
@[ext] structure EncryptedReceiptMetadata where
  blobId : Text
  extensionKeyId : Text
  receiptId : Text
  receiptSchemaVersion : Text
  deriving DecidableEq

def EncryptedReceiptMetadata.value (metadata : EncryptedReceiptMetadata) : JsValue :=
  .object [(ascii "algorithm", .string (ascii "AES-256-GCM")),
    (ascii "blobId", .string metadata.blobId),
    (ascii "extensionKeyId", .string metadata.extensionKeyId),
    (ascii "format", .string (ascii "SUBMITTEDIT_ENCRYPTED_RECEIPT")),
    (ascii "keyVersion", .number (.integer 1)), (ascii "receiptId", .string metadata.receiptId),
    (ascii "receiptSchemaVersion", .string metadata.receiptSchemaVersion),
    (ascii "version", .string (ascii "1.0"))]

/-- `EncryptedReceiptEnvelope`. -/
@[ext] structure EncryptedReceiptEnvelope where
  authenticatedMetadata : EncryptedReceiptMetadata
  ciphertext : Text
  iv : Text
  deriving DecidableEq

def EncryptedReceiptEnvelope.value (envelope : EncryptedReceiptEnvelope) : JsValue :=
  .object [(ascii "authenticatedMetadata", envelope.authenticatedMetadata.value),
    (ascii "ciphertext", .string envelope.ciphertext), (ascii "iv", .string envelope.iv)]

/-- `parseEncryptedReceiptEnvelope`. -/
def parseEncryptedReceiptEnvelope (input : JsValue) :
    Except ExtensionError EncryptedReceiptEnvelope := do
  let unsupported : ExtensionError :=
    .message "Encrypted receipt envelope contains unsupported fields."
  let value ← orThrow unsupported (accept asRecord input)
  orThrow unsupported
    (ensure (hasExactKeys value ["authenticatedMetadata", "ciphertext", "iv"] = true))
  let metadata ← orThrow (.message "Encrypted receipt authenticated metadata is missing.")
    (accept asRecord (member (ascii "authenticatedMetadata") value))
  let malformed : ExtensionError :=
    .message "Encrypted receipt metadata is malformed or unsupported."
  orThrow malformed (ensure (hasExactKeys metadata ["algorithm", "blobId", "extensionKeyId",
    "format", "keyVersion", "receiptId", "receiptSchemaVersion", "version"] = true))
  orThrow malformed
    (readLiteral (ascii "SUBMITTEDIT_ENCRYPTED_RECEIPT") (member (ascii "format") metadata))
  orThrow malformed (readLiteral (ascii "1.0") (member (ascii "version") metadata))
  orThrow malformed (readLiteral (ascii "AES-256-GCM") (member (ascii "algorithm") metadata))
  orThrow malformed (readInteger 1 (member (ascii "keyVersion") metadata))
  let extensionKeyId ← orThrow malformed
    (readTextIf (fun text => 16 ≤ text.length) (member (ascii "extensionKeyId") metadata))
  let receiptSchemaVersion ← orThrow malformed (readTextIf
    (fun text => isSchemaVersionText text = true) (member (ascii "receiptSchemaVersion") metadata))
  let blobId ← parseOpaqueId (member (ascii "blobId") metadata) "$.authenticatedMetadata.blobId"
  let receiptId ← parseReceiptId (member (ascii "receiptId") metadata)
    "$.authenticatedMetadata.receiptId"
  let ciphertext ← parseCiphertext (member (ascii "ciphertext") value) "$.ciphertext"
  let iv ← parseIv (member (ascii "iv") value) "$.iv"
  return ⟨⟨blobId, extensionKeyId, receiptId, receiptSchemaVersion⟩, ciphertext, iv⟩

section encryption

variable (W : WebPlatform) (keccak256 : List UInt8 → HashHex) (C : CryptoProvider)

/-- `encodeCanonicalUtf8`. -/
def encodeCanonicalUtf8 (value : JsValue) : Except ReceiptProtocolError (List UInt8) :=
  (canonicalize W.toTextPlatform value).map utf8Bytes

/-- `encryptAesGcm`, with the nonce it draws. -/
def encryptAesGcm (key : C.CryptoKey) (plaintext : List UInt8) (authenticatedMetadata : JsValue)
    (iv : List UInt8) : Except ExtensionError (Text × Text) := do
  let additionalData ← rethrow (encodeCanonicalUtf8 W authenticatedMetadata)
  let ciphertext ← orThrow .operation (C.encrypt key iv additionalData plaintext)
  return (bytesToBase64Url ciphertext, bytesToBase64Url iv)

/-- `decryptAesGcm`. -/
def decryptAesGcm (key : C.CryptoKey) (ivBase64Url ciphertextBase64Url : Text)
    (authenticatedMetadata : JsValue) : Except ExtensionError (List UInt8) := do
  let iv ← base64UrlToBytes ivBase64Url "$.iv"
  throwIf (iv.length ≠ 12) "AES-GCM requires a 96-bit IV."
  let ciphertext ← base64UrlToBytes ciphertextBase64Url "$.ciphertext"
  throwIf (ciphertext.length < 16) "AES-GCM ciphertext is truncated."
  let additionalData ← rethrow (encodeCanonicalUtf8 W authenticatedMetadata)
  orThrow .operation (C.decrypt key iv additionalData ciphertext)

/-- `JSON.parse(utf8Text(plaintext))`. -/
def parsePlaintext (plaintext : List UInt8) : Option JsValue := do
  let text ← utf8Text plaintext
  JsValue.parse text

/-- `encryptPrivateReceiptBundle`, with the nonce it draws. -/
def encryptPrivateReceiptBundle (bundleInput : JsValue) (key : C.CryptoKey) (blobId : Text)
    (iv : List UInt8) : Except ExtensionError EncryptedReceiptEnvelope := do
  let bundle ← verifyPrivateReceiptBundle W keccak256 C bundleInput
  let blobId ← parseOpaqueId (.string blobId) "$.blobId"
  let authenticatedMetadata : EncryptedReceiptMetadata := {
    blobId, extensionKeyId := bundle.receipt.extensionPublicKey.keyId,
    receiptId := bundle.receipt.receiptId, receiptSchemaVersion := bundle.receipt.schemaVersion }
  let plaintext ← rethrow (canonicalize W.toTextPlatform bundle.value)
  let (ciphertext, iv) ←
    encryptAesGcm W C key (utf8Bytes plaintext) authenticatedMetadata.value iv
  parseEncryptedReceiptEnvelope
    (EncryptedReceiptEnvelope.value ⟨authenticatedMetadata, ciphertext, iv⟩)

/-- `decryptPrivateReceiptEnvelope`. -/
def decryptPrivateReceiptEnvelope (envelopeInput : JsValue) (key : C.CryptoKey) :
    Except ExtensionError PrivateReceiptBundle := do
  let envelope ← parseEncryptedReceiptEnvelope envelopeInput
  let plaintext ← orThrow (.message "Encrypted receipt authentication failed.")
    (decryptAesGcm W C key envelope.iv envelope.ciphertext
      envelope.authenticatedMetadata.value).toOption
  let parsed ← orThrow (.message "Encrypted receipt plaintext is malformed.")
    (parsePlaintext plaintext)
  let bundle ← verifyPrivateReceiptBundle W keccak256 C parsed
  throwIf (bundle.receipt.receiptId ≠ envelope.authenticatedMetadata.receiptId ∨
      bundle.receipt.schemaVersion ≠ envelope.authenticatedMetadata.receiptSchemaVersion ∨
      bundle.receipt.extensionPublicKey.keyId ≠ envelope.authenticatedMetadata.extensionKeyId)
    "Encrypted receipt metadata does not match its authenticated plaintext."
  return bundle

end encryption

section laws

variable {W : WebPlatform} {keccak256 : List UInt8 → HashHex} {C : CryptoProvider}

/-! ### What is parsed -/

theorem parseOpaqueId_eq_ok {v : JsValue} {path : String} {text : Text} :
    parseOpaqueId v path = .ok text ↔ v = .string text ∧ isOpaqueId text = true := by
  rw [parseOpaqueId, orThrow_eq_ok, readOpaqueId_eq_some]

theorem parseReceiptId_eq_ok {v : JsValue} {path : String} {text : Text} :
    parseReceiptId v path = .ok text ↔ v = .string text ∧ isReceiptId text = true := by
  rw [parseReceiptId, orThrow_eq_ok, readTextIf_eq_some]

/-- A ciphertext is the text of its bytes, which are as many as are allowed. -/
theorem parseCiphertext_eq_ok {v : JsValue} {path : String} {text : Text} :
    parseCiphertext v path = .ok text ↔ v = .string text ∧
      ∃ bytes, text = bytesToBase64Url bytes ∧ 16 ≤ bytes.length ∧
        bytes.length ≤ MAX_EXPORT_PACKAGE_BYTES := by
  unfold parseCiphertext
  split
  · simp only [Transaction.bind_eq_ok, throwIf_eq_ok, base64UrlToBytes_eq_ok, not_or, not_lt]
    constructor
    · rintro ⟨bytes, ⟨-, htext⟩, _, hsize, h⟩
      obtain rfl := Except.ok.inj h
      exact ⟨rfl, bytes, htext, hsize⟩
    · rintro ⟨hv, bytes, htext, hsize⟩
      obtain rfl := JsValue.string.inj hv
      refine ⟨bytes, ⟨?_, htext⟩, (), hsize, rfl⟩
      rintro rfl
      exact absurd hsize.1 (by decide)
  · next hv => exact ⟨nofun, fun h => absurd h.1 (hv text)⟩

theorem parseIv_eq_ok {v : JsValue} {path : String} {text : Text} :
    parseIv v path = .ok text ↔ v = .string text ∧
      ∃ bytes, text = bytesToBase64Url bytes ∧ bytes.length = 12 := by
  unfold parseIv
  split
  · simp only [Transaction.bind_eq_ok, throwIf_eq_ok, base64UrlToBytes_eq_ok, not_not]
    constructor
    · rintro ⟨bytes, ⟨-, htext⟩, _, hsize, h⟩
      obtain rfl := Except.ok.inj h
      exact ⟨rfl, bytes, htext, hsize⟩
    · rintro ⟨hv, bytes, htext, hsize⟩
      obtain rfl := JsValue.string.inj hv
      refine ⟨bytes, ⟨?_, htext⟩, (), hsize, rfl⟩
      rintro rfl
      exact absurd hsize (by decide)
  · next hv => exact ⟨nofun, fun h => absurd h.1 (hv text)⟩

theorem readInteger_eq_some {n : Int} {v : JsValue} {u : Unit} :
    readInteger n v = some u ↔ v = .number (.integer n) := by
  unfold readInteger
  split
  · rw [ensure_eq_some]
    exact ⟨fun h => congrArg _ (congrArg _ h), fun h => JsNumber.integer.inj (JsValue.number.inj h)⟩
  · next hv => exact ⟨nofun, fun h => absurd h (hv n)⟩

/-- What an envelope is parsed from: its fields, and the fixed ones. -/
theorem parseEncryptedReceiptEnvelope_eq_ok {v : JsValue} {x : EncryptedReceiptEnvelope} :
    parseEncryptedReceiptEnvelope v = .ok x ↔ ∃ value metadata, v = .object value ∧
      member (ascii "authenticatedMetadata") value = .object metadata ∧
      hasExactKeys value ["authenticatedMetadata", "ciphertext", "iv"] = true ∧
      hasExactKeys metadata ["algorithm", "blobId", "extensionKeyId", "format", "keyVersion",
        "receiptId", "receiptSchemaVersion", "version"] = true ∧
      member (ascii "format") metadata = .string (ascii "SUBMITTEDIT_ENCRYPTED_RECEIPT") ∧
      member (ascii "version") metadata = .string (ascii "1.0") ∧
      member (ascii "algorithm") metadata = .string (ascii "AES-256-GCM") ∧
      member (ascii "keyVersion") metadata = .number (.integer 1) ∧
      (member (ascii "extensionKeyId") metadata = .string x.authenticatedMetadata.extensionKeyId ∧
        16 ≤ x.authenticatedMetadata.extensionKeyId.length) ∧
      (member (ascii "receiptSchemaVersion") metadata =
          .string x.authenticatedMetadata.receiptSchemaVersion ∧
        isSchemaVersionText x.authenticatedMetadata.receiptSchemaVersion = true) ∧
      (member (ascii "blobId") metadata = .string x.authenticatedMetadata.blobId ∧
        isOpaqueId x.authenticatedMetadata.blobId = true) ∧
      (member (ascii "receiptId") metadata = .string x.authenticatedMetadata.receiptId ∧
        isReceiptId x.authenticatedMetadata.receiptId = true) ∧
      (member (ascii "ciphertext") value = .string x.ciphertext ∧
        ∃ bytes, x.ciphertext = bytesToBase64Url bytes ∧ 16 ≤ bytes.length ∧
          bytes.length ≤ MAX_EXPORT_PACKAGE_BYTES) ∧
      member (ascii "iv") value = .string x.iv ∧
        ∃ bytes, x.iv = bytesToBase64Url bytes ∧ bytes.length = 12 := by
  simp only [parseEncryptedReceiptEnvelope, Transaction.bind_eq_ok, orThrow_eq_ok, accept_asRecord,
    ensure_eq_some, readLiteral_eq_some, readInteger_eq_some, readTextIf_eq_some,
    parseOpaqueId_eq_ok, parseReceiptId_eq_ok, parseCiphertext_eq_ok, parseIv_eq_ok]
  constructor
  · rintro ⟨value, hvalue, _, hkeys, metadata, hmetadata, _, hmetadataKeys, _, h1, _, h2, _, h3, _,
      h4, _, h5, _, h6, _, h7, _, h8, _, h9, _, h10, h⟩
    obtain rfl := Except.ok.inj h
    exact ⟨value, metadata, hvalue, hmetadata, hkeys, hmetadataKeys, h1, h2, h3, h4, h5, h6, h7, h8,
      h9, h10⟩
  · rintro ⟨value, metadata, hvalue, hmetadata, hkeys, hmetadataKeys, h1, h2, h3, h4, h5, h6, h7,
      h8, h9, h10⟩
    exact ⟨value, hvalue, (), hkeys, metadata, hmetadata, (), hmetadataKeys, (), h1, (), h2, (), h3,
      (), h4, _, h5, _, h6, _, h7, _, h8, _, h9, _, h10, rfl⟩

/-! ### Canonical texts as bytes -/

theorem encodeCanonicalUtf8_eq_ok {v : JsValue} {bytes : List UInt8} :
    encodeCanonicalUtf8 W v = .ok bytes ↔
      ∃ j, Canonical W.toTextPlatform v j ∧ bytes = utf8Bytes (Json.stringify j) := by
  rw [encodeCanonicalUtf8, map_eq_ok]
  constructor
  · rintro ⟨text, htext, rfl⟩
    obtain ⟨j, hj, rfl⟩ := canonicalize_eq_ok.mp htext
    exact ⟨j, hj, rfl⟩
  · rintro ⟨j, hj, rfl⟩
    exact ⟨_, canonicalize_eq_ok.mpr ⟨j, hj, rfl⟩, rfl⟩

/-- Values with the same bytes are restored to the same value. -/
theorem restored_of_encodeCanonicalUtf8 {v v' : JsValue} {bytes : List UInt8}
    (h : encodeCanonicalUtf8 W v = .ok bytes) (h' : encodeCanonicalUtf8 W v' = .ok bytes) :
    ∃ w, Restored W.toReceiptPlatform v w ∧ Restored W.toReceiptPlatform v' w := by
  obtain ⟨j, hj, hbytes⟩ := encodeCanonicalUtf8_eq_ok.mp h
  obtain ⟨j', hj', hbytes'⟩ := encodeCanonicalUtf8_eq_ok.mp h'
  have hsame : Json.stringify j = Json.stringify j' := Utf8.encode_injective
    (Utf8.wellFormed_stringify j) (Utf8.wellFormed_stringify j') (hbytes.symm.trans hbytes')
  obtain rfl := Json.stringify_injective hsame
  exact ⟨_, ⟨j, hj, rfl⟩, ⟨j, hj', rfl⟩⟩

/-- The text of an object starts with a brace. -/
theorem head?_stringify_object {members : List (Text × JsValue)} {j : Json}
    (h : Canonical W.toTextPlatform (.object members) j) :
    (Json.stringify j).head? = some 123 := by
  obtain ⟨_, sorted, -, -, -, -, rfl⟩ := h
  rcases JsValue.ownProperties sorted with - | ⟨⟨key, value⟩, rest⟩
  · rfl
  · rfl

/-- **The bytes of an object are parsed** to what it is restored to. -/
theorem parsePlaintext_canonical {members : List (Text × JsValue)} {text : Text}
    (h : canonicalize W.toTextPlatform (.object members) = .ok text) :
    ∃ w, Restored W.toReceiptPlatform (.object members) w ∧
      parsePlaintext (utf8Bytes text) = some w := by
  obtain ⟨j, hj, rfl⟩ := canonicalize_eq_ok.mp h
  refine ⟨_, ⟨j, hj, rfl⟩, ?_⟩
  have hmark : (Json.stringify j).head? ≠ some 0xFEFF := by
    rw [head?_stringify_object hj]
    decide
  rw [parsePlaintext, utf8Text_utf8Bytes (Utf8.wellFormed_stringify j) hmark]
  exact JsValue.parse_stringify (canonical_ofJson hj).2

/-! ### Messages -/

/-- A message of AES-GCM under some key. -/
structure SealedMessage where
  iv : List UInt8
  additionalData : List UInt8
  ciphertext : List UInt8

/-- The texts of a nonce, metadata and ciphertext are those of a message. -/
structure Carries (W : WebPlatform) (iv ciphertext : Text) (authenticatedMetadata : JsValue)
    (message : SealedMessage) : Prop where
  iv : iv = bytesToBase64Url message.iv
  ciphertext : ciphertext = bytesToBase64Url message.ciphertext
  additionalData : encodeCanonicalUtf8 W authenticatedMetadata = .ok message.additionalData

/-- Texts carry one message. -/
theorem Carries.unique {iv ciphertext : Text} {metadata : JsValue} {first second : SealedMessage}
    (h : Carries W iv ciphertext metadata first) (h' : Carries W iv ciphertext metadata second) :
    first = second := by
  have hiv := bytesToBase64Url_injective (h.iv.symm.trans h'.iv)
  have hciphertext := bytesToBase64Url_injective (h.ciphertext.symm.trans h'.ciphertext)
  have hdata := Except.ok.inj (h.additionalData.symm.trans h'.additionalData)
  rcases first with ⟨_, _, _⟩
  rcases second with ⟨_, _, _⟩
  exact SealedMessage.mk.injEq .. ▸ ⟨hiv, hdata, hciphertext⟩

theorem encryptAesGcm_eq_ok {key : C.CryptoKey} {plaintext : List UInt8} {metadata : JsValue}
    {iv : List UInt8} {out : Text × Text} :
    encryptAesGcm W C key plaintext metadata iv = .ok out ↔ ∃ message,
      Carries W out.2 out.1 metadata message ∧ message.iv = iv ∧
      C.encrypt key iv message.additionalData plaintext = some message.ciphertext := by
  simp only [encryptAesGcm, Transaction.bind_eq_ok, rethrow_eq_ok, orThrow_eq_ok]
  constructor
  · rintro ⟨additionalData, hdata, ciphertext, hciphertext, h⟩
    obtain rfl := Except.ok.inj h
    exact ⟨⟨iv, additionalData, ciphertext⟩, ⟨rfl, rfl, hdata⟩, rfl, hciphertext⟩
  · rintro ⟨message, ⟨hiv, hciphertext, hdata⟩, rfl, hencrypt⟩
    refine ⟨_, hdata, _, hencrypt, ?_⟩
    rw [← hiv, ← hciphertext]
    rfl

theorem decryptAesGcm_eq_ok {key : C.CryptoKey} {iv ciphertext : Text} {metadata : JsValue}
    {plaintext : List UInt8} :
    decryptAesGcm W C key iv ciphertext metadata = .ok plaintext ↔ ∃ message,
      Carries W iv ciphertext metadata message ∧ message.iv.length = 12 ∧
      16 ≤ message.ciphertext.length ∧
      C.decrypt key message.iv message.additionalData message.ciphertext = some plaintext := by
  simp only [decryptAesGcm, Transaction.bind_eq_ok, rethrow_eq_ok, orThrow_eq_ok, throwIf_eq_ok,
    base64UrlToBytes_eq_ok, not_not, not_lt]
  constructor
  · rintro ⟨iv, ⟨-, hiv⟩, _, hlength, ciphertext, ⟨-, hciphertext⟩, _, hsize, additionalData, hdata,
      hdecrypt⟩
    exact ⟨⟨iv, additionalData, ciphertext⟩, ⟨hiv, hciphertext, hdata⟩, hlength, hsize, hdecrypt⟩
  · rintro ⟨message, ⟨hiv, hciphertext, hdata⟩, hlength, hsize, hdecrypt⟩
    refine ⟨_, ⟨?_, hiv⟩, (), hlength, _, ⟨?_, hciphertext⟩, (), hsize, _, hdata, hdecrypt⟩
    · intro hnil
      rw [hnil] at hlength
      cases hlength
    · intro hnil
      rw [hnil] at hsize
      exact absurd hsize (by decide)

/-! ### Envelopes -/

/-- **Envelopes are parsed to themselves.** -/
theorem parseEncryptedReceiptEnvelope_value {x y : EncryptedReceiptEnvelope}
    (h : parseEncryptedReceiptEnvelope x.value = .ok y) : y = x := by
  obtain ⟨value, metadata, hvalue, hmetadata, -, -, -, -, -, -, ⟨hkey, -⟩, ⟨hversion, -⟩,
    ⟨hblob, -⟩, ⟨hreceipt, -⟩, ⟨hciphertext, -⟩, hiv, -⟩ :=
    parseEncryptedReceiptEnvelope_eq_ok.mp h
  obtain rfl := JsValue.object.inj hvalue
  obtain rfl := JsValue.object.inj hmetadata
  refine EncryptedReceiptEnvelope.ext (EncryptedReceiptMetadata.ext ?_ ?_ ?_ ?_) ?_ ?_
  · exact (JsValue.string.inj hblob).symm
  · exact (JsValue.string.inj hkey).symm
  · exact (JsValue.string.inj hreceipt).symm
  · exact (JsValue.string.inj hversion).symm
  · exact (JsValue.string.inj hciphertext).symm
  · exact (JsValue.string.inj hiv).symm

theorem isOpaqueId_visible {text : Text} (h : isOpaqueId text = true) : isVisible text = true := by
  rw [isOpaqueId, Bool.and_eq_true] at h
  exact base64Url_visible h.2

theorem isReceiptId_visible {text : Text} (h : isReceiptId text = true) :
    isVisible text = true := by
  unfold isReceiptId at h
  split at h
  · rw [Bool.and_eq_true, List.all_eq_true] at h
    rw [isVisible_iff]
    simp only [List.forall_mem_cons]
    refine ⟨by decide, by decide, fun u hu => ?_⟩
    have hdigit := h.2 u hu
    rw [Bool.or_eq_true, JsValue.isDigit_iff, Bool.and_eq_true, decide_eq_true_eq,
      decide_eq_true_eq, UInt16.le_iff_toNat_le, UInt16.le_iff_toNat_le] at hdigit
    simp only [UInt16.reduceToNat] at hdigit
    omega
  · cases h

theorem isSchemaVersionText_visible {text : Text} (h : isSchemaVersionText text = true) :
    isVisible text = true := by
  simp only [isSchemaVersionText, Bool.and_eq_true, decide_eq_true_eq] at h
  obtain ⟨⟨⟨-, hdot⟩, -⟩, hminor⟩ := h
  obtain ⟨minor, hdrop⟩ := List.head?_eq_some_iff.mp hdot
  rw [hdrop, List.tail_cons] at hminor
  rw [← List.takeWhile_append_dropWhile (p := Json.isDigit) (l := text), hdrop, isVisible_iff]
  intro u hu
  rcases List.mem_append.mp hu with hu | hu
  · exact isDigit_visible (List.mem_takeWhile_imp hu)
  · rcases List.mem_cons.mp hu with rfl | hu
    · decide
    · exact isDigit_visible (List.all_eq_true.mp hminor u hu)

/-- The envelope's texts carry the message. -/
def EncryptedReceiptEnvelope.Carries (W : WebPlatform) (envelope : EncryptedReceiptEnvelope)
    (message : SealedMessage) : Prop :=
  Protocol.Carries W envelope.iv envelope.ciphertext envelope.authenticatedMetadata.value message

/-- A visible text is found again as it is. -/
theorem RestoredMembers.string {value props : List (Text × JsValue)}
    (h : RestoredMembers W.toReceiptPlatform value props) {key text : Text}
    (hkey : isVisible key = true) (htext : isVisible text = true)
    (hmember : member key value = .string text) : member key props = .string text := by
  have hfound := h.found hkey (hmember ▸ nofun)
  rw [hmember] at hfound
  exact restored_visible htext hfound

/-- **Envelopes that carry one message are the same** up to the normal form of
their key identifiers: the metadata cover every other field. -/
theorem eq_of_carries {x y : EncryptedReceiptEnvelope} {v w : JsValue} {message : SealedMessage}
    (hx : parseEncryptedReceiptEnvelope v = .ok x) (hy : parseEncryptedReceiptEnvelope w = .ok y)
    (hcx : x.Carries W message) (hcy : y.Carries W message)
    (hkey : x.authenticatedMetadata.extensionKeyId = y.authenticatedMetadata.extensionKeyId) :
    x = y := by
  obtain ⟨r, hrx, hry⟩ := restored_of_encodeCanonicalUtf8 hcx.additionalData hcy.additionalData
  obtain ⟨props, rfl, hpx⟩ := restored_object hrx
  obtain ⟨props', hprops, hpy⟩ := restored_object hry
  obtain rfl := JsValue.object.inj hprops
  obtain ⟨_, _, -, -, -, -, -, -, -, -, -, ⟨-, hxversion⟩, ⟨-, hxblob⟩, ⟨-, hxreceipt⟩, -, -⟩ :=
    parseEncryptedReceiptEnvelope_eq_ok.mp hx
  obtain ⟨_, _, -, -, -, -, -, -, -, -, -, ⟨-, hyversion⟩, ⟨-, hyblob⟩, ⟨-, hyreceipt⟩, -, -⟩ :=
    parseEncryptedReceiptEnvelope_eq_ok.mp hy
  refine EncryptedReceiptEnvelope.ext (EncryptedReceiptMetadata.ext ?_ hkey ?_ ?_) ?_ ?_
  · have hblob : member (ascii "blobId") props = .string x.authenticatedMetadata.blobId :=
      hpx.string rfl (isOpaqueId_visible hxblob) rfl
    exact JsValue.string.inj (hblob.symm.trans (hpy.string rfl (isOpaqueId_visible hyblob) rfl))
  · have hreceipt : member (ascii "receiptId") props = .string x.authenticatedMetadata.receiptId :=
      hpx.string rfl (isReceiptId_visible hxreceipt) rfl
    exact JsValue.string.inj
      (hreceipt.symm.trans (hpy.string rfl (isReceiptId_visible hyreceipt) rfl))
  · have hversion : member (ascii "receiptSchemaVersion") props =
        .string x.authenticatedMetadata.receiptSchemaVersion :=
      hpx.string rfl (isSchemaVersionText_visible hxversion) rfl
    exact JsValue.string.inj
      (hversion.symm.trans (hpy.string rfl (isSchemaVersionText_visible hyversion) rfl))
  · exact hcx.ciphertext.trans hcy.ciphertext.symm
  · exact hcx.iv.trans hcy.iv.symm

/-- The metadata of an envelope are those of the bundle. -/
structure EncryptedReceiptMetadata.Of (metadata : EncryptedReceiptMetadata)
    (bundle : PrivateReceiptBundle) : Prop where
  receiptId : bundle.receipt.receiptId = metadata.receiptId
  schemaVersion : bundle.receipt.schemaVersion = metadata.receiptSchemaVersion
  keyId : bundle.receipt.extensionPublicKey.keyId = metadata.extensionKeyId

/-- What encryption makes of a bundle. -/
theorem encryptPrivateReceiptBundle_spec {input : JsValue} {key : C.CryptoKey} {blobId : Text}
    {iv : List UInt8} {envelope : EncryptedReceiptEnvelope}
    (h : encryptPrivateReceiptBundle W keccak256 C input key blobId iv = .ok envelope) :
    parseEncryptedReceiptEnvelope envelope.value = .ok envelope ∧
      ∃ bundle text message, verifyPrivateReceiptBundle W keccak256 C input = .ok bundle ∧
      canonicalize W.toTextPlatform bundle.value = .ok text ∧ envelope.Carries W message ∧
      C.encrypt key message.iv message.additionalData (utf8Bytes text) = some message.ciphertext ∧
      envelope.authenticatedMetadata.Of bundle := by
  simp only [encryptPrivateReceiptBundle, Transaction.bind_eq_ok, rethrow_eq_ok] at h
  obtain ⟨bundle, hbundle, blobId, -, text, htext, ⟨ciphertext, iv⟩, hencrypted, hparsed⟩ := h
  obtain ⟨message, hcarries, rfl, hmessage⟩ := encryptAesGcm_eq_ok.mp hencrypted
  obtain rfl := parseEncryptedReceiptEnvelope_value hparsed
  exact ⟨hparsed, bundle, text, message, hbundle, htext, hcarries, hmessage, rfl, rfl, rfl⟩

/-- A verified bundle is encrypted, if its ciphertext is not too long. -/
theorem encryptPrivateReceiptBundle_ok {input : JsValue} {key : C.CryptoKey}
    {metadata : EncryptedReceiptMetadata} {iv : List UInt8} {bundle : PrivateReceiptBundle}
    {text : Text} {additionalData ciphertext : List UInt8}
    (hbundle : verifyPrivateReceiptBundle W keccak256 C input = .ok bundle)
    (htext : canonicalize W.toTextPlatform bundle.value = .ok text) (hof : metadata.Of bundle)
    (hblobId : isOpaqueId metadata.blobId = true) (hkeyId : 16 ≤ metadata.extensionKeyId.length)
    (hreceiptId : isReceiptId metadata.receiptId = true)
    (hversion : isSchemaVersionText metadata.receiptSchemaVersion = true) (hiv : iv.length = 12)
    (hdata : encodeCanonicalUtf8 W metadata.value = .ok additionalData)
    (hencrypt : C.encrypt key iv additionalData (utf8Bytes text) = some ciphertext)
    (hsize : 16 ≤ ciphertext.length ∧ ciphertext.length ≤ MAX_EXPORT_PACKAGE_BYTES) :
    encryptPrivateReceiptBundle W keccak256 C input key metadata.blobId iv =
      .ok ⟨metadata, bytesToBase64Url ciphertext, bytesToBase64Url iv⟩ := by
  simp only [encryptPrivateReceiptBundle, Transaction.bind_eq_ok, rethrow_eq_ok]
  refine ⟨bundle, hbundle, metadata.blobId, parseOpaqueId_eq_ok.mpr ⟨rfl, hblobId⟩, text, htext,
    (bytesToBase64Url ciphertext, bytesToBase64Url iv), ?_, ?_⟩
  · rw [hof.receiptId, hof.schemaVersion, hof.keyId]
    exact encryptAesGcm_eq_ok.mpr ⟨⟨iv, additionalData, ciphertext⟩, ⟨rfl, rfl, hdata⟩, rfl,
      hencrypt⟩
  · rw [hof.receiptId, hof.schemaVersion, hof.keyId]
    exact parseEncryptedReceiptEnvelope_eq_ok.mpr ⟨_, _, rfl, rfl, rfl, rfl, rfl, rfl, rfl, rfl,
      ⟨rfl, hkeyId⟩, ⟨rfl, hversion⟩, ⟨rfl, hblobId⟩, ⟨rfl, hreceiptId⟩, ⟨rfl, _, rfl, hsize⟩, rfl,
      _, rfl, hiv⟩

/-- What decryption accepts. -/
theorem decryptPrivateReceiptEnvelope_eq_ok {v : JsValue} {key : C.CryptoKey}
    {bundle : PrivateReceiptBundle} :
    decryptPrivateReceiptEnvelope W keccak256 C v key = .ok bundle ↔
      ∃ envelope message plaintext parsed, parseEncryptedReceiptEnvelope v = .ok envelope ∧
      envelope.Carries W message ∧
      C.decrypt key message.iv message.additionalData message.ciphertext = some plaintext ∧
      parsePlaintext plaintext = some parsed ∧
      verifyPrivateReceiptBundle W keccak256 C parsed = .ok bundle ∧
      envelope.authenticatedMetadata.Of bundle := by
  simp only [decryptPrivateReceiptEnvelope, Transaction.bind_eq_ok, orThrow_eq_ok, throwIf_eq_ok,
    toOption_eq_some, not_or, not_not]
  constructor
  · rintro ⟨envelope, henvelope, plaintext, hplaintext, parsed, hparsed, found, hfound, _,
      ⟨hreceipt, hversion, hkey⟩, h⟩
    obtain rfl := Except.ok.inj h
    obtain ⟨message, hcarries, -, -, hdecrypt⟩ := decryptAesGcm_eq_ok.mp hplaintext
    exact ⟨envelope, message, plaintext, parsed, henvelope, hcarries, hdecrypt, hparsed, hfound,
      hreceipt, hversion, hkey⟩
  · rintro ⟨envelope, message, plaintext, parsed, henvelope, hcarries, hdecrypt, hparsed, hfound,
      hreceipt, hversion, hkey⟩
    obtain ⟨_, _, -, -, -, -, -, -, -, -, -, -, -, -, ⟨-, bytes, hbytes, hsize, -⟩, -, iv, hiv,
      hlength⟩ := parseEncryptedReceiptEnvelope_eq_ok.mp henvelope
    have hmessageIv := bytesToBase64Url_injective (hcarries.iv.symm.trans hiv)
    have hmessageBytes := bytesToBase64Url_injective (hcarries.ciphertext.symm.trans hbytes)
    have hplaintext := decryptAesGcm_eq_ok.mpr ⟨message, hcarries, hmessageIv ▸ hlength,
      hmessageBytes ▸ hsize, hdecrypt⟩
    exact ⟨envelope, henvelope, plaintext, hplaintext, parsed, hparsed, bundle, hfound, (),
      ⟨hreceipt, hversion, hkey⟩, rfl⟩

/-! ### Encryption and decryption -/

/-- **A bundle is decrypted to what it was parsed to**, and nothing else is
accepted under the key than its envelope, or an envelope that carries another of
the messages sealed under the key. -/
theorem decryptPrivateReceiptEnvelope_encrypted (W : WebPlatform)
    (keccak256 : List UInt8 → HashHex) (C : CryptoProvider) (key : C.CryptoKey)
    (messages : Set SealedMessage)
    (hdecrypts : ∀ iv additionalData plaintext ciphertext,
      C.encrypt key iv additionalData plaintext = some ciphertext →
        C.decrypt key iv additionalData ciphertext = some plaintext)
    (hauthentic : ∀ message plaintext,
      C.decrypt key message.iv message.additionalData message.ciphertext = some plaintext →
        message ∈ messages)
    (input : JsValue) (blobId : Text) (iv : List UInt8) (envelope : EncryptedReceiptEnvelope)
    (h : encryptPrivateReceiptBundle W keccak256 C input key blobId iv = .ok envelope) :
    (∃ bundle, parsePrivateReceiptBundle W keccak256 input = .ok bundle ∧
      decryptPrivateReceiptEnvelope W keccak256 C envelope.value key = .ok bundle) ∧
    ∀ altered bundle, decryptPrivateReceiptEnvelope W keccak256 C altered key = .ok bundle →
      ∃ found, parseEncryptedReceiptEnvelope altered = .ok found ∧
        (found = envelope ∨
          ∃ message ∈ messages, found.Carries W message ∧ ¬envelope.Carries W message) := by
  obtain ⟨hself, bundle, text, message, hbundle, htext, hcarries, hencrypt, hof⟩ :=
    encryptPrivateReceiptBundle_spec h
  obtain ⟨w, hw, hparsed⟩ := parsePlaintext_canonical htext
  have hdecrypt := hdecrypts _ _ _ _ hencrypt
  have hagain := (verifyPrivateReceiptBundle_restored hbundle hw).2
  refine ⟨⟨bundle, (verifyPrivateReceiptBundle_eq_ok.mp hbundle).1,
    decryptPrivateReceiptEnvelope_eq_ok.mpr
      ⟨envelope, message, _, w, hself, hcarries, hdecrypt, hparsed, hagain, hof⟩⟩, ?_⟩
  intro altered bundle' h'
  obtain ⟨found, message', plaintext, w', hfound, hcarries', hdecrypt', hparsed', hbundle', hof'⟩ :=
    decryptPrivateReceiptEnvelope_eq_ok.mp h'
  refine ⟨found, hfound, ?_⟩
  by_cases hsame : envelope.Carries W message'
  · -- one message is decrypted to one bundle, whose key identifier both name
    obtain rfl := hcarries.unique hsame
    obtain rfl := Option.some.inj (hdecrypt.symm.trans hdecrypt')
    obtain rfl := Option.some.inj (hparsed.symm.trans hparsed')
    obtain rfl := Except.ok.inj (hagain.symm.trans hbundle')
    exact .inl (eq_of_carries hfound hself hcarries' hcarries (hof'.keyId.symm.trans hof.keyId))
  · exact .inr ⟨message', hauthentic message' plaintext hdecrypt', hcarries', hsame⟩

end laws

/-- The metadata of the sample bundle's envelope. -/
def sampleMetadata : EncryptedReceiptMetadata :=
  ⟨List.replicate 43 65, sampleSignedReceipt.extensionPublicKey.keyId,
    sampleSignedReceipt.receiptId, sampleSignedReceipt.schemaVersion⟩

theorem decryptPrivateReceiptEnvelope_encrypted_sample :
    ∃ envelope, encryptPrivateReceiptBundle sampleWebPlatform sampleKeccak sampleCrypto
        sampleBundle.value () sampleMetadata.blobId (List.replicate 12 0) = .ok envelope ∧
      ∃ bundle, decryptPrivateReceiptEnvelope sampleWebPlatform sampleKeccak sampleCrypto
        envelope.value () = .ok bundle := by
  obtain ⟨text, htext, hsize⟩ := sampleBundle_text
  have hdata : (encodeCanonicalUtf8 sampleWebPlatform sampleMetadata.value).toOption.isSome =
      true := by
    decide +kernel
  obtain ⟨additionalData, hdata⟩ := Option.isSome_iff_exists.mp hdata
  have hof : sampleMetadata.Of sampleBundle := ⟨rfl, rfl, rfl⟩
  have hencrypt : sampleCrypto.encrypt () (List.replicate 12 0) additionalData (utf8Bytes text) =
      some (List.replicate 16 (UInt8.ofNat (12 + additionalData.length)) ++ utf8Bytes text) := rfl
  have hfits : 16 ≤ (List.replicate 16 (UInt8.ofNat (12 + additionalData.length)) ++
        utf8Bytes text).length ∧
      (List.replicate 16 (UInt8.ofNat (12 + additionalData.length)) ++
        utf8Bytes text).length ≤ MAX_EXPORT_PACKAGE_BYTES := by
    simp only [List.length_append, List.length_replicate, MAX_EXPORT_PACKAGE_BYTES]
    omega
  have hencrypted := encryptPrivateReceiptBundle_ok sampleBundle_verified htext hof (by decide)
    (by decide) (by decide) (by decide) List.length_replicate (toOption_eq_some.mp hdata) hencrypt
    hfits
  obtain ⟨⟨bundle, -, hbundle⟩, -⟩ := decryptPrivateReceiptEnvelope_encrypted sampleWebPlatform
    sampleKeccak sampleCrypto ()
    {message | ∃ plaintext, sampleCrypto.encrypt () message.iv message.additionalData plaintext =
      some message.ciphertext}
    (fun _ _ _ _ h => sampleCrypto_decrypt.mpr h)
    (fun _ plaintext h => ⟨plaintext, sampleCrypto_decrypt.mp h⟩)
    sampleBundle.value sampleMetadata.blobId (List.replicate 12 0) _ hencrypted
  exact ⟨_, hencrypted, bundle, hbundle⟩

end SubmittedIt.Protocol
