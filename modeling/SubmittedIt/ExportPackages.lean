/-
SubmittedIt/ExportPackages.lean

Exported receipts (apps/extension/lib, encrypted-receipt.ts and crypto.ts).

A package is the canonical text of its authenticated metadata, a ciphertext and
a nonce.  Both sides bound the bytes of the ciphertext; only the side that opens
a package bounds its text too, and the text of a ciphertext is a third longer
than its bytes.  So a bundle whose canonical text has more than 786143 bytes is
exported, and cannot be imported.

Salt, nonce and package identifier are drawn at random, so they are arguments
here.  Of AES-GCM is assumed that it decrypts what it encrypted, and that its
tag has 16 bytes.

Main result: `openSubmittedItExport_created_iff`.
-/
import SubmittedIt.EncryptedReceipts
import SubmittedIt.CanonicalSizes

namespace SubmittedIt.Protocol

open JsValue (member)

open Relay (isReceiptId sextetText)

open Extension (MAX_EXPORT_PACKAGE_BYTES VerificationCheckName)

def EXPORT_PBKDF2_ITERATIONS : Nat := 600000
def EXPORT_PBKDF2_SALT_BYTES : Nat := 16
def MIN_EXPORT_PASSPHRASE_CHARACTERS : Nat := 12
def MAX_EXPORT_PASSPHRASE_BYTES : Nat := 1024

/-! ### Packages -/

/-- `ExportPackageMetadata`; its algorithms, format and version are fixed. -/
@[ext] structure ExportPackageMetadata where
  packageId : Text
  receiptId : Text
  salt : Text
  deriving DecidableEq

def ExportPackageMetadata.value (metadata : ExportPackageMetadata) : JsValue :=
  .object [(ascii "algorithm", .string (ascii "AES-256-GCM")),
    (ascii "format", .string (ascii "SUBMITTEDIT_RECEIPT_EXPORT")),
    (ascii "kdf", .string (ascii "PBKDF2-SHA-256")),
    (ascii "kdfIterations", .number (.integer EXPORT_PBKDF2_ITERATIONS)),
    (ascii "packageId", .string metadata.packageId),
    (ascii "receiptId", .string metadata.receiptId), (ascii "salt", .string metadata.salt),
    (ascii "version", .string (ascii "1.0"))]

/-- `SubmittedItExportPackage`. -/
@[ext] structure SubmittedItExportPackage where
  authenticatedMetadata : ExportPackageMetadata
  ciphertext : Text
  iv : Text
  deriving DecidableEq

def SubmittedItExportPackage.value (package : SubmittedItExportPackage) : JsValue :=
  .object [(ascii "authenticatedMetadata", package.authenticatedMetadata.value),
    (ascii "ciphertext", .string package.ciphertext), (ascii "iv", .string package.iv)]

/-- `parseExportPackage`. -/
def parseExportPackage (input : JsValue) : Except ExtensionError SubmittedItExportPackage := do
  let unknownFields : ExtensionError :=
    .message "The .submittedit package contains unsupported fields."
  let value ← orThrow unknownFields (accept asRecord input)
  orThrow unknownFields
    (ensure (hasExactKeys value ["authenticatedMetadata", "ciphertext", "iv"] = true))
  let parameters :=
    "The .submittedit package version or cryptographic parameters are unsupported."
  let unsupported : ExtensionError := .message parameters
  let metadata ← orThrow unsupported
    (accept asRecord (member (ascii "authenticatedMetadata") value))
  orThrow unsupported (ensure (hasExactKeys metadata ["algorithm", "format", "kdf",
    "kdfIterations", "packageId", "receiptId", "salt", "version"] = true))
  orThrow unsupported
    (readLiteral (ascii "SUBMITTEDIT_RECEIPT_EXPORT") (member (ascii "format") metadata))
  orThrow unsupported (readLiteral (ascii "1.0") (member (ascii "version") metadata))
  orThrow unsupported (readLiteral (ascii "AES-256-GCM") (member (ascii "algorithm") metadata))
  orThrow unsupported (readLiteral (ascii "PBKDF2-SHA-256") (member (ascii "kdf") metadata))
  orThrow unsupported
    (readInteger EXPORT_PBKDF2_ITERATIONS (member (ascii "kdfIterations") metadata))
  let salt ← orThrow unsupported (readTextIf (fun _ => True) (member (ascii "salt") metadata))
  let saltBytes ← base64UrlToBytes salt "$.authenticatedMetadata.salt"
  throwIf (saltBytes.length ≠ EXPORT_PBKDF2_SALT_BYTES) parameters
  let packageId ← parseOpaqueId (member (ascii "packageId") metadata)
    "$.authenticatedMetadata.packageId"
  let receiptId ← parseReceiptId (member (ascii "receiptId") metadata)
    "$.authenticatedMetadata.receiptId"
  let ciphertext ← parseCiphertext (member (ascii "ciphertext") value) "$.ciphertext"
  let iv ← parseIv (member (ascii "iv") value) "$.iv"
  return ⟨⟨packageId, receiptId, salt⟩, ciphertext, iv⟩

section exports

variable (W : WebPlatform) (keccak256 : List UInt8 → HashHex) (C : CryptoProvider)

/-! ### Keys -/

/-- `validateExportPassphrase`. -/
def validateExportPassphrase (passphrase : Text) : Except ExtensionError Unit :=
  throwIf (passphrase.length < MIN_EXPORT_PASSPHRASE_CHARACTERS ∨
      (utf8Bytes passphrase).length > MAX_EXPORT_PASSPHRASE_BYTES)
    ("Export passphrases must contain at least " ++ toString MIN_EXPORT_PASSPHRASE_CHARACTERS ++
      " characters and at most " ++ toString MAX_EXPORT_PASSPHRASE_BYTES ++ " UTF-8 bytes.")

/-- `deriveExportKey`. -/
def deriveExportKey (passphrase : Text) (salt : List UInt8) (iterations : Nat) :
    Except ExtensionError C.CryptoKey := do
  validateExportPassphrase passphrase
  throwIf (salt.length ≠ EXPORT_PBKDF2_SALT_BYTES) "The export KDF requires a 128-bit salt."
  throwIf (iterations ≠ EXPORT_PBKDF2_ITERATIONS)
    "The export package uses an unsupported PBKDF2 work factor."
  orThrow .operation (C.deriveKey (utf8Bytes passphrase) salt iterations)

/-! ### Export and import -/

/-- What `createSubmittedItExport` returns. -/
structure SubmittedItExport where
  filename : Text
  packageText : Text
  deriving DecidableEq

/-- `createSubmittedItExport`, with the bytes it draws. -/
def createSubmittedItExport (bundleInput : JsValue) (passphrase : Text)
    (salt packageId iv : List UInt8) : Except ExtensionError SubmittedItExport := do
  let bundle ← verifyPrivateReceiptBundle W keccak256 C bundleInput
  let key ← deriveExportKey C passphrase salt EXPORT_PBKDF2_ITERATIONS
  let authenticatedMetadata : ExportPackageMetadata := {
    packageId := bytesToBase64Url packageId, receiptId := bundle.receipt.receiptId,
    salt := bytesToBase64Url salt }
  let plaintext ← rethrow (canonicalize W.toTextPlatform bundle.value)
  let (ciphertext, iv) ←
    encryptAesGcm W C key (utf8Bytes plaintext) authenticatedMetadata.value iv
  let package ← parseExportPackage
    (SubmittedItExportPackage.value ⟨authenticatedMetadata, ciphertext, iv⟩)
  let packageText ← rethrow (canonicalize W.toTextPlatform package.value)
  return {
    filename := ascii "submittedit-" ++ (bundle.receipt.receiptId.take 14).drop 2 ++
      ascii ".submittedit"
    packageText }

/-- `openSubmittedItExport`. -/
def openSubmittedItExport (packageText passphrase : Text) :
    Except ExtensionError PrivateReceiptBundle := do
  throwIf ((utf8Bytes packageText).length > MAX_EXPORT_PACKAGE_BYTES)
    "The .submittedit package exceeds the supported size limit."
  let input ← orThrow (.message "The .submittedit package is truncated or malformed.")
    (JsValue.parse packageText)
  let parsed ← parseExportPackage input
  let salt ← base64UrlToBytes parsed.authenticatedMetadata.salt "value"
  let key ← deriveExportKey C passphrase salt EXPORT_PBKDF2_ITERATIONS
  let plaintext ← orThrow
    (.message "The passphrase is incorrect or the .submittedit package was altered.")
    (decryptAesGcm W C key parsed.iv parsed.ciphertext
      parsed.authenticatedMetadata.value).toOption
  let bundleInput ← orThrow (.message "The decrypted .submittedit package is malformed.")
    (parsePlaintext plaintext)
  let bundle ← parsePrivateReceiptBundle W keccak256 bundleInput
  throwIf (bundle.receipt.receiptId ≠ parsed.authenticatedMetadata.receiptId)
    "The package receipt ID does not match its authenticated contents."
  throwIf ((bundle.receipt.events.all fun event => verifyExtensionEventSignature W keccak256 C
      event.value bundle.receipt.extensionPublicKey.write) = false)
    "The imported receipt contains an invalid extension signature."
  verifyPrivateReceiptBundle W keccak256 C bundle.value

end exports

section laws

variable {W : WebPlatform} {keccak256 : List UInt8 → HashHex} {C : CryptoProvider}

/-! ### What is parsed -/

/-- The checks of a package's fields. -/
structure ValidPackage (package : SubmittedItExportPackage) : Prop where
  packageId : isOpaqueId package.authenticatedMetadata.packageId = true
  receiptId : isReceiptId package.authenticatedMetadata.receiptId = true
  salt : ∃ bytes, package.authenticatedMetadata.salt = bytesToBase64Url bytes ∧
    bytes.length = EXPORT_PBKDF2_SALT_BYTES
  ciphertext : ∃ bytes, package.ciphertext = bytesToBase64Url bytes ∧ 16 ≤ bytes.length ∧
    bytes.length ≤ MAX_EXPORT_PACKAGE_BYTES
  iv : ∃ bytes, package.iv = bytesToBase64Url bytes ∧ bytes.length = 12

/-- What a package is parsed from: its fields, and the fixed ones. -/
theorem parseExportPackage_eq_ok {v : JsValue} {x : SubmittedItExportPackage} :
    parseExportPackage v = .ok x ↔ ValidPackage x ∧ ∃ value metadata, v = .object value ∧
      member (ascii "authenticatedMetadata") value = .object metadata ∧
      hasExactKeys value ["authenticatedMetadata", "ciphertext", "iv"] = true ∧
      hasExactKeys metadata ["algorithm", "format", "kdf", "kdfIterations", "packageId",
        "receiptId", "salt", "version"] = true ∧
      member (ascii "format") metadata = .string (ascii "SUBMITTEDIT_RECEIPT_EXPORT") ∧
      member (ascii "version") metadata = .string (ascii "1.0") ∧
      member (ascii "algorithm") metadata = .string (ascii "AES-256-GCM") ∧
      member (ascii "kdf") metadata = .string (ascii "PBKDF2-SHA-256") ∧
      member (ascii "kdfIterations") metadata = .number (.integer EXPORT_PBKDF2_ITERATIONS) ∧
      member (ascii "salt") metadata = .string x.authenticatedMetadata.salt ∧
      member (ascii "packageId") metadata = .string x.authenticatedMetadata.packageId ∧
      member (ascii "receiptId") metadata = .string x.authenticatedMetadata.receiptId ∧
      member (ascii "ciphertext") value = .string x.ciphertext ∧
      member (ascii "iv") value = .string x.iv := by
  simp only [parseExportPackage, Transaction.bind_eq_ok, orThrow_eq_ok, accept_asRecord,
    ensure_eq_some, readLiteral_eq_some, readInteger_eq_some, readTextIf_eq_some, throwIf_eq_ok,
    base64UrlToBytes_eq_ok, parseOpaqueId_eq_ok, parseReceiptId_eq_ok, parseCiphertext_eq_ok,
    parseIv_eq_ok, not_not, and_true]
  constructor
  · rintro ⟨value, hvalue, _, hkeys, metadata, hmetadata, _, hmetadataKeys, _, hformat, _, hversion,
      _, halgorithm, _, hkdf, _, hiterations, salt, hsalt, saltBytes, ⟨-, hbytes⟩, _, hlength, _,
      ⟨hpackage, hpackageId⟩, _, ⟨hreceipt, hreceiptId⟩, _, ⟨hciphertext, hsize⟩, _,
      ⟨hiv, hivSize⟩, h⟩
    obtain rfl := Except.ok.inj h
    exact ⟨⟨hpackageId, hreceiptId, ⟨saltBytes, hbytes, hlength⟩, hsize, hivSize⟩, value, metadata,
      hvalue, hmetadata, hkeys, hmetadataKeys, hformat, hversion, halgorithm, hkdf, hiterations,
      hsalt, hpackage, hreceipt, hciphertext, hiv⟩
  · rintro ⟨⟨hpackageId, hreceiptId, ⟨saltBytes, hbytes, hlength⟩, hsize, hivSize⟩, value, metadata,
      hvalue, hmetadata, hkeys, hmetadataKeys, hformat, hversion, halgorithm, hkdf, hiterations,
      hsalt, hpackage, hreceipt, hciphertext, hiv⟩
    refine ⟨value, hvalue, (), hkeys, metadata, hmetadata, (), hmetadataKeys, (), hformat, (),
      hversion, (), halgorithm, (), hkdf, (), hiterations, _, hsalt, saltBytes, ⟨?_, hbytes⟩, (),
      hlength, _, ⟨hpackage, hpackageId⟩, _, ⟨hreceipt, hreceiptId⟩, _, ⟨hciphertext, hsize⟩, _,
      ⟨hiv, hivSize⟩, rfl⟩
    rintro rfl
    cases hlength

/-- **Packages are parsed to themselves**, where their fields are valid. -/
theorem parseExportPackage_value {x y : SubmittedItExportPackage} :
    parseExportPackage x.value = .ok y ↔ y = x ∧ ValidPackage x := by
  rw [parseExportPackage_eq_ok]
  constructor
  · rintro ⟨hvalid, value, metadata, hvalue, hmetadata, -, -, -, -, -, -, -, hsalt, hpackage,
      hreceipt, hciphertext, hiv⟩
    obtain rfl := JsValue.object.inj hvalue
    obtain rfl := JsValue.object.inj hmetadata
    have hsame : y = x := by
      refine SubmittedItExportPackage.ext (ExportPackageMetadata.ext ?_ ?_ ?_) ?_ ?_
      · exact (JsValue.string.inj hpackage).symm
      · exact (JsValue.string.inj hreceipt).symm
      · exact (JsValue.string.inj hsalt).symm
      · exact (JsValue.string.inj hciphertext).symm
      · exact (JsValue.string.inj hiv).symm
    exact ⟨hsame, hsame ▸ hvalid⟩
  · rintro ⟨rfl, hvalid⟩
    exact ⟨hvalid, _, _, rfl, rfl, rfl, rfl, rfl, rfl, rfl, rfl, rfl, rfl, rfl, rfl, rfl, rfl⟩

/-- **A package is parsed again** from what its text is parsed to. -/
theorem parseExportPackage_restored {x : SubmittedItExportPackage} {w : JsValue}
    (h : ValidPackage x) (hw : Restored W.toReceiptPlatform x.value w) :
    parseExportPackage w = .ok x := by
  obtain ⟨props, rfl, hprops⟩ := restored_object hw
  have hmetadata := hprops.found
    (show isVisible (ascii "authenticatedMetadata") = true from rfl) JsValue.noConfusion
  obtain ⟨metadata, hfound, hrestored⟩ := restored_object hmetadata
  obtain ⟨saltBytes, hsalt, -⟩ := h.salt
  obtain ⟨bytes, hciphertext, -⟩ := h.ciphertext
  obtain ⟨ivBytes, hiv, -⟩ := h.iv
  refine parseExportPackage_eq_ok.mpr ⟨h, props, metadata, rfl, hfound, ?_, ?_, ?_, ?_, ?_, ?_, ?_,
    ?_, ?_, ?_, ?_, ?_⟩
  · refine hprops.exactKeys (by decide) (by decide) rfl ?_ rfl
    simp only [List.forall_mem_cons, List.not_mem_nil, false_implies, implies_true, and_true]
    exact ⟨JsValue.noConfusion, JsValue.noConfusion, JsValue.noConfusion⟩
  · refine hrestored.exactKeys (by decide) (by decide) rfl ?_ rfl
    simp only [List.forall_mem_cons, List.not_mem_nil, false_implies, implies_true, and_true]
    exact ⟨JsValue.noConfusion, JsValue.noConfusion, JsValue.noConfusion, JsValue.noConfusion,
      JsValue.noConfusion, JsValue.noConfusion, JsValue.noConfusion, JsValue.noConfusion⟩
  · exact hrestored.string rfl rfl rfl
  · exact hrestored.string rfl rfl rfl
  · exact hrestored.string rfl rfl rfl
  · exact hrestored.string rfl rfl rfl
  · exact (restored_number (hrestored.found
      (show isVisible (ascii "kdfIterations") = true from rfl) JsValue.noConfusion)).2
  · exact hrestored.string rfl (hsalt ▸ bytesToBase64Url_visible saltBytes) rfl
  · exact hrestored.string rfl (isOpaqueId_visible h.packageId) rfl
  · exact hrestored.string rfl (isReceiptId_visible h.receiptId) rfl
  · exact hprops.string rfl (hciphertext ▸ bytesToBase64Url_visible bytes) rfl
  · exact hprops.string rfl (hiv ▸ bytesToBase64Url_visible ivBytes) rfl

/-! ### Sizes -/

theorem bytesToBase64Url_plain (bytes : List UInt8) :
    (bytesToBase64Url bytes).all Json.isPlain = true := by
  have hall : ∀ n < 64, Json.isPlain (sextetText n) = true := by decide
  rw [bytesToBase64Url_eq, encodeBase64Url_eq, List.all_map, List.all_eq_true]
  intro n hn
  exact hall n (sextets_lt bytes n hn)

theorem length_bytesToBase64Url (bytes : List UInt8) :
    (bytesToBase64Url bytes).length = (4 * bytes.length + 2) / 3 := by
  rw [bytesToBase64Url_eq, length_encodeBase64Url]

theorem isOpaqueId_plain {text : Text} (h : isOpaqueId text = true) :
    text.all Json.isPlain = true ∧ text.length = 43 := by
  rw [isOpaqueId, Bool.and_eq_true, decide_eq_true_eq] at h
  refine ⟨List.all_eq_true.mpr fun u hu => ?_, h.1⟩
  have hunit := List.all_eq_true.mp h.2 u hu
  rw [Bool.or_eq_true_iff, Bool.or_eq_true_iff, isAlphanumeric_iff] at hunit
  rcases hunit with (hunit | hunit) | hunit
  · refine Json.isPlain_iff.mpr ⟨by omega, ?_, ?_⟩
    · rintro rfl
      simp only [UInt16.reduceToNat] at hunit
      omega
    · rintro rfl
      simp only [UInt16.reduceToNat] at hunit
      omega
  · rw [of_decide_eq_true hunit]
    decide
  · rw [of_decide_eq_true hunit]
    decide

theorem isReceiptId_plain {text : Text} (h : isReceiptId text = true) :
    text.all Json.isPlain = true ∧ text.length = 66 := by
  unfold isReceiptId at h
  split at h
  · next digits =>
    rw [Bool.and_eq_true, decide_eq_true_eq] at h
    refine ⟨?_, congrArg (· + 2) h.1⟩
    rw [List.all_cons, List.all_cons, Bool.and_eq_true, Bool.and_eq_true]
    refine ⟨by decide, by decide, List.all_eq_true.mpr fun u hu => ?_⟩
    have hdigit := List.all_eq_true.mp h.2 u hu
    rw [Bool.or_eq_true, JsValue.isDigit_iff, Bool.and_eq_true, decide_eq_true_eq,
      decide_eq_true_eq, UInt16.le_iff_toNat_le, UInt16.le_iff_toNat_le] at hdigit
    simp only [UInt16.reduceToNat] at hdigit
    refine Json.isPlain_iff.mpr ⟨by omega, ?_, ?_⟩
    · rintro rfl
      simp only [UInt16.reduceToNat] at hdigit
      omega
    · rintro rfl
      simp only [UInt16.reduceToNat] at hdigit
      omega
  · cases h

theorem sized_iterations {Q : TextPlatform} :
    Sized Q (.number (.integer EXPORT_PBKDF2_ITERATIONS)) 6 :=
  ⟨.number EXPORT_PBKDF2_ITERATIONS, ⟨by decide, rfl⟩, by decide +kernel⟩

theorem sized_metadata {Q : TextPlatform} {package : SubmittedItExportPackage}
    (h : ValidPackage package) : Sized Q package.authenticatedMetadata.value 298 := by
  obtain ⟨saltBytes, hsalt, hsaltBytes⟩ := h.salt
  obtain ⟨hpackageId, hpackageIdLength⟩ := isOpaqueId_plain h.packageId
  obtain ⟨hreceiptId, hreceiptIdLength⟩ := isReceiptId_plain h.receiptId
  have hsaltPlain : package.authenticatedMetadata.salt.all Json.isPlain = true :=
    hsalt ▸ bytesToBase64Url_plain saltBytes
  have hsaltLength : package.authenticatedMetadata.salt.length = 22 := by
    rw [hsalt, length_bytesToBase64Url, hsaltBytes]
    rfl
  have hmembers : SizedMembers Q _ _ :=
    .cons (ascii "algorithm") (by decide) (sized_string (ascii "AES-256-GCM") (by decide)) <|
    .cons (ascii "format") (by decide)
      (sized_string (ascii "SUBMITTEDIT_RECEIPT_EXPORT") (by decide)) <|
    .cons (ascii "kdf") (by decide) (sized_string (ascii "PBKDF2-SHA-256") (by decide)) <|
    .cons (ascii "kdfIterations") (by decide) sized_iterations <|
    .cons (ascii "packageId") (by decide) (sized_string _ hpackageId) <|
    .cons (ascii "receiptId") (by decide) (sized_string _ hreceiptId) <|
    .cons (ascii "salt") (by decide) (sized_string _ hsaltPlain) <|
    .cons (ascii "version") (by decide) (sized_string (ascii "1.0") (by decide)) .nil
  have hsized : Sized Q package.authenticatedMetadata.value _ :=
    sized_object (List.cons_ne_nil _ _) (show (["algorithm", "format", "kdf", "kdfIterations",
      "packageId", "receiptId", "salt", "version"].map ascii).Nodup by decide) hmembers
  rw [hpackageIdLength, hreceiptIdLength, hsaltLength] at hsized
  exact hsized

/-- **The size of a package**: that of its ciphertext's text, and of fields with
a size of their own. -/
theorem sized_package {Q : TextPlatform} {package : SubmittedItExportPackage}
    (h : ValidPackage package) :
    Sized Q package.value (package.ciphertext.length + 364) := by
  obtain ⟨bytes, hciphertext, -⟩ := h.ciphertext
  obtain ⟨ivBytes, hiv, hivBytes⟩ := h.iv
  have hivPlain : package.iv.all Json.isPlain = true := hiv ▸ bytesToBase64Url_plain ivBytes
  have hivLength : package.iv.length = 16 := by
    rw [hiv, length_bytesToBase64Url, hivBytes]
  have hmembers : SizedMembers Q _ _ :=
    .cons (ascii "authenticatedMetadata") (by decide) (sized_metadata h) <|
    .cons (ascii "ciphertext") (by decide)
      (sized_string package.ciphertext (hciphertext ▸ bytesToBase64Url_plain bytes)) <|
    .cons (ascii "iv") (by decide) (sized_string _ hivPlain) .nil
  have hsized : Sized Q package.value _ := sized_object (List.cons_ne_nil _ _)
    (show (["authenticatedMetadata", "ciphertext", "iv"].map ascii).Nodup by decide) hmembers
  rw [hivLength] at hsized
  have htotal : (ascii "authenticatedMetadata").length + 4 + 298 + ((ascii "ciphertext").length +
      4 + (package.ciphertext.length + 2) + ((ascii "iv").length + 4 + (16 + 2) + 0)) + 1 =
      package.ciphertext.length + 364 := by
    show 21 + 4 + 298 + (10 + 4 + (package.ciphertext.length + 2) + (2 + 4 + (16 + 2) + 0)) + 1 = _
    omega
  rw [← htotal]
  exact hsized

/-! ### Exports -/

/-- What an export is made of. -/
structure Exports (W : WebPlatform) (C : CryptoProvider) (bundle : PrivateReceiptBundle)
    (passphrase text : Text) (key : C.CryptoKey) (salt : List UInt8) (message : SealedMessage)
    (package : SubmittedItExportPackage) (packageText : Text) : Prop where
  derived : deriveExportKey C passphrase salt EXPORT_PBKDF2_ITERATIONS = .ok key
  salted : package.authenticatedMetadata.salt = bytesToBase64Url salt
  named : package.authenticatedMetadata.receiptId = bundle.receipt.receiptId
  plaintext : canonicalize W.toTextPlatform bundle.value = .ok text
  carries : Carries W package.iv package.ciphertext package.authenticatedMetadata.value message
  encrypted : C.encrypt key message.iv message.additionalData (utf8Bytes text) =
    some message.ciphertext
  valid : ValidPackage package
  written : canonicalize W.toTextPlatform package.value = .ok packageText

theorem createSubmittedItExport_spec {input : JsValue} {passphrase : Text}
    {salt packageId iv : List UInt8} {created : SubmittedItExport}
    (h : createSubmittedItExport W keccak256 C input passphrase salt packageId iv = .ok created) :
    ∃ bundle text key message package, verifyPrivateReceiptBundle W keccak256 C input =
        .ok bundle ∧
      Exports W C bundle passphrase text key salt message package created.packageText := by
  simp only [createSubmittedItExport, Transaction.bind_eq_ok, rethrow_eq_ok] at h
  obtain ⟨bundle, hbundle, key, hkey, text, htext, ⟨ciphertext, iv⟩, hencrypted, package, hpackage,
    packageText, hpackageText, h⟩ := h
  obtain ⟨message, hcarries, rfl, hmessage⟩ := encryptAesGcm_eq_ok.mp hencrypted
  obtain ⟨rfl, hvalid⟩ := parseExportPackage_value.mp hpackage
  obtain rfl := Except.ok.inj h
  exact ⟨bundle, text, key, message, _, hbundle, hkey, rfl, rfl, htext, hcarries, hmessage, hvalid,
    hpackageText⟩

theorem deriveExportKey_salt {passphrase : Text} {salt : List UInt8} {iterations : Nat}
    {key : C.CryptoKey} (h : deriveExportKey C passphrase salt iterations = .ok key) :
    salt.length = EXPORT_PBKDF2_SALT_BYTES := by
  simp only [deriveExportKey, Transaction.bind_eq_ok, throwIf_eq_ok, not_not] at h
  obtain ⟨_, -, _, hsalt, -⟩ := h
  exact hsalt

theorem isOpaqueId_bytesToBase64Url {bytes : List UInt8} (h : bytes.length = 32) :
    isOpaqueId (bytesToBase64Url bytes) = true := by
  have hall : ∀ n < 64, (isAlphanumeric (sextetText n) || sextetText n = 95 ||
      sextetText n = 45) = true := by decide
  rw [isOpaqueId, Bool.and_eq_true, decide_eq_true_eq, length_bytesToBase64Url, h,
    bytesToBase64Url_eq, encodeBase64Url_eq, List.all_map, List.all_eq_true]
  exact ⟨rfl, fun n hn => hall n (sextets_lt bytes n hn)⟩

/-- A verified bundle is exported, if its ciphertext is not too long. -/
theorem createSubmittedItExport_ok {input : JsValue} {bundle : PrivateReceiptBundle}
    {passphrase text : Text} {key : C.CryptoKey} {salt packageId iv : List UInt8}
    (hbundle : verifyPrivateReceiptBundle W keccak256 C input = .ok bundle)
    (hreceiptId : isReceiptId bundle.receipt.receiptId = true)
    (htext : canonicalize W.toTextPlatform bundle.value = .ok text)
    (hkey : deriveExportKey C passphrase salt EXPORT_PBKDF2_ITERATIONS = .ok key)
    (hpackageId : packageId.length = 32) (hiv : iv.length = 12)
    (hencrypt : ∀ additionalData, ∃ ciphertext,
      C.encrypt key iv additionalData (utf8Bytes text) = some ciphertext ∧
        16 ≤ ciphertext.length ∧ ciphertext.length ≤ MAX_EXPORT_PACKAGE_BYTES) :
    ∃ created, createSubmittedItExport W keccak256 C input passphrase salt packageId iv =
      .ok created := by
  have hsalt := deriveExportKey_salt hkey
  have hvalid : ∀ ciphertext : List UInt8, 16 ≤ ciphertext.length →
      ciphertext.length ≤ MAX_EXPORT_PACKAGE_BYTES → ValidPackage
        ⟨⟨bytesToBase64Url packageId, bundle.receipt.receiptId, bytesToBase64Url salt⟩,
          bytesToBase64Url ciphertext, bytesToBase64Url iv⟩ := fun ciphertext hlower hupper =>
    ⟨isOpaqueId_bytesToBase64Url hpackageId, hreceiptId, ⟨salt, rfl, hsalt⟩,
      ⟨ciphertext, rfl, hlower, hupper⟩, ⟨iv, rfl, hiv⟩⟩
  obtain ⟨metadataText, hmetadata, -⟩ := sized_iff.mp (sized_metadata (Q := W.toTextPlatform)
    (hvalid (List.replicate 16 0) (by decide) (by decide)))
  obtain ⟨ciphertext, hciphertext, hlower, hupper⟩ := hencrypt (utf8Bytes metadataText)
  obtain ⟨packageText, hpackageText, -⟩ :=
    sized_iff.mp (sized_package (Q := W.toTextPlatform) (hvalid ciphertext hlower hupper))
  simp only [createSubmittedItExport, Transaction.bind_eq_ok, rethrow_eq_ok]
  exact ⟨_, bundle, hbundle, key, hkey, text, htext,
    (bytesToBase64Url ciphertext, bytesToBase64Url iv), encryptAesGcm_eq_ok.mpr
      ⟨⟨iv, utf8Bytes metadataText, ciphertext⟩, ⟨rfl, rfl, map_eq_ok.mpr ⟨_, hmetadata, rfl⟩⟩, rfl,
        hciphertext⟩, _, parseExportPackage_value.mpr ⟨rfl, hvalid ciphertext hlower hupper⟩,
    packageText, hpackageText, rfl⟩

/-- **An export that is not too long is opened**, with the bundle it was made
of. -/
theorem openSubmittedItExport_exported
    (hdecrypts : ∀ key iv additionalData plaintext ciphertext,
      C.encrypt key iv additionalData plaintext = some ciphertext →
        C.decrypt key iv additionalData ciphertext = some plaintext)
    {input : JsValue} {bundle : PrivateReceiptBundle} {passphrase text : Text} {key : C.CryptoKey}
    {salt : List UInt8} {message : SealedMessage} {package : SubmittedItExportPackage}
    {packageText : Text} (hbundle : verifyPrivateReceiptBundle W keccak256 C input = .ok bundle)
    (h : Exports W C bundle passphrase text key salt message package packageText)
    (hsize : (utf8Bytes packageText).length ≤ MAX_EXPORT_PACKAGE_BYTES) :
    openSubmittedItExport W keccak256 C packageText passphrase = .ok bundle := by
  -- the text is parsed to the package, and the plaintext to the bundle
  obtain ⟨j, hj, hstringify⟩ := canonicalize_eq_ok.mp h.written
  have hparse : JsValue.parse packageText = some (JsValue.ofJson j) := by
    rw [hstringify]
    exact JsValue.parse_stringify (canonical_ofJson hj).2
  have hpackage : parseExportPackage (JsValue.ofJson j) = .ok package :=
    parseExportPackage_restored (W := W) h.valid ⟨j, hj, rfl⟩
  obtain ⟨w, hw, hplaintext⟩ := parsePlaintext_canonical h.plaintext
  obtain ⟨hagain, hrestored⟩ := verifyPrivateReceiptBundle_restored hbundle hw
  obtain ⟨hparsed, -, hsigned⟩ := verifyPrivateReceiptBundle_eq_ok.mp hrestored
  obtain ⟨ciphertext, hciphertext, hlower, -⟩ := h.valid.ciphertext
  obtain ⟨iv, hiv, hivBytes⟩ := h.valid.iv
  have hsalt := deriveExportKey_salt h.derived
  have hdecrypted : decryptAesGcm W C key package.iv package.ciphertext
      package.authenticatedMetadata.value = .ok (utf8Bytes text) := by
    refine decryptAesGcm_eq_ok.mpr ⟨message, h.carries, ?_, ?_, hdecrypts _ _ _ _ _ h.encrypted⟩
    · rw [bytesToBase64Url_injective (h.carries.iv.symm.trans hiv), hivBytes]
    · rw [bytesToBase64Url_injective (h.carries.ciphertext.symm.trans hciphertext)]
      exact hlower
  simp only [openSubmittedItExport, Transaction.bind_eq_ok, throwIf_eq_ok, orThrow_eq_ok,
    toOption_eq_some, base64UrlToBytes_eq_ok, not_lt, not_not, Bool.not_eq_false]
  refine ⟨(), hsize, _, hparse, package, hpackage, salt, ⟨?_, h.salted⟩, key, h.derived, _,
    hdecrypted, w, hplaintext, bundle, hparsed, (), h.named.symm, (), hsigned, hagain⟩
  rintro rfl
  cases hsalt

/-- A package that is too long is refused. -/
theorem openSubmittedItExport_tooLong {packageText passphrase : Text}
    (h : MAX_EXPORT_PACKAGE_BYTES < (utf8Bytes packageText).length) :
    openSubmittedItExport W keccak256 C packageText passphrase =
      .error (.message "The .submittedit package exceeds the supported size limit.") := by
  unfold openSubmittedItExport throwIf
  rw [if_pos h]
  rfl

/-- **How long a package is**, by the canonical text of its bundle. -/
theorem Exports.length_packageText
    (htag : ∀ key iv additionalData plaintext ciphertext,
      C.encrypt key iv additionalData plaintext = some ciphertext →
        ciphertext.length = plaintext.length + 16)
    {bundle : PrivateReceiptBundle} {passphrase text : Text} {key : C.CryptoKey}
    {salt : List UInt8} {message : SealedMessage} {package : SubmittedItExportPackage}
    {packageText : Text}
    (h : Exports W C bundle passphrase text key salt message package packageText) :
    (utf8Bytes packageText).length = (4 * ((utf8Bytes text).length + 16) + 2) / 3 + 364 := by
  have hsized := (sized_package h.valid).unique
    (sized_iff.mpr ⟨packageText, h.written, rfl⟩)
  rw [← hsized, h.carries.ciphertext, length_bytesToBase64Url, htag _ _ _ _ _ h.encrypted]

/-- **Which exports can be imported**: those of bundles whose canonical text has
at most 786143 bytes; the package of a longer one is refused. -/
theorem openSubmittedItExport_created_iff (W : WebPlatform) (keccak256 : List UInt8 → HashHex)
    (C : CryptoProvider)
    (hdecrypts : ∀ key iv additionalData plaintext ciphertext,
      C.encrypt key iv additionalData plaintext = some ciphertext →
        C.decrypt key iv additionalData ciphertext = some plaintext)
    (htag : ∀ key iv additionalData plaintext ciphertext,
      C.encrypt key iv additionalData plaintext = some ciphertext →
        ciphertext.length = plaintext.length + 16)
    (input : JsValue) (bundle : PrivateReceiptBundle) (text passphrase : Text)
    (salt packageId iv : List UInt8) (created : SubmittedItExport)
    (hbundle : verifyPrivateReceiptBundle W keccak256 C input = .ok bundle)
    (htext : canonicalize W.toTextPlatform bundle.value = .ok text)
    (h : createSubmittedItExport W keccak256 C input passphrase salt packageId iv = .ok created) :
    ((∃ opened, openSubmittedItExport W keccak256 C created.packageText passphrase = .ok opened ∧
        canonicalize W.toTextPlatform opened.value = .ok text) ↔
      (utf8Bytes text).length ≤ 786143) ∧
    (786143 < (utf8Bytes text).length →
      openSubmittedItExport W keccak256 C created.packageText passphrase =
        .error (.message "The .submittedit package exceeds the supported size limit.")) := by
  obtain ⟨_, _, key, message, package, hbundle', hexports⟩ := createSubmittedItExport_spec h
  obtain rfl := Except.ok.inj (hbundle.symm.trans hbundle')
  obtain rfl := Except.ok.inj (htext.symm.trans hexports.plaintext)
  have hlength := hexports.length_packageText htag
  by_cases hsize : (utf8Bytes created.packageText).length ≤ MAX_EXPORT_PACKAGE_BYTES
  · have hopened := openSubmittedItExport_exported hdecrypts hbundle hexports hsize
    rw [hlength, MAX_EXPORT_PACKAGE_BYTES] at hsize
    have hshort : (utf8Bytes text).length ≤ 786143 := by omega
    exact ⟨iff_of_true ⟨bundle, hopened, htext⟩ hshort, fun hlong => absurd hshort (by omega)⟩
  · have hrefused : openSubmittedItExport W keccak256 C created.packageText passphrase = _ :=
      openSubmittedItExport_tooLong (Nat.lt_of_not_le hsize)
    rw [hlength, MAX_EXPORT_PACKAGE_BYTES] at hsize
    refine ⟨iff_of_false ?_ (by omega), fun _ => hrefused⟩
    rintro ⟨opened, hopened, -⟩
    rw [hrefused] at hopened
    cases hopened

end laws

/-! ### A bundle with long details -/

theorem exists_sized {Q : TextPlatform} {v : JsValue} {m : Nat}
    (h : ((canonicalize Q v).toOption.any fun text => (utf8Bytes text).length ≤ m) = true) :
    ∃ n ≤ m, Sized Q v n := by
  obtain ⟨text, htext, hsize⟩ := (Option.any_eq_true _ _).mp h
  exact ⟨_, of_decide_eq_true hsize, sized_iff.mpr ⟨text, toOption_eq_some.mp htext, rfl⟩⟩

section details

variable {detail : Text} (hdetail : detail.all Json.isPlain = true)

include hdetail

theorem sized_withDetail {Q : TextPlatform} (name : VerificationCheckName) :
    ∃ n ≤ 128, Sized Q (VerificationCheck.withDetail detail ⟨name, none, .passed⟩).value
      (detail.length + n) := by
  have hname : (verificationCheckNameText name).all Json.isPlain = true ∧
      (verificationCheckNameText name).length ≤ 64 := by
    cases name <;> decide
  have hmembers : SizedMembers Q _ _ :=
    .cons (ascii "check") (by decide) (sized_string _ hname.1) <|
    .cons (ascii "detail") (by decide) (sized_string detail hdetail) <|
    .cons (ascii "result") (by decide) (sized_string (ascii "PASSED") (by decide)) .nil
  have hsized : Sized Q (VerificationCheck.withDetail detail ⟨name, none, .passed⟩).value _ :=
    sized_object (List.cons_ne_nil _ _)
      (show (["check", "detail", "result"].map ascii).Nodup by decide) hmembers
  refine ⟨(verificationCheckNameText name).length + 42, by omega, ?_⟩
  have htotal : (ascii "check").length + 4 + ((verificationCheckNameText name).length + 2) +
      ((ascii "detail").length + 4 + (detail.length + 2) +
        ((ascii "result").length + 4 + ((ascii "PASSED").length + 2) + 0)) + 1 =
      detail.length + ((verificationCheckNameText name).length + 42) := by
    show 5 + 4 + ((verificationCheckNameText name).length + 2) +
      (6 + 4 + (detail.length + 2) + (6 + 4 + (6 + 2) + 0)) + 1 = _
    omega
  rw [← htotal]
  exact hsized

/-- The bundle's text has the details four times, and is short without them. -/
theorem sized_withDetails :
    ∃ n, Sized sampleWebPlatform.toTextPlatform (sampleBundle.withDetails detail).value n ∧
      4 * detail.length ≤ n ∧ n ≤ 4 * detail.length + 16384 := by
  have hcheck := sized_withDetail (Q := sampleWebPlatform.toTextPlatform) hdetail
  obtain ⟨n₁, hn₁, hcheck₁⟩ := hcheck .eventHash
  obtain ⟨n₂, hn₂, hcheck₂⟩ := hcheck .eventLink
  obtain ⟨n₃, hn₃, hcheck₃⟩ := hcheck .extensionSignature
  obtain ⟨n₄, hn₄, hcheck₄⟩ := hcheck .schema
  have hchecks := sized_array (List.cons_ne_nil _ _)
    (.cons hcheck₁ (.cons hcheck₂ (.cons hcheck₃ (.cons hcheck₄ .nil))))
  have hverification : SizedMembers sampleWebPlatform.toTextPlatform _ _ :=
    .cons (ascii "checks") (by decide) hchecks <|
    .cons (ascii "result") (by decide) (sized_string (ascii "VERIFIED") (by decide)) <|
    .cons (ascii "verifiedAt") (by decide)
      (sized_string (ascii "2026-01-01T00:00:00.000Z") (by decide)) .nil
  have hstate : Sized sampleWebPlatform.toTextPlatform
      (sampleBundle.withDetails detail).receipt.verification.value _ :=
    sized_object (List.cons_ne_nil _ _)
      (show (["checks", "result", "verifiedAt"].map ascii).Nodup by decide) hverification
  obtain ⟨nevents, hnevents, hevents⟩ := exists_sized (Q := sampleWebPlatform.toTextPlatform)
    (v := writeList LifecycleEventEnvelope.value sampleBundle.receipt.events) (m := 3000)
    (by decide +kernel)
  obtain ⟨nkey, hnkey, hkey⟩ := exists_sized (Q := sampleWebPlatform.toTextPlatform)
    (v := sampleBundle.receipt.extensionPublicKey.write) (m := 1000) (by decide +kernel)
  have hreceipt : SizedMembers sampleWebPlatform.toTextPlatform _ _ :=
    .cons (ascii "createdAt") (by decide)
      (sized_string (ascii "2026-01-01T00:00:00.000Z") (by decide)) <|
    .cons (ascii "currentStage") (by decide) (sized_string (ascii "ATTEMPTED") (by decide)) <|
    .cons (ascii "derivedStatus") (by decide)
      (sized_string (ascii "PENDING_ACCEPTANCE") (by decide)) <|
    .cons (ascii "events") (by decide) hevents <|
    .cons (ascii "extensionPublicKey") (by decide) hkey <|
    .cons (ascii "receiptId") (by decide)
      (sized_string sampleBundle.receipt.receiptId (by decide)) <|
    .cons (ascii "schemaVersion") (by decide) (sized_string (ascii "1.0") (by decide)) <|
    .cons (ascii "verification") (by decide) hstate .nil
  have hsized : Sized sampleWebPlatform.toTextPlatform
      (sampleBundle.withDetails detail).receipt.value _ :=
    sized_object (List.cons_ne_nil _ _) (show (["createdAt", "currentStage", "derivedStatus",
      "events", "extensionPublicKey", "receiptId", "schemaVersion", "verification"].map
        ascii).Nodup by decide) hreceipt
  obtain ⟨noperational, hnoperational, hoperational⟩ := exists_sized
    (Q := sampleWebPlatform.toTextPlatform) (v := sampleBundle.operational.value) (m := 4096)
    (by decide +kernel)
  have hbundle : SizedMembers sampleWebPlatform.toTextPlatform _ _ :=
    .cons (ascii "format") (by decide)
      (sized_string (ascii "SUBMITTEDIT_PRIVATE_RECEIPT") (by decide)) <|
    .cons (ascii "version") (by decide) (sized_string (ascii "1.0") (by decide)) <|
    .cons (ascii "operational") (by decide) hoperational <|
    .cons (ascii "ownership") (by decide) (sized_string (ascii "LOCAL") (by decide)) <|
    .cons (ascii "receipt") (by decide) hsized .nil
  refine ⟨_, sized_object (List.cons_ne_nil _ _) (show (["format", "version", "operational",
    "ownership", "receipt"].map ascii).Nodup by decide) hbundle, by omega, ?_⟩
  have hkeys : ∀ text ∈ ["checks", "result", "VERIFIED", "verifiedAt", "2026-01-01T00:00:00.000Z",
      "createdAt", "currentStage", "ATTEMPTED", "derivedStatus", "PENDING_ACCEPTANCE", "events",
      "extensionPublicKey", "receiptId", "schemaVersion", "1.0", "verification", "format",
      "SUBMITTEDIT_PRIVATE_RECEIPT", "version", "operational", "ownership", "LOCAL", "receipt"],
      (ascii text).length ≤ 32 := by decide
  simp only [List.forall_mem_cons] at hkeys
  have hreceiptId : sampleBundle.receipt.receiptId.length = 66 := by decide
  omega

end details

def samplePassphrase : Text := ascii "fictional passphrase"

/-- The export of a bundle, with zeros for what is drawn. -/
def sampleExport (bundle : PrivateReceiptBundle) : Except ExtensionError SubmittedItExport :=
  createSubmittedItExport sampleWebPlatform sampleKeccak sampleCrypto bundle.value
    samplePassphrase (List.replicate 16 0) (List.replicate 32 0) (List.replicate 12 0)

theorem sampleCrypto_length {key : sampleCrypto.CryptoKey}
    {iv additionalData plaintext ciphertext : List UInt8}
    (h : sampleCrypto.encrypt key iv additionalData plaintext = some ciphertext) :
    ciphertext.length = plaintext.length + 16 := by
  rw [← Option.some.inj h, List.length_append, List.length_replicate, Nat.add_comm]

theorem sampleExport_ok {bundle : PrivateReceiptBundle} {text : Text}
    (hverified : verifyPrivateReceiptBundle sampleWebPlatform sampleKeccak sampleCrypto
      bundle.value = .ok bundle) (hreceiptId : isReceiptId bundle.receipt.receiptId = true)
    (htext : canonicalize sampleWebPlatform.toTextPlatform bundle.value = .ok text)
    (hsize : (utf8Bytes text).length + 16 ≤ MAX_EXPORT_PACKAGE_BYTES) :
    ∃ created, sampleExport bundle = .ok created := by
  have hkey : deriveExportKey sampleCrypto samplePassphrase (List.replicate 16 0)
      EXPORT_PBKDF2_ITERATIONS = .ok () := rfl
  apply createSubmittedItExport_ok hverified hreceiptId htext hkey
  · exact List.length_replicate
  · exact List.length_replicate
  · intro additionalData
    obtain ⟨ciphertext, hciphertext⟩ : ∃ ciphertext, sampleCrypto.encrypt ()
        (List.replicate 12 0) additionalData (utf8Bytes text) = some ciphertext := ⟨_, rfl⟩
    have hlength := sampleCrypto_length hciphertext
    exact ⟨ciphertext, hciphertext, by omega, by omega⟩

/-- A bundle with long details is exported too. -/
theorem exists_long_export : ∃ bundle text created,
    verifyPrivateReceiptBundle sampleWebPlatform sampleKeccak sampleCrypto bundle.value =
        .ok bundle ∧
      canonicalize sampleWebPlatform.toTextPlatform bundle.value = .ok text ∧
      sampleExport bundle = .ok created ∧ 786143 < (utf8Bytes text).length := by
  have hdetail : (List.replicate 220000 97 : Text).all Json.isPlain = true := by
    rw [List.all_eq_true]
    intro u hu
    rw [List.eq_of_mem_replicate hu]
    decide
  have hverified := verifyPrivateReceiptBundle_withDetails
    (normalizeText_plain (Q := sampleWebPlatform.toTextPlatform) hdetail) sampleBundle_verified
  obtain ⟨n, hsized, hlower, hupper⟩ := sized_withDetails hdetail
  obtain ⟨text, htext, rfl⟩ := sized_iff.mp hsized
  rw [List.length_replicate] at hlower hupper
  have hreceiptId : isReceiptId sampleBundle.receipt.receiptId = true := by decide
  obtain ⟨created, hcreated⟩ := sampleExport_ok hverified hreceiptId htext
    (by rw [MAX_EXPORT_PACKAGE_BYTES]; omega)
  exact ⟨_, text, created, hverified, htext, hcreated, by omega⟩

/-- A short bundle is opened again; one with long details is exported, and not
imported. -/
theorem openSubmittedItExport_created_sample :
    (∃ text created opened, sampleExport sampleBundle = .ok created ∧
      openSubmittedItExport sampleWebPlatform sampleKeccak sampleCrypto created.packageText
        samplePassphrase = .ok opened ∧
      canonicalize sampleWebPlatform.toTextPlatform opened.value = .ok text) ∧
    ∃ bundle created, verifyPrivateReceiptBundle sampleWebPlatform sampleKeccak sampleCrypto
        bundle.value = .ok bundle ∧
      sampleExport bundle = .ok created ∧
      openSubmittedItExport sampleWebPlatform sampleKeccak sampleCrypto created.packageText
          samplePassphrase =
        .error (.message "The .submittedit package exceeds the supported size limit.") := by
  constructor
  · obtain ⟨text, htext, hsize⟩ := sampleBundle_text
    obtain ⟨created, hcreated⟩ := sampleExport_ok sampleBundle_verified (by decide) htext
      (by rw [MAX_EXPORT_PACKAGE_BYTES]; omega)
    obtain ⟨opened, hopened⟩ := (openSubmittedItExport_created_iff sampleWebPlatform sampleKeccak
      sampleCrypto (fun _ _ _ _ _ h => sampleCrypto_decrypt.mpr h)
      (fun _ _ _ _ _ h => sampleCrypto_length h) sampleBundle.value sampleBundle text
      samplePassphrase _ _ _ created sampleBundle_verified htext hcreated).1.mpr (by omega)
    exact ⟨text, created, opened, hcreated, hopened⟩
  · obtain ⟨bundle, text, created, hverified, htext, hcreated, hlong⟩ := exists_long_export
    exact ⟨bundle, created, hverified, hcreated, (openSubmittedItExport_created_iff
      sampleWebPlatform sampleKeccak sampleCrypto (fun _ _ _ _ _ h => sampleCrypto_decrypt.mpr h)
      (fun _ _ _ _ _ h => sampleCrypto_length h) bundle.value bundle text samplePassphrase _ _ _
      created hverified htext hcreated).2 hlong⟩

end SubmittedIt.Protocol
