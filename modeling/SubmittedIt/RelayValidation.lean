/-
SubmittedIt/RelayValidation.lean

The relay's validator of envelopes on JavaScript values (apps/web/lib/relay,
validation.ts), beside the extension's (apps/extension/lib,
encrypted-receipt.ts).

The two compare the keys of an object differently: the relay asks for each of
them and for no other, the extension compares their sorted names joined by
U+0000.  They also decode base64url differently: the relay decodes any text of
the alphabet, the extension only those of a possible length; both then encode
again and compare.

The validator that `RelayBlobs` has reads JSON, as the blob service's store does;
`validate_ofJson` says that this one is the same on what JSON denotes.

Main results: `parseEncryptedReceiptEnvelope_agrees` and `validate_ofJson`.
-/
import SubmittedIt.EncryptedReceipts
import SubmittedIt.RelayBlobIdempotency
import SubmittedIt.JsonValues

namespace SubmittedIt.Protocol

open JsValue (member hasOwn IsJson)

open Relay (isReceiptId isSchemaVersionText isRelayOpaqueId isBase64Url base64UrlBytes
  encodeBase64Url invalidEnvelope MAX_ENCRYPTED_CIPHERTEXT_BYTES)

/-! ### validation.ts -/

namespace Validation

/-- `hasExactKeys`, without optional keys. -/
def hasExactKeys (value : List (Text × JsValue)) (required : List String) : Bool :=
  (required.all fun key => hasOwn (ascii key) value) &&
    value.all fun m => (required.map ascii).contains m.1

/-- Throw where there is no value. -/
def orRefuse {α : Type} (publicMessage : String) : Option α → Except Relay.BlobError α
  | some x => .ok x
  | none => .error (invalidEnvelope publicMessage)

/-- `decodeBase64Url`: the text and its bytes. -/
def decodeBase64Url (value : JsValue) (path : String) :
    Except Relay.BlobError (Text × List UInt8) := do
  let text ← orRefuse (path ++ " must be unpadded base64url.")
    (readTextIf (fun text => isBase64Url text = true) value)
  orRefuse (path ++ " must use canonical base64url encoding.")
    (ensure (encodeBase64Url (base64UrlBytes text) = text))
  return (text, base64UrlBytes text)

/-- `parseEncryptedReceiptEnvelope`. -/
def parseEncryptedReceiptEnvelope (input : JsValue) :
    Except Relay.BlobError EncryptedReceiptEnvelope := do
  let unsupported := "The encrypted receipt envelope contains unsupported fields."
  let value ← orRefuse unsupported (accept asRecord input)
  orRefuse unsupported
    (ensure (hasExactKeys value ["authenticatedMetadata", "ciphertext", "iv"] = true))
  let malformed := "The encrypted receipt metadata is malformed or unsupported."
  let metadata ←
    orRefuse malformed (accept asRecord (member (ascii "authenticatedMetadata") value))
  orRefuse malformed (ensure (hasExactKeys metadata ["algorithm", "blobId", "extensionKeyId",
    "format", "keyVersion", "receiptId", "receiptSchemaVersion", "version"] = true))
  orRefuse malformed (readLiteral (ascii "AES-256-GCM") (member (ascii "algorithm") metadata))
  orRefuse malformed
    (readLiteral (ascii "SUBMITTEDIT_ENCRYPTED_RECEIPT") (member (ascii "format") metadata))
  orRefuse malformed (readLiteral (ascii "1.0") (member (ascii "version") metadata))
  orRefuse malformed (readInteger 1 (member (ascii "keyVersion") metadata))
  let blobId ← orRefuse malformed
    (readTextIf (fun text => isRelayOpaqueId text = true) (member (ascii "blobId") metadata))
  let extensionKeyId ← orRefuse malformed (readTextIf
    (fun text => 16 ≤ text.length ∧ text.length ≤ 256) (member (ascii "extensionKeyId") metadata))
  let receiptId ← orRefuse malformed
    (readTextIf (fun text => isReceiptId text = true) (member (ascii "receiptId") metadata))
  let receiptSchemaVersion ← orRefuse malformed (readTextIf
    (fun text => isSchemaVersionText text = true) (member (ascii "receiptSchemaVersion") metadata))
  let ciphertext ← decodeBase64Url (member (ascii "ciphertext") value) "$.ciphertext"
  orRefuse "The encrypted receipt ciphertext is truncated or exceeds the 1 MiB limit."
    (ensure (16 ≤ ciphertext.2.length ∧ ciphertext.2.length ≤ MAX_ENCRYPTED_CIPHERTEXT_BYTES))
  let iv ← decodeBase64Url (member (ascii "iv") value) "$.iv"
  orRefuse "The encrypted receipt IV must contain exactly 96 bits." (ensure (iv.2.length = 12))
  return ⟨⟨blobId, extensionKeyId, receiptId, receiptSchemaVersion⟩, ciphertext.1, iv.1⟩

theorem orRefuse_eq_ok {α : Type} {publicMessage : String} {x : Option α} {a : α} :
    orRefuse publicMessage x = .ok a ↔ x = some a := by
  rcases x with - | b
  · exact ⟨nofun, nofun⟩
  · exact ⟨fun h => congrArg _ (Except.ok.inj h), fun h => congrArg _ (Option.some.inj h)⟩

/-- The texts that are decoded are those of bytes, as the extension's are. -/
theorem decodeBase64Url_eq_ok {value : JsValue} {path : String} {text : Text}
    {bytes : List UInt8} :
    decodeBase64Url value path = .ok (text, bytes) ↔
      value = .string text ∧ bytes ≠ [] ∧ text = bytesToBase64Url bytes := by
  simp only [decodeBase64Url, Transaction.bind_eq_ok, orRefuse_eq_ok, readTextIf_eq_some,
    ensure_eq_some]
  constructor
  · rintro ⟨_, ⟨hvalue, hpattern⟩, _, hcanonical, h⟩
    obtain ⟨rfl, rfl⟩ := Prod.mk.inj (Except.ok.inj h)
    refine ⟨hvalue, ?_, ?_⟩
    · intro hnil
      rw [hnil] at hcanonical
      rw [← hcanonical] at hpattern
      cases hpattern
    · rw [bytesToBase64Url_eq, hcanonical]
  · rintro ⟨hvalue, hne, rfl⟩
    have hback := base64UrlBytes_bytesToBase64Url bytes
    refine ⟨bytesToBase64Url bytes, ⟨hvalue, isBase64Url_bytesToBase64Url hne⟩, (), ?_, ?_⟩
    · rw [hback, bytesToBase64Url_eq]
    · exact congrArg (fun bytes' => Except.ok (bytesToBase64Url bytes, bytes')) hback

end Validation

/-! ### The values of the relay's store -/

theorem member_ofMembers (key : Text) (members : List (Text × Json)) :
    member key (JsValue.ofMembers members) =
      (Json.member key members).elim .undefined JsValue.ofJson := by
  induction members with
  | nil => rfl
  | cons m rest ih =>
    obtain ⟨k, v⟩ := m
    rw [JsValue.ofMembers, member, Json.member]
    split
    · rfl
    · exact ih

theorem hasOwn_ofMembers (key : Text) (members : List (Text × Json)) :
    hasOwn key (JsValue.ofMembers members) = (Json.member key members).isSome := by
  induction members with
  | nil => rfl
  | cons m rest ih =>
    obtain ⟨k, v⟩ := m
    rw [JsValue.ofMembers, Json.member, hasOwn, List.any_cons]
    split
    · next hkey => simp [hkey]
    · next hkey =>
      rw [← ih, hasOwn]
      simp [hkey]

theorem stringMember_eq_some {key : String} {members : List (Text × Json)} {text : Text} :
    Relay.stringMember key members = some text ↔
      member (ascii key) (JsValue.ofMembers members) = .string text := by
  rw [member_ofMembers, Relay.stringMember]
  rcases Json.member (ascii key) members with - | j
  · exact ⟨nofun, nofun⟩
  · rcases j with - | b | n | t | items | members <;>
      simp [Option.elim_some, JsValue.ofJson]

theorem numberMember_eq_some {key : String} {members : List (Text × Json)} {n : Int} :
    Relay.numberMember key members = some n ↔
      member (ascii key) (JsValue.ofMembers members) = .number (.integer n) := by
  rw [member_ofMembers, Relay.numberMember]
  rcases Json.member (ascii key) members with - | j
  · exact ⟨nofun, nofun⟩
  · rcases j with - | b | n | t | items | members <;>
      simp [Option.elim_some, JsValue.ofJson]

theorem objectMember_eq_some {key : String} {members : List (Text × Json)}
    {value : List (Text × JsValue)} :
    (∃ inner, Relay.objectMember key members = some inner ∧ JsValue.ofMembers inner = value) ↔
      member (ascii key) (JsValue.ofMembers members) = .object value := by
  rw [member_ofMembers, Relay.objectMember]
  rcases Json.member (ascii key) members with - | j
  · exact ⟨nofun, nofun⟩
  · rcases j with - | b | n | t | items | inner <;>
      simp [Option.elim_some, JsValue.ofJson]

theorem hasExactKeys_ofMembers (members : List (Text × Json)) (keys : List String) :
    Validation.hasExactKeys (JsValue.ofMembers members) keys =
      Relay.hasExactKeys members (keys.map ascii) := by
  rw [Validation.hasExactKeys, Relay.hasExactKeys, List.all_map, JsValue.ofMembers_eq,
    List.all_map]
  congr 2
  funext key
  rw [← JsValue.ofMembers_eq, hasOwn_ofMembers]
  rfl

/-- What the relay's store reads an envelope from. -/
theorem parse_eq_ok {j : Json} {e : Relay.EncryptedReceiptEnvelope} :
    Relay.parseEncryptedReceiptEnvelope j = .ok e ↔ ∃ members metadata, j = .object members ∧
      Relay.hasExactKeys members (["authenticatedMetadata", "ciphertext", "iv"].map ascii) = true ∧
      Relay.objectMember "authenticatedMetadata" members = some metadata ∧
      Relay.hasFixedMetadata metadata = true ∧
      Relay.stringMember "blobId" metadata = some e.blobId ∧
      Relay.stringMember "extensionKeyId" metadata = some e.extensionKeyId ∧
      Relay.stringMember "receiptId" metadata = some e.receiptId ∧
      Relay.stringMember "receiptSchemaVersion" metadata = some e.receiptSchemaVersion ∧
      Relay.stringMember "ciphertext" members = some e.ciphertext ∧
      Relay.stringMember "iv" members = some e.iv := by
  constructor
  · intro h
    unfold Relay.parseEncryptedReceiptEnvelope at h
    rcases j with - | b | n | t | items | members
    · cases h
    · cases h
    · cases h
    · cases h
    · cases h
    dsimp only at h
    split_ifs at h with hkeys
    · cases h
    rcases hmetadata : Relay.objectMember "authenticatedMetadata" members with - | metadata
    · rw [hmetadata] at h
      cases h
    rw [hmetadata] at h
    dsimp only at h
    rcases hblobId : Relay.stringMember "blobId" metadata with - | blobId
    · rw [hblobId] at h
      cases h
    rw [hblobId] at h
    dsimp only at h
    rcases hkeyId : Relay.stringMember "extensionKeyId" metadata with - | keyId
    · rw [hkeyId] at h
      cases h
    rw [hkeyId] at h
    dsimp only at h
    rcases hreceiptId : Relay.stringMember "receiptId" metadata with - | receiptId
    · rw [hreceiptId] at h
      cases h
    rw [hreceiptId] at h
    dsimp only at h
    rcases hschema : Relay.stringMember "receiptSchemaVersion" metadata with - | schemaVersion
    · rw [hschema] at h
      cases h
    rw [hschema] at h
    dsimp only at h
    split_ifs at h with hmalformed
    obtain ⟨ciphertext, hciphertext, h⟩ := Transaction.bind_eq_ok.mp h
    split_ifs at h with hsize
    obtain ⟨iv, hiv, h⟩ := Transaction.bind_eq_ok.mp h
    split_ifs at h with hnonce
    obtain rfl := Except.ok.inj h
    have hdecoded : ∀ {value : Option Text} {path : String} {text},
        Relay.decodeBase64Url value path = .ok text → value = some text.1 := by
      intro value path text h
      unfold Relay.decodeBase64Url at h
      split at h
      · cases h
      · split_ifs at h
        obtain rfl := Except.ok.inj h
        rfl
    rw [Bool.not_eq_false] at hkeys
    exact ⟨members, metadata, rfl, hkeys, hmetadata, hmalformed.1, hblobId, hkeyId, hreceiptId,
      hschema, hdecoded hciphertext, hdecoded hiv⟩
  · rintro ⟨members, metadata, rfl, hkeys, hmetadata, hfixed, hblobId, hkeyId, hreceiptId, hschema,
      hciphertext, hiv⟩
    have hciphertextBytes := Relay.decodeBase64Url_ok e.ciphertext_pattern e.ciphertext_canonical
      "$.ciphertext"
    have hivBytes := Relay.decodeBase64Url_ok e.iv_pattern e.iv_canonical "$.iv"
    unfold Relay.parseEncryptedReceiptEnvelope
    dsimp only
    rw [if_neg (show ¬Relay.hasExactKeys members [ascii "authenticatedMetadata",
      ascii "ciphertext", ascii "iv"] = false from fun h => by
        rw [show Relay.hasExactKeys members [ascii "authenticatedMetadata", ascii "ciphertext",
          ascii "iv"] = true from hkeys] at h
        cases h), hmetadata]
    dsimp only
    rw [hblobId]
    dsimp only
    rw [hkeyId]
    dsimp only
    rw [hreceiptId]
    dsimp only
    rw [hschema, hciphertext, hiv]
    refine (dif_pos ⟨hfixed, e.blobId_opaque, e.extensionKeyId_length, e.receiptId_pattern,
      e.receiptSchemaVersion_pattern⟩).trans ?_
    refine Transaction.bind_eq_ok.mpr ⟨_, hciphertextBytes, ?_⟩
    refine (dif_pos e.ciphertext_size).trans ?_
    refine Transaction.bind_eq_ok.mpr ⟨_, hivBytes, ?_⟩
    exact dif_pos e.iv_size

/-- The fields of an envelope that the relay's store has accepted. -/
def fieldsOf (e : Relay.EncryptedReceiptEnvelope) : EncryptedReceiptEnvelope :=
  ⟨⟨e.blobId, e.extensionKeyId, e.receiptId, e.receiptSchemaVersion⟩, e.ciphertext, e.iv⟩

/-- **Of JSON with integers** the validator accepts what the store's does. -/
theorem validate_ofJson {j : Json} {x : EncryptedReceiptEnvelope} :
    Validation.parseEncryptedReceiptEnvelope (JsValue.ofJson j) = .ok x ↔
      ∃ e, Relay.parseEncryptedReceiptEnvelope j = .ok e ∧ fieldsOf e = x := by
  simp only [Validation.parseEncryptedReceiptEnvelope, Transaction.bind_eq_ok,
    Validation.orRefuse_eq_ok, accept_asRecord, ensure_eq_some, readLiteral_eq_some,
    readInteger_eq_some, readTextIf_eq_some, parse_eq_ok]
  constructor
  · rintro ⟨value, hvalue, _, hkeys, metadata, hmetadata, _, hmetadataKeys, _, halgorithm, _,
      hformat, _, hversion, _, hkeyVersion, blobId, ⟨hblobId, hopaque⟩, keyId, ⟨hkeyId, hlength⟩,
      receiptId, ⟨hreceiptId, hreceipt⟩, schemaVersion, ⟨hschemaVersion, hschema⟩,
      ⟨ciphertext, bytes⟩, hciphertext, _, hsize, ⟨iv, nonce⟩, hiv, _, hnonce, h⟩
    obtain rfl := Except.ok.inj h
    obtain ⟨hciphertext, hne, rfl⟩ := Validation.decodeBase64Url_eq_ok.mp hciphertext
    obtain ⟨hiv, hne', rfl⟩ := Validation.decodeBase64Url_eq_ok.mp hiv
    rcases j with - | b | n | t | items | members
    · cases hvalue
    · cases hvalue
    · cases hvalue
    · cases hvalue
    · cases hvalue
    obtain rfl := JsValue.object.inj hvalue
    obtain ⟨inner, hinner, rfl⟩ := objectMember_eq_some.mpr hmetadata
    have hback : ∀ bytes, encodeBase64Url (base64UrlBytes (bytesToBase64Url bytes)) =
        bytesToBase64Url bytes := by
      intro bytes
      rw [base64UrlBytes_bytesToBase64Url, bytesToBase64Url_eq]
    refine ⟨⟨blobId, keyId, receiptId, schemaVersion, bytesToBase64Url bytes,
      bytesToBase64Url nonce, hopaque, hlength, hreceipt, hschema,
      isBase64Url_bytesToBase64Url hne, hback bytes, ?_, isBase64Url_bytesToBase64Url hne',
      hback nonce, ?_⟩, ⟨members, inner, rfl, ?_, hinner, ?_, stringMember_eq_some.mpr hblobId, stringMember_eq_some.mpr hkeyId,
      stringMember_eq_some.mpr hreceiptId, stringMember_eq_some.mpr hschemaVersion,
      stringMember_eq_some.mpr hciphertext, stringMember_eq_some.mpr hiv⟩, rfl⟩
    · rw [base64UrlBytes_bytesToBase64Url]
      exact hsize
    · rw [base64UrlBytes_bytesToBase64Url]
      exact hnonce
    · rw [← hasExactKeys_ofMembers]
      exact hkeys
    · rw [hasExactKeys_ofMembers] at hmetadataKeys
      simp only [Relay.hasFixedMetadata, Bool.and_eq_true, decide_eq_true_eq, stringMember_eq_some,
        numberMember_eq_some]
      exact ⟨⟨⟨⟨hmetadataKeys, halgorithm⟩, hformat⟩, hversion⟩, hkeyVersion⟩
  · rintro ⟨e, ⟨members, inner, rfl, hkeys, hinner, hfixed, hblobId, hkeyId, hreceiptId, hschema,
      hciphertext, hiv⟩, rfl⟩
    simp only [Relay.hasFixedMetadata, Bool.and_eq_true, decide_eq_true_eq, stringMember_eq_some,
      numberMember_eq_some] at hfixed
    obtain ⟨⟨⟨⟨hmetadataKeys, halgorithm⟩, hformat⟩, hversion⟩, hkeyVersion⟩ := hfixed
    have hdecode : ∀ {v : JsValue} {path : String} {text : Text}, v = .string text →
        isBase64Url text = true → encodeBase64Url (base64UrlBytes text) = text →
        Validation.decodeBase64Url v path = .ok (text, base64UrlBytes text) := by
      intro v path text hv hpattern hcanonical
      refine Validation.decodeBase64Url_eq_ok.mpr ⟨hv, fun hnil => ?_, ?_⟩
      · rw [hnil] at hcanonical
        rw [← hcanonical] at hpattern
        cases hpattern
      · rw [bytesToBase64Url_eq, hcanonical]
    refine ⟨_, rfl, (), ?_, _, objectMember_eq_some.mp ⟨inner, hinner, rfl⟩, (), ?_, (),
      halgorithm, (), hformat, (), hversion, (), hkeyVersion, e.blobId,
      ⟨stringMember_eq_some.mp hblobId, e.blobId_opaque⟩, e.extensionKeyId,
      ⟨stringMember_eq_some.mp hkeyId, e.extensionKeyId_length⟩, e.receiptId,
      ⟨stringMember_eq_some.mp hreceiptId, e.receiptId_pattern⟩, e.receiptSchemaVersion,
      ⟨stringMember_eq_some.mp hschema, e.receiptSchemaVersion_pattern⟩, _,
      hdecode (stringMember_eq_some.mp hciphertext) e.ciphertext_pattern e.ciphertext_canonical,
      (), e.ciphertext_size, _,
      hdecode (stringMember_eq_some.mp hiv) e.iv_pattern e.iv_canonical, (), e.iv_size, rfl⟩
    · rw [hasExactKeys_ofMembers]
      exact hkeys
    · rw [hasExactKeys_ofMembers]
      exact hmetadataKeys

/-! ### Agreement -/

/-- Of a value that has all of the keys, and none twice, both ask for the same. -/
theorem hasExactKeys_agrees {value : List (Text × JsValue)} {keys : List String}
    (hne : keys ≠ []) (hnodup : (keys.map ascii).Nodup) (hvalue : (value.map (·.1)).Nodup) :
    Validation.hasExactKeys value keys = true ↔
      (∀ key ∈ keys, hasOwn (ascii key) value = true) ∧ hasExactKeys value keys = true := by
  rw [Validation.hasExactKeys, Bool.and_eq_true, List.all_eq_true, List.all_eq_true]
  refine and_congr_right fun hthere => ⟨fun honly => ?_, fun hkeys m hm => ?_⟩
  · have hperm : (value.map (·.1)).Perm (keys.map ascii) := by
      refine (List.perm_ext_iff_of_nodup hvalue hnodup).mpr fun text =>
        ⟨fun htext => ?_, fun htext => ?_⟩
      · obtain ⟨m, hm, rfl⟩ := List.mem_map.mp htext
        exact List.contains_iff_mem.mp (honly m hm)
      · obtain ⟨key, hkey, rfl⟩ := List.mem_map.mp htext
        obtain ⟨m, hm, hname⟩ := hasOwn_iff.mp (hthere key hkey)
        exact List.mem_map.mpr ⟨m, hm, hname⟩
    rw [hasExactKeys, decide_eq_true_eq, sortBy_eq_of_perm hperm]
  · exact List.contains_iff_mem.mpr
      ((keys_perm_of_hasExactKeys hne hnodup hthere hkeys).mem_iff.mp (List.mem_map_of_mem hm))

/-- The two patterns of an opaque identifier are the same. -/
theorem isRelayOpaqueId_eq (text : Text) : isRelayOpaqueId text = isOpaqueId text := by
  have hunit : ∀ u : UInt16, (Relay.sextet u).isSome = (isAlphanumeric u || u = 95 || u = 45) := by
    intro u
    rw [Bool.eq_iff_iff]
    simp only [Relay.sextet, isAlphanumeric, Json.isDigit, Bool.or_eq_true, Bool.and_eq_true,
      decide_eq_true_eq]
    split_ifs <;> simp_all
  rw [isRelayOpaqueId, isOpaqueId, funext hunit]

/-- **What the relay accepts** is what the extension accepts with a key
identifier that is not too long. -/
theorem validate_eq_ok {v : JsValue} (hjson : IsJson v) {x : EncryptedReceiptEnvelope} :
    Validation.parseEncryptedReceiptEnvelope v = .ok x ↔
      parseEncryptedReceiptEnvelope v = .ok x ∧
        x.authenticatedMetadata.extensionKeyId.length ≤ 256 := by
  have hthere : ∀ {key : String} {members : List (Text × JsValue)} {text : Text},
      member (ascii key) members = .string text → hasOwn (ascii key) members = true := by
    intro key members text h
    have hne : member (ascii key) members ≠ .undefined := by
      rw [h]
      exact JsValue.noConfusion
    exact hasOwn_iff.mpr ⟨_, mem_of_member hne, rfl⟩
  have hdistinct : ∀ {value}, v = .object value → (value.map (·.1)).Nodup ∧
      ∀ {metadata}, member (ascii "authenticatedMetadata") value = .object metadata →
        (metadata.map (·.1)).Nodup := by
    rintro value rfl
    refine ⟨hjson.1, fun {metadata} hmetadata => ?_⟩
    have hne : member (ascii "authenticatedMetadata") value ≠ .undefined := by
      rw [hmetadata]
      exact JsValue.noConfusion
    have hinner := JsValue.membersJson_iff.mp hjson.2 _ (mem_of_member hne)
    rw [hmetadata] at hinner
    exact hinner.1
  rw [parseEncryptedReceiptEnvelope_eq_ok]
  simp only [Validation.parseEncryptedReceiptEnvelope, Transaction.bind_eq_ok,
    Validation.orRefuse_eq_ok, accept_asRecord, ensure_eq_some, readLiteral_eq_some,
    readInteger_eq_some, readTextIf_eq_some, isRelayOpaqueId_eq]
  constructor
  · rintro ⟨value, hvalue, _, hkeys, metadata, hmetadata, _, hmetadataKeys, _, halgorithm, _,
      hformat, _, hversion, _, hkeyVersion, blobId, hblobId, keyId, ⟨hkeyId, hshort, hlong⟩,
      receiptId, hreceiptId, schemaVersion, hschemaVersion, ⟨ciphertext, bytes⟩, hciphertext, _,
      hsize, ⟨iv, nonce⟩, hiv, _, hnonce, h⟩
    obtain rfl := Except.ok.inj h
    obtain ⟨hciphertext, -, hbytes⟩ := Validation.decodeBase64Url_eq_ok.mp hciphertext
    obtain ⟨hiv, -, hnonceText⟩ := Validation.decodeBase64Url_eq_ok.mp hiv
    obtain ⟨hnodup, hinner⟩ := hdistinct hvalue
    refine ⟨⟨value, metadata, hvalue, hmetadata, ?_, ?_, hformat, hversion, halgorithm,
      hkeyVersion, ⟨hkeyId, hshort⟩, hschemaVersion, hblobId, hreceiptId,
      ⟨hciphertext, bytes, hbytes, hsize⟩, hiv, nonce, hnonceText, hnonce⟩, hlong⟩
    · exact ((hasExactKeys_agrees (by decide) (by decide) hnodup).mp hkeys).2
    · exact ((hasExactKeys_agrees (by decide) (by decide) (hinner hmetadata)).mp hmetadataKeys).2
  · rintro ⟨⟨value, metadata, hvalue, hmetadata, hkeys, hmetadataKeys, hformat, hversion,
      halgorithm, hkeyVersion, ⟨hkeyId, hshort⟩, hschemaVersion, hblobId, hreceiptId,
      ⟨hciphertext, bytes, hbytes, hsize⟩, hiv, nonce, hnonceText, hnonce⟩, hlong⟩
    obtain ⟨hnodup, hinner⟩ := hdistinct hvalue
    have hnonempty : ∀ {bytes : List UInt8}, 12 ≤ bytes.length → bytes ≠ [] := by
      rintro _ hlength rfl
      exact absurd hlength (by decide)
    refine ⟨value, hvalue, (), ?_, metadata, hmetadata, (), ?_, (), halgorithm, (), hformat, (),
      hversion, (), hkeyVersion, _, hblobId, _, ⟨hkeyId, hshort, hlong⟩, _, hreceiptId, _,
      hschemaVersion, (x.ciphertext, bytes), ?_, (), hsize, (x.iv, nonce), ?_, (), hnonce, rfl⟩
    · refine (hasExactKeys_agrees (by decide) (by decide) hnodup).mpr ⟨?_, hkeys⟩
      have hne : member (ascii "authenticatedMetadata") value ≠ .undefined := by
        rw [hmetadata]
        exact JsValue.noConfusion
      have hobject : hasOwn (ascii "authenticatedMetadata") value = true :=
        hasOwn_iff.mpr ⟨_, mem_of_member hne, rfl⟩
      simp only [List.forall_mem_cons, List.not_mem_nil, IsEmpty.forall_iff, implies_true, and_true]
      exact ⟨hobject, hthere hciphertext, hthere hiv⟩
    · refine (hasExactKeys_agrees (by decide) (by decide) (hinner hmetadata)).mpr
        ⟨?_, hmetadataKeys⟩
      have hne : member (ascii "keyVersion") metadata ≠ .undefined := by
        rw [hkeyVersion]
        exact JsValue.noConfusion
      have hnumber : hasOwn (ascii "keyVersion") metadata = true :=
        hasOwn_iff.mpr ⟨_, mem_of_member hne, rfl⟩
      simp only [List.forall_mem_cons, List.not_mem_nil, IsEmpty.forall_iff, implies_true, and_true]
      exact ⟨hthere halgorithm, hthere hblobId.1, hthere hkeyId, hthere hformat, hnumber,
        hthere hreceiptId.1, hthere hschemaVersion.1, hthere hversion⟩
    · exact Validation.decodeBase64Url_eq_ok.mpr ⟨hciphertext, hnonempty (by omega), hbytes⟩
    · exact Validation.decodeBase64Url_eq_ok.mpr ⟨hiv, hnonempty (by omega), hnonceText⟩

/-- The fields of an envelope are those of a value. -/
structure EncryptedReceiptEnvelope.IsOf (x : EncryptedReceiptEnvelope) (v : JsValue) : Prop where
  fields : ∃ value metadata, v = .object value ∧
    member (ascii "authenticatedMetadata") value = .object metadata ∧
    member (ascii "ciphertext") value = .string x.ciphertext ∧
    member (ascii "iv") value = .string x.iv ∧
    member (ascii "blobId") metadata = .string x.authenticatedMetadata.blobId ∧
    member (ascii "extensionKeyId") metadata = .string x.authenticatedMetadata.extensionKeyId ∧
    member (ascii "receiptId") metadata = .string x.authenticatedMetadata.receiptId ∧
    member (ascii "receiptSchemaVersion") metadata =
      .string x.authenticatedMetadata.receiptSchemaVersion

/-- **The two validators agree** on every JSON value whose key identifier is not
too long, and return its fields. -/
theorem parseEncryptedReceiptEnvelope_agrees {v : JsValue} (hjson : IsJson v)
    (hkeyId : ∀ value metadata keyId, v = .object value →
      member (ascii "authenticatedMetadata") value = .object metadata →
      member (ascii "extensionKeyId") metadata = .string keyId → keyId.length ≤ 256)
    (x : EncryptedReceiptEnvelope) :
    (parseEncryptedReceiptEnvelope v = .ok x ↔
        Validation.parseEncryptedReceiptEnvelope v = .ok x) ∧
      (parseEncryptedReceiptEnvelope v = .ok x → x.IsOf v) := by
  have hof : parseEncryptedReceiptEnvelope v = .ok x → x.IsOf v := by
    intro h
    obtain ⟨value, metadata, hvalue, hmetadata, -, -, -, -, -, -, hkeyId, hschema, hblobId,
      hreceiptId, hciphertext, hiv⟩ := parseEncryptedReceiptEnvelope_eq_ok.mp h
    exact ⟨value, metadata, hvalue, hmetadata, hciphertext.1, hiv.1, hblobId.1, hkeyId.1,
      hreceiptId.1, hschema.1⟩
  refine ⟨?_, hof⟩
  rw [validate_eq_ok hjson, iff_self_and]
  intro h
  obtain ⟨value, metadata, hvalue, hmetadata, -, -, -, hfound, -⟩ := (hof h).fields
  exact hkeyId value metadata _ hvalue hmetadata hfound

/-- An envelope of sixteen bytes. -/
def sampleEnvelope : EncryptedReceiptEnvelope :=
  ⟨⟨List.replicate 43 65, List.replicate 16 107, ascii "0x" ++ List.replicate 64 49,
    ascii "1.0"⟩, List.replicate 22 65, List.replicate 16 65⟩

theorem parseEncryptedReceiptEnvelope_agrees_sample :
    Validation.parseEncryptedReceiptEnvelope sampleEnvelope.value = .ok sampleEnvelope ∧
      sampleEnvelope.IsOf sampleEnvelope.value := by
  have hparse : parseEncryptedReceiptEnvelope sampleEnvelope.value = .ok sampleEnvelope := by
    decide +kernel
  have hjson : IsJson sampleEnvelope.value := by
    refine ⟨by decide, ⟨by decide, ?_⟩, trivial, trivial, trivial⟩
    exact ⟨trivial, trivial, trivial, trivial, trivial, trivial, trivial, trivial, trivial⟩
  have hagrees := parseEncryptedReceiptEnvelope_agrees hjson (by
    intro value metadata keyId hvalue hmetadata hkeyId
    obtain rfl := JsValue.object.inj hvalue
    obtain rfl := JsValue.object.inj hmetadata
    obtain rfl := JsValue.string.inj hkeyId
    decide) sampleEnvelope
  exact ⟨hagrees.1.mp hparse, hagrees.2 hparse⟩

end SubmittedIt.Protocol
