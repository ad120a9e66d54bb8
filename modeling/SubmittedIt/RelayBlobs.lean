/-
SubmittedIt/RelayBlobs.lean

The encrypted blob service (apps/web/lib/relay/blob-service.ts), the envelope
validator it uses (validation.ts) and its table (`relay_encrypted_blobs` of
0002_relay_foundation.sql, with the constraint of
0003_relay_blob_idempotency.sql).

An envelope that the validator accepts is a value of
`EncryptedReceiptEnvelope`, whose fields carry the checks; the metadata fields
with one legal value are left out of it and put back by `toJson`.  The table
keeps what `jsonb` makes of that: it refuses the code unit 0 and unpaired
surrogates, and puts the members of objects in its own order.  The table's
unique constraints are fields of `BlobDb`.

A statement may fail before or after it is executed; `execute` says what an
operation does for a given answer of the environment.
-/
import SubmittedIt.Json
import SubmittedIt.RelayService

namespace SubmittedIt.Relay

/-! ### Errors -/

/-- `RelayErrorCode`, the codes of the blob service. -/
inductive BlobErrorCode
  | payloadTooLarge
  | invalidEncryptedEnvelope
  | encryptedBlobConflict
  deriving DecidableEq, Repr

/-- What an awaited operation of the blob service can throw. -/
inductive BlobError
  /-- A `RelayServiceError`. -/
  | service (code : BlobErrorCode) (publicMessage : String) (status : Nat)
  /-- SQLSTATE 23505. -/
  | uniqueViolation
  /-- The database is unreachable, or refuses the statement otherwise. -/
  | database
  | internal (message : String)
  deriving DecidableEq

def invalidEnvelope (publicMessage : String) : BlobError :=
  .service .invalidEncryptedEnvelope publicMessage 400

/-! ### validation.ts -/

/-- `MAX_ENCRYPTED_CIPHERTEXT_BYTES`. -/
def MAX_ENCRYPTED_CIPHERTEXT_BYTES : Nat := 1024 * 1024

/-- `MAX_ENCRYPTED_BLOB_REQUEST_BYTES`. -/
def MAX_ENCRYPTED_BLOB_REQUEST_BYTES : Nat := 1572864

/-- The six bits that a base64url character stands for. -/
def sextet (u : UInt16) : Option Nat :=
  if 65 ≤ u ∧ u ≤ 90 then some (u.toNat - 65)
  else if 97 ≤ u ∧ u ≤ 122 then some (u.toNat - 71)
  else if 48 ≤ u ∧ u ≤ 57 then some (u.toNat + 4)
  else if u = 45 then some 62
  else if u = 95 then some 63
  else none

def sextetText (n : Nat) : UInt16 :=
  if n < 26 then UInt16.ofNat (n + 65)
  else if n < 52 then UInt16.ofNat (n + 71)
  else if n < 62 then UInt16.ofNat (n - 4)
  else if n = 62 then 45
  else 95

/-- `Buffer.from(value, "base64url")`, on the sextets. -/
def decodeSextets : List Nat → List UInt8
  | a :: b :: c :: d :: rest =>
    UInt8.ofNat (a * 4 + b / 16) :: UInt8.ofNat (b % 16 * 16 + c / 4) ::
      UInt8.ofNat (c % 4 * 64 + d) :: decodeSextets rest
  | [a, b, c] => [UInt8.ofNat (a * 4 + b / 16), UInt8.ofNat (b % 16 * 16 + c / 4)]
  | [a, b] => [UInt8.ofNat (a * 4 + b / 16)]
  | _ => []

/-- `decoded.toString("base64url")`. -/
def encodeBase64Url : List UInt8 → Text
  | x :: y :: z :: rest =>
    sextetText (x.toNat / 4) :: sextetText (x.toNat % 4 * 16 + y.toNat / 16) ::
      sextetText (y.toNat % 16 * 4 + z.toNat / 64) :: sextetText (z.toNat % 64) ::
        encodeBase64Url rest
  | [x, y] =>
    [sextetText (x.toNat / 4), sextetText (x.toNat % 4 * 16 + y.toNat / 16),
      sextetText (y.toNat % 16 * 4)]
  | [x] => [sextetText (x.toNat / 4), sextetText (x.toNat % 4 * 16)]
  | [] => []

/-- `BASE64URL_PATTERN`. -/
def isBase64Url (value : Text) : Bool := value ≠ [] && value.all fun u => (sextet u).isSome

def base64UrlBytes (value : Text) : List UInt8 := decodeSextets (value.filterMap sextet)

/-- `OPAQUE_ID_PATTERN`. -/
def isRelayOpaqueId (value : Text) : Bool :=
  value.length = 43 && value.all fun u => (sextet u).isSome

/-- `RECEIPT_ID_PATTERN`. -/
def isReceiptId : Text → Bool
  | 48 :: 120 :: digits =>
    digits.length = 64 && digits.all fun u => Json.isDigit u || (97 ≤ u && u ≤ 102)
  | _ => false

/-- `/^\d+\.\d+$/u`. -/
def isSchemaVersionText (value : Text) : Bool :=
  let minor := value.dropWhile Json.isDigit
  value.takeWhile Json.isDigit ≠ [] && minor.head? = some 46 && minor.tail ≠ [] &&
    minor.tail.all Json.isDigit

/-- `EncryptedReceiptEnvelope`, as the validator accepts it. -/
structure EncryptedReceiptEnvelope where
  blobId : Text
  extensionKeyId : Text
  receiptId : Text
  receiptSchemaVersion : Text
  ciphertext : Text
  iv : Text
  blobId_opaque : isRelayOpaqueId blobId = true
  extensionKeyId_length : 16 ≤ extensionKeyId.length ∧ extensionKeyId.length ≤ 256
  receiptId_pattern : isReceiptId receiptId = true
  receiptSchemaVersion_pattern : isSchemaVersionText receiptSchemaVersion = true
  ciphertext_pattern : isBase64Url ciphertext = true
  ciphertext_canonical : encodeBase64Url (base64UrlBytes ciphertext) = ciphertext
  ciphertext_size : 16 ≤ (base64UrlBytes ciphertext).length ∧
    (base64UrlBytes ciphertext).length ≤ MAX_ENCRYPTED_CIPHERTEXT_BYTES
  iv_pattern : isBase64Url iv = true
  iv_canonical : encodeBase64Url (base64UrlBytes iv) = iv
  iv_size : (base64UrlBytes iv).length = 12
  deriving DecidableEq

/-- The JavaScript object of an envelope. -/
def EncryptedReceiptEnvelope.toJson (e : EncryptedReceiptEnvelope) : Json :=
  .object [
    (ascii "authenticatedMetadata", .object [
      (ascii "algorithm", .string (ascii "AES-256-GCM")),
      (ascii "blobId", .string e.blobId),
      (ascii "extensionKeyId", .string e.extensionKeyId),
      (ascii "format", .string (ascii "SUBMITTEDIT_ENCRYPTED_RECEIPT")),
      (ascii "keyVersion", .number 1),
      (ascii "receiptId", .string e.receiptId),
      (ascii "receiptSchemaVersion", .string e.receiptSchemaVersion),
      (ascii "version", .string (ascii "1.0"))]),
    (ascii "ciphertext", .string e.ciphertext),
    (ascii "iv", .string e.iv)]

/-- `hasExactKeys`, without optional keys. -/
def hasExactKeys (value : List (Text × Json)) (required : List Text) : Bool :=
  (required.all fun key => (Json.member key value).isSome) &&
    value.all fun m => required.contains m.1

/-- A property that is a string. -/
def stringMember (key : String) (value : List (Text × Json)) : Option Text :=
  match Json.member (ascii key) value with
  | some (.string text) => some text
  | _ => none

/-- A property that is a number. -/
def numberMember (key : String) (value : List (Text × Json)) : Option Int :=
  match Json.member (ascii key) value with
  | some (.number n) => some n
  | _ => none

/-- A property that is an object. -/
def objectMember (key : String) (value : List (Text × Json)) : Option (List (Text × Json)) :=
  match Json.member (ascii key) value with
  | some (.object members) => some members
  | _ => none

/-- What `decodeBase64Url` accepts. -/
def decodeBase64Url (value : Option Text) (path : String) :
    Except BlobError { text : Text // isBase64Url text = true ∧
      encodeBase64Url (base64UrlBytes text) = text } :=
  match value with
  | none => .error (invalidEnvelope (path ++ " must be unpadded base64url."))
  | some text =>
    if hpattern : isBase64Url text = true then
      if hcanonical : encodeBase64Url (base64UrlBytes text) = text then
        .ok ⟨text, hpattern, hcanonical⟩
      else .error (invalidEnvelope (path ++ " must use canonical base64url encoding."))
    else .error (invalidEnvelope (path ++ " must be unpadded base64url."))

/-- The metadata fields whose value is fixed. -/
def hasFixedMetadata (metadata : List (Text × Json)) : Bool :=
  hasExactKeys metadata [ascii "algorithm", ascii "blobId", ascii "extensionKeyId",
      ascii "format", ascii "keyVersion", ascii "receiptId", ascii "receiptSchemaVersion",
      ascii "version"] &&
    stringMember "algorithm" metadata = some (ascii "AES-256-GCM") &&
    stringMember "format" metadata = some (ascii "SUBMITTEDIT_ENCRYPTED_RECEIPT") &&
    stringMember "version" metadata = some (ascii "1.0") &&
    numberMember "keyVersion" metadata = some 1

/-- `parseEncryptedReceiptEnvelope`. -/
def parseEncryptedReceiptEnvelope (input : Json) : Except BlobError EncryptedReceiptEnvelope := do
  let .object members := input
    | throw (invalidEnvelope "The encrypted receipt envelope contains unsupported fields.")
  if hasExactKeys members [ascii "authenticatedMetadata", ascii "ciphertext", ascii "iv"] = false
  then throw (invalidEnvelope "The encrypted receipt envelope contains unsupported fields.")
  let malformed := invalidEnvelope "The encrypted receipt metadata is malformed or unsupported."
  let some metadata := objectMember "authenticatedMetadata" members | throw malformed
  let some blobId := stringMember "blobId" metadata | throw malformed
  let some extensionKeyId := stringMember "extensionKeyId" metadata | throw malformed
  let some receiptId := stringMember "receiptId" metadata | throw malformed
  let some receiptSchemaVersion := stringMember "receiptSchemaVersion" metadata | throw malformed
  if hmetadata : hasFixedMetadata metadata = true ∧ isRelayOpaqueId blobId = true ∧
      (16 ≤ extensionKeyId.length ∧ extensionKeyId.length ≤ 256) ∧ isReceiptId receiptId = true ∧
      isSchemaVersionText receiptSchemaVersion = true then
    let ciphertext ← decodeBase64Url (stringMember "ciphertext" members) "$.ciphertext"
    if hciphertext : 16 ≤ (base64UrlBytes ciphertext.1).length ∧
        (base64UrlBytes ciphertext.1).length ≤ MAX_ENCRYPTED_CIPHERTEXT_BYTES then
      let iv ← decodeBase64Url (stringMember "iv" members) "$.iv"
      if hiv : (base64UrlBytes iv.1).length = 12 then
        return {
          blobId, extensionKeyId, receiptId, receiptSchemaVersion
          ciphertext := ciphertext.1
          iv := iv.1
          blobId_opaque := hmetadata.2.1
          extensionKeyId_length := hmetadata.2.2.1
          receiptId_pattern := hmetadata.2.2.2.1
          receiptSchemaVersion_pattern := hmetadata.2.2.2.2
          ciphertext_pattern := ciphertext.2.1
          ciphertext_canonical := ciphertext.2.2
          ciphertext_size := hciphertext
          iv_pattern := iv.2.1
          iv_canonical := iv.2.2
          iv_size := hiv }
      else throw (invalidEnvelope "The encrypted receipt IV must contain exactly 96 bits.")
    else throw (invalidEnvelope
      "The encrypted receipt ciphertext is truncated or exceeds the 1 MiB limit.")
  else throw malformed

/-! ### The table -/

/-- The strings that `jsonb` can hold. -/
def storableText : Text → Bool
  | [] => true
  | [u] => u != 0 && !Json.isHighSurrogate u && !Json.isLowSurrogate u
  | u :: v :: rest =>
    if Json.isHighSurrogate u && Json.isLowSurrogate v then storableText rest
    else u != 0 && !Json.isHighSurrogate u && !Json.isLowSurrogate u && storableText (v :: rest)

mutual

/-- The values that `jsonb` can hold. -/
def storable : Json → Bool
  | .string text => storableText text
  | .array items => storableItems items
  | .object members => storableMembers members
  | _ => true

def storableItems : List Json → Bool
  | [] => true
  | v :: rest => storable v && storableItems rest

def storableMembers : List (Text × Json) → Bool
  | [] => true
  | (k, v) :: rest => storableText k && storable v && storableMembers rest

end

/-- The order of `jsonb` keys: shorter ones first. -/
def jsonbLess (first second : Text) : Bool :=
  first.length < second.length || (first.length = second.length && first < second)

/-- What `jsonb` makes of a value. -/
def jsonb (value : Json) : Json := value.arrange jsonbLess

/-- The values of `retention_state`. -/
inductive RetentionState
  | active
  | deletionPending
  | deleted
  deriving DecidableEq, Repr

/-- A row of `relay_encrypted_blobs`. -/
structure EncryptedBlobRow where
  publicId : Text
  envelopeBlobId : Text
  envelopeVersion : Text
  receiptId : Text
  encryptedEnvelope : Json
  byteLength : Int
  retentionState : RetentionState
  createdAt : Timestamp

/-- The table, with its unique constraints. -/
structure BlobDb where
  rows : List EncryptedBlobRow
  publicId_unique : rows.Pairwise fun r r' => r.publicId ≠ r'.publicId
  envelopeBlobId_unique : rows.Pairwise fun r r' => r.envelopeBlobId ≠ r'.envelopeBlobId

/-- The table as the migrations create it. -/
def BlobDb.empty : BlobDb := ⟨[], .nil, .nil⟩

/-- The `CHECK` constraints of the table. -/
def EncryptedBlobRow.checked (row : EncryptedBlobRow) : Bool :=
  isRelayOpaqueId row.publicId && isRelayOpaqueId row.envelopeBlobId &&
    row.envelopeVersion = ascii "1.0" && isReceiptId row.receiptId &&
    (0 < row.byteLength && row.byteLength ≤ 1572864)

/-- `INSERT INTO relay_encrypted_blobs … RETURNING …`. -/
def BlobDb.insert (db : BlobDb) (row : EncryptedBlobRow) :
    Except BlobError EncryptedBlobRow × BlobDb :=
  if row.checked = false then (.error .database, db)
  else if h : ∀ r ∈ db.rows, r.publicId ≠ row.publicId ∧ r.envelopeBlobId ≠ row.envelopeBlobId then
    (.ok row, {
      rows := db.rows ++ [row]
      publicId_unique := by
        simpa [List.pairwise_append, db.publicId_unique] using fun r hr => (h r hr).1
      envelopeBlobId_unique := by
        simpa [List.pairwise_append, db.envelopeBlobId_unique] using fun r hr => (h r hr).2 })
  else (.error .uniqueViolation, db)

/-- The row under an envelope's blob identifier. -/
def BlobDb.byEnvelopeBlobId (db : BlobDb) (blobId : Text) : Option EncryptedBlobRow :=
  db.rows.find? fun row => row.envelopeBlobId = blobId

/-- `character(n)` values are compared without their trailing blanks. -/
def trimBlanks (text : Text) : Text := (text.reverse.dropWhile (· = 32)).reverse

/-- The active row under a public identifier. -/
def BlobDb.byPublicId (db : BlobDb) (publicId : Text) : Option EncryptedBlobRow :=
  db.rows.find? fun row =>
    trimBlanks row.publicId = trimBlanks publicId && row.retentionState = .active

/-! ### Operations -/

inductive BlobOp
  | randomId
  | selectByEnvelopeBlobId (blobId : Text)
  | insert (publicId : Text) (envelope : EncryptedReceiptEnvelope) (byteLength : Int)
  | selectByPublicId (publicId : Text)

@[reducible] def BlobOp.Result : BlobOp → Type
  | randomId => Text
  | selectByEnvelopeBlobId _ => Option EncryptedBlobRow
  | insert .. => EncryptedBlobRow
  | selectByPublicId _ => Option EncryptedBlobRow

/-- The environment's part in an operation: 32 random bytes in base64url, or
how the statement fared and the database's clock. -/
@[reducible] def BlobOp.Answer : BlobOp → Type
  | randomId => { id : Text // isRelayOpaqueId id = true }
  | _ => DbAnswer

/-- The row that the insert statement names. -/
def EncryptedReceiptEnvelope.row (e : EncryptedReceiptEnvelope) (publicId : Text)
    (byteLength : Int) (now : Timestamp) : EncryptedBlobRow where
  publicId := publicId
  envelopeBlobId := e.blobId
  envelopeVersion := ascii "1.0"
  receiptId := e.receiptId
  encryptedEnvelope := jsonb e.toJson
  byteLength := byteLength
  retentionState := .active
  createdAt := now

/-- A statement under a given outcome of its connection. -/
def underOutcome {α : Type} (outcome : DbOutcome)
    (statement : BlobDb → Except BlobError α × BlobDb) (db : BlobDb) : Except BlobError α × BlobDb :=
  match outcome with
  | .acknowledged => statement db
  | .notSent => (.error .database, db)
  | .lost => (.error .database, (statement db).2)

/-- The insert statement; a value that `jsonb` cannot hold is an error. -/
def BlobDb.insertEnvelope (db : BlobDb) (publicId : Text) (envelope : EncryptedReceiptEnvelope)
    (byteLength : Int) (now : Timestamp) : Except BlobError EncryptedBlobRow × BlobDb :=
  if storable envelope.toJson then db.insert (envelope.row publicId byteLength now)
  else (.error .database, db)

/-- What an operation does to the table, and what it returns, for an answer
of the environment. -/
def executeBlobOp : (o : BlobOp) → o.Answer → BlobDb → Except BlobError o.Result × BlobDb
  | .randomId, id, db => (.ok id.1, db)
  | .selectByEnvelopeBlobId blobId, answer, db =>
    underOutcome answer.outcome (fun db => (.ok (db.byEnvelopeBlobId blobId), db)) db
  | .insert publicId envelope byteLength, answer, db =>
    underOutcome answer.outcome (·.insertEnvelope publicId envelope byteLength answer.now) db
  | .selectByPublicId publicId, answer, db =>
    underOutcome answer.outcome (fun db => (.ok (db.byPublicId publicId), db)) db

/-! ### blob-service.ts -/

abbrev BlobProgram := Prog BlobOp BlobOp.Result BlobError

/-- `StoredEncryptedBlob`. -/
structure StoredEncryptedBlob where
  blobId : Text
  byteLength : Int
  createdAt : Timestamp
  envelope : EncryptedReceiptEnvelope
  deriving DecidableEq

/-- `toStoredBlob`. -/
def toStoredBlob (row : EncryptedBlobRow) : Except BlobError StoredEncryptedBlob := do
  let envelope ← parseEncryptedReceiptEnvelope row.encryptedEnvelope
  return {
    blobId := row.publicId
    byteLength := row.byteLength
    createdAt := row.createdAt
    envelope }

/-- `envelopesEqual`. -/
def envelopesEqual (first second : EncryptedReceiptEnvelope) : Bool :=
  first.toJson.stringify = second.toJson.stringify

def blobConflict : BlobError :=
  .service .encryptedBlobConflict
    "That authenticated encrypted-blob identifier is already bound to different bytes." 409

/-- A stored blob under the envelope's identifier, when it holds what is to be
stored. -/
def matchStored (envelope : EncryptedReceiptEnvelope) (byteLength : Int)
    (existing : StoredEncryptedBlob) : Except BlobError StoredEncryptedBlob :=
  if existing.byteLength ≠ byteLength ∨ envelopesEqual existing.envelope envelope = false then
    .error blobConflict
  else .ok existing

/-- Look up the identifier of an envelope: what is found is compared with what
is to be stored, and where nothing is found `missing` runs. -/
def compareExisting (envelope : EncryptedReceiptEnvelope) (byteLength : Int)
    (missing : BlobProgram StoredEncryptedBlob) : BlobProgram StoredEncryptedBlob := do
  let row : Option EncryptedBlobRow ← .perform (BlobOp.selectByEnvelopeBlobId envelope.blobId)
  match row with
  | some row =>
    let existing ← .ofExcept (toStoredBlob row)
    .ofExcept (matchStored envelope byteLength existing)
  | none => missing

/-- The loop of `store`, with the number of attempts left. -/
def allocate (envelope : EncryptedReceiptEnvelope) (byteLength : Int) :
    Nat → BlobProgram StoredEncryptedBlob
  | 0 => .throw (.internal "Unable to allocate an encrypted blob identifier.")
  | left + 1 => do
    let publicId ← .perform .randomId
    let attempt ← (do
      let row ← .perform (.insert publicId envelope byteLength)
      .ofExcept (toStoredBlob row) : BlobProgram StoredEncryptedBlob).attempt
    match attempt with
    | .ok stored => return stored
    | .error e =>
      if e ≠ .uniqueViolation then .throw e
      else
        compareExisting envelope byteLength
          (if left = 0 then .throw e else allocate envelope byteLength left)

/-- `store`, once the input is validated. -/
def storeEnvelope (envelope : EncryptedReceiptEnvelope) (byteLength : Int) :
    BlobProgram StoredEncryptedBlob :=
  compareExisting envelope byteLength (allocate envelope byteLength 3)

/-- `store`. -/
def store (input : Json) (byteLength : Int) : BlobProgram StoredEncryptedBlob := do
  let envelope ← .ofExcept (parseEncryptedReceiptEnvelope input)
  if byteLength ≤ 0 ∨ byteLength > MAX_ENCRYPTED_BLOB_REQUEST_BYTES then
    .throw (.service .payloadTooLarge
      "The encrypted receipt request exceeds the documented 1572864-byte limit." 413)
  else storeEnvelope envelope byteLength

/-- `get`. -/
def getBlob (blobId : Text) : BlobProgram (Option StoredEncryptedBlob) := do
  let row : Option EncryptedBlobRow ← .perform (BlobOp.selectByPublicId blobId)
  match row with
  | some row =>
    let stored ← .ofExcept (toStoredBlob row)
    return some stored
  | none => return none

end SubmittedIt.Relay
