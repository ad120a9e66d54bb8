/-
SubmittedIt/RelayClient.lean

The extension's client of the relay (apps/extension/lib/relay-client.ts).

A request is what the extension sends, a response what comes back: none where
the relay was not reached, else a status and a body, of which the client tells
apart the shapes below.  A malformed leaf of a body (a hash, a timestamp, an
identifier, the error of a view) makes it one of shape `other`.
-/
import SubmittedIt.AnchorState
import SubmittedIt.RelayTypes

namespace SubmittedIt.Extension

open ReceiptCore

/-! ### Data -/

/-- The `error` of a `RelayOperationView`. -/
structure RelayViewError where
  code : String
  message : String
  deriving DecidableEq

/-- `RelayOperationView`. -/
structure RelayOperationView where
  blockNumber : Option Nat
  chainId : Nat
  contractAddress : AddressText
  createdAt : Timestamp
  error : Option RelayViewError
  eventHash : HashHex
  receiptId : ReceiptId
  stage : AnchorableStage
  state : Relay.RelayOperationState
  statusToken : OpaqueId
  transactionHash : Option HashHex
  updatedAt : Timestamp
  deriving DecidableEq

/-- `UploadedRelayBlob`, as far as it is read. -/
structure UploadedRelayBlob where
  blobId : OpaqueId
  byteLength : Nat
  createdAt : Timestamp
  receiptId : ReceiptId
  deriving DecidableEq

/-- `RelayClientError`; its status is null where no response was read. -/
structure RelayClientError where
  code : String
  message : String
  status : Option Nat
  recoverable : Bool
  deriving DecidableEq

/-- What `requestRelayAnchor` sends. -/
structure RelayAnchorRequest where
  blobId : Option OpaqueId
  event : LifecycleEventEnvelope
  extensionPublicKey : PublicKeyDescriptor
  idempotencyKey : HashHex
  deriving DecidableEq

/-- A request of the relay. -/
inductive RelayRequest (P : StoragePlatform)
  /-- `POST /api/relay/blobs`. -/
  | blobs (envelope : EncryptedReceiptEnvelope P)
  /-- `POST /api/relay/events`. -/
  | events (request : RelayAnchorRequest)
  /-- `GET /api/relay/operations/…`. -/
  | operations (statusToken : OpaqueId)

/-- The body of a response, by its shape. -/
inductive RelayBody
  | oversized
  | malformed
  | other
  | error (code message : String)
  /-- A blob, and the blob that the retrieval URL names. -/
  | blob (blob : UploadedRelayBlob) (retrieval : OpaqueId)
  /-- An operation, and the operation that the status URL names. -/
  | accepted (operation : RelayOperationView) (status : OpaqueId)
  | operation (operation : RelayOperationView)
  deriving DecidableEq

/-- A response of the relay. -/
structure RelayResponse where
  status : Nat
  body : RelayBody
  deriving DecidableEq

/-! ### Reading a response -/

/-- `Response.ok`. -/
def RelayResponse.ok (response : RelayResponse) : Bool :=
  200 ≤ response.status && response.status ≤ 299

def recoverableStatus (status : Nat) : Bool :=
  status = 408 || status = 425 || status = 429 || 500 ≤ status

/-- `parseErrorBody`: whether the code and the message are accepted. -/
def parseErrorBody (code message : String) : Bool :=
  isErrorCode code && 1 ≤ utf16Length message && utf16Length message ≤ 500

/-- `relayFetch`, from the response on. -/
def relayFetch : Option RelayResponse → Except RelayClientError RelayBody
  | none => .error ⟨"RELAY_UNAVAILABLE",
      "The relay could not be reached and no chain result is claimed.", none, true⟩
  | some response =>
    match response.body with
    | .oversized => .error ⟨"MALFORMED_RELAY_RESPONSE",
        "The relay response exceeded the safe response-size limit.", some response.status, true⟩
    | .malformed => .error ⟨"MALFORMED_RELAY_RESPONSE", "The relay returned malformed JSON.",
        some response.status, true⟩
    | .error code message =>
      if response.ok then .ok (.error code message)
      else if parseErrorBody code message then
        .error ⟨code, message, some response.status, recoverableStatus response.status⟩
      else .error ⟨"RELAY_UNAVAILABLE",
        "The relay is unavailable and no chain result is claimed.", some response.status,
        recoverableStatus response.status⟩
    | body =>
      if response.ok then .ok body
      else .error ⟨"RELAY_UNAVAILABLE",
        "The relay is unavailable and no chain result is claimed.", some response.status,
        recoverableStatus response.status⟩

/-- `uploadEncryptedReceipt`, from the body on. -/
def uploadEncryptedReceipt (receiptId : ReceiptId) :
    RelayBody → Except RelayClientError UploadedRelayBlob
  | .blob blob retrieval =>
    if blob.byteLength = 0 ∨ blob.receiptId ≠ receiptId ∨ retrieval ≠ blob.blobId then
      .error ⟨"MALFORMED_RELAY_RESPONSE",
        "The relay returned mismatched encrypted-proof metadata.", none, true⟩
    else .ok blob
  | _ => .error ⟨"MALFORMED_RELAY_RESPONSE",
      "The relay returned malformed encrypted-proof metadata.", none, true⟩

/-- `requestRelayAnchor`, from the body on. -/
def requestRelayAnchor (event : LifecycleEventEnvelope) :
    RelayBody → Except RelayClientError RelayOperationView
  | .accepted operation status =>
    if operation.eventHash ≠ event.eventHash ∨ operation.receiptId ≠ event.core.receiptId
        ∨ operation.stage.toEventStage ≠ event.core.stage ∨ status ≠ operation.statusToken then
      .error ⟨"MALFORMED_RELAY_RESPONSE",
        "The relay operation does not match the signed event request.", none, false⟩
    else .ok operation
  | _ => .error ⟨"MALFORMED_RELAY_RESPONSE",
      "The relay returned malformed operation metadata.", none, true⟩

/-- `readRelayOperation`, from the body on. -/
def readRelayOperation (statusToken : OpaqueId) :
    RelayBody → Except RelayClientError RelayOperationView
  | .operation operation =>
    if operation.statusToken ≠ statusToken then
      .error ⟨"MALFORMED_RELAY_RESPONSE",
        "The relay returned a different operation identifier.", none, false⟩
    else .ok operation
  | _ => .error ⟨"MALFORMED_RELAY_RESPONSE",
      "The relay returned malformed operation metadata.", none, true⟩

/-! ### What an accepted response was -/

/-- The operation a response carries. -/
def RelayBody.view : RelayBody → Option RelayOperationView
  | .accepted view _ | .operation view => some view
  | .oversized | .malformed | .other | .error .. | .blob .. => none

theorem relayFetch_ok {outcome : Option RelayResponse} {body : RelayBody}
    (h : relayFetch outcome = .ok body) : ∃ status, outcome = some ⟨status, body⟩ := by
  unfold relayFetch at h
  split at h
  · cases h
  rename_i response
  obtain ⟨status, b⟩ := response
  cases b with
  | oversized | malformed => cases h
  | error code message =>
    dsimp only at h
    split at h
    · cases h
      exact ⟨status, rfl⟩
    · split at h <;> cases h
  | other | blob | accepted | operation =>
    dsimp only at h
    split at h
    · cases h
      exact ⟨status, rfl⟩
    · cases h

theorem requestRelayAnchor_ok {event : LifecycleEventEnvelope} {body : RelayBody}
    {operation : RelayOperationView} (h : requestRelayAnchor event body = .ok operation) :
    body = .accepted operation operation.statusToken ∧ operation.eventHash = event.eventHash ∧
      operation.receiptId = event.core.receiptId ∧
      operation.stage.toEventStage = event.core.stage := by
  cases body with
  | accepted view status =>
    simp only [requestRelayAnchor] at h
    split at h
    · cases h
    · rename_i hmatch
      simp only [not_or, not_not] at hmatch
      cases h
      obtain ⟨hevent, hreceipt, hstage, rfl⟩ := hmatch
      exact ⟨rfl, hevent, hreceipt, hstage⟩
  | _ => cases h

end SubmittedIt.Extension
