/-
SubmittedIt/AnchorState.lean

Durable anchor operations (apps/extension/lib/anchor-state.ts).
-/
import SubmittedIt.StorageTypes

namespace SubmittedIt.Extension

open ReceiptCore

def MAX_ANCHOR_OPERATIONS : Nat := 100

/-- `isCount`. -/
def isCount (value : Nat) : Bool := value ≤ 10000

/-- `parseCounters`. -/
def parseCounters (value : AnchorOperationCounters) : Bool :=
  isCount value.polls && isCount value.relayRequests && isCount value.uploads
    && isCount value.verifications

/-- An upper-case letter, then between 1 and 63 upper-case letters, digits and
underscores. -/
def isErrorCode (code : String) : Bool :=
  match code.toList with
  | first :: rest => first.isUpper && 1 ≤ rest.length && rest.length ≤ 63 &&
      rest.all fun c => c.isUpper || c.isDigit || c = '_'
  | [] => false

/-- `parseError`. -/
def parseError (value : AnchorOperationError) : Bool :=
  isErrorCode value.code && 1 ≤ utf16Length value.message && utf16Length value.message ≤ 500

/-- An address as the pattern `ADDRESS` admits it. -/
def isHexAddress : AddressText → Bool
  | .hex .. => true
  | .other _ => false

def isCanonicalRelayBaseUrl : RelayBaseUrl → Bool
  | .canonical _ => true
  | .other _ => false

/-- The number of the registry event an anchorable stage is. -/
def AnchorableStage.eventCount : AnchorableStage → Nat
  | .attempted => 1
  | .siteConfirmed => 2

/-- `parseAnchorOperation`: whether the operation is accepted.  Confirmed is
the state whose four pieces of chain evidence are all present. -/
def parseAnchorOperation (value : AnchorOperation) : Bool :=
  isCanonicalRelayBaseUrl value.relayBaseUrl && 1 ≤ value.chainId && value.chainId ≤ 2 ^ 53 - 1
    && isHexAddress value.contractAddress && value.eventCount = value.stage.eventCount
    && parseCounters value.counters && value.lastError.all parseError
    && decide (value.state = .chainEvidenceConfirmed) =
      (value.transactionHash.isSome && value.blockNumber.isSome && value.anchoredAt.isSome
        && value.anchoredBy.isSome)

/-- The input of `createAnchorOperation`. -/
structure CreateAnchorOperation where
  chainId : Nat
  contractAddress : AddressText
  eventHash : HashHex
  localBlobId : OpaqueId
  now : Timestamp
  receiptId : ReceiptId
  relayBaseUrl : RelayBaseUrl
  stage : AnchorableStage

/-- `createAnchorOperation`. -/
def createAnchorOperation (input : CreateAnchorOperation) : Except StorageError AnchorOperation :=
  let operation : AnchorOperation := {
    anchoredAt := none
    anchoredBy := none
    blockNumber := none
    chainId := input.chainId
    contractAddress := input.contractAddress
    counters := ⟨0, 0, 0, 0⟩
    createdAt := input.now
    eventCount := input.stage.eventCount
    eventHash := input.eventHash
    idempotencyKey := input.eventHash
    lastError := none
    localBlobId := input.localBlobId
    receiptId := input.receiptId
    relayBaseUrl := input.relayBaseUrl
    relayBlobId := none
    stage := input.stage
    state := .savedLocally
    statusToken := none
    transactionHash := none
    updatedAt := input.now }
  if parseAnchorOperation operation then .ok operation
  else .error (.failure "SubmittedIt refused to create an invalid anchor operation.")

/-- `updateAnchorOperation`, on the operation with its update applied. -/
def updateAnchorOperation (next : AnchorOperation) : Except StorageError AnchorOperation :=
  if parseAnchorOperation next then .ok next
  else .error (.failure "SubmittedIt refused an invalid durable anchor-operation update.")

/-- `anchorOperationNeedsRecovery`. -/
def anchorOperationNeedsRecovery (operation : AnchorOperation) : Bool :=
  operation.state ≠ .chainEvidenceConfirmed && operation.state ≠ .finalFailure

/-- `anchorEventsNeedRecovery`. -/
def anchorEventsNeedRecovery (eventHashes : List HashHex) (operations : List AnchorOperation) :
    Bool :=
  eventHashes.any fun eventHash =>
    match operations.find? fun candidate => candidate.eventHash = eventHash with
    | none => true
    | some operation => anchorOperationNeedsRecovery operation

theorem updateAnchorOperation_eq_ok {next operation : AnchorOperation} :
    updateAnchorOperation next = .ok operation ↔
      operation = next ∧ parseAnchorOperation next = true := by
  unfold updateAnchorOperation
  split
  · rename_i hparse
    simp [hparse, eq_comm]
  · rename_i hparse
    simp [hparse]

end SubmittedIt.Extension
