/-
SubmittedIt/Registry.lean

The contract `SubmissionReceiptRegistry` (contracts/src).

`anchorEvent` is translated check by check, in the order of the source; a
`revert` is an `Except` error, and the `transaction` library supplies the
ledger's view in which a reverted call leaves the state as it was.  A
Solidity mapping is a total function whose default is the all-zero record,
so an unknown receipt reads as stage `none`.  Emitted events are appended to
`logs`, which the contract itself never reads.

`Accepted s c` lists the guards of `anchorEvent` in one place and `append`
says what an accepted call writes; `anchorEvent_eq_ok` is the inversion
lemma every later proof goes through, so that no other proof unfolds
`anchorEvent`.
-/
import SubmittedIt.Transaction

namespace SubmittedIt

open Transaction

/-- A `bytes32` word. -/
abbrev Bytes32 := BitVec 256

instance : LawfulBEq Bytes32 := inferInstance

/-- An account address. -/
abbrev Address := BitVec 160

/-! ### Storage, events and errors -/

/-- Lifecycle stages in the contract's numeric order, `none` = 0. -/
inductive ReceiptStage
  | none
  | attempted
  | siteConfirmed
  | authorityAccepted
  | authorityRejected
  deriving DecidableEq, Repr

/-- The contract's number of a stage. -/
def stageNumber : ReceiptStage → Nat
  | .none => 0
  | .attempted => 1
  | .siteConfirmed => 2
  | .authorityAccepted => 3
  | .authorityRejected => 4

/-- The compact record stored for a receipt. -/
structure ReceiptState where
  latestEventHash : Bytes32
  extensionKeyHash : Bytes32
  updatedAt : UInt64
  eventCount : UInt32
  currentStage : ReceiptStage
  deriving DecidableEq

/-- The record an unwritten mapping slot reads as. -/
def ReceiptState.zero : ReceiptState where
  latestEventHash := 0
  extensionKeyHash := 0
  updatedAt := 0
  eventCount := 0
  currentStage := .none

/-- The event emitted for every anchored lifecycle event. -/
structure ReceiptEventAnchored where
  receiptId : Bytes32
  eventHash : Bytes32
  anchoredBy : Address
  previousEventHash : Bytes32
  extensionKeyHash : Bytes32
  authorityKeyHash : Bytes32
  stage : ReceiptStage
  anchoredAt : UInt64
  eventCount : UInt32
  protocolVersion : UInt16
  deriving DecidableEq

/-- The registry's storage together with the log of what it emitted. -/
structure Registry where
  receipts : Bytes32 → ReceiptState
  anchoredEvents : Bytes32 → Bool
  logs : List ReceiptEventAnchored

/-- The registry as deployed. -/
def Registry.empty : Registry where
  receipts := fun _ => ReceiptState.zero
  anchoredEvents := fun _ => false
  logs := []

/-- The reasons for which `anchorEvent` reverts; `arithmeticOverflow` is the
panic of a checked addition. -/
inductive RegistryError
  | zeroReceiptId
  | zeroEventHash
  | zeroExtensionKeyHash
  | duplicateEventHash (eventHash : Bytes32)
  | unexpectedPreviousEventHash (provided : Bytes32)
  | zeroPreviousEventHash
  | incorrectPreviousEventHash (expected provided : Bytes32)
  | invalidInitialStage (provided : ReceiptStage)
  | invalidTransition (current requested : ReceiptStage)
  | terminalReceipt (current : ReceiptStage)
  | extensionKeyMismatch (expected provided : Bytes32)
  | missingAuthorityKeyHash (stage : ReceiptStage)
  | unexpectedAuthorityKeyHash (stage : ReceiptStage) (provided : Bytes32)
  | timestampOverflow (timestamp : BitVec 256)
  | arithmeticOverflow
  deriving DecidableEq

/-- `PROTOCOL_VERSION`. -/
def PROTOCOL_VERSION : UInt16 := 1

/-! ### The contract's functions -/

/-- `_isTerminal`. -/
def isTerminal (stage : ReceiptStage) : Bool :=
  stage = .authorityAccepted || stage = .authorityRejected

/-- `_isValidTransition`. -/
def isValidTransition (current requested : ReceiptStage) : Bool :=
  if current = .attempted then
    requested = .siteConfirmed || requested = .authorityAccepted
      || requested = .authorityRejected
  else if current = .siteConfirmed then
    requested = .authorityAccepted || requested = .authorityRejected
  else false

/-- `_validateAuthorityKey`. -/
def validateAuthorityKey (stage : ReceiptStage) (authorityKeyHash : Bytes32) :
    Except RegistryError Unit := do
  let isAuthorityStage := stage = .authorityAccepted || stage = .authorityRejected
  revertIf (isAuthorityStage = true ∧ authorityKeyHash = 0) (.missingAuthorityKeyHash stage)
  revertIf (isAuthorityStage = false ∧ authorityKeyHash ≠ 0)
    (.unexpectedAuthorityKeyHash stage authorityKeyHash)

/-- `_toUint64`. -/
def toUint64 (value : BitVec 256) : Except RegistryError UInt64 :=
  if value.toNat > 2 ^ 64 - 1 then .error (.timestampOverflow value)
  else .ok (UInt64.ofNat value.toNat)

/-- The checked addition `count + 1` on `uint32`. -/
def checkedSucc (count : UInt32) : Except RegistryError UInt32 :=
  if count.toNat + 1 < 2 ^ 32 then .ok (UInt32.ofNat (count.toNat + 1))
  else .error .arithmeticOverflow

/-- A call of `anchorEvent`: its arguments, `msg.sender` and the timestamp of
the block it is executed in. -/
structure AnchorEventCall where
  receiptId : Bytes32
  eventHash : Bytes32
  previousEventHash : Bytes32
  extensionKeyHash : Bytes32
  authorityKeyHash : Bytes32
  stage : ReceiptStage
  sender : Address
  timestamp : BitVec 256
  deriving DecidableEq

/-- The part of `anchorEvent` that compares a call with the stored record. -/
def checkProgression (receipt : ReceiptState) (call : AnchorEventCall) :
    Except RegistryError Unit :=
  if receipt.currentStage = .none then do
    revertIf (call.previousEventHash ≠ 0) (.unexpectedPreviousEventHash call.previousEventHash)
    revertIf (call.stage ≠ .attempted) (.invalidInitialStage call.stage)
  else do
    revertIf (call.previousEventHash = 0) .zeroPreviousEventHash
    revertIf (call.previousEventHash ≠ receipt.latestEventHash)
      (.incorrectPreviousEventHash receipt.latestEventHash call.previousEventHash)
    revertIf (call.extensionKeyHash ≠ receipt.extensionKeyHash)
      (.extensionKeyMismatch receipt.extensionKeyHash call.extensionKeyHash)
    revertIf (isTerminal receipt.currentStage = true) (.terminalReceipt receipt.currentStage)
    revertIf (isValidTransition receipt.currentStage call.stage = false)
      (.invalidTransition receipt.currentStage call.stage)

/-- The record an accepted call writes. -/
def nextReceipt (receipt : ReceiptState) (call : AnchorEventCall) (anchoredAt : UInt64)
    (nextEventCount : UInt32) : ReceiptState where
  latestEventHash := call.eventHash
  extensionKeyHash :=
    if receipt.currentStage = .none then call.extensionKeyHash else receipt.extensionKeyHash
  updatedAt := anchoredAt
  eventCount := nextEventCount
  currentStage := call.stage

/-- The event an accepted call emits. -/
def anchoredLog (call : AnchorEventCall) (anchoredAt : UInt64) (nextEventCount : UInt32) :
    ReceiptEventAnchored where
  receiptId := call.receiptId
  eventHash := call.eventHash
  anchoredBy := call.sender
  previousEventHash := call.previousEventHash
  extensionKeyHash := call.extensionKeyHash
  authorityKeyHash := call.authorityKeyHash
  stage := call.stage
  anchoredAt := anchoredAt
  eventCount := nextEventCount
  protocolVersion := PROTOCOL_VERSION

/-- `anchorEvent`. -/
def anchorEvent (s : Registry) (call : AnchorEventCall) : Except RegistryError Registry := do
  revertIf (call.receiptId = 0) .zeroReceiptId
  revertIf (call.eventHash = 0) .zeroEventHash
  revertIf (call.extensionKeyHash = 0) .zeroExtensionKeyHash
  revertIf (s.anchoredEvents call.eventHash = true) (.duplicateEventHash call.eventHash)
  let receipt := s.receipts call.receiptId
  checkProgression receipt call
  validateAuthorityKey call.stage call.authorityKeyHash
  let anchoredAt ← toUint64 call.timestamp
  let nextEventCount ← checkedSucc receipt.eventCount
  return {
    receipts := Function.update s.receipts call.receiptId
      (nextReceipt receipt call anchoredAt nextEventCount)
    anchoredEvents := Function.update s.anchoredEvents call.eventHash true
    logs := s.logs ++ [anchoredLog call anchoredAt nextEventCount] }

/-- `getReceipt`: the stored record of a receipt. -/
def getReceipt (s : Registry) (receiptId : Bytes32) : ReceiptState := s.receipts receiptId

/-- `isAnchored`. -/
def isAnchored (s : Registry) (eventHash : Bytes32) : Bool := s.anchoredEvents eventHash

/-! ### What a call needs and what it does -/

/-- `StageStep a b`: a receipt at stage `a` may enter stage `b`.  This is the
lifecycle with `none` as its start, where the contract treats the first event
apart. -/
def StageStep (current requested : ReceiptStage) : Prop :=
  (current = .none ∧ requested = .attempted) ∨ isValidTransition current requested = true

instance (a b : ReceiptStage) : Decidable (StageStep a b) :=
  inferInstanceAs (Decidable (_ ∨ _))

/-- The guards of `anchorEvent` that compare a call with the stored record. -/
structure Progresses (receipt : ReceiptState) (call : AnchorEventCall) : Prop where
  step : StageStep receipt.currentStage call.stage
  first : receipt.currentStage = .none → call.previousEventHash = 0
  later : receipt.currentStage ≠ .none →
    call.previousEventHash ≠ 0 ∧ call.previousEventHash = receipt.latestEventHash ∧
      call.extensionKeyHash = receipt.extensionKeyHash

/-- All guards of `anchorEvent`. -/
structure Accepted (s : Registry) (call : AnchorEventCall) : Prop where
  receiptId_ne_zero : call.receiptId ≠ 0
  eventHash_ne_zero : call.eventHash ≠ 0
  extensionKeyHash_ne_zero : call.extensionKeyHash ≠ 0
  fresh : s.anchoredEvents call.eventHash = false
  progresses : Progresses (s.receipts call.receiptId) call
  authority : call.authorityKeyHash ≠ 0 ↔ isTerminal call.stage = true
  timestamp_lt : call.timestamp.toNat < 2 ^ 64
  count_lt : (s.receipts call.receiptId).eventCount.toNat + 1 < 2 ^ 32

/-- The timestamp an accepted call records. -/
def AnchorEventCall.anchoredAt (call : AnchorEventCall) : UInt64 :=
  UInt64.ofNat call.timestamp.toNat

/-- The count an accepted call records. -/
def Registry.nextCount (s : Registry) (call : AnchorEventCall) : UInt32 :=
  UInt32.ofNat ((s.receipts call.receiptId).eventCount.toNat + 1)

/-- The registry after an accepted call. -/
def Registry.append (s : Registry) (call : AnchorEventCall) : Registry where
  receipts := Function.update s.receipts call.receiptId
    (nextReceipt (s.receipts call.receiptId) call call.anchoredAt (s.nextCount call))
  anchoredEvents := Function.update s.anchoredEvents call.eventHash true
  logs := s.logs ++ [anchoredLog call call.anchoredAt (s.nextCount call)]

/-! ### Stages -/

theorem isTerminal_iff (stage : ReceiptStage) :
    isTerminal stage = true ↔ stage = .authorityAccepted ∨ stage = .authorityRejected := by
  simp [isTerminal]

theorem not_stageStep_of_isTerminal {a b : ReceiptStage} (h : isTerminal a = true) :
    ¬ StageStep a b := by
  rcases (isTerminal_iff a).mp h with rfl | rfl <;> simp [StageStep, isValidTransition]

theorem StageStep.ne_none {a b : ReceiptStage} (h : StageStep a b) : b ≠ .none := by
  revert h
  cases a <;> cases b <;> decide

/-! ### Inversion of the contract's functions -/

theorem checkProgression_eq_ok {receipt : ReceiptState} {call : AnchorEventCall} {u : Unit} :
    checkProgression receipt call = .ok u ↔ Progresses receipt call := by
  unfold checkProgression
  split
  case isTrue hnone =>
    simp only [bind_eq_ok, exists_const, revertIf_eq_ok, not_not]
    constructor
    · rintro ⟨hprev, hstage⟩
      exact ⟨.inl ⟨hnone, hstage⟩, fun _ => hprev, fun h => absurd hnone h⟩
    · intro h
      have hstage : call.stage = .attempted := by
        rcases h.step with ⟨-, hstage⟩ | hvalid
        · exact hstage
        · simp [hnone, isValidTransition] at hvalid
      exact ⟨h.first hnone, hstage⟩
  case isFalse hsome =>
    simp only [bind_eq_ok, exists_const, revertIf_eq_ok, not_not, Bool.not_eq_true, Bool.not_eq_false]
    constructor
    · rintro ⟨hne, hprev, hkey, -, hvalid⟩
      exact ⟨.inr hvalid, fun h => absurd h hsome, fun _ => ⟨hne, hprev, hkey⟩⟩
    · intro h
      obtain ⟨hne, hprev, hkey⟩ := h.later hsome
      have hvalid : isValidTransition receipt.currentStage call.stage = true := by
        rcases h.step with ⟨hnone, -⟩ | hvalid
        · exact absurd hnone hsome
        · exact hvalid
      refine ⟨hne, hprev, hkey, ?_, hvalid⟩
      -- a terminal stage has no successor, so the transition check subsumes this guard
      by_contra hterm
      exact not_stageStep_of_isTerminal (by simpa using hterm) h.step

theorem validateAuthorityKey_eq_ok {stage : ReceiptStage} {key : Bytes32} {u : Unit} :
    validateAuthorityKey stage key = .ok u ↔ (key ≠ 0 ↔ isTerminal stage = true) := by
  unfold validateAuthorityKey
  simp only [bind_eq_ok, exists_const, revertIf_eq_ok]
  change ¬ (isTerminal stage = true ∧ key = 0) ∧ ¬ (isTerminal stage = false ∧ key ≠ 0) ↔ _
  rcases isTerminal stage with - | - <;> simp

theorem toUint64_eq_ok {value : BitVec 256} {w : UInt64} :
    toUint64 value = .ok w ↔ value.toNat < 2 ^ 64 ∧ w = UInt64.ofNat value.toNat := by
  unfold toUint64
  split
  case isTrue h =>
    have hge : ¬ value.toNat < 2 ^ 64 := by omega
    exact ⟨fun h' => (by cases h'), fun h' => absurd h'.1 hge⟩
  case isFalse h =>
    have hlt : value.toNat < 2 ^ 64 := by omega
    exact ⟨fun h' => ⟨hlt, (Except.ok.inj h').symm⟩, fun h' => by rw [h'.2]⟩

theorem checkedSucc_eq_ok {count w : UInt32} :
    checkedSucc count = .ok w ↔
      count.toNat + 1 < 2 ^ 32 ∧ w = UInt32.ofNat (count.toNat + 1) := by
  unfold checkedSucc
  split
  case isTrue h => exact ⟨fun h' => ⟨h, (Except.ok.inj h').symm⟩, fun h' => by rw [h'.2]⟩
  case isFalse h => exact ⟨fun h' => (by cases h'), fun h' => absurd h'.1 h⟩

/-- **`anchorEvent` succeeds exactly on the calls that meet all its guards,
and then appends exactly that call.** -/
theorem anchorEvent_eq_ok {s s' : Registry} {call : AnchorEventCall} :
    anchorEvent s call = .ok s' ↔ Accepted s call ∧ s' = s.append call := by
  unfold anchorEvent
  simp only [bind_eq_ok, exists_const, revertIf_eq_ok, checkProgression_eq_ok,
    validateAuthorityKey_eq_ok, toUint64_eq_ok, checkedSucc_eq_ok, Bool.not_eq_true]
  constructor
  · rintro ⟨hid, hhash, hkey, hfresh, hprog, hauth, -, ⟨htime, rfl⟩, -, ⟨hcount, rfl⟩, hs'⟩
    exact ⟨⟨hid, hhash, hkey, hfresh, hprog, hauth, htime, hcount⟩, (Except.ok.inj hs').symm⟩
  · rintro ⟨h, rfl⟩
    exact ⟨h.receiptId_ne_zero, h.eventHash_ne_zero, h.extensionKeyHash_ne_zero, h.fresh,
      h.progresses, h.authority, _, ⟨h.timestamp_lt, rfl⟩, _, ⟨h.count_lt, rfl⟩, rfl⟩

/-! ### The appended registry, field by field -/

section append

variable (s : Registry) (call : AnchorEventCall)

@[simp] theorem append_logs :
    (s.append call).logs = s.logs ++ [anchoredLog call call.anchoredAt (s.nextCount call)] := rfl

@[simp] theorem append_receipts_self :
    (s.append call).receipts call.receiptId =
      nextReceipt (s.receipts call.receiptId) call call.anchoredAt (s.nextCount call) := by
  simp [Registry.append]

theorem append_receipts_of_ne {r : Bytes32} (h : r ≠ call.receiptId) :
    (s.append call).receipts r = s.receipts r := by
  simp [Registry.append, h]

theorem append_anchoredEvents (h : Bytes32) :
    (s.append call).anchoredEvents h = true ↔
      h = call.eventHash ∨ s.anchoredEvents h = true := by
  by_cases heq : h = call.eventHash
  · simp [Registry.append, heq]
  · simp [Registry.append, heq]

theorem Accepted.nextCount_toNat {s : Registry} {call : AnchorEventCall} (h : Accepted s call) :
    (s.nextCount call).toNat = (s.receipts call.receiptId).eventCount.toNat + 1 :=
  UInt32.toNat_ofNat_of_lt' h.count_lt

end append

end SubmittedIt
