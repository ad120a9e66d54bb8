/-
SubmittedIt/ReceiptSoundness.lean

What a receipt that `validateReceipt` accepts satisfies
(packages/receipt-core/src/lifecycle.ts).

The input is any value; `parseReceiptStructure` reads it.  `SoundReceipt` is
the specification: the events are a hash-linked walk of the lifecycle, the
envelopes sign their own events, and the derived status claims no more than
the events and the verification record show.

Main results: `replay_lifecycle` (what the loop of `validateEventChain` keeps),
`checkReceipt_sound` and `validateReceipt_created`, together
`receipt_soundness`.
-/
import SubmittedIt.AnchorAttachment

namespace SubmittedIt.Protocol

open Transaction Linked

open Extension (VerificationCheckName DerivedReceiptStatus)

variable {Q : ReceiptPlatform} {keccak256 : List UInt8 → HashHex}

/-! ### The specification -/

/-- The lifecycle allows the event after a stage. -/
def AllowedAfter (stage : LifecycleStage) (event : LifecycleEventEnvelope) : Prop :=
  ReceiptCore.isValidTransition stage event.core.stage = true

/-- The stage that an event enters. -/
def enteredStage (event : LifecycleEventEnvelope) : LifecycleStage := .entered event.core.stage

/-- A hash-linked walk of the lifecycle. -/
structure LegalLifecycle (Q : ReceiptPlatform) (keccak256 : List UInt8 → HashHex)
    (events : List LifecycleEventEnvelope) : Prop where
  hashed : ∀ event ∈ events, hashEventCore Q keccak256 event.core.value = .ok event.eventHash
  linked : Follows LinksTo leaves none events
  legal : Follows AllowedAfter enteredStage .none events
  distinct : (events.map (·.eventHash)).Nodup

/-- The signature envelopes of an event carry its own payload hashes. -/
structure SignsItself (Q : ReceiptPlatform) (keccak256 : List UInt8 → HashHex)
    (event : LifecycleEventEnvelope) : Prop where
  extension : ∀ signature ∈ event.extensionSignature,
    hashExtensionSignaturePayload Q keccak256 event.value = .ok signature.payloadHash
  authority : ∀ signature ∈ event.authoritySignature,
    hashAuthoritySignaturePayload Q keccak256 event.value = .ok signature.payloadHash

/-- The receipt ends with a signed authority event of the stage, and its
verification has passed. -/
structure ProvedOutcome (receipt : Receipt) (stage : EventStage) : Prop where
  last : ∃ event, receipt.events.getLast? = some event ∧ event.core.stage = stage ∧
    event.authoritySignature.isSome = true
  verified : receipt.verification.result = .verified
  checks : ∀ name ∈ [VerificationCheckName.schema, .eventHash, .eventLink, .authoritySignature],
    checkPassed receipt.verification name = true

/-- What a valid receipt claims is so. -/
structure SoundReceipt (Q : ReceiptPlatform) (keccak256 : List UInt8 → HashHex)
    (receipt : Receipt) : Prop where
  lifecycle : LegalLifecycle Q keccak256 receipt.events
  length : receipt.events.length ≤ 3
  same : ∀ event ∈ receipt.events, event.core.receiptId = receipt.receiptId ∧
    event.core.schemaVersion = receipt.schemaVersion
  stage : receipt.currentStage = (receipt.events.getLast?.map enteredStage).getD .none
  signatures : ∀ event ∈ receipt.events, SignsItself Q keccak256 event
  accepted : receipt.derivedStatus = .accepted → ProvedOutcome receipt .authorityAccepted
  rejected : receipt.derivedStatus = .rejected → ProvedOutcome receipt .authorityRejected
  failed : receipt.derivedStatus = .verificationFailed ↔ receipt.verification.result = .failed

/-! ### Event chains -/

/-- How many events can follow a stage. -/
def eventsLeft : LifecycleStage → Nat
  | .none => 3
  | .entered .attempted => 2
  | .entered .siteConfirmed => 1
  | .entered .authorityAccepted | .entered .authorityRejected => 0

theorem eventsLeft_lt {stage : LifecycleStage} {event : LifecycleEventEnvelope}
    (h : AllowedAfter stage event) : eventsLeft (enteredStage event) < eventsLeft stage := by
  unfold AllowedAfter at h
  unfold enteredStage
  generalize event.core.stage = requested at h ⊢
  rcases stage with - | (- | - | - | -) <;> cases requested <;>
    first | decide | exact absurd h (by decide)

/-- A legal lifecycle is no longer than its stages. -/
theorem length_le_eventsLeft {stage : LifecycleStage} {events : List LifecycleEventEnvelope}
    (h : Follows AllowedAfter enteredStage stage events) : events.length ≤ eventsLeft stage := by
  induction events generalizing stage with
  | nil => exact Nat.zero_le _
  | cons event events ih =>
    have hlt := eventsLeft_lt h.1
    have hle := ih h.2
    rw [List.length_cons]
    omega

/-- **What the loop of `validateEventChain` keeps**, on events that are parsed
to themselves. -/
theorem replay_lifecycle {chain chain' : ChainState} {events : List LifecycleEventEnvelope}
    (hnormal : ∀ event ∈ events, Normal Q event)
    (hrun : replay (chainStep Q keccak256) chain (events.map (·.value)) = .ok chain') :
    (∀ event ∈ events, hashEventCore Q keccak256 event.core.value = .ok event.eventHash) ∧
      Follows LinksTo leaves chain.link events ∧
      Follows AllowedAfter enteredStage chain.currentStage events ∧
      ((events.map (·.eventHash)).Nodup ∧
        ∀ event ∈ events, event.eventHash ∉ chain.seenHashes) ∧
      chain'.currentStage = tip enteredStage chain.currentStage events := by
  induction events generalizing chain with
  | nil =>
    obtain rfl := Except.ok.inj hrun
    simp
  | cons event events ih =>
    obtain ⟨hevent, hrest⟩ := List.forall_mem_cons.mp hnormal
    obtain ⟨next, hstep, hreplay⟩ := replay_cons_ok.mp hrun
    obtain ⟨event', hparsed, haccepts, rfl⟩ := chainStep_eq_ok.mp hstep
    obtain rfl : event' = event := Except.ok.inj ((hparsed []).symm.trans (hevent []))
    obtain ⟨hhashed, hlinked, hlegal, ⟨hnodup, hunseen⟩, hstage⟩ := ih hrest hreplay
    refine ⟨List.forall_mem_cons.mpr ⟨haccepts.hashed, hhashed⟩, ⟨haccepts.linksTo, hlinked⟩,
      ⟨haccepts.step, hlegal⟩, ⟨?_, ?_⟩, hstage⟩
    · -- the later events do not have the hash of this one
      rw [List.map_cons, List.nodup_cons]
      refine ⟨fun hmem => ?_, hnodup⟩
      obtain ⟨later, hlater, hsame⟩ := List.mem_map.mp hmem
      exact hunseen later hlater (List.mem_cons.mpr (.inl hsame))
    · exact List.forall_mem_cons.mpr ⟨haccepts.unseen, fun later hlater hseen =>
        hunseen later hlater (List.mem_cons_of_mem _ hseen)⟩

/-- An accepted chain is a legal lifecycle that ends in its stage. -/
theorem legal_of_chain {events : List LifecycleEventEnvelope} {result : EventChainResult}
    (hnormal : ∀ event ∈ events, Normal Q event)
    (h : validateEventChain Q keccak256 (events.map (·.value)) = .ok result) :
    LegalLifecycle Q keccak256 events ∧
      result.currentStage = tip enteredStage .none events := by
  obtain ⟨chain, hchain, rfl⟩ := validateEventChain_eq_ok.mp h
  obtain ⟨hhashed, hlinked, hlegal, ⟨hnodup, -⟩, hstage⟩ := replay_lifecycle hnormal hchain
  exact ⟨⟨hhashed, hlinked, hlegal, hnodup⟩, hstage⟩

theorem tip_enteredStage (events : List LifecycleEventEnvelope) :
    tip enteredStage .none events = (events.getLast?.map enteredStage).getD .none := by
  rcases hlast : events.getLast? with - | event
  · rw [List.getLast?_eq_none_iff.mp hlast]
    rfl
  · exact tip_eq_of_getLast? hlast

/-! ### Envelopes -/

theorem validateEnvelopePayloads_ok {event : LifecycleEventEnvelope} {keyId path : Text} {u : Unit}
    (h : validateEnvelopePayloads Q keccak256 event keyId path = .ok u) :
    SignsItself Q keccak256 event := by
  unfold validateEnvelopePayloads at h
  constructor
  · intro signature hsignature
    rw [Option.mem_def.mp hsignature] at h
    simp only [bind_eq_ok, exists_const, refuseIf_eq_ok, not_not] at h
    obtain ⟨-, expected, hexpected, hsame, -⟩ := h
    rw [hexpected, hsame]
  · intro signature hsignature
    rw [Option.mem_def.mp hsignature] at h
    rcases hextension : event.extensionSignature with - | extension <;> rw [hextension] at h
    · simp only [bind_eq_ok, refuseIf_eq_ok, not_not] at h
      obtain ⟨expected, hexpected, hsame⟩ := h
      rw [hexpected, hsame]
    · simp only [bind_eq_ok, exists_const, refuseIf_eq_ok, not_not] at h
      obtain ⟨-, -, -, -, expected, hexpected, hsame⟩ := h
      rw [hexpected, hsame]

/-- What the loop of `validateReceipt` checks of every event. -/
theorem validateReceiptEvents_ok {receipt : Receipt} {events : List LifecycleEventEnvelope}
    {index : Nat} {u : Unit}
    (h : validateReceiptEvents Q keccak256 receipt events index = .ok u) :
    ∀ event ∈ events, event.core.receiptId = receipt.receiptId ∧
      event.core.schemaVersion = receipt.schemaVersion ∧ SignsItself Q keccak256 event := by
  induction events generalizing index with
  | nil => simp
  | cons event events ih =>
    unfold validateReceiptEvents at h
    simp only [bind_eq_ok, exists_const, refuseIf_eq_ok, not_not] at h
    obtain ⟨hid, hversion, ⟨⟩, hpayloads, hrest⟩ := h
    exact List.forall_mem_cons.mpr
      ⟨⟨hid, hversion, validateEnvelopePayloads_ok hpayloads⟩, ih hrest⟩

/-! ### Derived statuses -/

/-- A status other than the default is the one of its stage. -/
theorem deriveReceiptStatus_proved {stage : LifecycleStage} {verification : VerificationState} :
    (deriveReceiptStatus stage verification = .accepted →
      stage = .entered .authorityAccepted ∧ verification.result = .verified ∧
        ∀ name ∈ [VerificationCheckName.schema, .eventHash, .eventLink, .authoritySignature],
          checkPassed verification name = true) ∧
    (deriveReceiptStatus stage verification = .rejected →
      stage = .entered .authorityRejected ∧ verification.result = .verified ∧
        ∀ name ∈ [VerificationCheckName.schema, .eventHash, .eventLink, .authoritySignature],
          checkPassed verification name = true) := by
  unfold deriveReceiptStatus
  constructor <;> intro h <;> simp only at h <;> split_ifs at h <;> simp_all

theorem deriveReceiptStatus_failed {stage : LifecycleStage} {verification : VerificationState} :
    deriveReceiptStatus stage verification = .verificationFailed ↔
      verification.result = .failed := by
  unfold deriveReceiptStatus
  simp only
  split_ifs <;> simp_all

/-! ### The theorem -/

/-- **The checks of `validateReceipt` are enough.** -/
theorem checkReceipt_sound {receipt : Receipt}
    (hnormal : ∀ event ∈ receipt.events, Normal Q event)
    (h : checkReceipt Q keccak256 receipt = .ok ()) : SoundReceipt Q keccak256 receipt := by
  simp only [checkReceipt, bind_eq_ok, exists_const, refuseIf_eq_ok, not_not] at h
  obtain ⟨chain, hchain, -, ⟨⟩, hevents, hstage, hstatus, hsigned, -⟩ := h
  obtain ⟨hlifecycle, htip⟩ := legal_of_chain hnormal hchain
  have hloop := validateReceiptEvents_ok hevents
  rw [tip_enteredStage] at htip
  -- an authority stage is that of the last event, which is signed
  have hlast (stage : EventStage)
      (hauthority : stage = .authorityAccepted ∨ stage = .authorityRejected)
      (hentered : chain.currentStage = .entered stage) :
      ∃ event, receipt.events.getLast? = some event ∧ event.core.stage = stage ∧
        event.authoritySignature.isSome = true := by
    have hneeded : chain.currentStage = .entered .authorityAccepted ∨
        chain.currentStage = .entered .authorityRejected := by
      rw [hentered]
      exact hauthority.imp (congrArg _) (congrArg _)
    obtain ⟨event, hevent, hpresent⟩ := not_not.mp fun h => hsigned ⟨hneeded, h⟩
    rw [Option.mem_def.mp hevent] at htip
    have hsame : LifecycleStage.entered stage = enteredStage event := hentered.symm.trans htip
    exact ⟨event, hevent, (LifecycleStage.entered.inj hsame).symm, hpresent⟩
  refine ⟨hlifecycle, length_le_eventsLeft hlifecycle.legal,
    fun event hevent => ⟨(hloop event hevent).1, (hloop event hevent).2.1⟩, hstage.trans htip,
    fun event hevent => (hloop event hevent).2.2, ?_, ?_, ?_⟩
  · intro haccepted
    rw [hstatus] at haccepted
    obtain ⟨hentered, hverified, hchecks⟩ := deriveReceiptStatus_proved.1 haccepted
    exact ⟨hlast _ (.inl rfl) hentered, hverified, hchecks⟩
  · intro hrejected
    rw [hstatus] at hrejected
    obtain ⟨hentered, hverified, hchecks⟩ := deriveReceiptStatus_proved.2 hrejected
    exact ⟨hlast _ (.inr rfl) hentered, hverified, hchecks⟩
  · rw [hstatus]
    exact deriveReceiptStatus_failed

/-- What `createReceipt` creates is valid as it is. -/
theorem validateReceipt_created {input : ReceiptInput} {receipt : Receipt}
    (h : createReceipt keccak256 Q input = .ok receipt) :
    validateReceipt Q keccak256 receipt.value = .ok receipt := by
  simp only [createReceipt, bind_eq_ok] at h
  obtain ⟨events, -, chain, -, hvalid⟩ := h
  exact validateReceipt_again hvalid

/-- **Soundness of receipts.**  Every value that `validateReceipt` accepts is
returned as a sound receipt, and what `createReceipt` returns is accepted
unchanged. -/
theorem receipt_soundness (Q : ReceiptPlatform) (keccak256 : List UInt8 → HashHex) :
    (∀ (input : JsValue) (receipt : Receipt), validateReceipt Q keccak256 input = .ok receipt →
      SoundReceipt Q keccak256 receipt) ∧
    (∀ (input : ReceiptInput) (receipt : Receipt), createReceipt keccak256 Q input = .ok receipt →
      validateReceipt Q keccak256 receipt.value = .ok receipt) := by
  constructor
  · intro input receipt h
    obtain ⟨hparsed, hcheck⟩ := validateReceipt_eq_ok.mp h
    exact checkReceipt_sound (normal_of_parsed hparsed) hcheck
  · intro input receipt h
    exact validateReceipt_created h

/-- A receipt of the sample event. -/
def attemptedReceipt : Receipt :=
  { sampleReceipt with
    currentStage := .entered .attempted
    derivedStatus := .pendingAcceptance
    events := [sampleEvent] }

/-- What the receipt is created of, as another program might write it. -/
def attemptedInput : ReceiptInput where
  createdAt := ascii "2026-01-01T01:00:00+01:00"
  events := [{ sampleEvent with core := sampleLocalCore }]
  extensionPublicKey := sampleReceipt.extensionPublicKey
  receiptId := sampleReceipt.receiptId
  schemaVersion := sampleReceipt.schemaVersion
  verification := sampleReceipt.verification

/-- The receipt is sound, and is created valid. -/
theorem receipt_soundness_sample :
    SoundReceipt sampleReceiptPlatform (fun _ => sampleHash) attemptedReceipt ∧
    validateReceipt sampleReceiptPlatform (fun _ => sampleHash) attemptedReceipt.value =
      .ok attemptedReceipt := by
  have hcreated : createReceipt (fun _ => sampleHash) sampleReceiptPlatform attemptedInput =
      .ok attemptedReceipt := by decide +kernel
  obtain ⟨hsound, hvalid⟩ := receipt_soundness sampleReceiptPlatform fun _ => sampleHash
  have hagain := hvalid attemptedInput attemptedReceipt hcreated
  exact ⟨hsound attemptedReceipt.value attemptedReceipt hagain, hagain⟩

end SubmittedIt.Protocol
