/-
SubmittedIt/ReceiptOperations.lean

The operations on the receipts of the working state
(apps/extension/lib/storage-schema.ts).

Each takes a state and gives the next one, or throws.  `Advances` says once
what a successful operation does: it may put one new receipt in front, and it
maps the others, each to a receipt that continues it.  Every property of a
run is read off from that.

Two stored receipts must not share an event.  The operations compare only
some of the hashes; that the others differ is due to the receipt identifier in
every event core, so it rests on the hash telling the cores apart.

Main result: `receipt_operations_run`.
-/
import SubmittedIt.SaveAtomicity

namespace SubmittedIt.Extension

open ReceiptCore Transaction

/-! ### The operations -/

/-- `receipt.confirmationContext?.status`. -/
def StoredAttemptReceipt.contextStatus (receipt : StoredAttemptReceipt) :
    Option ConfirmationContextStatus :=
  receipt.confirmationContext.map (·.status)

/-- Whether the receipt has an active context in a tab. -/
def StoredAttemptReceipt.activeIn (receipt : StoredAttemptReceipt) (tabId : Nat) : Bool :=
  receipt.confirmationContext.any fun context => context.status = .active && context.tabId = tabId

/-- The receipt with another status of its context. -/
def StoredAttemptReceipt.withContextStatus (receipt : StoredAttemptReceipt)
    (status : ConfirmationContextStatus) : StoredAttemptReceipt :=
  { receipt with
    confirmationContext := receipt.confirmationContext.map fun context => { context with status } }

/-- What an operation returns. -/
structure ReceiptUpdate (ρ : Type) where
  state : ExtensionLocalState
  receipt : ρ
  deduplicated : Bool
  deriving DecidableEq

/-- `activeReceiptForTab`. -/
def activeReceiptForTab (state : ExtensionLocalState) (tabId : Nat) :
    Option StoredAttemptReceipt :=
  state.receiptIndex.find? fun receipt =>
    receipt.currentStage = .attempted && receipt.activeIn tabId

/-- `receiptById`. -/
def receiptById (state : ExtensionLocalState) (receiptId : ReceiptId) :
    Option StoredAttemptReceipt :=
  state.receiptIndex.find? fun receipt => receipt.receiptId = receiptId

/-- `confirmationContextIsExpired`. -/
def confirmationContextIsExpired (context : StoredConfirmationContext) (timestamp : Timestamp) :
    Bool :=
  context.expiresAt ≤ timestamp

/-- `expireConfirmationContext`. -/
def expireConfirmationContext (state : ExtensionLocalState) (receiptId : ReceiptId) :
    ExtensionLocalState :=
  { state with
    receiptIndex := state.receiptIndex.map fun receipt =>
      if receipt.receiptId = receiptId ∧ receipt.contextStatus = some .active then
        receipt.withContextStatus .expired
      else receipt }

/-- The fields of a `PageContextObservationRequest` that are recorded. -/
structure NavigationObservation where
  observationId : OpaqueId
  documentInstanceId : OpaqueId
  kind : NavigationObservationKind
  observedAt : Timestamp
  origin : Origin
  pageUrl : Url
  deriving DecidableEq

/-- The context after an observation. -/
def StoredConfirmationContext.observe (context : StoredConfirmationContext)
    (request : NavigationObservation) : StoredConfirmationContext :=
  let sequence := context.sequence + 1
  let observations := context.observations ++ [{
    sequence
    observationId := request.observationId
    documentInstanceId := request.documentInstanceId
    kind := request.kind
    observedAt := request.observedAt
    origin := request.origin
    pageUrl := request.pageUrl }]
  { context with
    documentInstanceId := request.documentInstanceId
    currentOrigin := request.origin
    currentPageUrl := request.pageUrl
    sequence
    observations := observations.drop (observations.length - MAX_NAVIGATION_HISTORY) }

/-- The input of `appendSiteConfirmation`. -/
structure SiteConfirmationInput where
  receiptId : ReceiptId
  event : LifecycleEventEnvelope
  evidence : StoredSiteConfirmationEvidence
  deriving DecidableEq

/-- The state with a receipt in the place of the one with its identifier. -/
def ExtensionLocalState.replace (state : ExtensionLocalState) (receiptId : ReceiptId)
    (receipt : StoredAttemptReceipt) : ExtensionLocalState :=
  { state with
    receiptIndex := state.receiptIndex.map fun candidate =>
      if candidate.receiptId = receiptId then receipt else candidate }

section operations

variable (P : StoragePlatform)

/-- `appendAttemptReceipt`. -/
def appendAttemptReceipt (state : ExtensionLocalState) (receipt : StoredAttemptReceipt) :
    Except StorageError (ReceiptUpdate StoredAttemptReceipt) := do
  revertIf (parseStoredAttemptReceipt P receipt = false ∨ receipt.currentStage ≠ .attempted ∨
      receipt.contextStatus ≠ some .active)
    (.failure "SubmittedIt refused to store an invalid Attempted receipt.")
  match state.receiptIndex.find? fun candidate => candidate.attemptId = receipt.attemptId with
  | some existing => do
    revertIf (existing.receiptId ≠ receipt.receiptId ∨
        existing.event.eventHash ≠ receipt.event.eventHash)
      (.failure "SubmittedIt detected a conflicting duplicate capture attempt.")
    return ⟨state, existing, true⟩
  | none => do
    revertIf ((state.receiptIndex.any fun candidate => candidate.receiptId = receipt.receiptId ||
        candidate.event.eventHash = receipt.event.eventHash) = true)
      (.failure "SubmittedIt detected a receipt identity collision.")
    revertIf (MAX_LOCAL_RECEIPTS ≤ state.receiptIndex.length)
      (.failure "SubmittedIt local receipt storage is full.")
    let existingReceipts := state.receiptIndex.map fun candidate =>
      if ∃ context ∈ receipt.confirmationContext, candidate.activeIn context.tabId = true then
        candidate.withContextStatus .superseded
      else candidate
    return ⟨{ state with receiptIndex := receipt :: existingReceipts }, receipt, false⟩

/-- `recordNavigationObservation`. -/
def recordNavigationObservation (state : ExtensionLocalState) (tabId : Nat)
    (request : NavigationObservation) :
    Except StorageError (ReceiptUpdate (Option StoredAttemptReceipt)) :=
  match activeReceiptForTab state tabId with
  | none => return ⟨state, none, true⟩
  | some active =>
    match active.confirmationContext with
    | none => return ⟨state, none, true⟩
    | some context =>
      if (context.observations.any fun item => item.observationId = request.observationId) = true
        then return ⟨state, active, true⟩
      else if context.sequence = 0 ∧ request.kind = .document ∧
          request.documentInstanceId = context.documentInstanceId ∧
          request.pageUrl = context.currentPageUrl then return ⟨state, active, true⟩
      else do
        let updated := { active with confirmationContext := some (context.observe request) }
        revertIf (parseStoredAttemptReceipt P updated = false)
          (.failure "SubmittedIt rejected an invalid navigation observation.")
        return ⟨state.replace active.receiptId updated, some updated, false⟩

/-- `appendSiteConfirmation`. -/
def appendSiteConfirmation (state : ExtensionLocalState) (input : SiteConfirmationInput) :
    Except StorageError (ReceiptUpdate StoredAttemptReceipt) :=
  match receiptById state input.receiptId with
  | none => .error (.failure "SubmittedIt could not find the originating Attempted receipt.")
  | some existing =>
    if existing.siteConfirmationEvent.isSome = true then
      if existing.siteConfirmationEvidence.map (·.saveId) = some input.evidence.saveId then
        return ⟨state, existing, true⟩
      else .error (.failure "SubmittedIt allows only one Site confirmed event per receipt.")
    else do
      revertIf (existing.currentStage ≠ .attempted ∨ existing.contextStatus ≠ some .active)
        (.failure "SubmittedIt rejected a stale confirmation context.")
      let updated := { existing.withContextStatus .completed with
        currentStage := .siteConfirmed
        siteConfirmationEvent := some input.event
        siteConfirmationEvidence := some input.evidence }
      revertIf (parseStoredAttemptReceipt P updated = false)
        (.failure "SubmittedIt refused to store invalid website confirmation evidence.")
      return ⟨state.replace existing.receiptId updated, updated, false⟩

/-- A call of one of the operations. -/
inductive ReceiptOperation
  | append (receipt : StoredAttemptReceipt)
  | record (tabId : Nat) (request : NavigationObservation)
  | expire (receiptId : ReceiptId)
  | confirm (input : SiteConfirmationInput)
  deriving DecidableEq

/-- The state after a call. -/
def ReceiptOperation.apply (state : ExtensionLocalState) :
    ReceiptOperation → Except StorageError ExtensionLocalState
  | append receipt => (appendAttemptReceipt P state receipt).map (·.state)
  | record tabId request => (recordNavigationObservation P state tabId request).map (·.state)
  | expire receiptId => .ok (expireConfirmationContext state receiptId)
  | confirm input => (appendSiteConfirmation P state input).map (·.state)

end operations

/-! ### Events of a valid receipt -/

section laws

variable {P : StoragePlatform} {state state' : ExtensionLocalState}
  {receipt : StoredAttemptReceipt} {index : List StoredAttemptReceipt}

theorem chainAccepted_iff {events : List LifecycleEventEnvelope} :
    chainAccepted P events = true ↔ ∃ chain, replay
      (chainStep (Except.ok : Decoder LifecycleEventEnvelope) P.keccak) ChainState.initial events =
        .ok chain := by
  unfold chainAccepted
  constructor
  · intro h
    rcases hresult : validateEventChain (Except.ok : Decoder LifecycleEventEnvelope) P.keccak events
      with e | result
    · rw [hresult] at h
      cases h
    · obtain ⟨chain, hchain, -⟩ := validateEventChain_eq_ok.mp hresult
      exact ⟨chain, hchain⟩
  · rintro ⟨chain, hchain⟩
    rw [validateEventChain_eq_ok.mpr ⟨chain, hchain, rfl⟩]
    rfl

/-- An event that is hashed as it says, of a receipt. -/
structure EventOf (keccak : Keccak) (receiptId : ReceiptId) (event : LifecycleEventEnvelope) :
    Prop where
  hashed : event.eventHash = hashEventCore keccak event.core
  receiptId : event.core.receiptId = receiptId

theorem eventOf_first {event : LifecycleEventEnvelope} {events : List LifecycleEventEnvelope}
    (h : chainAccepted P (event :: events) = true) :
    EventOf P.keccak event.core.receiptId event := by
  obtain ⟨chain, hchain⟩ := chainAccepted_iff.mp h
  obtain ⟨chain₁, hfirst, -⟩ := replay_cons_ok.mp hchain
  obtain ⟨event', hevent, haccepts, -⟩ := chainStep_eq_ok.mp hfirst
  obtain rfl := Except.ok.inj hevent
  exact ⟨haccepts.hashed, rfl⟩

theorem eventOf_second {event event' : LifecycleEventEnvelope}
    (h : chainAccepted P [event, event'] = true) :
    EventOf P.keccak event.core.receiptId event' := by
  obtain ⟨chain, hchain⟩ := chainAccepted_iff.mp h
  obtain ⟨chain₁, hfirst, hrest⟩ := replay_cons_ok.mp hchain
  obtain ⟨chain₂, hsecond, -⟩ := replay_cons_ok.mp hrest
  obtain ⟨e, hevent, haccepts, rfl⟩ := chainStep_eq_ok.mp hfirst
  obtain rfl := Except.ok.inj hevent
  obtain ⟨e', hevent', haccepts', -⟩ := chainStep_eq_ok.mp hsecond
  obtain rfl := Except.ok.inj hevent'
  obtain ⟨-, -, hreceiptId, -⟩ := haccepts'.later (Nat.succ_ne_zero _)
  exact ⟨haccepts'.hashed, Option.some.inj hreceiptId⟩

/-- What a valid receipt's parts are. -/
structure ValidReceipt (P : StoragePlatform) (receipt : StoredAttemptReceipt) : Prop where
  base : parseAttemptBase P receipt.toParsedAttemptBase = true
  context : ∀ context ∈ receipt.confirmationContext,
    parseConfirmationContext context receipt.toParsedAttemptBase = true
  unconfirmed : receipt.siteConfirmationEvent = none →
    receipt.currentStage = .attempted ∧ receipt.siteConfirmationEvidence = none ∧
      receipt.contextStatus ≠ some .completed
  confirmed : ∀ event ∈ receipt.siteConfirmationEvent,
    event.core.stage = .siteConfirmed ∧ receipt.currentStage = .siteConfirmed ∧
      chainAccepted P [receipt.event, event] = true ∧ receipt.contextStatus = some .completed

theorem validReceipt_of_parse (h : parseStoredAttemptReceipt P receipt = true) :
    ValidReceipt P receipt := by
  unfold parseStoredAttemptReceipt at h
  simp only [Bool.and_eq_true, Option.all_eq_true] at h
  obtain ⟨⟨hbase, hcontext⟩, hsite⟩ := h
  refine ⟨hbase, hcontext, ?_, ?_⟩
  · intro hnone
    rw [hnone] at hsite
    simpa [and_assoc, StoredAttemptReceipt.contextStatus] using hsite
  · intro event hevent
    rw [Option.mem_def.mp hevent] at hsite
    simp only [Bool.and_eq_true, decide_eq_true_eq, Option.any_eq_true] at hsite
    obtain ⟨⟨⟨hstage, hcurrent⟩, hchain⟩, evidence, -, hevidence⟩ := hsite
    refine ⟨hstage.1.1.1, hcurrent, hchain, ?_⟩
    unfold parseSiteConfirmationEvidence at hevidence
    split at hevidence
    · next context hbody hsome =>
      simp only [Bool.and_eq_true, decide_eq_true_eq] at hevidence
      rw [StoredAttemptReceipt.contextStatus, hsome]
      simp [hevidence]
    · cases hevidence

/-- **A valid receipt's events** are hashed as they say and name it. -/
theorem eventOf_of_parse (h : parseStoredAttemptReceipt P receipt = true) :
    ∀ event ∈ operationalEvents receipt, EventOf P.keccak receipt.receiptId event := by
  have hvalid := validReceipt_of_parse h
  have hbase := hvalid.base
  unfold parseAttemptBase at hbase
  simp only [Bool.and_eq_true] at hbase
  obtain ⟨-, hbody⟩ := hbase
  have hown : receipt.event.core.receiptId = receipt.receiptId ∧
      chainAccepted P [receipt.event] = true := by
    split at hbody
    · simp only [Bool.and_eq_true, decide_eq_true_eq] at hbody
      exact ⟨by tauto, hbody.2⟩
    · cases hbody
  intro event hevent
  rcases List.mem_cons.mp hevent with rfl | hevent
  · exact hown.1 ▸ eventOf_first hown.2
  · have hconfirmed := hvalid.confirmed event (Option.mem_toList.mp hevent)
    exact hown.1 ▸ eventOf_second hconfirmed.2.2.1

/-- Ending a context other than by completing it leaves a receipt valid. -/
theorem parse_withContextStatus {status : ConfirmationContextStatus}
    (h : parseStoredAttemptReceipt P receipt = true)
    (hactive : receipt.contextStatus = some .active) (hstatus : status ≠ .completed) :
    parseStoredAttemptReceipt P (receipt.withContextStatus status) = true := by
  have hvalid := validReceipt_of_parse h
  have hnone : receipt.siteConfirmationEvent = none := by
    rcases hsite : receipt.siteConfirmationEvent with - | event
    · rfl
    · have hcompleted := (hvalid.confirmed event hsite).2.2.2
      rw [hactive] at hcompleted
      cases hcompleted
  obtain ⟨hstage, hevidence, -⟩ := hvalid.unconfirmed hnone
  obtain ⟨context, hcontext, -⟩ := Option.map_eq_some_iff.mp hactive
  have hparse := hvalid.context context hcontext
  unfold parseStoredAttemptReceipt StoredAttemptReceipt.withContextStatus
  simp only [hnone, hstage, hevidence, hcontext, Option.map_some, Option.all_some]
  rw [show parseConfirmationContext { context with status } receipt.toParsedAttemptBase = true
    from hparse, hvalid.base]
  simp [hstatus]

/-! ### Indexes without shared events -/

/-- The events of a state. -/
def ExtensionLocalState.events (state : ExtensionLocalState) : List LifecycleEventEnvelope :=
  state.receiptIndex.flatMap operationalEvents

/-- Hashing tells the events of a list apart. -/
def HashesApart (keccak : Keccak) (events : List LifecycleEventEnvelope) : Prop :=
  ∀ a ∈ events, ∀ b ∈ events,
    hashEventCore keccak a.core = hashEventCore keccak b.core → a.core = b.core

instance (keccak : Keccak) (events : List LifecycleEventEnvelope) :
    Decidable (HashesApart keccak events) :=
  inferInstanceAs (Decidable (∀ a ∈ events, ∀ b ∈ events,
    hashEventCore keccak a.core = hashEventCore keccak b.core → a.core = b.core))

theorem HashesApart.mono {keccak : Keccak} {events events' : List LifecycleEventEnvelope}
    (h : HashesApart keccak events') (hsub : events ⊆ events') : HashesApart keccak events :=
  fun a ha b hb => h a (hsub ha) b (hsub hb)

/-- **Receipts with different identifiers share no event.** -/
theorem eventHashes_disjoint {first second : StoredAttemptReceipt}
    (hfirst : parseStoredAttemptReceipt P first = true)
    (hsecond : parseStoredAttemptReceipt P second = true)
    (hapart : HashesApart P.keccak (operationalEvents first ++ operationalEvents second))
    (hne : first.receiptId ≠ second.receiptId) :
    ∀ hash ∈ second.eventHashes, hash ∉ first.eventHashes := by
  intro hash hmem hmem'
  rw [← operationalEvents_eventHash] at hmem hmem'
  obtain ⟨b, hb, rfl⟩ := List.mem_map.mp hmem
  obtain ⟨a, ha, hsame⟩ := List.mem_map.mp hmem'
  have hofA := eventOf_of_parse hfirst a ha
  have hofB := eventOf_of_parse hsecond b hb
  have hcore : a.core = b.core := by
    apply hapart a (List.mem_append_left _ ha) b (List.mem_append_right _ hb)
    rw [← hofA.hashed, ← hofB.hashed, hsame]
  apply hne
  rw [← hofA.receiptId, ← hofB.receiptId, hcore]

/-- An index is accepted when its identifiers differ. -/
theorem parseReceiptIndex_of_apart (hlength : index.length ≤ MAX_LOCAL_RECEIPTS)
    (hvalid : ∀ r ∈ index, parseStoredAttemptReceipt P r = true)
    (hattempts : (index.map (·.attemptId)).Nodup) (hreceipts : (index.map (·.receiptId)).Nodup)
    (hapart : HashesApart P.keccak (index.flatMap operationalEvents)) :
    parseReceiptIndex P index = true := by
  refine parseReceiptIndex_eq_true.mpr ⟨hlength, hvalid, ?_⟩
  have hids : index.Pairwise fun a b => a.attemptId ≠ b.attemptId ∧ a.receiptId ≠ b.receiptId :=
    (List.pairwise_map.mp hattempts).and (List.pairwise_map.mp hreceipts)
  refine hids.imp_of_mem ?_
  rintro a b ha hb ⟨hattempt, hreceipt⟩
  refine ⟨hattempt, hreceipt, eventHashes_disjoint (hvalid a ha) (hvalid b hb) ?_ hreceipt⟩
  refine hapart.mono (List.append_subset.mpr ⟨?_, ?_⟩)
  · exact fun event hevent => List.mem_flatMap_of_mem ha hevent
  · exact fun event hevent => List.mem_flatMap_of_mem hb hevent

/-- The identifiers of an accepted index. -/
theorem identifiers_of_parse (h : parseReceiptIndex P index = true) :
    (index.map (·.attemptId)).Nodup ∧ (index.map (·.receiptId)).Nodup := by
  obtain ⟨-, -, hpairwise⟩ := parseReceiptIndex_eq_true.mp h
  exact ⟨List.pairwise_map.mpr (hpairwise.imp Unrelated.attemptId),
    List.pairwise_map.mpr (hpairwise.imp Unrelated.receiptId)⟩

/-! ### What an operation does -/

/-- The events that a call brings. -/
def ReceiptOperation.events : ReceiptOperation → List LifecycleEventEnvelope
  | append receipt => operationalEvents receipt
  | record _ _ => []
  | expire _ => []
  | confirm input => [input.event]

/-- What a later receipt keeps of an earlier one. -/
structure Continues (earlier later : StoredAttemptReceipt) : Prop where
  base : later.toParsedAttemptBase = earlier.toParsedAttemptBase
  stage : earlier.currentStage = .siteConfirmed → later.currentStage = .siteConfirmed
  site : ∀ event, earlier.siteConfirmationEvent = some event →
    later.siteConfirmationEvent = some event

theorem Continues.refl (r : StoredAttemptReceipt) : Continues r r := ⟨rfl, id, fun _ => id⟩

theorem Continues.trans {a b c : StoredAttemptReceipt} (h : Continues a b) (h' : Continues b c) :
    Continues a c :=
  ⟨h'.base.trans h.base, fun hs => h'.stage (h.stage hs), fun e he => h'.site e (h.site e he)⟩

/-- A receipt after a successful call that brings `events`. -/
structure Grows (P : StoragePlatform) (events : List LifecycleEventEnvelope)
    (earlier later : StoredAttemptReceipt) : Prop extends Continues earlier later where
  valid : parseStoredAttemptReceipt P later = true
  active : ∀ tabId, later.activeIn tabId = true → earlier.activeIn tabId = true
  events : ∀ event ∈ operationalEvents later, event ∈ operationalEvents earlier ∨ event ∈ events

theorem Grows.refl {events : List LifecycleEventEnvelope} {r : StoredAttemptReceipt}
    (h : parseStoredAttemptReceipt P r = true) : Grows P events r r :=
  ⟨.refl r, h, fun _ => id, fun _ => .inl⟩

/-- A successful call maps the receipts of a valid state, and may put one in
front. -/
structure Advances (P : StoragePlatform) (operation : ReceiptOperation)
    (index : List StoredAttemptReceipt) (next : StoredAttemptReceipt → StoredAttemptReceipt)
    (added : Option StoredAttemptReceipt) : Prop where
  grows : ∀ r ∈ index, Grows P operation.events r (next r)
  valid : ∀ r ∈ added, parseStoredAttemptReceipt P r = true
  brought : ∀ r ∈ added, operationalEvents r ⊆ operation.events
  room : ∀ r ∈ added, index.length < MAX_LOCAL_RECEIPTS
  unknown : ∀ r ∈ added, ∀ c ∈ index, c.attemptId ≠ r.attemptId ∧ c.receiptId ≠ r.receiptId
  supersedes : ∀ r ∈ added, ∀ tabId, r.activeIn tabId = true →
    ∀ c ∈ index, (next c).activeIn tabId = false

theorem Advances.unchanged {operation : ReceiptOperation}
    (h : ∀ r ∈ index, parseStoredAttemptReceipt P r = true) :
    Advances P operation index id none where
  grows r hr := .refl (h r hr)
  valid := by simp
  brought := by simp
  room := by simp
  unknown := by simp
  supersedes := by simp

theorem activeIn_status {r : StoredAttemptReceipt} {tabId : Nat} (h : r.activeIn tabId = true) :
    r.contextStatus = some .active := by
  obtain ⟨context, hcontext, hactive⟩ := (Option.any_eq_true _ _).mp h
  rw [StoredAttemptReceipt.contextStatus, hcontext]
  simp only [Bool.and_eq_true, decide_eq_true_eq] at hactive
  exact congrArg some hactive.1

/-- A context that was ended is not active. -/
theorem not_activeIn_withContextStatus {r : StoredAttemptReceipt}
    {status : ConfirmationContextStatus} (hstatus : status ≠ .active) (tabId : Nat) :
    (r.withContextStatus status).activeIn tabId = false := by
  rw [Bool.eq_false_iff]
  intro hactive
  have hsome := activeIn_status hactive
  simp only [StoredAttemptReceipt.contextStatus, StoredAttemptReceipt.withContextStatus,
    Option.map_map] at hsome
  obtain ⟨context, -, hsame⟩ := Option.map_eq_some_iff.mp hsome
  exact hstatus hsame

theorem grows_ended {events : List LifecycleEventEnvelope} {r : StoredAttemptReceipt}
    {status : ConfirmationContextStatus} (h : parseStoredAttemptReceipt P r = true)
    (hactive : r.contextStatus = some .active) (hstatus : status ≠ .completed)
    (hended : status ≠ .active) : Grows P events r (r.withContextStatus status) where
  base := rfl
  stage := id
  site _ := id
  valid := parse_withContextStatus h hactive hstatus
  active tabId hlater := by
    rw [not_activeIn_withContextStatus hended] at hlater
    cases hlater
  events _ := .inl

/-- A receipt in the place of the one with its identifier. -/
theorem grows_replaced {events : List LifecycleEventEnvelope}
    {existing updated : StoredAttemptReceipt}
    (hindex : parseReceiptIndex P index = true) (hmem : existing ∈ index)
    (hgrows : Grows P events existing updated) :
    ∀ r ∈ index, Grows P events r (if r.receiptId = existing.receiptId then updated else r) := by
  intro r hr
  obtain ⟨-, hvalid, -⟩ := parseReceiptIndex_eq_true.mp hindex
  split_ifs with hsame
  · obtain rfl := List.inj_on_of_nodup_map (identifiers_of_parse hindex).2 hr hmem hsame
    exact hgrows
  · exact .refl (hvalid r hr)

/-- The state after a successful call. -/
def ExtensionLocalState.after (state : ExtensionLocalState)
    (next : StoredAttemptReceipt → StoredAttemptReceipt) (added : Option StoredAttemptReceipt) :
    ExtensionLocalState :=
  { state with receiptIndex := added.toList ++ state.receiptIndex.map next }

theorem after_unchanged (state : ExtensionLocalState) : state.after id none = state := by
  unfold ExtensionLocalState.after
  rw [List.map_id]
  rfl

theorem append_advances {receipt : StoredAttemptReceipt}
    {update : ReceiptUpdate StoredAttemptReceipt}
    (hindex : parseReceiptIndex P state.receiptIndex = true)
    (h : appendAttemptReceipt P state receipt = .ok update) :
    ∃ next added, Advances P (.append receipt) state.receiptIndex next added ∧
      update.state = state.after next added := by
  obtain ⟨-, hvalid, -⟩ := parseReceiptIndex_eq_true.mp hindex
  unfold appendAttemptReceipt at h
  obtain ⟨_, hnew, h⟩ := bind_eq_ok.mp h
  rw [revertIf_eq_ok] at hnew
  push Not at hnew
  obtain ⟨hparse, -, hactive⟩ := hnew
  split at h
  · obtain ⟨_, -, h⟩ := bind_eq_ok.mp h
    obtain rfl := Except.ok.inj h
    exact ⟨id, none, .unchanged hvalid, (after_unchanged state).symm⟩
  · next hnone =>
    obtain ⟨_, hcollision, h⟩ := bind_eq_ok.mp h
    obtain ⟨_, hroom, h⟩ := bind_eq_ok.mp h
    rw [revertIf_eq_ok] at hcollision hroom
    obtain rfl := Except.ok.inj h
    refine ⟨_, some receipt, ?_, rfl⟩
    constructor
    case grows =>
      intro r hr
      split_ifs with hsuperseded
      · obtain ⟨context, -, hr'⟩ := hsuperseded
        exact grows_ended (hvalid r hr) (activeIn_status hr') (by decide) (by decide)
      · exact .refl (hvalid r hr)
    case valid =>
      rintro _ ⟨⟩
      simpa using hparse
    case brought =>
      rintro _ ⟨⟩
      exact List.Subset.refl _
    case room => exact fun _ _ => not_le.mp hroom
    case unknown =>
      rintro _ ⟨⟩ c hc
      constructor
      · have hother := List.find?_eq_none.mp hnone c hc
        simpa using hother
      · intro hsame
        apply hcollision
        exact List.any_eq_true.mpr ⟨c, hc, by simp [hsame]⟩
    case supersedes =>
      rintro _ ⟨⟩ tabId htab c hc
      obtain ⟨context, hcontext, hin⟩ := (Option.any_eq_true _ _).mp htab
      simp only [Bool.and_eq_true, decide_eq_true_eq] at hin
      split_ifs with hsuperseded
      · exact not_activeIn_withContextStatus (by decide) tabId
      · rw [Bool.eq_false_iff]
        exact fun hc' => hsuperseded ⟨context, hcontext, hin.2 ▸ hc'⟩

theorem expire_advances {receiptId : ReceiptId}
    (hindex : parseReceiptIndex P state.receiptIndex = true) :
    ∃ next added, Advances P (.expire receiptId) state.receiptIndex next added ∧
      expireConfirmationContext state receiptId = state.after next added := by
  obtain ⟨-, hvalid, -⟩ := parseReceiptIndex_eq_true.mp hindex
  refine ⟨_, none, { Advances.unchanged hvalid with grows := ?_, supersedes := by simp }, rfl⟩
  intro r hr
  split_ifs with hexpired
  · exact grows_ended (hvalid r hr) hexpired.2 (by decide) (by decide)
  · exact .refl (hvalid r hr)

/-- Putting a grown receipt in its place. -/
theorem replace_advances {operation : ReceiptOperation} {existing updated : StoredAttemptReceipt}
    (hindex : parseReceiptIndex P state.receiptIndex = true)
    (hmem : existing ∈ state.receiptIndex) (hgrows : Grows P operation.events existing updated) :
    ∃ next added, Advances P operation state.receiptIndex next added ∧
      state.replace existing.receiptId updated = state.after next added := by
  obtain ⟨-, hvalid, -⟩ := parseReceiptIndex_eq_true.mp hindex
  exact ⟨_, none, { Advances.unchanged hvalid with
    grows := grows_replaced hindex hmem hgrows, supersedes := by simp }, rfl⟩

theorem record_advances {tabId : Nat} {request : NavigationObservation}
    {update : ReceiptUpdate (Option StoredAttemptReceipt)}
    (hindex : parseReceiptIndex P state.receiptIndex = true)
    (h : recordNavigationObservation P state tabId request = .ok update) :
    ∃ next added, Advances P (.record tabId request) state.receiptIndex next added ∧
      update.state = state.after next added := by
  obtain ⟨-, hvalid, -⟩ := parseReceiptIndex_eq_true.mp hindex
  have hsame : ∃ next added, Advances P (.record tabId request) state.receiptIndex next added ∧
      state = state.after next added :=
    ⟨id, none, .unchanged hvalid, (after_unchanged state).symm⟩
  unfold recordNavigationObservation at h
  split at h
  · obtain rfl := Except.ok.inj h
    exact hsame
  · next active hfound =>
    split at h
    · obtain rfl := Except.ok.inj h
      exact hsame
    · next context hcontext =>
      split_ifs at h
      · obtain rfl := Except.ok.inj h
        exact hsame
      · obtain rfl := Except.ok.inj h
        exact hsame
      · obtain ⟨_, hparse, h⟩ := bind_eq_ok.mp h
        rw [revertIf_eq_ok, Bool.not_eq_false] at hparse
        obtain rfl := Except.ok.inj h
        refine replace_advances hindex (List.mem_of_find?_eq_some hfound) ?_
        refine ⟨⟨rfl, id, fun _ => id⟩, hparse, ?_, fun _ => .inl⟩
        intro tab hlater
        rw [StoredAttemptReceipt.activeIn, hcontext]
        exact hlater

theorem confirm_advances {input : SiteConfirmationInput}
    {update : ReceiptUpdate StoredAttemptReceipt}
    (hindex : parseReceiptIndex P state.receiptIndex = true)
    (h : appendSiteConfirmation P state input = .ok update) :
    ∃ next added, Advances P (.confirm input) state.receiptIndex next added ∧
      update.state = state.after next added := by
  obtain ⟨-, hvalid, -⟩ := parseReceiptIndex_eq_true.mp hindex
  unfold appendSiteConfirmation at h
  split at h
  · cases h
  · next existing hfound =>
    split_ifs at h with hsite hsave
    · obtain rfl := Except.ok.inj h
      exact ⟨id, none, .unchanged hvalid, (after_unchanged state).symm⟩
    · obtain ⟨_, -, h⟩ := bind_eq_ok.mp h
      obtain ⟨_, hparse, h⟩ := bind_eq_ok.mp h
      rw [revertIf_eq_ok, Bool.not_eq_false] at hparse
      obtain rfl := Except.ok.inj h
      have hnone : existing.siteConfirmationEvent = none := by simpa using hsite
      refine replace_advances hindex (List.mem_of_find?_eq_some hfound) ?_
      refine ⟨⟨rfl, fun _ => rfl, ?_⟩, hparse, ?_, ?_⟩
      · intro event hevent
        rw [hnone] at hevent
        cases hevent
      · intro tab hlater
        have hended := not_activeIn_withContextStatus (r := existing)
          (show ConfirmationContextStatus.completed ≠ .active by decide) tab
        exact absurd (hlater.symm.trans hended) (by decide)
      · intro event hevent
        rcases List.mem_cons.mp hevent with rfl | hevent
        · exact .inl List.mem_cons_self
        · exact .inr hevent

theorem update_of_apply {ρ : Type} {x : Except StorageError (ReceiptUpdate ρ)}
    (h : x.map (·.state) = .ok state) : ∃ update, x = .ok update ∧ update.state = state := by
  rcases x with e | update
  · cases h
  · exact ⟨update, rfl, Except.ok.inj h⟩

/-- **A successful call** maps the receipts, each to one that continues it,
and puts at most one in front. -/
theorem apply_advances {operation : ReceiptOperation}
    (hindex : parseReceiptIndex P state.receiptIndex = true)
    (h : operation.apply P state = .ok state') :
    ∃ next added, Advances P operation state.receiptIndex next added ∧
      state' = state.after next added := by
  cases operation with
  | append receipt =>
    obtain ⟨update, hupdate, rfl⟩ := update_of_apply h
    exact append_advances hindex hupdate
  | record tabId request =>
    obtain ⟨update, hupdate, rfl⟩ := update_of_apply h
    exact record_advances hindex hupdate
  | expire receiptId =>
    obtain rfl := Except.ok.inj h
    exact expire_advances hindex
  | confirm input =>
    obtain ⟨update, hupdate, rfl⟩ := update_of_apply h
    exact confirm_advances hindex hupdate

/-! ### Runs -/

/-- At most one receipt per tab has an active context. -/
def ExtensionLocalState.OneActivePerTab (state : ExtensionLocalState) : Prop :=
  ∀ tabId, ∀ r ∈ state.receiptIndex, ∀ r' ∈ state.receiptIndex,
    r.activeIn tabId = true → r'.activeIn tabId = true → r = r'

/-- No receipt disappears, goes back or changes an event. -/
def ExtensionLocalState.ContinuedBy (earlier later : ExtensionLocalState) : Prop :=
  ∀ r ∈ earlier.receiptIndex, ∃ r' ∈ later.receiptIndex, Continues r r'

/-- The state after some calls; one that throws changes nothing. -/
def runOperations (P : StoragePlatform) :
    ExtensionLocalState → List ReceiptOperation → ExtensionLocalState
  | state, [] => state
  | state, operation :: operations =>
    match operation.apply P state with
    | .ok state' => runOperations P state' operations
    | .error _ => runOperations P state operations

theorem runOperations_append (operations operations' : List ReceiptOperation)
    (state : ExtensionLocalState) :
    runOperations P state (operations ++ operations') =
      runOperations P (runOperations P state operations) operations' := by
  induction operations generalizing state with
  | nil => rfl
  | cons operation operations ih =>
    simp only [List.cons_append, runOperations]
    split
    · exact ih _
    · exact ih _

section step

variable {operation : ReceiptOperation} {next : StoredAttemptReceipt → StoredAttemptReceipt}
  {added : Option StoredAttemptReceipt}

theorem Advances.mem (h : Advances P operation state.receiptIndex next added)
    {r : StoredAttemptReceipt} (hr : r ∈ (state.after next added).receiptIndex) :
    r ∈ added ∨ ∃ c ∈ state.receiptIndex, next c = r ∧ Grows P operation.events c r := by
  rcases List.mem_append.mp hr with hr | hr
  · exact .inl (Option.mem_toList.mp hr)
  · obtain ⟨c, hc, rfl⟩ := List.mem_map.mp hr
    exact .inr ⟨c, hc, rfl, h.grows c hc⟩

/-- The events after a call are those before it and those it brings. -/
theorem Advances.events (h : Advances P operation state.receiptIndex next added) :
    (state.after next added).events ⊆ state.events ++ operation.events := by
  intro event hevent
  obtain ⟨r, hr, hevent⟩ := List.mem_flatMap.mp hevent
  rcases h.mem hr with hadded | ⟨c, hc, -, hgrows⟩
  · exact List.mem_append_right _ (h.brought r hadded hevent)
  · rcases hgrows.events event hevent with hold | hnew
    · exact List.mem_append_left _ (List.mem_flatMap_of_mem hc hold)
    · exact List.mem_append_right _ hnew

/-- The identifiers after a call. -/
theorem Advances.nodup {ι : Type} (key : StoredAttemptReceipt → ι)
    (h : Advances P operation state.receiptIndex next added)
    (hkey : ∀ r r', Continues r r' → key r' = key r)
    (hnew : ∀ r ∈ added, ∀ c ∈ state.receiptIndex, key c ≠ key r)
    (hnodup : (state.receiptIndex.map key).Nodup) :
    ((state.after next added).receiptIndex.map key).Nodup := by
  have hmap : (state.receiptIndex.map next).map key = state.receiptIndex.map key := by
    rw [List.map_map]
    exact List.map_congr_left fun r hr => hkey r _ (h.grows r hr).toContinues
  show ((added.toList ++ state.receiptIndex.map next).map key).Nodup
  rw [List.map_append, hmap]
  rcases added with - | receipt
  · exact hnodup
  · refine List.nodup_cons.mpr ⟨?_, hnodup⟩
    intro hmem
    obtain ⟨c, hc, hsame⟩ := List.mem_map.mp hmem
    exact hnew receipt rfl c hc hsame

/-- **A successful call keeps a valid state valid.** -/
theorem Advances.valid_after (h : Advances P operation state.receiptIndex next added)
    (hstate : validateExtensionState P state = true)
    (hapart : HashesApart P.keccak (state.events ++ operation.events)) :
    validateExtensionState P (state.after next added) = true := by
  obtain ⟨hsettings, horigins, hindex, hmigration⟩ := validateExtensionState_eq_true.mp hstate
  refine validateExtensionState_eq_true.mpr ⟨hsettings, horigins, ?_, hmigration⟩
  obtain ⟨hlength, -, -⟩ := parseReceiptIndex_eq_true.mp hindex
  obtain ⟨hattempts, hreceipts⟩ := identifiers_of_parse hindex
  refine parseReceiptIndex_of_apart ?_ ?_ ?_ ?_ (hapart.mono h.events)
  · show (added.toList ++ state.receiptIndex.map next).length ≤ _
    rw [List.length_append, List.length_map]
    rcases added with - | receipt
    · simpa using hlength
    · have hroom := h.room receipt rfl
      simp only [Option.toList_some, List.length_singleton]
      omega
  · intro r hr
    rcases h.mem hr with hadded | ⟨c, -, -, hgrows⟩
    · exact h.valid r hadded
    · exact hgrows.valid
  · refine h.nodup (·.attemptId) ?_ (fun r hr c hc => (h.unknown r hr c hc).1) hattempts
    exact fun r r' hcontinues => congrArg (·.attemptId) hcontinues.base
  · refine h.nodup (·.receiptId) ?_ (fun r hr c hc => (h.unknown r hr c hc).2) hreceipts
    exact fun r r' hcontinues => congrArg (·.receiptId) hcontinues.base

theorem Advances.oneActive (h : Advances P operation state.receiptIndex next added)
    (hone : state.OneActivePerTab) : (state.after next added).OneActivePerTab := by
  intro tabId r hr r' hr' hactive hactive'
  rcases h.mem hr with hadded | ⟨c, hc, rfl, hgrows⟩
  · rcases h.mem hr' with hadded' | ⟨c', hc', rfl, -⟩
    · exact Option.mem_unique hadded hadded'
    · rw [h.supersedes r hadded tabId hactive c' hc'] at hactive'
      cases hactive'
  · rcases h.mem hr' with hadded' | ⟨c', hc', rfl, hgrows'⟩
    · rw [h.supersedes r' hadded' tabId hactive' c hc] at hactive
      cases hactive
    · rw [hone tabId c hc c' hc' (hgrows.active tabId hactive) (hgrows'.active tabId hactive')]

theorem Advances.continuedBy (h : Advances P operation state.receiptIndex next added) :
    state.ContinuedBy (state.after next added) := by
  intro r hr
  refine ⟨next r, ?_, (h.grows r hr).toContinues⟩
  exact List.mem_append_right _ (List.mem_map_of_mem hr)

end step

/-- What holds in a run whose calls bring `events`. -/
structure RunInvariant (P : StoragePlatform) (events : List LifecycleEventEnvelope)
    (state : ExtensionLocalState) : Prop where
  valid : validateExtensionState P state = true
  oneActive : state.OneActivePerTab
  brought : state.events ⊆ events

/-- **What a run keeps**, and that its end continues its start. -/
theorem runOperations_kept {events : List LifecycleEventEnvelope}
    (hapart : HashesApart P.keccak events) (operations : List ReceiptOperation)
    (hevents : operations.flatMap (·.events) ⊆ events) {state : ExtensionLocalState}
    (h : RunInvariant P events state) :
    RunInvariant P events (runOperations P state operations) ∧
      state.ContinuedBy (runOperations P state operations) := by
  induction operations generalizing state with
  | nil => exact ⟨h, fun r hr => ⟨r, hr, .refl r⟩⟩
  | cons operation operations ih =>
    obtain ⟨hoperation, hrest⟩ := List.append_subset.mp hevents
    unfold runOperations
    split
    · next state' hok =>
      obtain ⟨next, added, hadvances, rfl⟩ :=
        apply_advances (validateExtensionState_eq_true.mp h.valid).2.2.1 hok
      have hsubset : state.events ++ operation.events ⊆ events :=
        List.append_subset.mpr ⟨h.brought, hoperation⟩
      have hstep : RunInvariant P events (state.after next added) :=
        ⟨hadvances.valid_after h.valid (hapart.mono hsubset), hadvances.oneActive h.oneActive,
          List.Subset.trans hadvances.events hsubset⟩
      obtain ⟨hend, hcontinued⟩ := ih hrest hstep
      refine ⟨hend, fun r hr => ?_⟩
      obtain ⟨r₁, hr₁, hfirst⟩ := hadvances.continuedBy r hr
      obtain ⟨r₂, hr₂, hlater⟩ := hcontinued r₁ hr₁
      exact ⟨r₂, hr₂, hfirst.trans hlater⟩
    · exact ih hrest h

/-- **The operations on receipts**: a call that succeeds keeps a valid state
valid; in a run from the initial state at most one receipt per tab has an
active context, and a receipt that was stored is stored in every later state,
at the same or a later stage, with the events it had.  Only the hashes of the
events at hand have to differ. -/
theorem receipt_operations_run (P : StoragePlatform) :
    (∀ (state state' : ExtensionLocalState) (operation : ReceiptOperation),
      validateExtensionState P state = true →
      HashesApart P.keccak (state.events ++ operation.events) →
      operation.apply P state = .ok state' → validateExtensionState P state' = true) ∧
    ∀ (now : Timestamp) (operations operations' : List ReceiptOperation),
      HashesApart P.keccak ((operations ++ operations').flatMap (·.events)) →
      let earlier := runOperations P (createInitialExtensionState now) operations
      let later := runOperations P (createInitialExtensionState now) (operations ++ operations')
      later.OneActivePerTab ∧ earlier.ContinuedBy later := by
  constructor
  · intro state state' operation hstate hapart hok
    obtain ⟨next, added, hadvances, rfl⟩ :=
      apply_advances (validateExtensionState_eq_true.mp hstate).2.2.1 hok
    exact hadvances.valid_after hstate hapart
  · intro now operations operations' hapart earlier later
    have hinitial : RunInvariant P ((operations ++ operations').flatMap (·.events))
        (createInitialExtensionState now) :=
      ⟨validate_createInitial P now, fun _ _ hr => absurd hr List.not_mem_nil,
        List.nil_subset _⟩
    have hsubset := List.append_subset.mp (fun event hevent =>
      (List.flatMap_append (f := ReceiptOperation.events)).symm ▸ hevent :
      operations.flatMap (·.events) ++ operations'.flatMap (·.events) ⊆
        (operations ++ operations').flatMap (·.events))
    obtain ⟨hearlier, -⟩ := runOperations_kept hapart operations hsubset.1 hinitial
    obtain ⟨hlater, hcontinued⟩ := runOperations_kept hapart operations' hsubset.2 hearlier
    show (runOperations P _ (operations ++ operations')).OneActivePerTab ∧
      ExtensionLocalState.ContinuedBy _ (runOperations P _ (operations ++ operations'))
    rw [runOperations_append]
    exact ⟨hlater.oneActive, hcontinued⟩

end laws

/-- A captured receipt whose confirmation is awaited in a tab. -/
def awaitedReceipt (receiptId : ReceiptId) (tabId : Nat) : StoredAttemptReceipt :=
  let receipt := sampleReceipt receiptId
  { receipt with
    confirmationContext := some {
      status := .active
      tabId
      attemptEventHash := receipt.event.eventHash
      documentInstanceId := 0
      startedAt := 5
      expiresAt := 9
      originalOrigin := samplePage.origin
      originalPageUrl := samplePage
      currentOrigin := samplePage.origin
      currentPageUrl := samplePage
      sequence := 0
      observations := [] } }

/-- A second capture in a tab: the first receipt is kept, and superseded. -/
theorem receipt_operations_run_sample :
    let earlier := runOperations samplePlatform (createInitialExtensionState 0)
      [.append (awaitedReceipt 7 1)]
    let later := runOperations samplePlatform (createInitialExtensionState 0)
      ([.append (awaitedReceipt 7 1)] ++ [.append (awaitedReceipt 8 1)])
    (earlier.receiptIndex = [awaitedReceipt 7 1] ∧ later.receiptIndex =
        [awaitedReceipt 8 1, (awaitedReceipt 7 1).withContextStatus .superseded]) ∧
      validateExtensionState samplePlatform earlier = true ∧
      later.OneActivePerTab ∧ earlier.ContinuedBy later := by
  intro earlier later
  obtain ⟨hvalid, hrun⟩ := receipt_operations_run samplePlatform
  refine ⟨by decide, ?_, hrun 0 _ _ (by decide)⟩
  exact hvalid (createInitialExtensionState 0) earlier (.append (awaitedReceipt 7 1)) rfl
    (by decide) (by rfl)

end SubmittedIt.Extension
