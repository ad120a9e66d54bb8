/-
SubmittedIt/NavigationObservations.lean

Observations of the page after an attempt (apps/extension/lib,
storage-schema.ts).

A tab has one active confirmation context.  It records where the tab went, and
keeps the last observations: an observation that it still has is not recorded
again.

Main result: `recordNavigationObservation_again`, for runs.
-/
import SubmittedIt.ReceiptOperations

namespace SubmittedIt.Extension

open ReceiptCore Transaction

/-- `items.slice(-n)`, for a positive `n`. -/
def lastItems {α : Type} (n : Nat) (items : List α) : List α := items.drop (items.length - n)

/-- The observation that a context records for a request. -/
def StoredConfirmationContext.observation (context : StoredConfirmationContext)
    (request : NavigationObservation) : StoredNavigationObservation where
  sequence := context.sequence + 1
  observationId := request.observationId
  documentInstanceId := request.documentInstanceId
  kind := request.kind
  observedAt := request.observedAt
  origin := request.origin
  pageUrl := request.pageUrl

/-- The receipt is the one of the tab. -/
def StoredAttemptReceipt.isActiveFor (receipt : StoredAttemptReceipt) (tabId : Nat) : Bool :=
  receipt.currentStage = .attempted && receipt.activeIn tabId

/-- What recording an observation returns. -/
abbrev RecordedObservation := ReceiptUpdate (Option StoredAttemptReceipt)

section runs

variable (P : StoragePlatform)

/-! ### Runs on a tab -/

/-- The state after an observation: what is refused is not saved. -/
def deliver (tabId : Nat) (state : ExtensionLocalState) (request : NavigationObservation) :
    ExtensionLocalState :=
  match recordNavigationObservation P state tabId request with
  | .ok recorded => recorded.state
  | .error _ => state

/-- The state after observations. -/
def deliverAll (tabId : Nat) (state : ExtensionLocalState)
    (requests : List NavigationObservation) : ExtensionLocalState :=
  requests.foldl (deliver P tabId) state

/-- The observation is recorded. -/
def records (tabId : Nat) (state : ExtensionLocalState) (request : NavigationObservation) :
    Bool :=
  match recordNavigationObservation P state tabId request with
  | .ok recorded => !recorded.deduplicated
  | .error _ => false

/-- How many of the observations are recorded. -/
def recordedCount (tabId : Nat) (state : ExtensionLocalState) :
    List NavigationObservation → Nat
  | [] => 0
  | request :: requests =>
    (if records P tabId state request then 1 else 0) +
      recordedCount tabId (deliver P tabId state request) requests

end runs

variable {P : StoragePlatform}

/-! ### One observation -/

/-- **What recording does.** -/
theorem recordNavigationObservation_cases {state : ExtensionLocalState} {tabId : Nat}
    {request : NavigationObservation} {recorded : RecordedObservation}
    (h : recordNavigationObservation P state tabId request = .ok recorded) :
    (recorded.deduplicated = true ∧ recorded.state = state) ∨
      ∃ active context, activeReceiptForTab state tabId = some active ∧
        active.confirmationContext = some context ∧
        recorded = ⟨state.replace active.receiptId
            { active with confirmationContext := some (context.observe request) },
          some { active with confirmationContext := some (context.observe request) }, false⟩ := by
  unfold recordNavigationObservation at h
  split at h
  · cases h
    exact .inl ⟨rfl, rfl⟩
  · next active hactive =>
    split at h
    · cases h
      exact .inl ⟨rfl, rfl⟩
    · next context hcontext =>
      split_ifs at h
      · cases h
        exact .inl ⟨rfl, rfl⟩
      · cases h
        exact .inl ⟨rfl, rfl⟩
      · obtain ⟨_, -, h⟩ := bind_eq_ok.mp h
        cases h
        exact .inr ⟨active, context, hactive, hcontext, rfl⟩

/-- No two receipts have one identifier. -/
def ExtensionLocalState.Distinct (state : ExtensionLocalState) : Prop :=
  state.receiptIndex.Pairwise fun first second => first.receiptId ≠ second.receiptId

theorem distinct_of_validate {state : ExtensionLocalState}
    (h : validateExtensionState P state = true) : state.Distinct :=
  (parseReceiptIndex_eq_true.mp (validateExtensionState_eq_true.mp h).2.2.1).2.2.imp
    fun hunrelated => hunrelated.receiptId

theorem replace_distinct {state : ExtensionLocalState} (h : state.Distinct)
    (updated : StoredAttemptReceipt) : (state.replace updated.receiptId updated).Distinct := by
  have hid : ∀ receipt : StoredAttemptReceipt,
      (if receipt.receiptId = updated.receiptId then updated else receipt).receiptId =
        receipt.receiptId := by
    intro receipt
    split
    · next hsame => exact hsame.symm
    · rfl
  refine List.pairwise_map.mpr (List.Pairwise.imp (fun {first second} hne => ?_) h)
  rw [hid, hid]
  exact hne

/-- **The receipt of the tab stays the receipt of the tab** when it is replaced
by one that is active there. -/
theorem activeReceiptForTab_replace {state : ExtensionLocalState} (h : state.Distinct)
    {tabId : Nat} {active updated : StoredAttemptReceipt}
    (hactive : activeReceiptForTab state tabId = some active)
    (hupdated : updated.isActiveFor tabId = true) :
    activeReceiptForTab (state.replace active.receiptId updated) tabId = some updated := by
  change state.receiptIndex.find? (·.isActiveFor tabId) = some active at hactive
  change (state.receiptIndex.map fun receipt =>
    if receipt.receiptId = active.receiptId then updated else receipt).find? (·.isActiveFor tabId) =
      some updated
  unfold ExtensionLocalState.Distinct at h
  generalize state.receiptIndex = receipts at h hactive
  induction receipts with
  | nil => cases hactive
  | cons receipt rest ih =>
    obtain ⟨hapart, hrest⟩ := List.pairwise_cons.mp h
    rw [List.map_cons]
    rw [List.find?_cons] at hactive ⊢
    rcases hfirst : receipt.isActiveFor tabId with - | -
    · rw [hfirst] at hactive
      have hne : receipt.receiptId ≠ active.receiptId :=
        hapart active (List.mem_of_find?_eq_some hactive)
      rw [if_neg hne, hfirst]
      exact ih hrest hactive
    · rw [hfirst] at hactive
      obtain rfl := Option.some.inj hactive
      rw [if_pos rfl, hupdated]

theorem isActiveFor_of_active {state : ExtensionLocalState} {tabId : Nat}
    {active : StoredAttemptReceipt} (h : activeReceiptForTab state tabId = some active) :
    active.isActiveFor tabId = true := by
  unfold activeReceiptForTab at h
  have hfound := List.find?_some h
  exact hfound

theorem isActiveFor_observe {active : StoredAttemptReceipt} {context : StoredConfirmationContext}
    {tabId : Nat} (h : active.isActiveFor tabId = true)
    (hcontext : active.confirmationContext = some context)
    (request : NavigationObservation) :
    ({ active with confirmationContext := some (context.observe request) } :
      StoredAttemptReceipt).isActiveFor tabId = true := by
  unfold StoredAttemptReceipt.isActiveFor StoredAttemptReceipt.activeIn at h ⊢
  rw [hcontext] at h
  exact h

/-! ### The last observations -/

/-- What stands in the last of so many places keeps standing there for as many
places as there are. -/
theorem lastItems_snoc {α : Type} {n : Nat} (before : List α) {behind : List α} (a b : α)
    (h : behind.length + 1 < n) :
    ∃ before', lastItems n (before ++ a :: behind ++ [b]) = before' ++ a :: (behind ++ [b]) := by
  refine ⟨before.drop ((before ++ a :: behind ++ [b]).length - n), ?_⟩
  have hle : (before ++ a :: behind ++ [b]).length - n ≤ before.length := by
    simp only [List.length_append, List.length_cons, List.length_nil]
    omega
  rw [lastItems, List.append_assoc, List.drop_append_of_le_length (by simpa using hle)]
  rfl

theorem lastItems_last {α : Type} {n : Nat} (hn : 0 < n) (items : List α) (a : α) :
    ∃ before, lastItems n (items ++ [a]) = before ++ [a] := by
  refine ⟨items.drop ((items ++ [a]).length - n), ?_⟩
  have hle : (items ++ [a]).length - n ≤ items.length := by
    simp only [List.length_append, List.length_cons, List.length_nil]
    omega
  rw [lastItems, List.drop_append_of_le_length hle]

/-- The active context of the tab has an observation, and then so many others. -/
def ExtensionLocalState.Keeps (state : ExtensionLocalState) (tabId : Nat)
    (observationId : OpaqueId) (later : Nat) : Prop :=
  ∃ active context before observation behind, activeReceiptForTab state tabId = some active ∧
    active.confirmationContext = some context ∧
    context.observations = before ++ observation :: behind ∧
    observation.observationId = observationId ∧ behind.length = later

/-- An observation that is kept is not recorded again. -/
theorem recordNavigationObservation_kept {state : ExtensionLocalState} {tabId later : Nat}
    {request : NavigationObservation}
    (h : state.Keeps tabId request.observationId later) : ∃ receipt,
      recordNavigationObservation P state tabId request = .ok ⟨state, some receipt, true⟩ := by
  obtain ⟨active, context, before, observation, behind, hactive, hcontext, hkept, hid, -⟩ := h
  refine ⟨active, ?_⟩
  have hseen : context.observations.any (·.observationId = request.observationId) = true := by
    rw [hkept, List.any_append, List.any_cons, hid]
    simp
  unfold recordNavigationObservation
  rw [hactive]
  dsimp only
  rw [hcontext]
  dsimp only
  rw [if_pos hseen]
  rfl

/-- What is recorded is kept, as the last observation. -/
theorem keeps_of_recorded {state : ExtensionLocalState} (hdistinct : state.Distinct) {tabId : Nat}
    {request : NavigationObservation} {recorded : RecordedObservation}
    (h : recordNavigationObservation P state tabId request = .ok recorded)
    (hnew : recorded.deduplicated = false) :
    recorded.state.Distinct ∧ recorded.state.Keeps tabId request.observationId 0 := by
  obtain ⟨hsame, -⟩ | ⟨active, context, hactive, hcontext, rfl⟩ :=
    recordNavigationObservation_cases h
  · rw [hnew] at hsame
    cases hsame
  · obtain ⟨before, hlast⟩ := lastItems_last (show 0 < MAX_NAVIGATION_HISTORY by decide)
      context.observations (context.observation request)
    refine ⟨replace_distinct hdistinct { active with
      confirmationContext := some (context.observe request) }, _, context.observe request, before,
      context.observation request, [], activeReceiptForTab_replace hdistinct hactive
        (isActiveFor_observe (isActiveFor_of_active hactive) hcontext request), rfl, hlast, rfl, rfl⟩

/-- An observation is recorded, or changes nothing. -/
theorem deliver_cases (state : ExtensionLocalState) (tabId : Nat)
    (request : NavigationObservation) :
    (records P tabId state request = false ∧ deliver P tabId state request = state) ∨
      (records P tabId state request = true ∧
        ∃ active context, activeReceiptForTab state tabId = some active ∧
          active.confirmationContext = some context ∧
          deliver P tabId state request = state.replace active.receiptId
            { active with confirmationContext := some (context.observe request) }) := by
  unfold records deliver
  rcases hrecord : recordNavigationObservation P state tabId request with error | recorded
  · exact .inl ⟨rfl, rfl⟩
  · obtain ⟨hsame, hstate⟩ | ⟨active, context, hactive, hcontext, rfl⟩ :=
      recordNavigationObservation_cases hrecord
    · exact .inl ⟨congrArg not hsame, hstate⟩
    · exact .inr ⟨rfl, active, context, hactive, hcontext, rfl⟩

/-- **Another observation** pushes one that is kept one place further, or leaves
everything as it is. -/
theorem ExtensionLocalState.Keeps.deliver {state : ExtensionLocalState}
    (hdistinct : state.Distinct) {tabId later : Nat} {observationId : OpaqueId}
    (h : state.Keeps tabId observationId later) (request : NavigationObservation)
    (hfew : later + (if records P tabId state request then 1 else 0) < MAX_NAVIGATION_HISTORY) :
    (deliver P tabId state request).Distinct ∧
      (deliver P tabId state request).Keeps tabId observationId
        (later + if records P tabId state request then 1 else 0) := by
  obtain ⟨hrecords, hstate⟩ | ⟨hrecords, active, context, hactive, hcontext, hstate⟩ :=
    deliver_cases (P := P) state tabId request
  · rw [hrecords, hstate]
    exact ⟨hdistinct, h⟩
  · obtain ⟨_, _, before, observation, behind, hactive', hcontext', hkept, hid, rfl⟩ := h
    obtain rfl := Option.some.inj (hactive.symm.trans hactive')
    obtain rfl := Option.some.inj (hcontext.symm.trans hcontext')
    rw [if_pos hrecords] at hfew
    obtain ⟨before', hlast⟩ := lastItems_snoc before observation
      (context.observation request) hfew
    rw [if_pos hrecords, hstate]
    refine ⟨replace_distinct hdistinct { active with
      confirmationContext := some (context.observe request) }, _, context.observe request, before',
      observation, behind ++ [context.observation request],
      activeReceiptForTab_replace hdistinct hactive
        (isActiveFor_observe (isActiveFor_of_active hactive) hcontext request), rfl, ?_, hid,
      List.length_append⟩
    rw [← hlast, ← hkept]
    rfl

/-- Fewer other observations than a context keeps do not push one out. -/
theorem ExtensionLocalState.Keeps.deliverAll {tabId : Nat} {observationId : OpaqueId}
    (requests : List NavigationObservation) {state : ExtensionLocalState} {later : Nat}
    (hdistinct : state.Distinct) (h : state.Keeps tabId observationId later)
    (hfew : later + recordedCount P tabId state requests < MAX_NAVIGATION_HISTORY) :
    (deliverAll P tabId state requests).Keeps tabId observationId
      (later + recordedCount P tabId state requests) := by
  induction requests generalizing state later with
  | nil => exact h
  | cons request requests ih =>
    rw [recordedCount, ← Nat.add_assoc] at hfew ⊢
    obtain ⟨hdistinct', h'⟩ := h.deliver (P := P) hdistinct request (by omega)
    exact ih hdistinct' h' hfew

theorem deliverAll_distinct {tabId : Nat} (requests : List NavigationObservation)
    {state : ExtensionLocalState} (h : state.Distinct) :
    (deliverAll P tabId state requests).Distinct := by
  induction requests generalizing state with
  | nil => exact h
  | cons request requests ih =>
    refine ih ?_
    obtain ⟨-, hstate⟩ | ⟨-, active, context, -, -, hstate⟩ :=
      deliver_cases (P := P) state tabId request
    · rw [hstate]
      exact h
    · rw [hstate]
      exact replace_distinct h { active with confirmationContext := some (context.observe request) }

/-- **An observation that was recorded** is not recorded again and changes
nothing, as long as the context has recorded fewer others since than it keeps. -/
theorem recordNavigationObservation_again {state : ExtensionLocalState}
    (hvalid : validateExtensionState P state = true) (tabId : Nat)
    (earlier later : List NavigationObservation) (request : NavigationObservation)
    {recorded : RecordedObservation}
    (hrecorded : recordNavigationObservation P (deliverAll P tabId state earlier) tabId request =
      .ok recorded)
    (hnew : recorded.deduplicated = false)
    (hfew : recordedCount P tabId recorded.state later < MAX_NAVIGATION_HISTORY) :
    ∃ receipt,
      recordNavigationObservation P (deliverAll P tabId recorded.state later) tabId request =
        .ok ⟨deliverAll P tabId recorded.state later, some receipt, true⟩ := by
  obtain ⟨hdistinct, hkeeps⟩ :=
    keeps_of_recorded (deliverAll_distinct earlier (distinct_of_validate hvalid)) hrecorded hnew
  rw [← Nat.zero_add (recordedCount P tabId recorded.state later)] at hfew
  exact recordNavigationObservation_kept (hkeeps.deliverAll later hdistinct hfew)

/-! ### More observations than are kept -/

/-- An attempt whose context is active in the tab 3. -/
def observedReceipt : StoredAttemptReceipt :=
  { sampleReceipt 7 with
    confirmationContext := some {
      status := .active
      tabId := 3
      attemptEventHash := (sampleReceipt 7).event.eventHash
      documentInstanceId := 0
      startedAt := 5
      expiresAt := 1000
      originalOrigin := samplePage.origin
      originalPageUrl := samplePage
      currentOrigin := samplePage.origin
      currentPageUrl := samplePage
      sequence := 0
      observations := [] } }

def observedState : ExtensionLocalState :=
  { createInitialExtensionState 0 with receiptIndex := [observedReceipt] }

/-- The observation with a number, made at the time of that number. -/
def sampleObservation (n : Nat) : NavigationObservation :=
  ⟨n, 0, .history, n, samplePage.origin, samplePage⟩

/-- The state after the observation 10. -/
def observedOnce : ExtensionLocalState :=
  deliver samplePlatform 3 observedState (sampleObservation 10)

/-- After fifteen others the observation is kept. -/
theorem recordNavigationObservation_again_sample : ∃ receipt,
    recordNavigationObservation samplePlatform
        (deliverAll samplePlatform 3 observedOnce ((List.range' 11 15).map sampleObservation)) 3
        (sampleObservation 10) =
      .ok ⟨deliverAll samplePlatform 3 observedOnce ((List.range' 11 15).map sampleObservation),
        some receipt, true⟩ := by
  obtain ⟨recorded, hrecorded⟩ := exists_ok (x := recordNavigationObservation samplePlatform
    observedState 3 (sampleObservation 10)) (by decide +kernel)
  have hnew : (recordNavigationObservation samplePlatform observedState 3
      (sampleObservation 10)).toOption.map (·.deduplicated) = some false := by decide +kernel
  rw [hrecorded] at hnew
  have honce : observedOnce = recorded.state := by
    rw [observedOnce, deliver, hrecorded]
  rw [honce]
  have hvalid : validateExtensionState samplePlatform observedState = true := by decide +kernel
  refine recordNavigationObservation_again hvalid 3 []
    ((List.range' 11 15).map sampleObservation) (sampleObservation 10) hrecorded
    (Option.some.inj hnew) ?_
  rw [← honce]
  decide +kernel

/-- After sixteen others it is not: the context is the same, and the observation
is refused as one that is out of order. -/
theorem forgotten_observation_refused :
    validateExtensionState samplePlatform observedState = true ∧
      records samplePlatform 3 observedState (sampleObservation 10) = true ∧
      (activeReceiptForTab (deliverAll samplePlatform 3 observedOnce
        ((List.range' 11 16).map sampleObservation)) 3).map (·.receiptId) = some 7 ∧
      recordNavigationObservation samplePlatform
          (deliverAll samplePlatform 3 observedOnce ((List.range' 11 16).map sampleObservation)) 3
          (sampleObservation 10) =
        .error (.failure "SubmittedIt rejected an invalid navigation observation.") := by
  decide +kernel

end SubmittedIt.Extension
