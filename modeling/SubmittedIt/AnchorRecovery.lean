/-
SubmittedIt/AnchorRecovery.lean

Recovering the anchors of all receipts (apps/extension:
entrypoints/background.ts).

At startup and at every alarm, `recoverAnchorLifecycles` walks over the local
receipts that need it and awaits the lifecycle of one after another.  A
lifecycle that is running already is joined and not started again; other
requests start lifecycles too, and several recoveries may be under way.  The
loop has no `catch`: where a lifecycle rejects, it ends.

The model is of a build with a configured relay.  `Background.step` interleaves
everything that touches the running lifecycles (the code's flights); what a
lifecycle's load and workflows give is up to the event in which it settles.

Main result: `recoveries_isolated_iff`.
-/
import SubmittedIt.SaveAtomicity

namespace SubmittedIt.Extension

open ReceiptCore

/-! ### One lifecycle -/

/-- The events of a bundle that can be anchored. -/
def anchorableEvents (bundle : PrivateReceiptBundle) : List LifecycleEventEnvelope :=
  bundle.receipt.events.filter fun event =>
    event.core.stage = .attempted || event.core.stage = .siteConfirmed

/-- How a promise settles. -/
inductive Settlement
  | fulfilled
  | rejected
  deriving DecidableEq

/-- The loop of `runReceiptAnchorLifecycle`; the workflow of an event gives a
state, or it throws. -/
def runWorkflows (workflow : HashHex → Option AnchorOperationState) :
    List LifecycleEventEnvelope → Settlement
  | [] => .fulfilled
  | event :: events =>
    match workflow event.eventHash with
    | none => .rejected
    | some state =>
      if state = .chainEvidenceConfirmed then runWorkflows workflow events else .fulfilled

/-- `runReceiptAnchorLifecycle`, with what its load and its workflows give. -/
def runReceiptAnchorLifecycle (loaded : Option LoadedSecureExtensionState)
    (workflow : HashHex → Option AnchorOperationState) (receiptId : ReceiptId) : Settlement :=
  match loaded with
  | none => .rejected
  | some loaded =>
    match loaded.bundles.get receiptId with
    | none => .fulfilled
    | some bundle =>
      if bundle.ownership ≠ .local then .fulfilled
      else runWorkflows workflow (anchorableEvents bundle)

/-! ### Recovery -/

/-- The receipts that a recovery walks over. -/
def recoverableReceipts (loaded : LoadedSecureExtensionState) : List ReceiptId :=
  ((loaded.persistent.receiptIndex.filter (·.ownership = .local)).filter fun entry =>
    let eventHashes :=
      ((loaded.bundles.get entry.receiptId).map fun bundle =>
        (anchorableEvents bundle).map (·.eventHash)).getD []
    anchorEventsNeedRecovery eventHashes loaded.persistent.anchorOperations).map (·.receiptId)

/-- Where the loop of a recovery stands: it is about to take the next receipt,
awaits a lifecycle, has come to its end, or was ended by a rejection. -/
inductive RecoveryStatus
  | ready
  | awaiting (receiptId : ReceiptId)
  | completed
  | stopped
  deriving DecidableEq

/-- One call of `recoverAnchorLifecycles`, from where it has loaded the state;
`attempted` are the receipts it has started or joined the lifecycle of. -/
structure Recovery where
  receiptIds : List ReceiptId
  attempted : List ReceiptId
  remaining : List ReceiptId
  status : RecoveryStatus
  deriving DecidableEq

/-- The running lifecycles and the recoveries there have been. -/
structure Background where
  anchorReceiptFlights : List ReceiptId
  recoveries : List Recovery
  deriving DecidableEq

/-- `recoverAnchorLifecycles`, up to its loop. -/
def recoverAnchorLifecycles (loaded : LoadedSecureExtensionState) : Recovery :=
  ⟨recoverableReceipts loaded, [], recoverableReceipts loaded, .ready⟩

/-- `triggerReceiptAnchorLifecycle`. -/
def triggerReceiptAnchorLifecycle (flights : List ReceiptId) (receiptId : ReceiptId) :
    List ReceiptId :=
  if receiptId ∈ flights then flights else receiptId :: flights

/-- The loop's next round, with the flights that it leaves. -/
def Recovery.advance (recovery : Recovery) (flights : List ReceiptId) :
    Recovery × List ReceiptId :=
  match recovery.status, recovery.remaining with
  | .ready, [] => ({ recovery with status := .completed }, flights)
  | .ready, receiptId :: remaining =>
    ({ recovery with
        attempted := recovery.attempted ++ [receiptId]
        remaining
        status := .awaiting receiptId },
      triggerReceiptAnchorLifecycle flights receiptId)
  | _, _ => (recovery, flights)

/-- The loop when a lifecycle settles. -/
def Recovery.settle (recovery : Recovery) (receiptId : ReceiptId) (settlement : Settlement) :
    Recovery :=
  if recovery.status = .awaiting receiptId then
    { recovery with
      status := match settlement with
        | .fulfilled => .ready
        | .rejected => .stopped }
  else recovery

/-- What can happen: a wake with the state that it loads, another request for a
lifecycle, a round of a recovery, and the end of a lifecycle. -/
inductive BackgroundEvent
  | wake (loaded : LoadedSecureExtensionState)
  | trigger (receiptId : ReceiptId)
  | advance (recovery : Nat)
  | settle (receiptId : ReceiptId) (loaded : Option LoadedSecureExtensionState)
      (workflow : HashHex → Option AnchorOperationState)

def Background.step (background : Background) : BackgroundEvent → Background
  | .wake loaded =>
    { background with
      recoveries := background.recoveries ++ [recoverAnchorLifecycles loaded] }
  | .trigger receiptId =>
    { background with
      anchorReceiptFlights :=
        triggerReceiptAnchorLifecycle background.anchorReceiptFlights receiptId }
  | .advance n =>
    match background.recoveries[n]? with
    | none => background
    | some recovery =>
      let next := recovery.advance background.anchorReceiptFlights
      ⟨next.2, background.recoveries.set n next.1⟩
  | .settle receiptId loaded workflow =>
    if receiptId ∈ background.anchorReceiptFlights then
      ⟨background.anchorReceiptFlights.filter (· ≠ receiptId),
        background.recoveries.map
          (·.settle receiptId (runReceiptAnchorLifecycle loaded workflow receiptId))⟩
    else background

/-- The states that a run goes through after the first. -/
def Background.states (background : Background) : List BackgroundEvent → List Background
  | [] => []
  | event :: events => background.step event :: (background.step event).states events

/-- Before anything has happened. -/
def Background.initial : Background := ⟨[], []⟩

/-! ### Isolation -/

/-- The recovery has attempted every one of its receipts, or goes on: its loop is
about to take the next, or awaits a lifecycle that is running. -/
def Recovery.Isolated (recovery : Recovery) (flights : List ReceiptId) : Prop :=
  recovery.attempted = recovery.receiptIds ∨ recovery.status = .ready ∨
    ∃ receiptId ∈ flights, recovery.status = .awaiting receiptId

/-- Every recovery there has been is isolated from failures. -/
def Background.Isolated (background : Background) : Prop :=
  ∀ recovery ∈ background.recoveries, recovery.Isolated background.anchorReceiptFlights

/-- A lifecycle that rejects is awaited by no recovery that has receipts left. -/
def BackgroundEvent.Harmless (background : Background) : BackgroundEvent → Prop
  | .settle receiptId loaded workflow =>
    receiptId ∈ background.anchorReceiptFlights →
      runReceiptAnchorLifecycle loaded workflow receiptId = .rejected →
        ∀ recovery ∈ background.recoveries, recovery.status = .awaiting receiptId →
          recovery.remaining = []
  | _ => True

/-- Every event of the run is harmless where it happens. -/
def Background.AllHarmless (background : Background) : List BackgroundEvent → Prop
  | [] => True
  | event :: events =>
    event.Harmless background ∧ (background.step event).AllHarmless events

/-- What a recovery has attempted and what is left are its receipts; it awaits a
lifecycle that is running, and nothing is left when it has completed. -/
structure Recovery.Sound (recovery : Recovery) (flights : List ReceiptId) : Prop where
  receiptIds : recovery.attempted ++ recovery.remaining = recovery.receiptIds
  running : ∀ receiptId, recovery.status = .awaiting receiptId → receiptId ∈ flights
  completed : recovery.status = .completed → recovery.remaining = []

def Background.Sound (background : Background) : Prop :=
  ∀ recovery ∈ background.recoveries, recovery.Sound background.anchorReceiptFlights

theorem Recovery.Sound.attempted_eq_iff {recovery : Recovery} {flights : List ReceiptId}
    (h : recovery.Sound flights) :
    recovery.attempted = recovery.receiptIds ↔ recovery.remaining = [] := by
  rw [← h.receiptIds]
  exact List.self_eq_append_right

/-- A sound recovery is isolated unless a rejection ended it too early. -/
theorem Recovery.Sound.isolated_iff {recovery : Recovery} {flights : List ReceiptId}
    (h : recovery.Sound flights) :
    recovery.Isolated flights ↔ (recovery.status = .stopped → recovery.remaining = []) := by
  rw [Recovery.Isolated, h.attempted_eq_iff]
  cases hstatus : recovery.status with
  | ready => simp
  | awaiting receiptId =>
    have hrunning := h.running receiptId hstatus
    simp [hrunning]
  | completed =>
    have hnone := h.completed hstatus
    simp [hnone]
  | stopped => simp

@[simp] theorem mem_triggerReceiptAnchorLifecycle {flights : List ReceiptId}
    {receiptId other : ReceiptId} :
    other ∈ triggerReceiptAnchorLifecycle flights receiptId ↔
      other = receiptId ∨ other ∈ flights := by
  unfold triggerReceiptAnchorLifecycle
  split
  · next hmem =>
    constructor
    · exact Or.inr
    · rintro (rfl | hother)
      · exact hmem
      · exact hother
  · exact List.mem_cons

/-- More flights do no harm. -/
theorem Recovery.Sound.mono {recovery : Recovery} {flights others : List ReceiptId}
    (h : recovery.Sound flights) (hsub : ∀ receiptId ∈ flights, receiptId ∈ others) :
    recovery.Sound others :=
  ⟨h.receiptIds, fun receiptId hstatus => hsub receiptId (h.running receiptId hstatus),
    h.completed⟩

theorem Recovery.Sound.advance {recovery : Recovery} {flights : List ReceiptId}
    (h : recovery.Sound flights) :
    (recovery.advance flights).1.Sound (recovery.advance flights).2 := by
  obtain ⟨receiptIds, attempted, remaining, status⟩ := recovery
  obtain ⟨hids, hrunning, hcompleted⟩ := h
  cases status with
  | ready =>
    cases remaining with
    | nil => exact ⟨hids, fun _ hstatus => (nomatch hstatus), fun _ => rfl⟩
    | cons receiptId remaining =>
      refine ⟨?_, fun other hstatus => ?_, fun hstatus => (nomatch hstatus)⟩
      · simpa [Recovery.advance] using hids
      · cases hstatus
        simp [Recovery.advance]
  | awaiting receiptId => exact ⟨hids, hrunning, hcompleted⟩
  | completed => exact ⟨hids, hrunning, hcompleted⟩
  | stopped => exact ⟨hids, hrunning, hcompleted⟩

theorem Recovery.advance_flights {recovery : Recovery} {flights : List ReceiptId} :
    ∀ receiptId ∈ flights, receiptId ∈ (recovery.advance flights).2 := by
  intro receiptId hmem
  unfold Recovery.advance
  split <;> simp [hmem]

/-- A round stops nothing. -/
theorem Recovery.advance_stopped {recovery : Recovery} {flights : List ReceiptId}
    (h : (recovery.advance flights).1.status = .stopped) :
    (recovery.advance flights).1 = recovery := by
  unfold Recovery.advance at h ⊢
  split at h <;> first | rfl | cases h

theorem Recovery.Sound.settle {recovery : Recovery} {flights : List ReceiptId}
    (h : recovery.Sound flights) (receiptId : ReceiptId) (settlement : Settlement) :
    (recovery.settle receiptId settlement).Sound (flights.filter (· ≠ receiptId)) := by
  unfold Recovery.settle
  split
  · cases settlement with
    | fulfilled =>
      exact ⟨h.receiptIds, fun _ hstatus => (nomatch hstatus), fun hstatus => (nomatch hstatus)⟩
    | rejected =>
      exact ⟨h.receiptIds, fun _ hstatus => (nomatch hstatus), fun hstatus => (nomatch hstatus)⟩
  · next hother =>
    refine ⟨h.receiptIds, fun other hstatus => ?_, h.completed⟩
    have hne : other ≠ receiptId := fun hsame => hother (hsame ▸ hstatus)
    exact List.mem_filter.mpr ⟨h.running other hstatus, decide_eq_true hne⟩

/-- What a lifecycle's end stops: the recoveries that await it, if it rejects. -/
theorem Recovery.settle_stopped {recovery : Recovery} {receiptId : ReceiptId}
    {settlement : Settlement} :
    (recovery.settle receiptId settlement).status = .stopped ↔
      recovery.status = .stopped ∨
        recovery.status = .awaiting receiptId ∧ settlement = .rejected := by
  unfold Recovery.settle
  split
  · next hawaiting => cases settlement <;> simp [hawaiting]
  · next hother => simp [hother]

@[simp] theorem Recovery.settle_remaining (recovery : Recovery) (receiptId : ReceiptId)
    (settlement : Settlement) :
    (recovery.settle receiptId settlement).remaining = recovery.remaining := by
  unfold Recovery.settle
  split <;> rfl

theorem Background.Sound.step {background : Background} (h : background.Sound)
    (event : BackgroundEvent) : (background.step event).Sound := by
  intro recovery hrecovery
  cases event with
  | wake loaded =>
    rcases List.mem_append.mp hrecovery with hrecovery | hrecovery
    · exact h recovery hrecovery
    · rw [List.mem_singleton.mp hrecovery]
      exact ⟨rfl, fun _ hstatus => (nomatch hstatus), fun hstatus => (nomatch hstatus)⟩
  | trigger receiptId =>
    exact (h recovery hrecovery).mono fun _ hmem =>
      mem_triggerReceiptAnchorLifecycle.mpr (Or.inr hmem)
  | advance n =>
    unfold Background.step at hrecovery ⊢
    dsimp only at hrecovery ⊢
    cases hget : background.recoveries[n]? with
    | none =>
      rw [hget] at hrecovery
      exact h recovery hrecovery
    | some chosen =>
      rw [hget] at hrecovery
      rcases List.mem_or_eq_of_mem_set hrecovery with hrecovery | rfl
      · exact (h recovery hrecovery).mono Recovery.advance_flights
      · exact (h chosen (List.mem_of_getElem? hget)).advance
  | settle receiptId loaded workflow =>
    unfold Background.step at hrecovery ⊢
    dsimp only at hrecovery ⊢
    split at hrecovery
    · next hmem =>
      rw [if_pos hmem]
      obtain ⟨before, hbefore, rfl⟩ := List.mem_map.mp hrecovery
      exact (h before hbefore).settle receiptId _
    · next hmem =>
      rw [if_neg hmem]
      exact h recovery hrecovery

theorem Background.Sound.isolated_iff {background : Background} (h : background.Sound) :
    background.Isolated ↔
      ∀ recovery ∈ background.recoveries, recovery.status = .stopped → recovery.remaining = [] :=
  forall₂_congr fun recovery hrecovery => (h recovery hrecovery).isolated_iff

/-- **One event.**  It keeps the recoveries isolated exactly if it is harmless. -/
theorem Background.Sound.isolated_step_iff {background : Background} (h : background.Sound)
    (hisolated : background.Isolated) (event : BackgroundEvent) :
    (background.step event).Isolated ↔ event.Harmless background := by
  rw [(h.step event).isolated_iff]
  rw [h.isolated_iff] at hisolated
  cases event with
  | wake loaded =>
    simp only [BackgroundEvent.Harmless, iff_true]
    intro recovery hrecovery hstopped
    rcases List.mem_append.mp hrecovery with hrecovery | hrecovery
    · exact hisolated recovery hrecovery hstopped
    · rw [List.mem_singleton.mp hrecovery] at hstopped
      cases hstopped
  | trigger receiptId =>
    simp only [BackgroundEvent.Harmless, iff_true]
    exact hisolated
  | advance n =>
    simp only [BackgroundEvent.Harmless, iff_true, Background.step]
    cases hget : background.recoveries[n]? with
    | none => exact hisolated
    | some chosen =>
      intro recovery hrecovery hstopped
      rcases List.mem_or_eq_of_mem_set hrecovery with hrecovery | rfl
      · exact hisolated recovery hrecovery hstopped
      · have hsame := Recovery.advance_stopped hstopped
        rw [hsame] at hstopped ⊢
        exact hisolated chosen (List.mem_of_getElem? hget) hstopped
  | settle receiptId loaded workflow =>
    simp only [BackgroundEvent.Harmless, Background.step]
    by_cases hmem : receiptId ∈ background.anchorReceiptFlights
    · rw [if_pos hmem]
      simp only [List.forall_mem_map, Recovery.settle_stopped, Recovery.settle_remaining]
      constructor
      · intro hall _ hrejected recovery hrecovery hawaiting
        exact hall recovery hrecovery (Or.inr ⟨hawaiting, hrejected⟩)
      · rintro hharmless recovery hrecovery (hstopped | ⟨hawaiting, hrejected⟩)
        · exact hisolated recovery hrecovery hstopped
        · exact hharmless hmem hrejected recovery hrecovery hawaiting
    · rw [if_neg hmem]
      simp only [hmem, false_implies, iff_true]
      exact hisolated

theorem Background.Sound.isolated_states_iff {background : Background} (h : background.Sound)
    (hisolated : background.Isolated) (events : List BackgroundEvent) :
    (∀ reached ∈ background.states events, reached.Isolated) ↔ background.AllHarmless events := by
  induction events generalizing background with
  | nil => simp [Background.states, Background.AllHarmless]
  | cons event events ih =>
    have hstep := h.isolated_step_iff hisolated event
    rw [Background.states, Background.AllHarmless, List.forall_mem_cons]
    constructor
    · rintro ⟨hfirst, hrest⟩
      exact ⟨hstep.mp hfirst, (ih (h.step event) hfirst).mp hrest⟩
    · rintro ⟨hharmless, hrest⟩
      have hfirst := hstep.mpr hharmless
      exact ⟨hfirst, (ih (h.step event) hfirst).mpr hrest⟩

/-- **Recovery isolation.**  In every run, each recovery has attempted all of its receipts or goes
on, in every state reached, exactly if no recovery with receipts left ever awaits a lifecycle that
rejects. -/
theorem recoveries_isolated_iff (events : List BackgroundEvent) :
    (∀ reached ∈ Background.initial.states events, reached.Isolated) ↔
      Background.initial.AllHarmless events :=
  Background.Sound.isolated_states_iff (fun _ hrecovery => absurd hrecovery List.not_mem_nil)
    (fun _ hrecovery => absurd hrecovery List.not_mem_nil) events

/-! ### A receipt that always fails -/

/-- The stored receipts 7 and 8, loaded. -/
def sampleLoaded : Option LoadedSecureExtensionState :=
  ((loadSecureExtensionState none 0).run (exec samplePlatform) (sampleWorld [7, 8])).1.toOption

/-- A wake in which the workflows of receipt 7 throw; its recovery takes both of its rounds. -/
def sampleWake (n : Nat) (loaded : LoadedSecureExtensionState) : List BackgroundEvent :=
  [.wake loaded, .advance n, .settle 7 (some loaded) fun _ => none, .advance n]

/-- Receipt 8 is attempted in no wake, as receipt 7 comes first. -/
theorem failing_receipt_blocks_recovery :
    ¬ ∀ events : List BackgroundEvent,
      ∀ reached ∈ Background.initial.states events, reached.Isolated := by
  intro h
  obtain ⟨loaded, hloaded⟩ := Option.isSome_iff_exists.mp
    (show sampleLoaded.isSome = true by decide +kernel)
  have hlast : (Background.initial.states (sampleWake 0 loaded ++ sampleWake 1 loaded)).getLast? =
      some ⟨[], [⟨[7, 8], [7], [8], .stopped⟩, ⟨[7, 8], [7], [8], .stopped⟩]⟩ := by
    have hsample : (sampleLoaded.map fun loaded =>
        (Background.initial.states (sampleWake 0 loaded ++ sampleWake 1 loaded)).getLast?) =
        some (some ⟨[], [⟨[7, 8], [7], [8], .stopped⟩, ⟨[7, 8], [7], [8], .stopped⟩]⟩) := by
      decide +kernel
    rw [hloaded] at hsample
    exact Option.some.inj hsample
  have hisolated := h _ _ (List.mem_of_getLast? hlast) _ List.mem_cons_self
  simp [Recovery.Isolated] at hisolated

end SubmittedIt.Extension
