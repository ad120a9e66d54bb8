/-
SubmittedIt/LifecycleSimulation.lean

The off-chain and the on-chain lifecycle simulate each other.

`validateEventChain` folds over a list of events with local variables; the
registry keeps a record per receipt and a global map of anchored hashes.
`Simulates` relates the two after the same events: the record is the summary
the variables hold, and the anchored hashes are those of the registry the
events started on together with the seen ones.

* `Simulates.accepted` and `Simulates.chainAccepts` compare the checks of one
  iteration with the guards of `anchorEvent` in related states, one for each
  direction of the theorem, and `Simulates.push` keeps the relation.
* The two replays are then related by the library's `replay_simulation`,
  once from the chain to the registry and once back.

Main result: `lifecycle_simulation`.
-/
import SubmittedIt.ContractClient
import SubmittedIt.RegistryInvariant

namespace SubmittedIt.LifecycleSimulation

open Transaction ReceiptCore ContractClient

/-- The chain `chain` and the record of `receiptId` in `s` have seen the same
events since `s₀`, all of receipt `receiptId` and version `version`. -/
structure Simulates (s₀ : Registry) (receiptId : ReceiptId) (version : SchemaVersion)
    (chain : ChainState) (s : Registry) : Prop where
  stage : (s.receipts receiptId).currentStage = registryStage chain.currentStage
  latest : (s.receipts receiptId).latestEventHash = chain.latestEventHash
  count : (s.receipts receiptId).eventCount.toNat = chain.index
  bound : chain.index ∈ stageCounts (registryStage chain.currentStage)
  started : chain.index ≠ 0 →
    chain.receiptId = some receiptId ∧ chain.schemaVersion = some version
  anchored : ∀ h, s.anchoredEvents h = true ↔ s₀.anchoredEvents h = true ∨ h ∈ chain.seenHashes

/-- The events seen were all anchored with the extension key `key`. -/
def KeyIs (receiptId : ReceiptId) (key : Bytes32) (chain : ChainState) (s : Registry) : Prop :=
  chain.index ≠ 0 → (s.receipts receiptId).extensionKeyHash = key

variable {s₀ s : Registry} {receiptId : ReceiptId} {version : SchemaVersion} {key : Bytes32}
  {chain : ChainState}

/-! ### Related states -/

theorem simulates_initial (hfresh : s₀.receipts receiptId = ReceiptState.zero) :
    Simulates s₀ receiptId version ChainState.initial s₀ where
  stage := by rw [hfresh]; rfl
  latest := by rw [hfresh]; rfl
  count := by rw [hfresh]; rfl
  bound := by simp [ChainState.initial, registryStage, stageCounts]
  started := fun h => absurd rfl h
  anchored := by simp [ChainState.initial]

theorem Simulates.stage_none_iff (h : Simulates s₀ receiptId version chain s) :
    (s.receipts receiptId).currentStage = .none ↔ chain.index = 0 := by
  rw [h.stage]
  have hbound := h.bound
  rcases hstage : registryStage chain.currentStage <;>
    simp only [hstage, stageCounts, List.mem_cons, List.not_mem_nil, or_false] at hbound <;>
    simp <;> omega

theorem Simulates.count_lt (h : Simulates s₀ receiptId version chain s) :
    (s.receipts receiptId).eventCount.toNat + 1 < 2 ^ 32 := by
  have hbound := h.bound
  rw [h.count]
  rcases hstage : registryStage chain.currentStage <;>
    simp only [hstage, stageCounts, List.mem_cons, List.not_mem_nil, or_false] at hbound <;>
    omega

/-! ### One event -/

/-- The event belongs to the receipt and schema version. -/
structure EventOf (receiptId : ReceiptId) (version : SchemaVersion)
    (event : LifecycleEventEnvelope) : Prop where
  receiptId : event.core.receiptId = receiptId
  version : event.core.schemaVersion = version

variable {Raw : Type} {keccak : Keccak} {event : LifecycleEventEnvelope} {input : AnchorInput Raw}

/-- What the registry asks of a call beyond what the chain asks of an event. -/
structure Suits (s₀ : Registry) (key : Bytes32) (input : AnchorInput Raw)
    (event : LifecycleEventEnvelope) : Prop where
  receiptId_ne_zero : event.core.receiptId ≠ 0
  eventHash_ne_zero : event.eventHash ≠ 0
  key_ne_zero : key ≠ 0
  extensionKey : input.extensionKeyHash = key
  authority : input.authorityKeyHash ≠ 0 ↔ event.core.stage.isAuthority = true
  fresh : s₀.anchoredEvents event.eventHash = false
  timestamp_lt : input.timestamp.toNat < 2 ^ 64

/-- **In related states the registry accepts the call of every event the
chain accepts.** -/
theorem Simulates.accepted (h : Simulates s₀ receiptId version chain s)
    (hkey : KeyIs receiptId key chain s) (hof : EventOf receiptId version event) (hsuits : Suits s₀ key input event)
    (hacc : ChainAccepts keccak chain event) : Accepted s (anchorCall input event) := by
  have hid : (anchorCall input event).receiptId = receiptId := hof.receiptId
  refine ⟨hsuits.receiptId_ne_zero, hsuits.eventHash_ne_zero, ?_, ?_, ?_, ?_,
    hsuits.timestamp_lt, ?_⟩
  · rw [show (anchorCall input event).extensionKeyHash = key from hsuits.extensionKey]
    exact hsuits.key_ne_zero
  · rw [← Bool.not_eq_true, h.anchored]
    rintro (hold | hseen)
    · exact Bool.false_ne_true (hsuits.fresh.symm.trans hold)
    · exact hacc.unseen hseen
  · rw [hid]
    refine ⟨?_, ?_, ?_⟩
    · rw [h.stage]
      exact (stageStep_registryStage _ _).mpr hacc.step
    · intro hnone
      exact hacc.first (h.stage_none_iff.mp hnone)
    · intro hsome
      have hindex : chain.index ≠ 0 := fun h0 => hsome (h.stage_none_iff.mpr h0)
      obtain ⟨hne, hprev, -, -⟩ := hacc.later hindex
      refine ⟨hne, hprev.trans h.latest.symm, ?_⟩
      exact hsuits.extensionKey.trans (hkey hindex).symm
  · rw [show (anchorCall input event).stage = registryStage (.entered event.core.stage) from rfl,
      isTerminal_registryStage]
    exact hsuits.authority
  · rw [hid]
    exact h.count_lt

/-- **In related states the chain accepts every correctly hashed event whose
call the registry accepts.** -/
theorem Simulates.chainAccepts (h : Simulates s₀ receiptId version chain s)
    (hof : EventOf receiptId version event) (hhash : event.eventHash = hashEventCore keccak event.core)
    (hacc : Accepted s (anchorCall input event)) : ChainAccepts keccak chain event := by
  have hprog := hacc.progresses
  rw [show (anchorCall input event).receiptId = receiptId from hof.receiptId] at hprog
  refine ⟨hhash, ?_, ?_, ?_, ?_⟩
  · intro hseen
    have hanchored := (h.anchored event.eventHash).mpr (.inr hseen)
    exact Bool.false_ne_true (hacc.fresh.symm.trans hanchored)
  · intro hindex
    exact hprog.first (h.stage_none_iff.mpr hindex)
  · intro hindex
    obtain ⟨hne, hprev, -⟩ := hprog.later fun hnone => hindex (h.stage_none_iff.mp hnone)
    obtain ⟨hid, hversion⟩ := h.started hindex
    exact ⟨hne, hprev.trans h.latest, by rw [hof.receiptId, hid], by rw [hof.version, hversion]⟩
  · rw [← stageStep_registryStage, ← h.stage]
    exact hprog.step

/-- The relation is kept when both sides take the event. -/
theorem Simulates.push (h : Simulates s₀ receiptId version chain s)
    (hof : EventOf receiptId version event) (hacc : ChainAccepts keccak chain event)
    (hcall : Accepted s (anchorCall input event)) :
    Simulates s₀ receiptId version (chain.push event) (s.append (anchorCall input event)) := by
  have hid : (anchorCall input event).receiptId = receiptId := hof.receiptId
  have hself := append_receipts_self s (anchorCall input event)
  rw [hid] at hself
  refine ⟨?_, ?_, ?_, ?_, ?_, ?_⟩
  · rw [hself]
    rfl
  · rw [hself]
    rfl
  · rw [hself]
    change (s.nextCount (anchorCall input event)).toNat = chain.index + 1
    rw [hcall.nextCount_toNat, hid, h.count]
  · exact stageCounts_step ((stageStep_registryStage _ _).mpr hacc.step) h.bound
  · intro _
    by_cases hindex : chain.index = 0
    · exact ⟨by simp [ChainState.push, hindex, hof.receiptId],
        by simp [ChainState.push, hindex, hof.version]⟩
    · obtain ⟨hrid, hversion⟩ := h.started hindex
      exact ⟨by simp [ChainState.push, hindex, hrid],
        by simp [ChainState.push, hindex, hversion]⟩
  · intro x
    rw [append_anchoredEvents, h.anchored]
    simp only [ChainState.push, List.mem_cons]
    exact or_left_comm

theorem KeyIs.push (hof : EventOf receiptId version event)
    (hcall : Accepted s (anchorCall input event)) (hinput : input.extensionKeyHash = key) :
    KeyIs receiptId key (chain.push event) (s.append (anchorCall input event)) := by
  intro _
  have hself := append_receipts_self s (anchorCall input event)
  rw [show (anchorCall input event).receiptId = receiptId from hof.receiptId] at hself
  have hprog := hcall.progresses
  rw [show (anchorCall input event).receiptId = receiptId from hof.receiptId] at hprog
  rw [hself, nextReceipt_extensionKeyHash hprog]
  exact hinput

/-! ### What an accepted chain has in common -/

variable {decode : Decoder Raw} {chain' : ChainState} {items : List Raw}

/-- Once started, a chain keeps its receipt and version. -/
theorem replay_receiptId (hindex : chain.index ≠ 0)
    (hrun : replay (chainStep decode keccak) chain items = .ok chain') :
    chain'.receiptId = chain.receiptId ∧ chain'.schemaVersion = chain.schemaVersion := by
  induction items generalizing chain with
  | nil =>
    obtain rfl : chain = chain' := by simpa using hrun
    exact ⟨rfl, rfl⟩
  | cons item items ih =>
    obtain ⟨chain₁, hstep, hrest⟩ := replay_cons_ok.mp hrun
    obtain ⟨event, -, -, rfl⟩ := chainStep_eq_ok.mp hstep
    obtain ⟨hid, hversion⟩ := ih (by simp [ChainState.push]) hrest
    exact ⟨by rw [hid]; simp [ChainState.push, hindex],
      by rw [hversion]; simp [ChainState.push, hindex]⟩

/-- The events of an accepted chain are of the receipt and version it ends
with. -/
theorem replay_eventOf (hrun : replay (chainStep decode keccak) chain items = .ok chain')
    (hid : chain'.receiptId = some receiptId) (hversion : chain'.schemaVersion = some version) :
    ∀ item ∈ items, ∃ event, decode item = .ok event ∧ EventOf receiptId version event := by
  induction items generalizing chain with
  | nil => simp
  | cons item items ih =>
    obtain ⟨chain₁, hstep, hrest⟩ := replay_cons_ok.mp hrun
    obtain ⟨event, hdecode, hacc, rfl⟩ := chainStep_eq_ok.mp hstep
    have hpush : (chain.push event).receiptId = some event.core.receiptId ∧
        (chain.push event).schemaVersion = some event.core.schemaVersion := by
      by_cases hindex : chain.index = 0
      · simp [ChainState.push, hindex]
      · obtain ⟨-, -, hrid, hver⟩ := hacc.later hindex
        simp [ChainState.push, hindex, hrid, hver]
    obtain ⟨hid', hversion'⟩ := replay_receiptId (by simp [ChainState.push]) hrest
    rw [hid, hpush.1] at hid'
    rw [hversion, hpush.2] at hversion'
    intro item' hitem'
    rcases List.mem_cons.mp hitem' with rfl | hmem
    · exact ⟨event, hdecode, ⟨(Option.some.inj hid').symm, (Option.some.inj hversion').symm⟩⟩
    · exact ih hrest item' hmem

/-- A nonempty accepted chain ends with its last event. -/
theorem replay_last {item : Raw}
    (hrun : replay (chainStep decode keccak) chain (items ++ [item]) = .ok chain') :
    ∃ event, decode item = .ok event ∧ chain'.currentStage = .entered event.core.stage ∧
      chain'.latestEventHash = event.eventHash ∧ chain'.schemaVersion ≠ none := by
  induction items generalizing chain with
  | nil =>
    obtain ⟨chain₁, hstep, hrest⟩ := replay_cons_ok.mp hrun
    obtain rfl : chain₁ = chain' := by simpa using hrest
    obtain ⟨event, hdecode, hacc, rfl⟩ := chainStep_eq_ok.mp hstep
    refine ⟨event, hdecode, rfl, rfl, ?_⟩
    by_cases hindex : chain.index = 0
    · simp [ChainState.push, hindex]
    · obtain ⟨-, -, -, hver⟩ := hacc.later hindex
      simp [ChainState.push, hindex, ← hver]
  | cons first items ih =>
    obtain ⟨chain₁, -, hrest⟩ := replay_cons_ok.mp hrun
    exact ih hrest

theorem replay_index (hrun : replay (chainStep decode keccak) chain items = .ok chain') :
    chain'.index = chain.index + items.length := by
  induction items generalizing chain with
  | nil =>
    obtain rfl : chain = chain' := by simpa using hrun
    rfl
  | cons item items ih =>
    obtain ⟨chain₁, hstep, hrest⟩ := replay_cons_ok.mp hrun
    obtain ⟨event, -, -, rfl⟩ := chainStep_eq_ok.mp hstep
    rw [ih hrest, List.length_cons]
    simp only [ChainState.push]
    omega

/-! ### The two replays -/

variable {checksum : Address → BitVec 40} {target : DeploymentTarget}
  {inputs : List (AnchorInput Raw)} {s' : Registry}

/-- From the chain to the registry. -/
theorem replay_submit (htarget : target.Valid checksum) (hsim : Simulates s₀ receiptId version chain s)
    (hkey : KeyIs receiptId key chain s)
    (hinputs : ∀ input ∈ inputs, ∃ event, decode input.item = .ok event ∧
      EventOf receiptId version event ∧ Suits s₀ key input event)
    (hrun : replay (chainStep decode keccak) chain (inputs.map (·.item)) = .ok chain') :
    ∃ s', replay (submit decode keccak checksum target) s inputs = .ok s' ∧
      Simulates s₀ receiptId version chain' s' := by
  rw [replay_map] at hrun
  have hstep : ∀ chain s input chain₁,
      (Simulates s₀ receiptId version chain s ∧ KeyIs receiptId key chain s) →
      (∃ event, decode input.item = .ok event ∧ EventOf receiptId version event ∧
        Suits s₀ key input event) →
      chainStep decode keccak chain input.item = .ok chain₁ →
      ∃ s₁, submit decode keccak checksum target s input = .ok s₁ ∧
        (Simulates s₀ receiptId version chain₁ s₁ ∧ KeyIs receiptId key chain₁ s₁) := by
    rintro chain s input chain₁ ⟨hsim, hkey⟩ ⟨event, hdecode, hof, hsuits⟩ hchain
    obtain ⟨event', hdecode', hacc, rfl⟩ := chainStep_eq_ok.mp hchain
    obtain rfl : event = event' := Except.ok.inj (hdecode.symm.trans hdecode')
    have hcall := hsim.accepted hkey hof hsuits hacc
    exact ⟨_, submit_eq_ok.mpr ⟨event, hdecode, hacc.hashed, htarget, hcall, rfl⟩,
      hsim.push hof hacc hcall, KeyIs.push hof hcall hsuits.extensionKey⟩
  obtain ⟨s', hs', hsim', -⟩ := replay_simulation hstep ⟨hsim, hkey⟩ hinputs hrun
  exact ⟨s', hs', hsim'⟩

/-- From the registry to the chain. -/
theorem replay_chain (hsim : Simulates s₀ receiptId version chain s)
    (hinputs : ∀ input ∈ inputs, ∃ event, decode input.item = .ok event ∧
      event.eventHash = hashEventCore keccak event.core ∧ EventOf receiptId version event)
    (hrun : replay (submit decode keccak checksum target) s inputs = .ok s') :
    ∃ chain', replay (chainStep decode keccak) chain (inputs.map (·.item)) = .ok chain' ∧
      Simulates s₀ receiptId version chain' s' := by
  have hstep : ∀ s chain input s₁, Simulates s₀ receiptId version chain s →
      (∃ event, decode input.item = .ok event ∧
        event.eventHash = hashEventCore keccak event.core ∧ EventOf receiptId version event) →
      submit decode keccak checksum target s input = .ok s₁ →
      ∃ chain₁, chainStep decode keccak chain input.item = .ok chain₁ ∧
        Simulates s₀ receiptId version chain₁ s₁ := by
    rintro s chain input s₁ hsim ⟨event, hdecode, hhash, hof⟩ hsubmit
    obtain ⟨event', hdecode', -, -, hcall, rfl⟩ := submit_eq_ok.mp hsubmit
    obtain rfl : event = event' := Except.ok.inj (hdecode.symm.trans hdecode')
    have hacc := hsim.chainAccepts hof hhash hcall
    exact ⟨_, chainStep_eq_ok.mpr ⟨event, hdecode, hacc, rfl⟩, hsim.push hof hacc hcall⟩
  rw [replay_map]
  exact replay_simulation hstep hsim hinputs hrun

/-! ### The theorem -/

/-- **The two lifecycles simulate each other.**  A nonempty chain that
`validateEventChain` accepts, submitted event by event to a registry that
knows neither its receipt nor its hashes, is accepted call by call and leaves
the registry at the chain's last stage, last hash and length.  Conversely
correctly hashed events of one receipt and one version whose submissions are
accepted from the empty record are a chain that `validateEventChain`
accepts. -/
theorem lifecycle_simulation (decode : Decoder Raw) (keccak : Keccak)
    (checksum : Address → BitVec 40) (target : DeploymentTarget)
    (inputs : List (AnchorInput Raw)) (s : Registry) (receiptId : ReceiptId) :
    (∀ result key, target.Valid checksum → inputs ≠ [] →
      validateEventChain decode keccak (inputs.map (·.item)) = .ok result →
      result.receiptId = some receiptId → receiptId ≠ 0 → key ≠ 0 →
      s.receipts receiptId = ReceiptState.zero →
      (∀ input ∈ inputs, ∀ event, decode input.item = .ok event →
        event.eventHash ≠ 0 ∧ s.anchoredEvents event.eventHash = false ∧
        input.extensionKeyHash = key ∧
        (input.authorityKeyHash ≠ 0 ↔ event.core.stage.isAuthority = true) ∧
        input.timestamp.toNat < 2 ^ 64) →
      ∃ s' last event, replay (submit decode keccak checksum target) s inputs = .ok s' ∧
        inputs.getLast? = some last ∧ decode last.item = .ok event ∧
        (s'.receipts receiptId).currentStage = registryStage (.entered event.core.stage) ∧
        result.currentStage = .entered event.core.stage ∧
        (s'.receipts receiptId).latestEventHash = event.eventHash ∧
        result.latestEventHash = event.eventHash ∧
        (s'.receipts receiptId).eventCount.toNat = inputs.length) ∧
    (∀ version s', s.receipts receiptId = ReceiptState.zero →
      (∀ input ∈ inputs, ∃ event, decode input.item = .ok event ∧
        event.eventHash = hashEventCore keccak event.core ∧
        event.core.receiptId = receiptId ∧ event.core.schemaVersion = version) →
      replay (submit decode keccak checksum target) s inputs = .ok s' →
      ∃ result, validateEventChain decode keccak (inputs.map (·.item)) = .ok result) := by
  constructor
  · intro result key htarget hne haccepted hid hid_ne hkey_ne hfresh hinputs
    obtain ⟨chain, hrun, rfl⟩ := validateEventChain_eq_ok.mp haccepted
    obtain ⟨front, last, rfl⟩ := (List.eq_nil_or_concat inputs).resolve_left hne
    have hlast := hrun
    rw [List.concat_eq_append, List.map_append, List.map_singleton] at hlast
    obtain ⟨event, hdecode, hstage, hhash, hver⟩ := replay_last hlast
    obtain ⟨version, hversion⟩ := Option.ne_none_iff_exists'.mp hver
    have hof := replay_eventOf hrun hid hversion
    have hsuits : ∀ input ∈ front.concat last, ∃ event, decode input.item = .ok event ∧
        EventOf receiptId version event ∧ Suits s key input event := by
      intro input hmem
      obtain ⟨event, hdecode, hof⟩ := hof input.item (List.mem_map_of_mem hmem)
      obtain ⟨hhash, hnew, hkey, hauth, htime⟩ := hinputs input hmem event hdecode
      refine ⟨event, hdecode, hof, ⟨?_, hhash, hkey_ne, hkey, hauth, hnew, htime⟩⟩
      rw [hof.receiptId]
      exact hid_ne
    obtain ⟨s', hs', hsim⟩ := replay_submit htarget (simulates_initial hfresh)
      (fun h => absurd rfl h) hsuits hrun
    refine ⟨s', last, event, hs', by simp, hdecode, ?_, hstage, ?_, hhash, ?_⟩
    · rw [hsim.stage, hstage]
    · rw [hsim.latest, hhash]
    · rw [hsim.count, replay_index hrun]
      simp [ChainState.initial]
  · intro version s' hfresh hinputs hrun
    have hevents : ∀ input ∈ inputs, ∃ event, decode input.item = .ok event ∧
        event.eventHash = hashEventCore keccak event.core ∧ EventOf receiptId version event := by
      intro input hmem
      obtain ⟨event, hdecode, hhash, hid, hversion⟩ := hinputs input hmem
      exact ⟨event, hdecode, hhash, ⟨hid, hversion⟩⟩
    obtain ⟨chain, hchain, -⟩ := replay_chain (simulates_initial hfresh) hevents hrun
    exact ⟨_, validateEventChain_eq_ok.mpr ⟨chain, hchain, rfl⟩⟩

/-! ### A chain of three events -/

/-- A hash that tells the stages of a receipt apart. -/
def stageKeccak : Keccak
  | .event core => BitVec.ofNat 256 (toContractReceiptStage core.stage)
  | .extensionSignature _ | .authoritySignature _ => 0

def stagePage : Url := ⟨⟨true, ascii "a.example", none⟩, ascii "/", none⟩

theorem stageAttempt_consent :
    (∃ f ∈ ([] : List CapturedField), f.isFile = true) → false = true := by
  rintro ⟨f, hf, -⟩
  exact absurd hf List.not_mem_nil

theorem stageAttempt_disjoint : ∀ f ∈ ([] : List CapturedField),
    ∀ g ∈ ([] : List ExcludedFieldDescriptor), f.fieldId ≠ g.fieldId := by
  intro f hf
  exact absurd hf List.not_mem_nil

def stageAttempt : AttemptedBody where
  capturedFields := []
  excludedFields := []
  formDescriptor := ⟨stagePage, .other, none, none, ascii "POST"⟩
  origin := ⟨stagePage.origin, stagePage, rfl⟩
  fileMetadataIncluded := false
  submissionAttempt := ⟨.other, ascii "POST", stagePage, .formSubmit⟩
  captured_nodup := List.nodup_nil
  excluded_nodup := List.nodup_nil
  consent := stageAttempt_consent
  disjoint := stageAttempt_disjoint

theorem stageEvent_unsigned {core : LifecycleEventCore} :
    (none : Option SignatureEnvelope).isSome = true → core.stage.isAuthority = true := by
  intro h
  cases h

/-- An event of receipt 7. -/
def stageEvent (previousEventHash : HashHex) (body : EventBody) : LifecycleEventEnvelope :=
  let core : LifecycleEventCore := ⟨0, previousEventHash, 7, CURRENT_SCHEMA_VERSION, body⟩
  { authoritySignature := none
    chainAnchor := none
    core
    eventHash := stageKeccak (.event core)
    extensionSignature := none
    authority_stage := stageEvent_unsigned }

/-- An attempt that the site confirms and the authority accepts. -/
def stageChain : List LifecycleEventEnvelope :=
  [stageEvent ZERO_HASH (.attempted stageAttempt),
    stageEvent 1 (.siteConfirmed ⟨.confirmationPage, none, stagePage, none⟩),
    stageEvent 2 (.authorityAccepted ⟨0, ascii "authority", none, none⟩)]

def stageInputs : List (AnchorInput LifecycleEventEnvelope) :=
  stageChain.map fun event =>
    ⟨event, 5, if event.core.stage.isAuthority then 6 else 0, 2, 9⟩

/-- The chain is anchored event by event, and what was anchored is a chain. -/
theorem lifecycle_simulation_stageInputs :
    ∃ s', replay (submit Except.ok stageKeccak (fun _ => 0) ⟨.hex 1 0, 10143⟩) Registry.empty
        stageInputs = .ok s' ∧
      (s'.receipts 7).currentStage = .authorityAccepted ∧ (s'.receipts 7).latestEventHash = 3 ∧
      (s'.receipts 7).eventCount.toNat = 3 ∧
      ∃ result, validateEventChain Except.ok stageKeccak (stageInputs.map (·.item)) =
        .ok result := by
  have haccepted : validateEventChain (Except.ok : Decoder LifecycleEventEnvelope) stageKeccak
      (stageInputs.map (·.item)) = .ok ⟨.entered .authorityAccepted, 3, some 7⟩ := by
    decide +kernel
  have hsuits : ∀ input ∈ stageInputs, input.item.eventHash ≠ 0 ∧
      Registry.empty.anchoredEvents input.item.eventHash = false ∧ input.extensionKeyHash = 5 ∧
      (input.authorityKeyHash ≠ 0 ↔ input.item.core.stage.isAuthority = true) ∧
      input.timestamp.toNat < 2 ^ 64 := by
    decide +kernel
  have hevents : ∀ input ∈ stageInputs,
      input.item.eventHash = hashEventCore stageKeccak input.item.core ∧
        input.item.core.receiptId = 7 ∧
        input.item.core.schemaVersion = CURRENT_SCHEMA_VERSION := by
    decide +kernel
  obtain ⟨hforward, hbackward⟩ := lifecycle_simulation (Except.ok : Decoder LifecycleEventEnvelope)
    stageKeccak (fun _ => 0) ⟨.hex 1 0, 10143⟩ stageInputs Registry.empty 7
  obtain ⟨s', last, event, hrun, -, -, hstage, hresult, hhash, hlatest, hcount⟩ :=
    hforward _ 5 ⟨by decide, by decide, rfl⟩ (by decide) haccepted rfl (by decide) (by decide) rfl
      fun input hinput event hevent => Except.ok.inj hevent ▸ hsuits input hinput
  refine ⟨s', hrun, ?_, hhash.trans hlatest.symm, hcount, ?_⟩
  · rw [hstage, ← hresult]
    rfl
  · exact hbackward CURRENT_SCHEMA_VERSION s' rfl
      (fun input hinput => ⟨input.item, rfl, hevents input hinput⟩) hrun

end SubmittedIt.LifecycleSimulation
