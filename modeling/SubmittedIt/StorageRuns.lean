/-
SubmittedIt/StorageRuns.lean

Runs of the storage functions.

A run calls the functions one after the other from an empty store, each
successfully.  `StorageCommand.receipts` says in terms of the receipts alone
what a call does: an import puts its receipt first, a deletion drops one, a
save replaces all, the anchor functions change none.

Main result: `storage_run`.  After every run a load succeeds and returns the
receipts that the calls have made, each anchor operation names an event and
the stage of an event of its bundle, the keys and blobs are exactly those that
the index names, and there is room for the anchor operation of every event.
-/
import SubmittedIt.StorageSettling

namespace SubmittedIt.Extension

open Transaction ReceiptCore

variable {P : StoragePlatform}

/-! ### Calls -/

/-- A call of a storage function. -/
inductive StorageCommand
  | load (ensure : Option Bool) (now : Timestamp)
  | save (working : ExtensionLocalState) (now : Timestamp)
  | importBundle (bundleInput : Option PrivateReceiptBundle) (replaceDuplicate : Bool)
      (now : Timestamp)
  | delete (receiptId : ReceiptId) (now : Timestamp)
  | deleteAll (now : Timestamp)
  | ensureAnchor (input : EnsureAnchorOperation)
  | saveAnchor (operation : AnchorOperation)
  | storeAnchor (input : VerifiedChainAnchor) (now : Timestamp)

namespace StorageCommand

/-- The function that is called, whose result is dropped. -/
def prog : StorageCommand → StorageProg P Unit
  | load ensure now => do
    let _ ← loadSecureExtensionState ensure now
    pure ()
  | save working now => do
    let _ ← saveSecureExtensionState working now
    pure ()
  | importBundle bundleInput replaceDuplicate now => do
    let _ ← storeImportedReceiptBundle bundleInput replaceDuplicate now
    pure ()
  | delete receiptId now => do
    let _ ← deleteSecureReceipt receiptId now
    pure ()
  | deleteAll now => do
    let _ ← deleteAllSecureExtensionData now
    pure ()
  | ensureAnchor input => do
    let _ ← ensureAnchorOperation input
    pure ()
  | saveAnchor operation => do
    let _ ← saveAnchorOperation operation
    pure ()
  | storeAnchor input now => do
    let _ ← storeVerifiedChainAnchor input now
    pure ()

/-- What a call does to the receipts. -/
def receipts : StorageCommand → List StoredAttemptReceipt → List StoredAttemptReceipt
  | save working _, _ => working.receiptIndex
  | importBundle (some given) _ _, stored =>
    supersedeContext given.operational :: stored.filter fun receipt =>
      receipt.receiptId ≠ given.operational.receiptId
  | delete receiptId _, stored => stored.filter fun receipt => receipt.receiptId ≠ receiptId
  | deleteAll _, _ => []
  | importBundle none _ _, stored | load _ _, stored | ensureAnchor _, stored
  | saveAnchor _, stored | storeAnchor _ _, stored => stored

end StorageCommand

/-- The calls one after the other, up to one that fails. -/
def runCommands : List StorageCommand → StorageProg P Unit
  | [] => pure ()
  | command :: commands => do
    command.prog
    runCommands commands

/-- What a sequence of calls does to the receipts. -/
def receiptsAfter (commands : List StorageCommand) (stored : List StoredAttemptReceipt) :
    List StoredAttemptReceipt :=
  commands.foldl (fun stored command => command.receipts stored) stored

/-! ### One call -/

theorem Bundles.receipts_filter {vault : Vault P} {entries : List EncryptedReceiptIndexEntry}
    {bundles : Bundles} (h : OpensAll vault entries bundles) (receiptId : ReceiptId) :
    Bundles.receipts (bundles.filter fun named => named.1 ≠ receiptId) =
      bundles.receipts.filter fun receipt => receipt.receiptId ≠ receiptId := by
  unfold Bundles.receipts
  rw [List.filter_map]
  refine congrArg _ (List.filter_congr fun named hnamed => ?_)
  show _ = decide (named.2.operational.receiptId ≠ receiptId)
  rw [(h.receiptIds named hnamed).1]

/-- Each receipt is there once. -/
theorem OpensAll.nodup {vault : Vault P} {entries : List EncryptedReceiptIndexEntry}
    {bundles : Bundles} (h : OpensAll vault entries bundles)
    (hnodup : (entries.map (·.receiptId)).Nodup) : (bundles.map (·.1)).Nodup := by
  have hsame : bundles.map (·.1) = entries.map (·.receiptId) := by
    induction h with
    | nil => rfl
    | cons hfirst _ ih =>
      rw [List.map_cons, List.nodup_cons] at hnodup
      exact congrArg₂ List.cons hfirst.1 (ih hnodup.2)
  rw [hsame]
  exact hnodup

/-- What is stored, once loaded. -/
theorem Stocked.settled {w : World P} {bundles : Bundles} {operations : List AnchorOperation}
    (h : Stocked w bundles operations) : ∃ loaded s, Settled (P := P) s loaded ∧
      loaded.bundles = bundles ∧ loaded.persistent.anchorOperations = operations := by
  obtain ⟨loaded, s, -, hs⟩ := h.load none 0
  exact ⟨loaded, s, hs⟩

/-- **A call that succeeds** settles the store and does to the receipts what
its description says. -/
theorem StorageCommand.settled {command : StorageCommand} {w t : World P} {bundles : Bundles}
    {operations : List AnchorOperation} (hw : Stocked w bundles operations)
    (h : command.prog.run (exec P) w = (.ok (), t)) :
    ∃ loaded, Settled t loaded ∧
      loaded.bundles.receipts = command.receipts bundles.receipts := by
  cases command with
  | load ensure now =>
    obtain ⟨loaded, s, hrun, h⟩ := Prog.run_bind_eq_ok h
    cases h
    obtain ⟨hs, rfl, -⟩ := load_settled hw hrun
    exact ⟨loaded, hs, rfl⟩
  | save working now =>
    obtain ⟨loaded, s, hrun, h⟩ := Prog.run_bind_eq_ok h
    cases h
    obtain ⟨hs, hsaved, -⟩ := save_settled hw hrun
    exact ⟨loaded, hs, hsaved.receipts⟩
  | importBundle bundleInput replaceDuplicate now =>
    obtain ⟨⟨bundle, loaded⟩, s, hrun, h⟩ := Prog.run_bind_eq_ok h
    cases h
    obtain ⟨⟨publicKey, himported⟩, hs, hbundles, -⟩ := import_settled hw hrun
    obtain ⟨given, rfl, -, hoperational, -, -⟩ := imported_ok himported
    obtain ⟨before, s₀, hbefore, rfl, -⟩ := hw.settled
    refine ⟨loaded, hs, ?_⟩
    rw [hbundles]
    show bundle.operational :: Bundles.receipts _ = _
    rw [Bundles.receipts_filter hbefore.readable.opened.bundles, hoperational]
    rfl
  | delete receiptId now =>
    obtain ⟨loaded, s, hrun, h⟩ := Prog.run_bind_eq_ok h
    cases h
    obtain ⟨hs, hsaved, -⟩ := delete_settled hw hrun
    exact ⟨loaded, hs, hsaved.receipts⟩
  | deleteAll now =>
    obtain ⟨loaded, s, hrun, h⟩ := Prog.run_bind_eq_ok h
    cases h
    obtain ⟨hs, hbundles, -⟩ := deleteAll_settled hrun
    refine ⟨loaded, hs, ?_⟩
    rw [hbundles]
    rfl
  | ensureAnchor input =>
    obtain ⟨operation, s, hrun, h⟩ := Prog.run_bind_eq_ok h
    cases h
    obtain ⟨loaded, hs, rfl, -⟩ := ensureAnchor_settled hw hrun
    exact ⟨loaded, hs, rfl⟩
  | saveAnchor operation =>
    obtain ⟨result, s, hrun, h⟩ := Prog.run_bind_eq_ok h
    cases h
    obtain ⟨loaded, hs, rfl, -⟩ := saveAnchor_settled hw hrun
    exact ⟨loaded, hs, rfl⟩
  | storeAnchor input now =>
    obtain ⟨loaded, s, hrun, h⟩ := Prog.run_bind_eq_ok h
    cases h
    obtain ⟨operation, bundle, anchored, hconfirms, hs, hbundles, -⟩ := storeAnchor_settled hw hrun
    obtain ⟨before, s₀, hbefore, rfl, -⟩ := hw.settled
    refine ⟨loaded, hs, ?_⟩
    rw [hbundles]
    refine Bundles.set_receipts fun named hnamed hid => ?_
    have hnodup := hbefore.readable.opened.bundles.nodup hbefore.readable.valid.receiptIds
    have hsame : named = (operation.receiptId, bundle) :=
      List.inj_on_of_nodup_map hnodup hnamed (Bundles.get_mem hconfirms.stored) hid
    rw [hsame]
    exact (attach_ok hconfirms.attached).2.1.symm

/-! ### Room for anchor operations -/

theorem StoredAttemptReceipt.eventHashes_length (receipt : StoredAttemptReceipt) :
    receipt.eventHashes.length ≤ 2 := by
  unfold StoredAttemptReceipt.eventHashes
  rcases receipt.siteConfirmationEvent with - | event
  · exact one_le_two
  · exact le_rfl

/-- An operation that matches a bundle names one of its events. -/
theorem exists_of_operationMatches {bundle : Option PrivateReceiptBundle}
    {operation : AnchorOperation} (h : operationMatches bundle operation = true) :
    ∃ found event, bundle = some found ∧ event ∈ found.receipt.events ∧
      event.eventHash = operation.eventHash ∧
        event.core.stage = operation.stage.toEventStage := by
  obtain ⟨event, hevent, hstage⟩ := (Option.any_eq_true _ _).mp h
  obtain ⟨found, rfl, hfound⟩ := Option.bind_eq_some_iff.mp hevent
  have hhash := List.find?_some hfound
  exact ⟨found, event, rfl, List.mem_of_find?_eq_some hfound, of_decide_eq_true hhash,
    of_decide_eq_true hstage⟩

/-- The hashes of the events of some bundles. -/
def Bundles.eventHashes (bundles : Bundles) : List HashHex :=
  bundles.flatMap fun named => named.2.receipt.eventHashes

theorem mem_eventHashes {bundles : Bundles} {operation : AnchorOperation}
    (h : operationMatches (bundles.get operation.receiptId) operation = true) :
    operation.eventHash ∈ bundles.eventHashes := by
  obtain ⟨bundle, event, hbundle, hevent, hhash, -⟩ := exists_of_operationMatches h
  refine List.mem_flatMap.mpr ⟨_, Bundles.get_mem hbundle, ?_⟩
  rw [← hhash]
  exact List.mem_map_of_mem hevent

theorem OpensAll.eventHashes_length {vault : Vault P} {entries : List EncryptedReceiptIndexEntry}
    {bundles : Bundles} (h : OpensAll vault entries bundles) :
    bundles.eventHashes.length ≤ 2 * entries.length := by
  induction h with
  | nil => exact le_rfl
  | @cons entry named entries bundles hfirst _ ih =>
    have hlength : named.2.receipt.eventHashes.length ≤ 2 := by
      rw [hfirst.2.verified.eventHashes]
      exact StoredAttemptReceipt.eventHashes_length _
    have hcons : Bundles.eventHashes (named :: bundles) =
        named.2.receipt.eventHashes ++ Bundles.eventHashes bundles := List.flatMap_cons ..
    rw [hcons, List.length_append, List.length_cons]
    omega

/-- **There is room for the anchor operation of every event.** -/
theorem Settled.room {s : World P} {loaded : LoadedSecureExtensionState} (h : Settled s loaded)
    {operation : AnchorOperation}
    (hmatches : operationMatches (loaded.bundles.get operation.receiptId) operation = true)
    (hnew : ∀ candidate ∈ loaded.persistent.anchorOperations,
      candidate.eventHash ≠ operation.eventHash) :
    loaded.persistent.anchorOperations.length < MAX_ANCHOR_OPERATIONS := by
  have hnodup : ((operation :: loaded.persistent.anchorOperations).map (·.eventHash)).Nodup := by
    rw [List.map_cons, List.nodup_cons]
    refine ⟨fun hmem => ?_, h.readable.valid.eventHashes⟩
    obtain ⟨candidate, hcandidate, hhash⟩ := List.mem_map.mp hmem
    exact hnew candidate hcandidate hhash
  have hsubset : (operation :: loaded.persistent.anchorOperations).map (·.eventHash) ⊆
      loaded.bundles.eventHashes := by
    intro hash hhash
    obtain ⟨candidate, hcandidate, rfl⟩ := List.mem_map.mp hhash
    rcases List.mem_cons.mp hcandidate with rfl | hcandidate
    · exact mem_eventHashes hmatches
    · exact mem_eventHashes (h.readable.opened.operations candidate hcandidate)
  have hlength := (hnodup.subperm hsubset).length_le
  rw [List.length_map, List.length_cons] at hlength
  have hevents := h.readable.opened.bundles.eventHashes_length
  have hroom := h.readable.valid.room
  unfold MAX_LOCAL_RECEIPTS at hroom
  unfold MAX_ANCHOR_OPERATIONS
  omega

/-- The failure of a store that is full of anchor operations. -/
def storageFull : StorageError := .failure "SubmittedIt local anchor-operation storage is full."

theorem fail_not_full {α : Type} {message : String}
    (hne : message ≠ "SubmittedIt local anchor-operation storage is full.") {w s : World P}
    (h : (fail message : StorageProg P α).run (exec P) w = (.error storageFull, s)) : False := by
  obtain ⟨hr, -⟩ := Prod.ext_iff.mp h
  exact hne (StorageError.failure.inj (Except.error.inj hr))

/-- **An anchor operation always finds room.** -/
theorem saveAnchor_not_full {w s : World P} {bundles : Bundles} {operations : List AnchorOperation}
    (hw : Stocked w bundles operations) (operation : AnchorOperation) :
    (saveAnchorOperation operation).run (exec P) w ≠ (.error storageFull, s) := by
  intro h
  obtain ⟨loaded, s₀, hload, hs, -⟩ := hw.draw.load none (P.clock w.draws)
  unfold saveAnchorOperation at h
  split at h
  · exact fail_not_full (by decide) h
  rw [Prog.run_bind_ok (show (perform .now : StorageProg P Timestamp).run (exec P) w =
    (.ok (P.clock w.draws), { w with draws := w.draws + 1 }) from rfl), Prog.run_bind_ok hload] at h
  dsimp only at h
  split at h
  · exact fail_not_full (by decide) h
  next hbundle =>
  rw [not_or, Bool.not_eq_false] at hbundle
  split at h
  · exact fail_not_full (by decide) h
  split at h
  · next hfull =>
    -- the operation is new, so its event has none yet
    refine absurd hfull.2 (not_le.mpr (hs.room hbundle.1 fun candidate hcandidate heq => ?_))
    exact List.find?_eq_none.mp hfull.1 candidate hcandidate (decide_eq_true heq)
  · unfold writePersistentState at h
    split at h
    · exact fail_not_full (by decide) h
    · cases h

theorem createAnchorOperation_not_full (input : CreateAnchorOperation) :
    createAnchorOperation input ≠ .error storageFull := by
  intro h
  unfold createAnchorOperation at h
  dsimp only at h
  split at h
  · cases h
  · exact absurd (StorageError.failure.inj (Except.error.inj h)) (by decide)

theorem ensureAnchor_not_full {w s : World P} {bundles : Bundles}
    {operations : List AnchorOperation} (hw : Stocked w bundles operations)
    (input : EnsureAnchorOperation) :
    (ensureAnchorOperation input).run (exec P) w ≠ (.error storageFull, s) := by
  intro h
  obtain ⟨loaded, s₀, hload, hs, -⟩ := hw.draw.load none (P.clock w.draws)
  unfold ensureAnchorOperation at h
  rw [Prog.run_bind_ok (show (perform .now : StorageProg P Timestamp).run (exec P) w =
    (.ok (P.clock w.draws), { w with draws := w.draws + 1 }) from rfl), Prog.run_bind_ok hload] at h
  split at h
  · split at h
    · exact fail_not_full (by decide) h
    · cases h
  · dsimp only at h
    split at h
    · rw [Prog.run_bind, Prog.run_ofExcept] at h
      split at h
      · next created s₁ hcreate =>
        obtain ⟨-, rfl⟩ := Prod.ext_iff.mp hcreate
        rw [Prog.run_bind] at h
        split at h
        · cases h
        · next e s₂ hsave =>
          cases h
          exact saveAnchor_not_full hs.stocked created hsave
      · next e s₁ hcreate =>
        obtain ⟨hcreate, -⟩ := Prod.ext_iff.mp hcreate
        obtain ⟨he, -⟩ := Prod.ext_iff.mp h
        rw [he] at hcreate
        exact createAnchorOperation_not_full _ hcreate
    · exact fail_not_full (by decide) h

/-! ### Runs -/

theorem runCommands_stocked {commands : List StorageCommand} {w t : World P} {bundles : Bundles}
    {operations : List AnchorOperation} (hw : Stocked w bundles operations)
    (h : (runCommands commands).run (exec P) w = (.ok (), t)) :
    ∃ bundles' operations', Stocked t bundles' operations' ∧
      Bundles.receipts bundles' = receiptsAfter commands bundles.receipts := by
  induction commands generalizing w bundles operations with
  | nil =>
    cases h
    exact ⟨bundles, operations, hw, rfl⟩
  | cons command commands ih =>
    obtain ⟨_, s, hfirst, hrest⟩ := Prog.run_bind_eq_ok h
    obtain ⟨loaded, hs, hreceipts⟩ := StorageCommand.settled hw hfirst
    obtain ⟨bundles', operations', ht, hafter⟩ := ih hs.stocked hrest
    refine ⟨bundles', operations', ht, ?_⟩
    rw [hafter, hreceipts]
    rfl

/-- What is in the vault is what the index names, before a load and after. -/
theorem Stocked.exact {w : World P} {bundles : Bundles} {operations : List AnchorOperation}
    (h : Stocked w bundles operations) :
    (∀ id, (w.vault.keys id).isSome = true ↔ ∃ entry ∈ w.area.entries, entry.keyId = id) ∧
      ∀ id, (w.vault.blobs id).isSome = true ↔ ∃ entry ∈ w.area.entries, entry.blobId = id := by
  rcases h.stored with ⟨content, hholds, htidy, -, -⟩ | ⟨harea, hvault, -, -⟩
  · obtain ⟨state, loaded, hstate, hreadable, hcontent⟩ := hholds 0
    have hindex : state.receiptIndex = content.receiptIndex := by
      rw [← hcontent, ← hreadable.opened.index]
      rfl
    rw [hholds.entries]
    have hopens : ∀ entry ∈ content.receiptIndex, ∃ bundle, Opens w.vault entry bundle := by
      intro entry hentry
      rw [← hindex] at hentry
      obtain ⟨bundle, -, hopens⟩ := hreadable.opened.bundles.exists_bundle hentry
      exact ⟨bundle, hopens⟩
    exact htidy.exact hopens
  · rw [harea, hvault]
    refine ⟨fun id => ⟨nofun, ?_⟩, fun id => ⟨nofun, ?_⟩⟩
    · rintro ⟨entry, hentry, -⟩
      cases hentry
    · rintro ⟨entry, hentry, -⟩
      cases hentry

/-- **A run of the storage functions** from an empty store.  A load succeeds
and returns the receipts in order, the anchor operations belong to their
events, the vault holds what the index names, and no anchor operation is
refused for want of room. -/
theorem storage_run {commands : List StorageCommand} {w t : World P} (harea : w.area = .absent)
    (hvault : w.vault = .empty) (h : (runCommands commands).run (exec P) w = (.ok (), t)) :
    (∀ ensure now, ∃ loaded s,
      (loadSecureExtensionState ensure now).run (exec P) t = (.ok loaded, s) ∧
        loaded.working.receiptIndex = receiptsAfter commands [] ∧
        ∀ operation ∈ loaded.persistent.anchorOperations, ∃ bundle event,
          loaded.bundles.get operation.receiptId = some bundle ∧ event ∈ bundle.receipt.events ∧
            event.eventHash = operation.eventHash ∧
              event.core.stage = operation.stage.toEventStage) ∧
    (∀ id, (t.vault.keys id).isSome = true ↔ ∃ entry ∈ t.area.entries, entry.keyId = id) ∧
    (∀ id, (t.vault.blobs id).isSome = true ↔ ∃ entry ∈ t.area.entries, entry.blobId = id) ∧
    (∀ operation s, (saveAnchorOperation operation).run (exec P) t ≠ (.error storageFull, s)) ∧
    ∀ input s, (ensureAnchorOperation input).run (exec P) t ≠ (.error storageFull, s) := by
  have hw : Stocked w [] [] := by
    refine ⟨fun id _ => ?_, .inr ⟨harea, hvault, rfl, rfl⟩⟩
    rw [hvault]
    exact ⟨rfl, rfl⟩
  obtain ⟨bundles, operations, ht, hreceipts⟩ := runCommands_stocked hw h
  refine ⟨fun ensure now => ?_, ht.exact.1, ht.exact.2,
    fun operation s => saveAnchor_not_full ht operation, fun input s => ensureAnchor_not_full ht input⟩
  obtain ⟨loaded, s, hload, hs, rfl, -⟩ := ht.load ensure now
  refine ⟨loaded, s, hload, hs.receipts.trans hreceipts, fun operation hoperation => ?_⟩
  exact exists_of_operationMatches (hs.readable.opened.operations operation hoperation)

/-- A browser profile in which the extension has stored nothing. -/
def emptyWorld : World samplePlatform := ⟨.absent, .empty, 0⟩

/-- The hash of the event of a sample receipt. -/
def sampleEventHash (receiptId : ReceiptId) : HashHex :=
  samplePlatform.keccak (.event (sampleCore receiptId))

/-- Two receipts are captured, one is anchored and the other deleted. -/
def sampleCommands : List StorageCommand := [
  .save (sampleWorking [7, 8]) 10,
  .ensureAnchor ⟨31337, .hex 5 0, sampleEventHash 7, 11, 7,
    .canonical (ascii "https://relay.example")⟩,
  .storeAnchor ⟨12, 3, 4, 31337, 5, sampleEventHash 7, 9⟩ 13,
  .delete 8 14]

/-- The receipt that is kept is loaded. -/
theorem storage_run_sample : ∃ t : World samplePlatform,
    (runCommands sampleCommands).run (exec samplePlatform) emptyWorld = (.ok (), t) ∧
      ∃ loaded s, (loadSecureExtensionState none 15).run (exec samplePlatform) t =
        (.ok loaded, s) ∧ loaded.working.receiptIndex = [sampleReceipt 7] := by
  obtain ⟨_, hok⟩ := exists_ok (x := ((runCommands sampleCommands).run (exec samplePlatform)
    emptyWorld).1) (by decide +kernel)
  have hrun : (runCommands sampleCommands).run (exec samplePlatform) emptyWorld =
      (.ok (), ((runCommands sampleCommands).run (exec samplePlatform) emptyWorld).2) :=
    Prod.ext hok rfl
  refine ⟨_, hrun, ?_⟩
  obtain ⟨loaded, s, hload, hreceipts, -⟩ := (storage_run rfl rfl hrun).1 none 15
  exact ⟨loaded, s, hload, hreceipts.trans (by decide +kernel)⟩

end SubmittedIt.Extension
