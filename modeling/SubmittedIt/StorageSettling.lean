/-
SubmittedIt/StorageSettling.lean

Every storage function settles the store.

A function that succeeds leaves a readable index with a tidy vault, whatever
it found stored, and the lemmas here say what the new index holds: which
bundles, in which order, and which anchor operations.  Whether an anchor
operation matches a bundle depends on the bundle's operational receipt alone
(`operationMatches_eq`), so a function that keeps the receipt keeps the match.

Main results: `import_settled`, `delete_settled`, `deleteAll_settled`,
`saveAnchor_settled`, `ensureAnchor_settled` and `storeAnchor_settled`.
-/
import SubmittedIt.StorageTidiness

namespace SubmittedIt.Extension

open Transaction ReceiptCore

variable {P : StoragePlatform}

/-! ### Bundles of an index -/

theorem OpensAll.unique {vault : Vault P} {entries : List EncryptedReceiptIndexEntry}
    {bundles bundles' : Bundles} (h : OpensAll vault entries bundles)
    (h' : OpensAll vault entries bundles') : bundles' = bundles := by
  induction h generalizing bundles' with
  | nil =>
    cases h'
    rfl
  | @cons entry named _ _ hfirst _ ih =>
    cases h' with
    | @cons _ named' _ _ hfirst' hrest' =>
      rw [ih hrest']
      refine congrArg (· :: _) (Prod.ext ?_ (hfirst.2.unique hfirst'.2))
      rw [hfirst.1, hfirst'.1]

/-- The bundles of the receipts that are kept. -/
theorem OpensAll.filter {vault : Vault P} {entries : List EncryptedReceiptIndexEntry}
    {bundles : Bundles} (h : OpensAll vault entries bundles) (receiptId : ReceiptId) :
    OpensAll vault (entries.filter fun entry => entry.receiptId ≠ receiptId)
      (bundles.filter fun named => named.1 ≠ receiptId) := by
  induction h with
  | nil => exact .nil
  | @cons entry named _ _ hfirst _ ih =>
    rw [List.filter_cons, List.filter_cons, hfirst.1]
    split
    · exact .cons hfirst ih
    · exact ih

/-- The bundles with one replaced are those of the index with its entry
replaced. -/
theorem OpensAll.set {vault : Vault P} {entries : List EncryptedReceiptIndexEntry}
    {bundles : Bundles} (h : OpensAll vault entries bundles) {entry : EncryptedReceiptIndexEntry}
    {bundle : PrivateReceiptBundle} (hopens : Opens vault entry bundle) :
    OpensAll vault
      (entries.map fun old => if old.receiptId = entry.receiptId then entry else old)
      (bundles.set entry.receiptId bundle) := by
  induction h with
  | nil => exact .nil
  | @cons old named _ _ hfirst _ ih =>
    refine .cons ?_ ih
    dsimp only
    rw [hfirst.1]
    split
    · exact ⟨rfl, hopens⟩
    · exact hfirst

/-- A bundle in a map is there under its receipt's identifier. -/
theorem OpensAll.receiptIds {vault : Vault P} {entries : List EncryptedReceiptIndexEntry}
    {bundles : Bundles} (h : OpensAll vault entries bundles) :
    ∀ named ∈ bundles, named.2.operational.receiptId = named.1 ∧ Verified P named.2 := by
  induction h with
  | nil =>
    intro named hnamed
    cases hnamed
  | cons hfirst _ ih =>
    intro named hnamed
    rcases List.mem_cons.mp hnamed with rfl | hnamed
    · exact ⟨hfirst.2.receiptId.trans hfirst.1.symm, hfirst.2.verified⟩
    · exact ih named hnamed

theorem Bundles.get_mem {bundles : Bundles} {receiptId : ReceiptId} {bundle : PrivateReceiptBundle}
    (h : bundles.get receiptId = some bundle) : (receiptId, bundle) ∈ bundles := by
  obtain ⟨named, hfound, rfl⟩ := Option.map_eq_some_iff.mp h
  have hid := List.find?_some hfound
  rw [← of_decide_eq_true hid]
  exact List.mem_of_find?_eq_some hfound

theorem Bundles.get_cons (named : ReceiptId × PrivateReceiptBundle) (bundles : Bundles)
    (receiptId : ReceiptId) :
    Bundles.get (named :: bundles) receiptId =
      if named.1 = receiptId then some named.2 else bundles.get receiptId := by
  unfold Bundles.get
  rw [List.find?_cons]
  by_cases hid : named.1 = receiptId
  · simp [hid]
  · simp [hid]

/-- What is filtered out by receipt identifier is not looked up by another. -/
theorem Bundles.get_filter {bundles : Bundles} {receiptId other : ReceiptId}
    (hne : receiptId ≠ other) :
    Bundles.get (bundles.filter fun named => named.1 ≠ other) receiptId = bundles.get receiptId := by
  induction bundles with
  | nil => rfl
  | cons named bundles ih =>
    rw [List.filter_cons, Bundles.get_cons]
    by_cases hid : named.1 = receiptId
    · rw [if_pos (by rw [hid]; exact decide_eq_true hne), Bundles.get_cons, if_pos hid, if_pos hid]
    · rw [if_neg hid, ← ih]
      split
      · rw [Bundles.get_cons, if_neg hid]
      · rfl

theorem Bundles.set_cons (named : ReceiptId × PrivateReceiptBundle) (bundles : Bundles)
    (receiptId : ReceiptId) (bundle : PrivateReceiptBundle) :
    Bundles.set (named :: bundles) receiptId bundle =
      (if named.1 = receiptId then (receiptId, bundle) else named) ::
        bundles.set receiptId bundle := rfl

theorem Bundles.get_set_ne {bundles : Bundles} {receiptId other : ReceiptId}
    (hne : receiptId ≠ other) (bundle : PrivateReceiptBundle) :
    (bundles.set other bundle).get receiptId = bundles.get receiptId := by
  induction bundles with
  | nil => rfl
  | cons named bundles ih =>
    rw [Bundles.set_cons]
    by_cases hsame : named.1 = other
    · have hid : named.1 ≠ receiptId := hsame ▸ hne.symm
      rw [if_pos hsame, Bundles.get_cons, Bundles.get_cons, if_neg hne.symm, if_neg hid, ih]
    · rw [if_neg hsame, Bundles.get_cons, Bundles.get_cons, ih]

theorem Bundles.get_set {bundles : Bundles} {receiptId : ReceiptId} {old : PrivateReceiptBundle}
    (hold : bundles.get receiptId = some old) (bundle : PrivateReceiptBundle) :
    (bundles.set receiptId bundle).get receiptId = some bundle := by
  induction bundles with
  | nil => cases hold
  | cons named bundles ih =>
    rw [Bundles.set_cons]
    rw [Bundles.get_cons] at hold
    by_cases hid : named.1 = receiptId
    · rw [if_pos hid, Bundles.get_cons, if_pos rfl]
    · rw [if_neg hid] at hold
      rw [if_neg hid, Bundles.get_cons, if_neg hid]
      exact ih hold

/-- Replacing a bundle by one of the same receipt keeps the receipts. -/
theorem Bundles.set_receipts {bundles : Bundles} {receiptId : ReceiptId}
    {bundle : PrivateReceiptBundle}
    (h : ∀ named ∈ bundles, named.1 = receiptId → named.2.operational = bundle.operational) :
    (bundles.set receiptId bundle).receipts = bundles.receipts := by
  unfold Bundles.receipts Bundles.set
  rw [List.map_map]
  refine List.map_congr_left fun named hnamed => ?_
  show (if named.1 = receiptId then (receiptId, bundle) else named).2.operational = _
  split
  · next hid => exact (h named hnamed hid).symm
  · rfl

/-! ### Anchor operations and receipts -/

/-- An event with the hash is of the anchorable stage. -/
def receiptMatches (operational : StoredAttemptReceipt) (operation : AnchorOperation) : Bool :=
  ((operationalEvents operational).find? fun event =>
    event.eventHash = operation.eventHash).any fun event =>
      event.core.stage = operation.stage.toEventStage

/-- **Whether an operation matches a verified bundle** is a matter of its
operational receipt. -/
theorem operationMatches_eq {bundle : PrivateReceiptBundle} (h : Verified P bundle)
    (operation : AnchorOperation) :
    operationMatches (some bundle) operation = receiptMatches bundle.operational operation := by
  have hevents := (receiptMatches_eq_true.mp h.matching).2.2.2.2
  unfold operationMatches receiptMatches
  rw [Option.bind_some, ← hevents, List.find?_map, Option.any_map]
  rfl

/-! ### Saving an anchor operation -/

/-- A settled store with other anchor operations that match its bundles. -/
theorem Settled.withOperations {s : World P} {loaded : LoadedSecureExtensionState}
    (h : Settled s loaded) {operations : List AnchorOperation} {updatedAt : Timestamp}
    (hmatches : ∀ operation ∈ operations,
      operationMatches (loaded.bundles.get operation.receiptId) operation = true)
    (hvalid : ValidIndex { loaded.persistent with anchorOperations := operations, updatedAt }) :
    ∃ loaded', Settled { s with area := .current { loaded.persistent with
        anchorOperations := operations, updatedAt } } loaded' ∧
      loaded'.persistent = { loaded.persistent with anchorOperations := operations, updatedAt } ∧
        loaded'.bundles = loaded.bundles := by
  obtain ⟨loaded', hopened, hcontent⟩ :=
    h.readable.opened.provide loaded.persistent.identity updatedAt
  have hbundles : loaded'.bundles = loaded.bundles := congrArg (·.bundles) hcontent
  refine ⟨{ loaded' with persistent := { loaded.persistent with
    anchorOperations := operations, updatedAt } }, ⟨rfl, ?_, h.fresh, h.tidy⟩, rfl, hbundles⟩
  refine ⟨hvalid, h.readable.identity, rfl, hopened.bundles, fun operation hoperation => ?_,
    hopened.working⟩
  show operationMatches (loaded'.bundles.get operation.receiptId) operation = true
  rw [hbundles]
  exact hmatches operation hoperation

/-- What saving an anchor operation requires. -/
structure SavesAnchor (bundles : Bundles) (operations : List AnchorOperation)
    (operation : AnchorOperation) : Prop where
  parsed : parseAnchorOperation operation = true
  bundle : operationMatches (bundles.get operation.receiptId) operation = true
  ownership : (bundles.get operation.receiptId).map (·.ownership) = some .local
  keeps : ∀ previous, (operations.find? fun candidate =>
    candidate.eventHash = operation.eventHash) = some previous →
      keepsEvidence previous operation = true

theorem saveAnchor_settled {w t : World P} {bundles : Bundles} {operations : List AnchorOperation}
    (hw : Stocked w bundles operations) {operation : AnchorOperation}
    {result : LoadedSecureExtensionState}
    (h : (saveAnchorOperation operation).run (exec P) w = (.ok result, t)) :
    ∃ loaded, Settled t loaded ∧ loaded.bundles = bundles ∧
      loaded.persistent.anchorOperations = operation :: (operations.filter fun candidate =>
        candidate.eventHash ≠ operation.eventHash) ∧
      SavesAnchor bundles operations operation := by
  unfold saveAnchorOperation at h
  split at h
  · cases h
  next hparsed =>
  obtain ⟨now, w₁, hnow, h⟩ := Prog.run_bind_eq_ok h
  cases hnow
  obtain ⟨loaded, s, hload, h⟩ := Prog.run_bind_eq_ok h
  obtain ⟨hs, rfl, rfl⟩ := load_settled hw.draw hload
  dsimp only at h
  split at h
  · cases h
  next hbundle =>
  rw [not_or, Bool.not_eq_false, not_not] at hbundle
  split at h
  · cases h
  next hkeeps =>
  split at h
  · cases h
  obtain ⟨persistent, s₁, hwrite, h⟩ := Prog.run_bind_eq_ok h
  obtain ⟨hvalid, rfl, rfl⟩ := writePersistentState_ok hwrite
  cases h
  have hmatches : ∀ o ∈ operation :: loaded.persistent.anchorOperations.filter fun candidate =>
      candidate.eventHash ≠ operation.eventHash,
      operationMatches (loaded.bundles.get o.receiptId) o = true := by
    intro o ho
    rcases List.mem_cons.mp ho with rfl | ho
    · exact hbundle.1
    · exact hs.readable.opened.operations o (List.mem_of_mem_filter ho)
  obtain ⟨loaded', hsettled, hpersistent, hbundles⟩ := hs.withOperations hmatches hvalid
  refine ⟨loaded', hsettled, hbundles, congrArg (·.anchorOperations) hpersistent,
    Bool.not_eq_false _ ▸ hparsed, hbundle.1, hbundle.2, fun previous hprevious => ?_⟩
  rw [hprevious, Option.any_some, Bool.not_eq_true', Bool.not_eq_false] at hkeeps
  exact hkeeps

/-- What ensuring an anchor operation does: the stored one is returned, or a
new one is saved. -/
theorem ensureAnchor_settled {w t : World P} {bundles : Bundles}
    {operations : List AnchorOperation} (hw : Stocked w bundles operations)
    {input : EnsureAnchorOperation} {operation : AnchorOperation}
    (h : (ensureAnchorOperation input).run (exec P) w = (.ok operation, t)) :
    ∃ loaded, Settled t loaded ∧ loaded.bundles = bundles ∧
      ((operations.find? fun candidate => candidate.eventHash = input.eventHash) = some operation ∧
          loaded.persistent.anchorOperations = operations ∨
        (operations.find? fun candidate => candidate.eventHash = input.eventHash) = none ∧
          loaded.persistent.anchorOperations = operation :: (operations.filter fun candidate =>
            candidate.eventHash ≠ operation.eventHash) ∧
          SavesAnchor bundles operations operation ∧
          ∃ created, createAnchorOperation created = .ok operation) := by
  obtain ⟨now, w₁, hnow, h⟩ := Prog.run_bind_eq_ok h
  cases hnow
  obtain ⟨loaded, s, hload, h⟩ := Prog.run_bind_eq_ok h
  obtain ⟨hs, rfl, rfl⟩ := load_settled hw.draw hload
  split at h
  · next existing hfound =>
    split at h
    · cases h
    · cases h
      exact ⟨loaded, hs, rfl, .inl ⟨hfound, rfl⟩⟩
  · next hfound =>
    dsimp only at h
    split at h
    · obtain ⟨created, s₁, hcreate, h⟩ := Prog.run_bind_eq_ok h
      obtain ⟨hcreated, rfl⟩ := Prod.ext_iff.mp hcreate
      obtain ⟨result, s₂, hsave, h⟩ := Prog.run_bind_eq_ok h
      cases h
      obtain ⟨loaded', hsettled, hbundles, hoperations, hsaves⟩ :=
        saveAnchor_settled hs.stocked hsave
      exact ⟨loaded', hsettled, hbundles, .inr ⟨hfound, hoperations, hsaves, _, hcreated⟩⟩
    · cases h

/-! ### Confirming an anchor -/

theorem fits_of_encryptBundle {bundle : PrivateReceiptBundle} {key : ReceiptKeyRecord}
    {envelope : EncryptedReceiptEnvelope P} {w s : World P}
    (h : (encryptBundle bundle key).run (exec P) w = (.ok envelope, s)) :
    FitsEnvelope P bundle key.key w.draws := by
  obtain ⟨draw, w', hdraw, h⟩ := Prog.run_bind_eq_ok h
  cases hdraw
  obtain ⟨hencrypt, -⟩ := Prod.ext_iff.mp h
  exact (encrypt_eq_ok.mp hencrypt).2.1

/-- What the confirmation of an anchor requires and makes. -/
structure ConfirmsAnchor (P : StoragePlatform) (bundles : Bundles)
    (operations : List AnchorOperation) (input : VerifiedChainAnchor) (now : Timestamp)
    (operation : AnchorOperation) (bundle anchored : PrivateReceiptBundle) : Prop where
  found : (operations.find? fun candidate => candidate.eventHash = input.eventHash) = some operation
  stored : bundles.get operation.receiptId = some bundle
  chainId : operation.chainId = input.chainId
  attached : attachVerifiedChainAnchor P bundle input.eventHash
    ⟨input.anchoredAt, input.blockNumber, input.chainId, input.contractAddress,
      input.transactionHash⟩ now = .ok anchored
  confirmed : parseAnchorOperation (operation.confirm input now) = true

theorem ConfirmsAnchor.eventHash {bundles : Bundles} {operations : List AnchorOperation}
    {input : VerifiedChainAnchor} {now : Timestamp} {operation : AnchorOperation}
    {bundle anchored : PrivateReceiptBundle}
    (h : ConfirmsAnchor P bundles operations input now operation bundle anchored) :
    operation ∈ operations ∧ operation.eventHash = input.eventHash := by
  have hfound := List.find?_some h.found
  exact ⟨List.mem_of_find?_eq_some h.found, of_decide_eq_true hfound⟩

/-- The part of a confirmation before its commit. -/
theorem prepareAnchor_ok {w s : World P} {bundles : Bundles} {operations : List AnchorOperation}
    (hw : Stocked w bundles operations) {input : VerifiedChainAnchor} {now : Timestamp}
    {update : AnchorUpdate}
    (h : (prepareAnchor input now).run (exec P) w = (.ok update, s)) :
    ∃ operation bundle key s₀, Settled s₀ update.loaded ∧ update.loaded.bundles = bundles ∧
      update.loaded.persistent.anchorOperations = operations ∧
      ConfirmsAnchor P bundles operations input now operation bundle update.anchored ∧
      update.loaded.persistent.entry operation.receiptId = some update.index ∧
      s₀.vault.keys update.index.keyId = some key ∧ key.receiptId = operation.receiptId ∧
      FitsEnvelope P update.anchored key.key s₀.draws ∧
      update.nextIndex = indexFromArtifacts update.anchored s₀.draws key.keyId ∧
      update.confirmed = operation.confirm input now ∧
      s = ⟨s₀.area, s₀.vault.put key (sealBundle P update.anchored key.key s₀.draws),
        s₀.draws + 1⟩ := by
  obtain ⟨loadedAt, w₁, hnow, h⟩ := Prog.run_bind_eq_ok h
  cases hnow
  obtain ⟨loaded, s₀, hload, h⟩ := Prog.run_bind_eq_ok h
  obtain ⟨hs, rfl, rfl⟩ := load_settled hw.draw hload
  dsimp only at h
  split at h
  · next operation bundle index hfound hbundle hindex =>
    rw [hfound, Option.bind_some] at hbundle hindex
    split at h
    · cases h
    next hconfiguration =>
    rw [not_or, not_not] at hconfiguration
    obtain ⟨found, s₁, hkey, h⟩ := Prog.run_bind_eq_ok h
    cases hkey
    split at h
    · cases h
    next key hkey =>
    obtain ⟨hkey, hreceipt⟩ := Option.filter_eq_some_iff.mp hkey
    obtain ⟨anchored, s₂, hattach, h⟩ := Prog.run_bind_eq_ok h
    obtain ⟨hattached, rfl⟩ := Prod.ext_iff.mp hattach
    obtain ⟨envelope, s₃, hencrypt, h⟩ := Prog.run_bind_eq_ok h
    have hfits := fits_of_encryptBundle hencrypt
    obtain ⟨rfl, rfl⟩ := encryptBundle_ok hencrypt
    obtain ⟨_, s₄, hput, h⟩ := Prog.run_bind_eq_ok h
    obtain rfl := exec_put_ok hput
    obtain ⟨confirmed, s₅, hconfirm, h⟩ := Prog.run_bind_eq_ok h
    obtain ⟨hconfirmed, rfl⟩ := Prod.ext_iff.mp hconfirm
    obtain ⟨rfl, hparsed⟩ := updateAnchorOperation_eq_ok.mp hconfirmed
    cases h
    exact ⟨operation, bundle, key, s₀, hs, rfl, rfl,
      ⟨hfound, hbundle, hconfiguration.1, hattached, hparsed⟩, hindex, hkey,
      of_decide_eq_true hreceipt, hfits, rfl, rfl, rfl⟩
  · cases h

/-- An index with the entry of one receipt replaced. -/
abbrev replaceEntry (entries : List EncryptedReceiptIndexEntry)
    (next : EncryptedReceiptIndexEntry) : List EncryptedReceiptIndexEntry :=
  entries.map fun entry => if entry.receiptId = next.receiptId then next else entry

theorem mem_replaceEntry {entries : List EncryptedReceiptIndexEntry}
    {next entry : EncryptedReceiptIndexEntry} (hentry : entry ∈ entries) :
    entry.receiptId = next.receiptId ∧ next ∈ replaceEntry entries next ∨
      entry ∈ replaceEntry entries next := by
  by_cases hid : entry.receiptId = next.receiptId
  · exact .inl ⟨hid, List.mem_map.mpr ⟨entry, hentry, if_pos hid⟩⟩
  · exact .inr (List.mem_map.mpr ⟨entry, hentry, if_neg hid⟩)

theorem of_mem_replaceEntry {entries : List EncryptedReceiptIndexEntry}
    {next entry : EncryptedReceiptIndexEntry} (h : entry ∈ replaceEntry entries next) :
    entry = next ∨ entry ∈ entries ∧ entry.receiptId ≠ next.receiptId := by
  obtain ⟨old, hold, rfl⟩ := List.mem_map.mp h
  split
  · exact .inl rfl
  · next hid => exact .inr ⟨hold, hid⟩

/-- **A bundle sealed anew leaves a tidy vault** once the blob it replaces is
deleted. -/
theorem Tidy.reseal {vault : Vault P} {entries : List EncryptedReceiptIndexEntry}
    (h : Tidy vault entries) (hnodup : (entries.map (·.receiptId)).Nodup)
    {index : EncryptedReceiptIndexEntry} (hindex : index ∈ entries) {key : ReceiptKeyRecord}
    (hkey : key.keyId = index.keyId) {bundle : PrivateReceiptBundle} {blobId : OpaqueId}
    (hid : index.receiptId = bundle.operational.receiptId) {vault' : Vault P}
    (hkeys : vault'.keys = (vault.put key (sealBundle P bundle key.key blobId)).keys)
    (hblobs : vault'.blobs = Function.update
      (vault.put key (sealBundle P bundle key.key blobId)).blobs index.blobId none) :
    Tidy vault' (replaceEntry entries (indexFromArtifacts bundle blobId key.keyId)) := by
  have hadds := put_addsOnly vault key bundle blobId
  have hnext : indexFromArtifacts bundle blobId key.keyId ∈
      replaceEntry entries (indexFromArtifacts bundle blobId key.keyId) :=
    List.mem_map.mpr ⟨index, hindex, if_pos hid⟩
  have hsame : ∀ entry ∈ entries,
      entry.receiptId = (indexFromArtifacts bundle blobId key.keyId).receiptId → entry = index :=
    fun entry hentry h => List.inj_on_of_nodup_map hnodup hentry hindex (h.trans hid.symm)
  constructor
  · intro id record hrecord
    rw [hkeys] at hrecord
    rcases hadds.keys id record hrecord with hold | ⟨entry, hentry, rfl⟩
    · obtain ⟨entry, hentry, rfl⟩ := h.keys id record hold
      rcases mem_replaceEntry hentry with ⟨heq, -⟩ | hmem
      · rw [hsame entry hentry heq]
        exact ⟨_, hnext, hkey⟩
      · exact ⟨entry, hmem, rfl⟩
    · rw [List.mem_singleton.mp hentry]
      exact ⟨_, hnext, rfl⟩
  · intro id blob hblob
    rw [hblobs] at hblob
    have hne : id ≠ index.blobId := by
      rintro rfl
      rw [Function.update_self] at hblob
      cases hblob
    rw [Function.update_of_ne hne] at hblob
    rcases hadds.blobs id blob hblob with hold | ⟨entry, hentry, rfl⟩
    · obtain ⟨entry, hentry, rfl⟩ := h.blobs id blob hold
      rcases mem_replaceEntry hentry with ⟨heq, -⟩ | hmem
      · rw [hsame entry hentry heq] at hne
        exact absurd rfl hne
      · exact ⟨entry, hmem, rfl⟩
    · rw [List.mem_singleton.mp hentry]
      exact ⟨_, hnext, rfl⟩

/-- A bundle of the same receipt matches the same operations. -/
theorem operationMatches_set {bundles : Bundles} {receiptId : ReceiptId}
    {old bundle : PrivateReceiptBundle} (hold : bundles.get receiptId = some old)
    (hverified : Verified P old) (hverified' : Verified P bundle)
    (hsame : bundle.operational = old.operational) (operation : AnchorOperation) :
    operationMatches ((bundles.set receiptId bundle).get operation.receiptId) operation =
      operationMatches (bundles.get operation.receiptId) operation := by
  by_cases hid : operation.receiptId = receiptId
  · rw [hid, Bundles.get_set hold, hold, operationMatches_eq hverified,
      operationMatches_eq hverified', hsame]
  · rw [Bundles.get_set_ne hid]

/-- **Confirming an anchor** attaches it to the bundle and confirms the
operation. -/
theorem storeAnchor_settled {w t : World P} {bundles : Bundles} {operations : List AnchorOperation}
    (hw : Stocked w bundles operations) {input : VerifiedChainAnchor} {now : Timestamp}
    {target : LoadedSecureExtensionState}
    (h : (storeVerifiedChainAnchor input now).run (exec P) w = (.ok target, t)) :
    ∃ operation bundle anchored,
      ConfirmsAnchor P bundles operations input now operation bundle anchored ∧
      Settled t target ∧ target.bundles = bundles.set operation.receiptId anchored ∧
      target.persistent.anchorOperations = operations.map fun candidate =>
        if candidate.eventHash = input.eventHash then operation.confirm input now
        else candidate := by
  rw [storeVerifiedChainAnchor_eq] at h
  obtain ⟨update, s, hprepare, h⟩ := Prog.run_bind_eq_ok h
  obtain ⟨operation, bundle, key, s₀, hs, rfl, rfl, hconfirms, hentry, hkey, hreceipt, hfits, hnext,
    hconfirmed, rfl⟩ := prepareAnchor_ok hw hprepare
  obtain ⟨hindex, hid⟩ := entry_eq_some hentry
  -- the bundle that the entry opens
  obtain ⟨bundle', hbundle', hopens⟩ :=
    hs.readable.opened.bundles.get hs.readable.valid.receiptIds hindex
  rw [hid] at hbundle'
  obtain rfl : bundle' = bundle := Option.some.inj (hbundle'.symm.trans hconfirms.stored)
  have hverified' := hopens.verified
  have hold := hopens.receiptId
  have hdrawn := (hopens.lt_draws hs.fresh).2
  obtain ⟨key', envelope, hwith⟩ := hopens
  obtain rfl : key' = key := Option.some.inj (hwith.getKey.symm.trans hkey)
  have hkeyId : key'.keyId = update.index.keyId := (congrArg (·.keyId) hwith.entry).symm
  obtain ⟨hverified, hoperational, -⟩ := attach_ok hconfirms.attached
  have hanchored : update.anchored.receipt.receiptId = operation.receiptId := by
    rw [hverified.receiptId, hoperational, hold, hid]
  have hready : KeyReady s₀ s₀ key' := .inl (hkeyId ▸ hkey)
  have hnew := opens_put hverified hfits (hreceipt.trans hanchored.symm) hready
  have hkept : Kept s₀ ⟨s₀.area, s₀.vault.put key' (sealBundle P update.anchored key'.key s₀.draws),
      s₀.draws + 1⟩ :=
    (Kept.refl hs.fresh).draw.put (.inl (hkeyId ▸ hkey)) le_rfl (Nat.lt_succ_self _)
  rw [← hnext] at hnew
  have hnextId : update.nextIndex.receiptId = operation.receiptId := by
    rw [hnext, ← hanchored, hverified.receiptId]
    rfl
  have hblobId : update.nextIndex.blobId = s₀.draws := by
    rw [hnext]
    rfl
  -- the commit
  obtain ⟨persistent, s₁, hwrite, hafter⟩ := Prog.run_bind_eq_ok (guarded_ok h)
  obtain ⟨hvalid, rfl, rfl⟩ := writePersistentState_ok hwrite
  unfold AnchorUpdate.afterCommit at hafter
  rw [if_pos (by rw [hblobId]; exact hdrawn.ne)] at hafter
  obtain ⟨_, s₂, hdelete, hafter⟩ := Prog.run_bind_eq_ok hafter
  cases hdelete
  obtain ⟨working, s₃, hworking, hafter⟩ := Prog.run_bind_eq_ok hafter
  obtain ⟨hworking, rfl⟩ := Prod.ext_iff.mp hworking
  cases hafter
  have heventHash : update.confirmed.eventHash = input.eventHash := by
    rw [hconfirmed]
    exact hconfirms.eventHash.2
  refine ⟨operation, bundle', update.anchored, hconfirms, ⟨rfl, ⟨hvalid, ?_, rfl, ?_, ?_, hworking⟩,
    ?_, ?_⟩, ?_, ?_⟩
  · exact hs.readable.identity
  · -- the bundles open, the replaced blob is none of theirs
    have hall := (hs.readable.kept hs.fresh hkept).opened.bundles.set hnew
    show OpensAll _ (replaceEntry _ update.nextIndex)
      (Bundles.set _ update.anchored.receipt.receiptId _)
    rw [hanchored.trans hnextId.symm]
    refine hall.congr ?_ ?_
    · exact fun _ _ => rfl
    intro entry hentry
    apply Function.update_of_ne
    rcases of_mem_replaceEntry hentry with rfl | ⟨hmem, hne⟩
    · rw [hblobId]
      exact hdrawn.ne'
    · intro hblob
      rw [List.inj_on_of_nodup_map hs.readable.valid.blobIds hmem hindex hblob, hnextId] at hne
      exact hne hid
  · intro candidate hcandidate
    obtain ⟨old, holdMem, rfl⟩ := List.mem_map.mp hcandidate
    show operationMatches ((Bundles.set _ update.anchored.receipt.receiptId _).get _) _ = true
    rw [hanchored, operationMatches_set hbundle' hverified' hverified hoperational]
    split
    · rw [hconfirmed]
      exact hs.readable.opened.operations operation hconfirms.eventHash.1
    · exact hs.readable.opened.operations old holdMem
  · intro id hid'
    obtain ⟨hnone, hnone'⟩ := hkept.fresh id hid'
    refine ⟨hnone, ?_⟩
    show Function.update (s₀.vault.put key' _).blobs update.index.blobId none id = none
    rcases eq_or_ne id update.index.blobId with rfl | hne
    · exact Function.update_self ..
    · rw [Function.update_of_ne hne]
      exact hnone'
  · show Tidy _ (replaceEntry _ update.nextIndex)
    rw [hnext]
    refine hs.tidy.reseal hs.readable.valid.receiptIds hindex hkeyId ?_ rfl rfl
    rw [hoperational, hold]
  · show Bundles.set _ update.anchored.receipt.receiptId _ = _
    rw [hanchored]
  · show List.map _ _ = List.map _ _
    rw [heventHash, hconfirmed]

/-! ### Importing and deleting -/

/-- What an imported bundle is. -/
theorem imported_ok {input : Option PrivateReceiptBundle}
    {currentPublicKey : Option PublicKeyDescriptor} {bundle : PrivateReceiptBundle}
    (h : importedPrivateReceiptBundle P input currentPublicKey = .ok bundle) :
    ∃ given, input = some given ∧ Verified P bundle ∧
      bundle.operational = supersedeContext given.operational ∧
      bundle.receipt = given.receipt ∧
      (given.receipt.events.any fun event => event.chainAnchor.isSome) = false := by
  unfold importedPrivateReceiptBundle at h
  rcases input with - | given
  · cases h
  · simp only [bind_eq_ok, verify_eq_ok, revertIf_eq_ok, exists_const] at h
    obtain ⟨verified, ⟨rfl, -⟩, hanchors, rfl, hverified⟩ := h
    exact ⟨verified, rfl, hverified, rfl, rfl, Bool.not_eq_true _ ▸ hanchors⟩

/-- The vault an import leaves: the new artifacts, without those of the
receipt that was replaced. -/
structure Replaces (existing : Option EncryptedReceiptIndexEntry) (vault vault' : Vault P) :
    Prop where
  identity : vault'.identity = vault.identity
  keys : ∀ id, vault'.keys id =
    if existing.any (fun entry => entry.keyId = id) then none else vault.keys id
  blobs : ∀ id, vault'.blobs id =
    if existing.any (fun entry => entry.blobId = id) then none else vault.blobs id

/-- The deletion of what an import replaces. -/
def deleteExisting : Option EncryptedReceiptIndexEntry → StorageProg P Unit
  | none => pure ()
  | some existing => do
    perform (.deleteBlob existing.blobId)
    perform (.deleteKey existing.keyId)

theorem deleteExisting_run (existing : Option EncryptedReceiptIndexEntry) (w : World P) :
    ∃ vault, (deleteExisting existing).run (exec P) w = (.ok (), { w with vault }) ∧
      Replaces existing w.vault vault := by
  rcases existing with - | entry
  · exact ⟨w.vault, rfl, rfl, fun _ => rfl, fun _ => rfl⟩
  · refine ⟨_, rfl, rfl, fun id => ?_, fun id => ?_⟩
    · show Function.update w.vault.keys entry.keyId none id = _
      rw [Function.update_apply, Option.any_some]
      by_cases hid : id = entry.keyId
      · rw [if_pos hid, if_pos (decide_eq_true hid.symm)]
      · rw [if_neg hid, if_neg (by rw [decide_eq_true_eq]; exact fun h => hid h.symm)]
    · show Function.update w.vault.blobs entry.blobId none id = _
      rw [Function.update_apply, Option.any_some]
      by_cases hid : id = entry.blobId
      · rw [if_pos hid, if_pos (decide_eq_true hid.symm)]
      · rw [if_neg hid, if_neg (by rw [decide_eq_true_eq]; exact fun h => hid h.symm)]

/-- The part of an import after its commit. -/
def finishImport (existing : Option EncryptedReceiptIndexEntry)
    (persistent : SecureExtensionLocalState) (bundle : PrivateReceiptBundle) :
    StorageProg P (PrivateReceiptBundle × LoadedSecureExtensionState) := do
  deleteExisting existing
  let state ← openIndex persistent
  let bundle ← Prog.ofExcept (verifyPrivateReceiptBundle P bundle)
  pure (bundle, state)

theorem finishImport_ok {existing : Option EncryptedReceiptIndexEntry}
    {persistent : SecureExtensionLocalState} {given bundle : PrivateReceiptBundle}
    {state : LoadedSecureExtensionState} {w t : World P}
    (h : (finishImport existing persistent given).run (exec P) w = (.ok (bundle, state), t)) :
    bundle = given ∧ Opened t.vault persistent state ∧
      Replaces existing w.vault t.vault ∧ t = { w with vault := t.vault } := by
  obtain ⟨_, s, hdelete, h⟩ := Prog.run_bind_eq_ok h
  obtain ⟨vault, hrun, hreplaces⟩ := deleteExisting_run existing w
  cases hrun.symm.trans hdelete
  obtain ⟨state', s₁, hopen, h⟩ := Prog.run_bind_eq_ok h
  obtain ⟨hopened, rfl⟩ := openIndex_ok hopen
  obtain ⟨verified, s₂, hverify, h⟩ := Prog.run_bind_eq_ok h
  obtain ⟨hverified, rfl⟩ := Prod.ext_iff.mp hverify
  cases h
  exact ⟨(verify_eq_ok.mp hverified).1, hopened, hreplaces, rfl⟩

theorem Replaces.agrees {existing : Option EncryptedReceiptIndexEntry} {vault vault' : Vault P}
    (h : Replaces existing vault vault') {entries : List EncryptedReceiptIndexEntry}
    (hother : ∀ entry ∈ entries, ∀ replaced, existing = some replaced →
      replaced.keyId ≠ entry.keyId ∧ replaced.blobId ≠ entry.blobId) :
    Agrees entries vault vault' := by
  refine ⟨h.identity, fun entry hentry => ?_, fun entry hentry => ?_⟩
  · rw [h.keys]
    refine if_neg fun hany => ?_
    obtain ⟨replaced, hreplaced, hsame⟩ := (Option.any_eq_true _ _).mp hany
    exact (hother entry hentry replaced hreplaced).1 (of_decide_eq_true hsame)
  · rw [h.blobs]
    refine if_neg fun hany => ?_
    obtain ⟨replaced, hreplaced, hsame⟩ := (Option.any_eq_true _ _).mp hany
    exact (hother entry hentry replaced hreplaced).2 (of_decide_eq_true hsame)

/-- **An import leaves a tidy vault.** -/
theorem Tidy.import {vault : Vault P} {entries : List EncryptedReceiptIndexEntry}
    (h : Tidy vault entries) (hnodup : (entries.map (·.receiptId)).Nodup) (key : ReceiptKeyRecord)
    (bundle : PrivateReceiptBundle) (blobId : OpaqueId) {vault' : Vault P}
    (hreplaces : Replaces (entryOf entries bundle.operational.receiptId)
      (vault.put key (sealBundle P bundle key.key blobId)) vault') :
    Tidy vault' (indexFromArtifacts bundle blobId key.keyId :: entries.filter fun entry =>
      entry.receiptId ≠ bundle.operational.receiptId) := by
  have hadds := put_addsOnly vault key bundle blobId
  have hkept : ∀ entry ∈ entries, entry.receiptId = bundle.operational.receiptId ∧
      entryOf entries bundle.operational.receiptId = some entry ∨
      entry ∈ entries.filter fun entry => entry.receiptId ≠ bundle.operational.receiptId := by
    intro entry hentry
    by_cases hid : entry.receiptId = bundle.operational.receiptId
    · exact .inl ⟨hid, hid ▸ entryOf_of_mem hnodup hentry⟩
    · exact .inr (List.mem_filter.mpr ⟨hentry, decide_eq_true hid⟩)
  constructor
  · intro id record hrecord
    rw [hreplaces.keys] at hrecord
    split at hrecord
    · cases hrecord
    next hnot =>
    rcases hadds.keys id record hrecord with hold | ⟨entry, hentry, rfl⟩
    · obtain ⟨entry, hentry, rfl⟩ := h.keys id record hold
      rcases hkept entry hentry with ⟨-, hfound⟩ | hmem
      · rw [hfound, Option.any_some] at hnot
        exact absurd (decide_eq_true rfl) hnot
      · exact ⟨entry, List.mem_cons_of_mem _ hmem, rfl⟩
    · rw [List.mem_singleton.mp hentry]
      exact ⟨_, List.mem_cons_self, rfl⟩
  · intro id blob hblob
    rw [hreplaces.blobs] at hblob
    split at hblob
    · cases hblob
    next hnot =>
    rcases hadds.blobs id blob hblob with hold | ⟨entry, hentry, rfl⟩
    · obtain ⟨entry, hentry, rfl⟩ := h.blobs id blob hold
      rcases hkept entry hentry with ⟨-, hfound⟩ | hmem
      · rw [hfound, Option.any_some] at hnot
        exact absurd (decide_eq_true rfl) hnot
      · exact ⟨entry, List.mem_cons_of_mem _ hmem, rfl⟩
    · rw [List.mem_singleton.mp hentry]
      exact ⟨_, List.mem_cons_self, rfl⟩

/-- The index that an import commits. -/
def importedIndex (persistent : SecureExtensionLocalState) (next : EncryptedReceiptIndexEntry)
    (now : Timestamp) : SecureExtensionLocalState :=
  { persistent with
    anchorOperations := persistent.anchorOperations.filter fun operation =>
      operation.receiptId ≠ next.receiptId
    receiptIndex := next :: persistent.receiptIndex.filter fun entry =>
      entry.receiptId ≠ next.receiptId
    updatedAt := now }

/-- What an import commits opens, after the deletion of what it replaces. -/
theorem Opened.import {s : World P} {loaded : LoadedSecureExtensionState}
    (hopened : Opened s.vault loaded.persistent loaded) (hvalid : ValidIndex loaded.persistent)
    (hfresh : s.Fresh) {bundle : PrivateReceiptBundle}
    (hverified : Verified P bundle) {key : ReceiptKeyRecord} (hkey : key.keyId = s.draws)
    (hreceipt : key.receiptId = bundle.operational.receiptId)
    (hfits : FitsEnvelope P bundle key.key (s.draws + 1)) {vault : Vault P}
    (hreplaces : Replaces (loaded.persistent.entry bundle.operational.receiptId)
      (s.vault.put key (sealBundle P bundle key.key (s.draws + 1))) vault) :
    OpensAll vault (indexFromArtifacts bundle (s.draws + 1) key.keyId ::
        loaded.persistent.receiptIndex.filter fun entry =>
          entry.receiptId ≠ bundle.operational.receiptId)
      ((bundle.operational.receiptId, bundle) ::
        loaded.bundles.filter fun named => named.1 ≠ bundle.operational.receiptId) ∧
      ∀ area, World.Fresh ⟨area, vault, s.draws + 2⟩ := by
  have hready : KeyReady s ⟨s.area, s.vault, s.draws + 2⟩ key := by
    refine .inr ⟨?_, hkey.ge, ?_⟩
    · rw [hkey]
      exact (hfresh _ le_rfl).1
    · rw [hkey]
      exact Nat.lt_add_of_pos_right two_pos
  have hkept : Kept s ⟨s.area, s.vault.put key (sealBundle P bundle key.key (s.draws + 1)),
      s.draws + 2⟩ :=
    (Kept.refl hfresh).draw.draw.put hready (Nat.le_succ _) (Nat.lt_succ_self _)
  have hnew := opens_put hverified hfits (hreceipt.trans hverified.receiptId.symm) hready
  -- what is replaced is not named any more
  have hagrees : Agrees (indexFromArtifacts bundle (s.draws + 1) key.keyId ::
      loaded.persistent.receiptIndex.filter fun entry =>
        entry.receiptId ≠ bundle.operational.receiptId)
      (s.vault.put key (sealBundle P bundle key.key (s.draws + 1))) vault := by
    refine hreplaces.agrees fun entry hentry replaced hreplaced => ?_
    obtain ⟨hmem, hid⟩ := entry_eq_some hreplaced
    obtain ⟨_, -, hopens⟩ := hopened.bundles.exists_bundle hmem
    obtain ⟨hkeyLt, hblobLt⟩ := hopens.lt_draws hfresh
    rcases List.mem_cons.mp hentry with rfl | hentry
    · exact ⟨(hkeyLt.trans_eq hkey.symm).ne, (hblobLt.trans (Nat.lt_succ_self _)).ne⟩
    · obtain ⟨hold, hother⟩ := List.mem_filter.mp hentry
      have hne : replaced ≠ entry := fun heq => of_decide_eq_true hother (heq ▸ hid)
      exact ⟨fun h => hne (List.inj_on_of_nodup_map hvalid.keyIds hmem hold h),
        fun h => hne (List.inj_on_of_nodup_map hvalid.blobIds hmem hold h)⟩
  have hput : OpensAll (s.vault.put key (sealBundle P bundle key.key (s.draws + 1)))
      (indexFromArtifacts bundle (s.draws + 1) key.keyId ::
        loaded.persistent.receiptIndex.filter fun entry =>
          entry.receiptId ≠ bundle.operational.receiptId)
      ((bundle.operational.receiptId, bundle) ::
        loaded.bundles.filter fun named => named.1 ≠ bundle.operational.receiptId) :=
    .cons ⟨rfl, hnew⟩ ((hopened.kept hfresh hkept).bundles.filter bundle.operational.receiptId)
  refine ⟨hput.congr hagrees.keys hagrees.blobs, fun area id hid => ?_⟩
  obtain ⟨hkeys, hblobs⟩ := hkept.fresh id hid
  refine ⟨?_, ?_⟩
  · rw [hreplaces.keys]
    exact ite_eq_left_iff.mpr fun _ => hkeys
  · rw [hreplaces.blobs]
    exact ite_eq_left_iff.mpr fun _ => hblobs

/-- The commit of an import, and the deletion of what it replaces. -/
theorem Settled.import {s t : World P} {loaded state : LoadedSecureExtensionState}
    (hs : Settled s loaded) {bundle : PrivateReceiptBundle} (hverified : Verified P bundle)
    {key : ReceiptKeyRecord} (hkey : key.keyId = s.draws)
    (hreceipt : key.receiptId = bundle.operational.receiptId)
    (hfits : FitsEnvelope P bundle key.key (s.draws + 1)) {now : Timestamp}
    {persistent : SecureExtensionLocalState}
    (hpersistent : persistent =
      importedIndex loaded.persistent (indexFromArtifacts bundle (s.draws + 1) key.keyId) now)
    (hvalid : ValidIndex persistent) (hopened : Opened t.vault persistent state)
    (hreplaces : Replaces (loaded.persistent.entry bundle.operational.receiptId)
      (s.vault.put key (sealBundle P bundle key.key (s.draws + 1))) t.vault)
    (harea : t.area = .current persistent) (hdraws : t.draws = s.draws + 2) :
    Settled t state ∧
      state.bundles = (bundle.operational.receiptId, bundle) ::
        (loaded.bundles.filter fun named => named.1 ≠ bundle.operational.receiptId) ∧
      state.persistent.anchorOperations =
        loaded.persistent.anchorOperations.filter fun operation =>
          operation.receiptId ≠ bundle.operational.receiptId := by
  obtain ⟨hall, hfresh⟩ :=
    hs.readable.opened.import hs.readable.valid hs.fresh hverified hkey hreceipt hfits hreplaces
  have hindex := hopened.index
  have hbundles : state.bundles = (bundle.operational.receiptId, bundle) ::
      loaded.bundles.filter fun named => named.1 ≠ bundle.operational.receiptId := by
    rw [hpersistent] at hopened
    exact hall.unique hopened.bundles
  refine ⟨⟨?_, ⟨hindex ▸ hvalid, ?_, hindex ▸ hopened⟩, ?_, ?_⟩, hbundles, ?_⟩
  · rw [harea, hindex]
  · intro metadata hmetadata
    rw [hreplaces.identity]
    refine hs.readable.identity metadata ?_
    rw [hindex, hpersistent] at hmetadata
    exact hmetadata
  · intro id hid
    rw [hdraws] at hid
    exact hfresh t.area id hid
  · rw [hindex, hpersistent]
    exact hs.tidy.import hs.readable.valid.receiptIds key bundle _ hreplaces
  · rw [hindex, hpersistent]
    rfl

/-- **An import that succeeds** puts the bundle first, in place of the one of
its receipt, and drops the anchor operations of that receipt. -/
theorem import_settled {w t : World P} {bundles : Bundles} {operations : List AnchorOperation}
    (hw : Stocked w bundles operations) {input : Option PrivateReceiptBundle}
    {replaceDuplicate : Bool} {now : Timestamp} {bundle : PrivateReceiptBundle}
    {state : LoadedSecureExtensionState}
    (h : (storeImportedReceiptBundle input replaceDuplicate now).run (exec P) w =
      (.ok (bundle, state), t)) :
    (∃ publicKey, importedPrivateReceiptBundle P input publicKey = .ok bundle) ∧
      Settled t state ∧
      state.bundles = (bundle.operational.receiptId, bundle) ::
        (bundles.filter fun named => named.1 ≠ bundle.operational.receiptId) ∧
      state.persistent.anchorOperations = operations.filter fun operation =>
        operation.receiptId ≠ bundle.operational.receiptId := by
  obtain ⟨loaded, s, hload, h⟩ := Prog.run_bind_eq_ok h
  obtain ⟨hs, rfl, rfl⟩ := load_settled hw hload
  obtain ⟨identity, s₁, hidentity, h⟩ := Prog.run_bind_eq_ok h
  cases hidentity
  obtain ⟨imported, s₁, himport, h⟩ := Prog.run_bind_eq_ok h
  obtain ⟨himported, rfl⟩ := Prod.ext_iff.mp himport
  obtain ⟨given, -, hverified, -, -, -⟩ := imported_ok himported
  have hid := hverified.receiptId
  dsimp only at h
  rw [hid] at h
  split at h
  · cases h
  -- the artifacts are written
  obtain ⟨key, s₂, hkey, h⟩ := Prog.run_bind_eq_ok h
  cases hkey
  obtain ⟨envelope, s₃, hencrypt, h⟩ := Prog.run_bind_eq_ok h
  have hfits := fits_of_encryptBundle hencrypt
  obtain ⟨rfl, rfl⟩ := encryptBundle_ok hencrypt
  obtain ⟨_, s₄, hput, h⟩ := Prog.run_bind_eq_ok h
  obtain rfl := exec_put_ok hput
  dsimp only at h
  split at h
  · obtain ⟨_, s₅, -, h⟩ := Prog.run_bind_eq_ok h
    obtain ⟨_, s₆, -, h⟩ := Prog.run_bind_eq_ok h
    cases h
  obtain ⟨written, s₅, hwritten, h⟩ := Prog.run_bind_eq_ok h
  rw [Prog.run_attempt] at hwritten
  rcases written with e | persistent
  · obtain ⟨_, s₆, -, h⟩ := Prog.run_bind_eq_ok h
    cases h
  have hfinish : (finishImport (loaded.persistent.entry imported.operational.receiptId) persistent
      imported).run (exec P) s₅ = (.ok (bundle, state), t) := by
    rw [← h]
    rcases loaded.persistent.entry imported.operational.receiptId with - | existing
    · simp only [finishImport, openIndex, Prog.bind_assoc']
      rfl
    · simp only [finishImport, openIndex, Prog.bind_assoc']
      rfl
  obtain ⟨rfl, hopened, hreplaces, ht⟩ := finishImport_ok hfinish
  obtain ⟨hwrite, hs₅⟩ := Prod.ext_iff.mp hwritten
  obtain ⟨hvalid, rfl, rfl⟩ := writePersistentState_ok (Prod.ext (Except.ok.inj hwrite) hs₅)
  exact ⟨⟨_, himported⟩, hs.import hverified rfl rfl hfits rfl hvalid hopened hreplaces
    (congrArg (·.area) ht) (congrArg (·.draws) ht)⟩

/-- **A deletion that succeeds** leaves the other receipts. -/
theorem delete_settled {w t : World P} {bundles : Bundles} {operations : List AnchorOperation}
    (hw : Stocked w bundles operations) {receiptId : ReceiptId} {now : Timestamp}
    {target : LoadedSecureExtensionState}
    (h : (deleteSecureReceipt receiptId now).run (exec P) w = (.ok target, t)) :
    let receipts := bundles.receipts.filter fun receipt => receipt.receiptId ≠ receiptId
    Settled t target ∧ SavedAs P bundles receipts target.bundles ∧
      target.persistent.anchorOperations = operations.filter fun operation =>
        operation.receiptId ∈ receipts.map (·.receiptId) := by
  obtain ⟨loaded, s, hload, h⟩ := Prog.run_bind_eq_ok h
  obtain ⟨hs, rfl, rfl⟩ := load_settled hw hload
  split at h
  · cases h
  · rw [← hs.receipts]
    exact save_settled hs.stocked h

/-- **The deletion of everything** leaves an empty index. -/
theorem deleteAll_settled {w t : World P} {now : Timestamp} {target : LoadedSecureExtensionState}
    (h : (deleteAllSecureExtensionData now).run (exec P) w = (.ok target, t)) :
    Settled t target ∧ target.bundles = [] ∧ target.persistent.anchorOperations = [] := by
  have hfresh : World.Fresh (⟨.absent, .empty, w.draws⟩ : World P) := fun _ _ => ⟨rfl, rfl⟩
  obtain ⟨loaded, s, hrun, hsettled⟩ := writeInitial_run hfresh ⟨rfl, rfl⟩ none now
    fun metadata hmetadata => by cases hmetadata
  have hsame : (deleteAllSecureExtensionData now).run (exec P) w = (.ok loaded, s) := by
    rw [← hrun]
    rfl
  cases hsame.symm.trans h
  exact hsettled

end SubmittedIt.Extension
