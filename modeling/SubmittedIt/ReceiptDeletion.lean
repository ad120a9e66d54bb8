/-
SubmittedIt/ReceiptDeletion.lean

Deleting one receipt, whatever residue earlier failures left.

`deleteSecureReceipt` saves the loaded state without the receipt.  Every other
receipt equals the one its bundle holds, so the save stages nothing
(`stageReceipts_unchanged` is an equation of programs) and commits the old
index without one entry; of what that index no longer names, the vault's
`deleteReceipt` is told once (`deleteReplaced_one`).  It deletes by receipt
identifier, hence also what no index names.

No assumption is made about the vault beyond that the index can be loaded:
any history of calls and failures may have left it.

Main result: `deleteSecureReceipt_exact`.
-/
import SubmittedIt.StorageRuns

namespace SubmittedIt.Extension

open Transaction ReceiptCore

variable {P : StoragePlatform}

/-! ### Loading an encrypted index -/

/-- A load of an encrypted index writes at most its upgrade. -/
theorem load_encrypted_ok {w s : World P} {now : Timestamp} {loaded : LoadedSecureExtensionState}
    (hencrypted : w.area.encrypted = true)
    (h : (loadSecureExtensionState none now).run (exec P) w = (.ok loaded, s)) :
    s = { w with area := .current loaded.persistent } ∧
      w.area.index now = some loaded.persistent ∧ ValidIndex loaded.persistent ∧
      Opened w.vault loaded.persistent loaded := by
  obtain ⟨stored, w', hstored, h⟩ := Prog.run_bind_eq_ok h
  cases hstored
  rcases harea : w.area with - | secure | legacy | bad | value
  · rw [harea] at hencrypted
    cases hencrypted
  · rw [harea] at h
    dsimp only at h
    split at h
    · cases h
    next hvalid =>
    have hvalid := validateSecure_eq_true.mp (Bool.not_eq_false _ ▸ hvalid)
    have hopen : (openIndex secure).run (exec P) w = (.ok loaded, s) := by
      obtain ⟨found, w₁, hfound, h⟩ := Prog.run_bind_eq_ok h
      cases hfound
      split at h
      · split at h
        · cases h
        · exact h
      · split at h
        · cases h
        · exact h
    obtain ⟨hopened, rfl⟩ := openIndex_ok hopen
    obtain rfl := hopened.index
    exact ⟨by rw [← harea], rfl, hvalid, hopened⟩
  · rw [harea] at h
    dsimp only at h
    split at h
    · cases h
    · obtain ⟨state, w₁, hwrite, h⟩ := Prog.run_bind_eq_ok h
      obtain ⟨hvalid, rfl, rfl⟩ := writePersistentState_ok hwrite
      obtain ⟨hopened, rfl⟩ := openIndex_ok h
      have hindex := hopened.index
      rw [hindex]
      exact ⟨rfl, rfl, hvalid, hopened⟩
  · rw [harea] at hencrypted
    cases hencrypted
  · rw [harea] at hencrypted
    cases hencrypted

/-- A load of a current index with an identity. -/
theorem load_current_eq_ok {s s' : World P} {state : SecureExtensionLocalState}
    {metadata : SecureIdentityMetadata} {ensure : Option Bool} {now : Timestamp}
    {loaded : LoadedSecureExtensionState} (harea : s.area = .current state)
    (hidentity : state.identity = some metadata) :
    (loadSecureExtensionState ensure now).run (exec P) s = (.ok loaded, s') ↔
      s' = s ∧ Readable s.vault state loaded := by
  constructor
  · intro h
    obtain ⟨stored, w', hstored, h⟩ := Prog.run_bind_eq_ok h
    cases hstored
    rw [harea] at h
    dsimp only at h
    split at h
    · cases h
    next hvalid =>
    obtain ⟨found, w₁, hfound, h⟩ := Prog.run_bind_eq_ok h
    cases hfound
    rw [hidentity] at h
    dsimp only at h
    split at h
    · cases h
    next hmatches =>
    obtain ⟨hopened, rfl⟩ := openIndex_ok h
    refine ⟨rfl, validateSecure_eq_true.mp (Bool.not_eq_false _ ▸ hvalid), ?_, hopened⟩
    rintro metadata' hmetadata'
    cases hidentity.symm.trans hmetadata'
    exact Bool.not_eq_false _ ▸ hmatches
  · rintro ⟨rfl, hreadable⟩
    have hmatches := hreadable.identity metadata hidentity
    show ((perform .areaGet >>= _ : StorageProg P _).run (exec P) s') = _
    rw [Prog.run_bind_ok (show (perform .areaGet : StorageProg P StoredValue).run (exec P) s' =
      (.ok (.current state), s') by rw [← harea]; rfl)]
    dsimp only
    rw [validateSecure_eq_true.mpr hreadable.valid, if_neg Bool.noConfusion]
    show ((perform .getIdentity >>= _ : StorageProg P _).run (exec P) s') = _
    rw [Prog.run_bind_ok (show (perform .getIdentity :
      StorageProg P (Option InstallationIdentityRecord)).run (exec P) s' =
        (.ok s'.vault.identity, s') from rfl), hidentity]
    dsimp only
    rw [hmatches, if_neg Bool.noConfusion]
    exact openIndex_run_eq hreadable.opened

/-- The first part of a save, where that index is stored. -/
theorem prepare_current_ok {s s' : World P} {loaded : LoadedSecureExtensionState}
    {metadata : SecureIdentityMetadata} {now : Timestamp} {prepared}
    (harea : s.area = .current loaded.persistent)
    (hopened : Opened s.vault loaded.persistent loaded)
    (hidentity : loaded.persistent.identity = some metadata)
    (h : (prepare now).run (exec P) s = (.ok prepared, s')) :
    s' = s ∧ prepared.1 = loaded ∧ Readable s.vault loaded.persistent loaded ∧
      s.vault.identity = some prepared.2 ∧ identityMetadata prepared.2 = metadata := by
  obtain ⟨current, s₁, hload, h⟩ := Prog.run_bind_eq_ok h
  obtain ⟨identity, s₂, hensure, h⟩ := Prog.run_bind_eq_ok h
  cases h
  obtain ⟨rfl, hreadable⟩ := (load_current_eq_ok harea hidentity).mp hload
  obtain rfl : loaded = current := by
    have hsame := (openIndex_run_eq hopened).symm.trans (openIndex_run_eq hreadable.opened)
    exact Except.ok.inj (congrArg Prod.fst hsame)
  have hmatches := hreadable.identity metadata hidentity
  rw [hidentity] at hensure
  obtain ⟨found, s₃, hfound, hensure⟩ := Prog.run_bind_eq_ok hensure
  cases hfound
  rcases hvault : s₁.vault.identity with - | stored
  · rw [hvault] at hmatches
    cases hmatches
  · rw [hvault] at hensure hmatches
    rw [Option.any_some] at hmatches
    dsimp only at hensure
    rw [hmatches, if_neg Bool.noConfusion] at hensure
    cases hensure
    exact ⟨rfl, rfl, hreadable, rfl, (of_decide_eq_true hmatches).symm⟩

/-! ### The receipts that stay -/

/-- Bundles of the index that the loaded state holds. -/
def Unchanged (current : LoadedSecureExtensionState) :
    List EncryptedReceiptIndexEntry → Bundles → Prop :=
  List.Forall₂ fun entry named => named.2.operational.receiptId = entry.receiptId ∧
    current.persistent.entry entry.receiptId = some entry ∧
    current.bundles.get entry.receiptId = some named.2

/-- **A save stages nothing for unchanged receipts**: it keeps their entries. -/
theorem stageReceipts_unchanged {current : LoadedSecureExtensionState}
    {entries : List EncryptedReceiptIndexEntry} {bundles : Bundles}
    (h : Unchanged current entries bundles) (identity : InstallationIdentityRecord)
    (now : Timestamp) (nextIndex : List EncryptedReceiptIndexEntry)
    (staged : List StagedArtifact) :
    (stageReceipts current identity now nextIndex staged bundles.receipts : StorageProg P _) =
      pure (staged, .ok (nextIndex ++ entries)) := by
  induction h generalizing nextIndex with
  | nil =>
    rw [List.append_nil]
    rfl
  | @cons entry named entries bundles hfirst _ ih =>
    obtain ⟨hid, hentry, hget⟩ := hfirst
    have hstage : (stageReceipt current identity now named.2.operational : StorageProg P _) =
        pure (entry, none) := by
      unfold stageReceipt
      dsimp only
      rw [hid, hentry, hget, Option.any_some, Option.filter_some,
        if_pos (decide_eq_true rfl)]
    show (stageReceipts current identity now nextIndex staged
      (named.2.operational :: Bundles.receipts bundles) : StorageProg P _) = _
    unfold stageReceipts
    rw [hstage]
    show (stageReceipts current identity now (nextIndex ++ [entry]) (staged ++ [])
      (Bundles.receipts bundles) : StorageProg P _) = _
    rw [List.append_nil, ih, List.append_assoc]
    rfl

/-- The index without a receipt, and its bundles. -/
theorem Opened.unchanged {vault : Vault P} {loaded : LoadedSecureExtensionState}
    (h : Opened vault loaded.persistent loaded) (hvalid : ValidIndex loaded.persistent)
    (receiptId : ReceiptId) :
    Unchanged loaded
      (loaded.persistent.receiptIndex.filter fun entry => entry.receiptId ≠ receiptId)
      (loaded.bundles.filter fun named => named.1 ≠ receiptId) := by
  have hstored : ∀ entry ∈ loaded.persistent.receiptIndex.filter
      fun entry => entry.receiptId ≠ receiptId, entry ∈ loaded.persistent.receiptIndex :=
    fun entry => List.mem_of_mem_filter
  have hall := (List.forall₂_and_left _ _).mpr ⟨hstored, h.bundles.filter receiptId⟩
  refine hall.imp fun entry named hnamed => ?_
  obtain ⟨hmem, -, hopens⟩ := hnamed
  obtain ⟨bundle, hget, hopens'⟩ := h.bundles.get hvalid.receiptIds hmem
  rw [hopens'.unique hopens]
  exact ⟨hopens'.receiptId, entryOf_of_mem hvalid.receiptIds hmem, hget⟩

/-! ### The receipt that goes -/

/-- Where every entry is still named, nothing is deleted. -/
theorem deleteReplaced_none {nextIndex entries : List EncryptedReceiptIndexEntry}
    (h : ∀ entry ∈ entries, entryOf nextIndex entry.receiptId = some entry) :
    (deleteReplaced nextIndex entries : StorageProg P Unit) = pure () := by
  induction entries with
  | nil => rfl
  | cons entry entries ih =>
    unfold deleteReplaced
    rw [show (nextIndex.find? fun e => e.receiptId = entry.receiptId) = some entry from
      h entry List.mem_cons_self]
    dsimp only
    rw [if_neg (not_not.mpr rfl)]
    exact ih fun e he => h e (List.mem_cons_of_mem _ he)

/-- **One receipt is deleted**, where the new index is the old one without
it. -/
theorem deleteReplaced_one {nextIndex entries : List EncryptedReceiptIndexEntry}
    {receiptId : ReceiptId} (hnodup : (entries.map (·.receiptId)).Nodup)
    (hstored : receiptId ∈ entries.map (·.receiptId)) (hgone : entryOf nextIndex receiptId = none)
    (hkept : ∀ entry ∈ entries, entry.receiptId ≠ receiptId →
      entryOf nextIndex entry.receiptId = some entry) :
    (deleteReplaced nextIndex entries : StorageProg P Unit) =
      perform (.deleteReceipt receiptId) := by
  induction entries with
  | nil => cases hstored
  | cons entry entries ih =>
    rw [List.map_cons, List.nodup_cons] at hnodup
    unfold deleteReplaced
    by_cases hid : entry.receiptId = receiptId
    · -- the entry of the receipt: those after it are others
      have hrest : ∀ e ∈ entries, entryOf nextIndex e.receiptId = some e := by
        intro e he
        refine hkept e (List.mem_cons_of_mem _ he) fun hsame => ?_
        exact hnodup.1 (List.mem_map.mpr ⟨e, he, hsame.trans hid.symm⟩)
      rw [hid, show (nextIndex.find? fun e => e.receiptId = receiptId) = none from hgone]
      dsimp only
      rw [deleteReplaced_none hrest]
      refine congrArg (Prog.op _) (funext fun r => ?_)
      rcases r with e | u
      · rfl
      · rfl
    · rw [show (nextIndex.find? fun e => e.receiptId = entry.receiptId) = some entry from
        hkept entry List.mem_cons_self hid]
      dsimp only
      rw [if_neg (not_not.mpr rfl)]
      refine ih hnodup.2 ?_ fun e he => hkept e (List.mem_cons_of_mem _ he)
      rw [List.map_cons] at hstored
      exact (List.mem_cons.mp hstored).resolve_left fun h => hid h.symm

/-- The index without a receipt still names the others. -/
theorem entryOf_filter {entries : List EncryptedReceiptIndexEntry}
    (hnodup : (entries.map (·.receiptId)).Nodup) {receiptId : ReceiptId}
    {entry : EncryptedReceiptIndexEntry} (hentry : entry ∈ entries)
    (hne : entry.receiptId ≠ receiptId) :
    entryOf (entries.filter fun entry => entry.receiptId ≠ receiptId) entry.receiptId =
      some entry := by
  apply entryOf_of_mem
  · exact hnodup.sublist (List.filter_sublist.map _)
  · exact List.mem_filter.mpr ⟨hentry, decide_eq_true hne⟩

theorem entryOf_filter_self (entries : List EncryptedReceiptIndexEntry) (receiptId : ReceiptId) :
    entryOf (entries.filter fun entry => entry.receiptId ≠ receiptId) receiptId = none := by
  apply List.find?_eq_none.mpr
  intro entry hentry hid
  exact of_decide_eq_true (List.mem_filter.mp hentry).2 (of_decide_eq_true hid)

/-! ### The deletion -/

/-- The working state without a receipt. -/
def ExtensionLocalState.without (working : ExtensionLocalState) (receiptId : ReceiptId) :
    ExtensionLocalState :=
  { working with receiptIndex := working.receiptIndex.filter fun receipt =>
      receipt.receiptId ≠ receiptId }

/-- The index without a receipt. -/
def SecureExtensionLocalState.without (persistent : SecureExtensionLocalState)
    (receiptId : ReceiptId) (now : Timestamp) : SecureExtensionLocalState :=
  { persistent with
    anchorOperations := persistent.anchorOperations.filter fun operation =>
      operation.receiptId ≠ receiptId
    receiptIndex := persistent.receiptIndex.filter fun entry => entry.receiptId ≠ receiptId
    updatedAt := now }

/-- **What is left of a save without a receipt** once the stored state and the
identity are known: the commit of the index without it. -/
theorem Opened.save_without {vault : Vault P} {loaded : LoadedSecureExtensionState}
    (h : Opened vault loaded.persistent loaded) (hvalid : ValidIndex loaded.persistent)
    {identity : InstallationIdentityRecord}
    (hidentity : loaded.persistent.identity = some (identityMetadata identity))
    (receiptId : ReceiptId) (now : Timestamp) :
    (stageReceipts loaded identity now [] [] (loaded.working.without receiptId).receiptIndex >>=
      fun staging => guarded staging.1 (Prog.ofExcept staging.2 >>= fun nextIndex =>
        commitIndex loaded (nextPersistent (loaded.working.without receiptId) now loaded identity
          nextIndex)) : StorageProg P LoadedSecureExtensionState) =
      guarded [] (commitIndex loaded (loaded.persistent.without receiptId now)) := by
  have hreceipts : (loaded.working.without receiptId).receiptIndex =
      Bundles.receipts (loaded.bundles.filter fun named => named.1 ≠ receiptId) := by
    rw [Bundles.receipts_filter h.bundles, ← h.receipts hvalid.receiptIds]
    rfl
  rw [hreceipts, stageReceipts_unchanged (h.unchanged hvalid receiptId)]
  have hnext : nextPersistent (loaded.working.without receiptId) now loaded identity
      (loaded.persistent.receiptIndex.filter fun entry => entry.receiptId ≠ receiptId) =
      loaded.persistent.without receiptId now := by
    have hworking := h.working
    obtain ⟨receipts, -, hworking⟩ := bind_eq_ok.mp hworking
    obtain ⟨_, -, hworking⟩ := bind_eq_ok.mp hworking
    have hoperations : (loaded.persistent.anchorOperations.filter fun operation =>
        operation.receiptId ∈ (loaded.persistent.receiptIndex.filter fun entry => entry.receiptId ≠ receiptId).map
          (·.receiptId)) =
        loaded.persistent.anchorOperations.filter fun operation =>
          operation.receiptId ≠ receiptId := by
      refine List.filter_congr fun operation hoperation => decide_eq_decide.mpr ?_
      obtain ⟨entry, hentry, hid⟩ := List.mem_map.mp (hvalid.operations operation hoperation).2
      constructor
      · intro hmem
        obtain ⟨other, hother, hsame⟩ := List.mem_map.mp hmem
        rw [← hsame]
        exact of_decide_eq_true (List.mem_filter.mp hother).2
      · intro hne
        refine List.mem_map.mpr ⟨entry, List.mem_filter.mpr ⟨hentry, ?_⟩, hid⟩
        exact decide_eq_true (hid ▸ hne)
    unfold nextPersistent persistentFromWorking ExtensionLocalState.without
      SecureExtensionLocalState.without
    rw [hoperations, ← Except.ok.inj hworking, hidentity]
  show guarded [] (commitIndex loaded (nextPersistent _ now loaded identity ([] ++ _))) = _
  rw [List.nil_append, hnext]

/-- Of the old index, the new one lacks that receipt. -/
theorem ValidIndex.deleteReplaced_without {persistent : SecureExtensionLocalState}
    (h : ValidIndex persistent) {receiptId : ReceiptId}
    (hstored : receiptId ∈ persistent.receiptIndex.map (·.receiptId)) (now : Timestamp) :
    (deleteReplaced (persistent.without receiptId now).receiptIndex persistent.receiptIndex :
      StorageProg P Unit) = perform (.deleteReceipt receiptId) :=
  deleteReplaced_one h.receiptIds hstored (entryOf_filter_self _ _)
    fun _ hentry hne => entryOf_filter h.receiptIds hentry hne

/-- The bundles of the other receipts still open. -/
theorem OpensAll.deleteReceipt {vault : Vault P} {entries : List EncryptedReceiptIndexEntry}
    {bundles : Bundles} (h : OpensAll vault entries bundles) (receiptId : ReceiptId) :
    OpensAll (vault.deleteReceipt receiptId)
      (entries.filter fun entry => entry.receiptId ≠ receiptId)
      (bundles.filter fun named => named.1 ≠ receiptId) := by
  have hall := h.filter receiptId
  have hopens : ∀ entry ∈ entries.filter fun entry => entry.receiptId ≠ receiptId,
      ∃ bundle, Opens vault entry bundle := by
    intro entry hentry
    obtain ⟨bundle, -, hopens⟩ := hall.exists_bundle hentry
    exact ⟨bundle, hopens⟩
  have hpruned := deleteReceipt_pruned (w := ⟨.absent, vault, 0⟩) hopens
    fun entry hentry => of_decide_eq_true (List.mem_filter.mp hentry).2
  exact hall.congr hpruned.agrees.keys hpruned.agrees.blobs

/-- The run of that commit. -/
theorem commit_without_run {s t : World P} {loaded target : LoadedSecureExtensionState}
    (hvalid : ValidIndex loaded.persistent) {receiptId : ReceiptId}
    (hstored : receiptId ∈ loaded.persistent.receiptIndex.map (·.receiptId)) {now : Timestamp}
    (h : (commitIndex loaded (loaded.persistent.without receiptId now)).run (exec P) s =
      (.ok target, t)) :
    t = ⟨.current (loaded.persistent.without receiptId now), s.vault.deleteReceipt receiptId,
      s.draws⟩ ∧ ValidIndex (loaded.persistent.without receiptId now) ∧
        Opened t.vault (loaded.persistent.without receiptId now) target := by
  obtain ⟨persistent, s₁, hwrite, h⟩ := Prog.run_bind_eq_ok h
  obtain ⟨hnext, rfl, rfl⟩ := writePersistentState_ok hwrite
  rw [hvalid.deleteReplaced_without hstored now] at h
  obtain ⟨_, s₂, hdeleted, h⟩ := Prog.run_bind_eq_ok h
  cases hdeleted
  obtain ⟨hopened, rfl⟩ := openIndex_ok h
  exact ⟨rfl, hnext, hopened⟩

/-- **A deletion that succeeds**, step by step: the index was loaded, its
identity was known, and it is now the same index without the receipt. -/
theorem deleteSecureReceipt_ok {w t : World P} {receiptId : ReceiptId} {now : Timestamp}
    {target : LoadedSecureExtensionState} (hencrypted : w.area.encrypted = true)
    (h : (deleteSecureReceipt receiptId now).run (exec P) w = (.ok target, t)) :
    ∃ loaded, (loadSecureExtensionState none now).run (exec P) w =
        (.ok loaded, { w with area := .current loaded.persistent }) ∧
      Readable w.vault loaded.persistent loaded ∧
      t = ⟨.current target.persistent, w.vault.deleteReceipt receiptId, w.draws⟩ ∧
      target.persistent = loaded.persistent.without receiptId now ∧
      target.bundles = loaded.bundles.filter (fun named => named.1 ≠ receiptId) ∧
      Readable t.vault target.persistent target ∧ target.persistent.identity.isSome = true := by
  obtain ⟨loaded, s, hload, h⟩ := Prog.run_bind_eq_ok h
  obtain ⟨rfl, -, hvalid, hopened⟩ := load_encrypted_ok hencrypted hload
  split at h
  · cases h
  next hbundle =>
  obtain ⟨bundle, hget⟩ : ∃ bundle, loaded.bundles.get receiptId = some bundle := by
    rw [← Option.isSome_iff_exists, ← Option.not_isNone, Bool.not_eq_true']
    exact Bool.not_eq_true _ ▸ hbundle
  obtain ⟨entry, hentry, hid, -⟩ := hopened.bundles.of_get hget
  have hstored : receiptId ∈ loaded.persistent.receiptIndex.map (·.receiptId) :=
    List.mem_map.mpr ⟨entry, hentry, hid⟩
  obtain ⟨metadata, hmetadata⟩ := Option.isSome_iff_exists.mp
    (hvalid.identity.resolve_left (List.ne_nil_of_mem hentry))
  rw [save_eq (save_valid h)] at h
  obtain ⟨⟨current, identity⟩, s₁, hprepare, h⟩ := Prog.run_bind_eq_ok h
  obtain ⟨rfl, rfl, hreadable, hidentity, rfl⟩ := prepare_current_ok
    (s := { w with area := .current loaded.persistent }) rfl hopened hmetadata hprepare
  have hsave := hopened.save_without (P := P) hvalid hmetadata receiptId now
  unfold ExtensionLocalState.without at hsave
  dsimp only at h
  rw [hsave] at h
  obtain ⟨rfl, hnext, htarget⟩ := commit_without_run hvalid hstored (guarded_ok h)
  have hindex := htarget.index
  rw [← hindex] at hnext htarget
  refine ⟨current, hload, hreadable, by rw [hindex], hindex, ?_, ⟨hnext, ?_, htarget⟩, ?_⟩
  · have hopened' := htarget.bundles
    rw [hindex] at hopened'
    exact (hreadable.opened.bundles.deleteReceipt receiptId).unique hopened'
  · intro metadata hmetadata'
    rw [hindex] at hmetadata'
    exact hreadable.identity metadata hmetadata'
  · rw [hindex]
    exact Option.isSome_iff_exists.mpr ⟨_, hmetadata⟩

/-! ### What is gone and what stays -/

/-- No key and no blob is of the receipt. -/
structure Vault.Forgets (vault : Vault P) (receiptId : ReceiptId) : Prop where
  keys : ∀ id key, vault.keys id = some key → key.receiptId ≠ receiptId
  blobs : ∀ id blob, vault.blobs id = some blob → blob.receiptId ≠ receiptId

theorem Vault.deleteReceipt_forgets (vault : Vault P) (receiptId : ReceiptId) :
    (vault.deleteReceipt receiptId).Forgets receiptId :=
  ⟨fun _ _ hkey => of_decide_eq_true (Option.filter_eq_some_iff.mp hkey).2,
    fun _ _ hblob => of_decide_eq_true (Option.filter_eq_some_iff.mp hblob).2⟩

/-- Nothing of the receipt is stored. -/
structure Erased (receiptId : ReceiptId) (t : World P) (state : SecureExtensionLocalState) :
    Prop where
  area : t.area = .current state
  entries : ∀ entry ∈ state.receiptIndex, entry.receiptId ≠ receiptId
  operations : ∀ operation ∈ state.anchorOperations, operation.receiptId ≠ receiptId
  vault : t.vault.Forgets receiptId

/-- Everything else is what it was. -/
structure KeepsOthers (receiptId : ReceiptId) (before after : StoredContent)
    (vault vault' : Vault P) : Prop where
  entries : after.receiptIndex = before.receiptIndex.filter fun entry =>
    entry.receiptId ≠ receiptId
  operations : after.anchorOperations = before.anchorOperations.filter fun operation =>
    operation.receiptId ≠ receiptId
  bundles : ∀ other, other ≠ receiptId → after.bundles.get other = before.bundles.get other
  keys : ∀ id key, key.receiptId ≠ receiptId →
    (vault'.keys id = some key ↔ vault.keys id = some key)
  blobs : ∀ id blob, blob.receiptId ≠ receiptId →
    (vault'.blobs id = some blob ↔ vault.blobs id = some blob)
  identity : vault'.identity = vault.identity
  journal : vault'.journal = vault.journal
  enabledOrigins : after.enabledOrigins = before.enabledOrigins
  hasSeenWelcome : after.hasSeenWelcome = before.hasSeenWelcome
  initializedAt : after.initializedAt = before.initializedAt
  migration : after.migration = before.migration
  settings : after.settings = before.settings

/-- A stored index is read the same at all times, up to the time of its last
write. -/
theorem StoredValue.index_later {area : StoredValue} {now now' : Timestamp}
    {state state' : SecureExtensionLocalState} (h : area.index now = some state)
    (h' : area.index now' = some state') :
    state' = { state with updatedAt := state'.updatedAt } := by
  cases area with
  | current secure =>
    rw [← Option.some.inj h, ← Option.some.inj h']
  | legacyEncrypted legacy =>
    rw [← Option.some.inj h, ← Option.some.inj h']
    rfl
  | absent => cases h
  | malformed bad => cases h
  | plaintext value => cases h

/-- Two loads of an encrypted index say the same. -/
theorem load_content {w s s' : World P} {now now' : Timestamp}
    {loaded loaded' : LoadedSecureExtensionState} (hencrypted : w.area.encrypted = true)
    (h : (loadSecureExtensionState none now).run (exec P) w = (.ok loaded, s))
    (h' : (loadSecureExtensionState none now').run (exec P) w = (.ok loaded', s')) :
    loaded'.content = loaded.content := by
  obtain ⟨-, hindex, -, hopened⟩ := load_encrypted_ok hencrypted h
  obtain ⟨-, hindex', -, hopened'⟩ := load_encrypted_ok hencrypted h'
  have hsame := StoredValue.index_later hindex hindex'
  have hbundles : loaded'.bundles = loaded.bundles := by
    have hopens := hopened'.bundles
    rw [hsame] at hopens
    exact hopened.bundles.unique hopens
  unfold LoadedSecureExtensionState.content
  rw [hbundles, hsame]

/-- **A deletion is exact**: whatever the vault holds besides, no entry, no
anchor operation, no key and no blob of the receipt is left, everything else
is unchanged, and what is left loads as returned. -/
theorem deleteSecureReceipt_exact {w s t : World P} {receiptId : ReceiptId}
    {loadedAt now : Timestamp} {before target : LoadedSecureExtensionState}
    (hencrypted : w.area.encrypted = true)
    (hload : (loadSecureExtensionState none loadedAt).run (exec P) w = (.ok before, s))
    (h : (deleteSecureReceipt receiptId now).run (exec P) w = (.ok target, t)) :
    Erased receiptId t target.persistent ∧
      KeepsOthers receiptId before.content target.content w.vault t.vault ∧
      ∀ ensure later, (loadSecureExtensionState ensure later).run (exec P) t = (.ok target, t) := by
  obtain ⟨loaded, hloaded, -, rfl, hpersistent, hbundles, hreadable, hidentity⟩ :=
    deleteSecureReceipt_ok hencrypted h
  have hsame : before.content = loaded.content := load_content hencrypted hloaded hload
  refine ⟨⟨rfl, ?_, ?_, w.vault.deleteReceipt_forgets receiptId⟩, ?_, fun ensure later => ?_⟩
  · intro entry hentry
    rw [hpersistent] at hentry
    exact of_decide_eq_true (List.mem_filter.mp hentry).2
  · intro operation hoperation
    rw [hpersistent] at hoperation
    exact of_decide_eq_true (List.mem_filter.mp hoperation).2
  · rw [hsame]
    unfold LoadedSecureExtensionState.content
    rw [hpersistent, hbundles]
    refine ⟨rfl, rfl, fun other hne => Bundles.get_filter hne, fun id key hne => ?_,
      fun id blob hne => ?_, rfl, rfl, rfl, rfl, rfl, rfl, rfl⟩
    · show (w.vault.keys id).filter _ = some key ↔ _
      rw [Option.filter_eq_some_iff, and_iff_left (decide_eq_true hne)]
    · show (w.vault.blobs id).filter _ = some blob ↔ _
      rw [Option.filter_eq_some_iff, and_iff_left (decide_eq_true hne)]
  · obtain ⟨metadata, hmetadata⟩ := Option.isSome_iff_exists.mp hidentity
    exact (load_current_eq_ok rfl hmetadata).mpr ⟨rfl, hreadable⟩

/-- Two receipts, and a key of the first that no index names. -/
def strayWorld : World samplePlatform :=
  let w := sampleWorld [7, 8]
  { w with vault := { w.vault with
      keys := Function.update w.vault.keys 99 (some ⟨0, 0, 99, 7⟩) } }

/-- The first receipt is deleted, with the stray key. -/
theorem deleteSecureReceipt_exact_stray : ∃ before target s t,
    (strayWorld.vault.keys 99).isSome = true ∧ strayWorld.area.encrypted = true ∧
      (loadSecureExtensionState none 0).run (exec samplePlatform) strayWorld = (.ok before, s) ∧
      (deleteSecureReceipt 7 20).run (exec samplePlatform) strayWorld = (.ok target, t) ∧
      Erased 7 t target.persistent ∧
      KeepsOthers 7 before.content target.content strayWorld.vault t.vault ∧
      ∀ ensure later, (loadSecureExtensionState ensure later).run (exec samplePlatform) t =
        (.ok target, t) := by
  have hencrypted : strayWorld.area.encrypted = true := by decide +kernel
  obtain ⟨before, hbefore⟩ := exists_ok (x := ((loadSecureExtensionState none 0).run
    (exec samplePlatform) strayWorld).1) (by decide +kernel)
  obtain ⟨target, htarget⟩ := exists_ok (x := ((deleteSecureReceipt 7 20).run
    (exec samplePlatform) strayWorld).1) (by decide +kernel)
  refine ⟨before, target, _, _, by decide +kernel, hencrypted, Prod.ext hbefore rfl,
    Prod.ext htarget rfl, ?_⟩
  exact deleteSecureReceipt_exact hencrypted (Prod.ext hbefore rfl) (Prod.ext htarget rfl)

end SubmittedIt.Extension
