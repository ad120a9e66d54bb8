/-
SubmittedIt/DeletionRetries.lean

Deletions that one failing operation interrupts, and are tried again.

`deleteSecureReceipt` commits the index without the receipt before the vault
deletes the receipt's keys and blobs.  A failure before the commit leaves the
index as it was, and a second call deletes the receipt; a failure after the
vault's deletion leaves nothing to delete.  Where the vault's deletion itself
fails, the receipt is in no index any more, so a second call refuses it, and
its key and its ciphertext stay.  `deleteAllSecureExtensionData` empties the
vault first and can be repeated after any failure.

Main results: `deleteSecureReceipt_fails` (where a failure strikes, and what
it leaves), `deleteSecureReceipt_returns` (a readable index can be deleted
from) and `interrupted_deletion_retriable_iff`.
-/
import SubmittedIt.ReceiptDeletion
import SubmittedIt.Threads

namespace SubmittedIt.Extension

open Transaction ReceiptCore

variable {P : StoragePlatform}

/-! ### Kinds of operations -/

/-- The operation only reads. -/
def StorageOp.reads : StorageOp P → Bool
  | .areaGet | .getIdentity | .getReceiptKey _ | .getEnvelope _ | .getMigrationJournal => true
  | _ => false

/-- The operation is the vault's deletion of a receipt. -/
def StorageOp.deletesReceipt : StorageOp P → Bool
  | .deleteReceipt _ => true
  | _ => false

/-- The storage operations that are, or are not, the vault's deletion of a
receipt. -/
def failsAs (deletion : Bool) (o : StorageOp P) : Bool :=
  o.isStorage && (o.deletesReceipt == deletion)

/-- A program of reads. -/
abbrev Reads {α : Type} (p : StorageProg P α) : Prop := p.Only fun o => o.reads = true

theorem reads_perform {o : StorageOp P} (h : o.reads = true) : Reads (perform o) :=
  only_perform h

theorem exec_reads {o : StorageOp P} (h : o.reads = true) (w : World P) : (exec P o w).2 = w := by
  cases o
  all_goals first | rfl | cases h

theorem not_deletesReceipt_of_reads {o : StorageOp P} (h : o.reads = true) :
    o.deletesReceipt = false := by
  cases o
  all_goals first | rfl | cases h

/-- A failure in a strict program of reads. -/
theorem reads_fails {α : Type} {p : StorageProg P α} (hreads : Reads p) (hstrict : p.Strict)
    {deletion : Bool} {e : StorageError} {w b w' : World P} {r : Except StorageError α}
    (h : Prog.Fails (exec P) (failsAs deletion) e p w b r w') :
    deletion = false ∧ r = .error e ∧ w' = w := by
  induction p with
  | ret r₀ => exact absurd h Prog.not_fails_ret
  | op o k ih =>
    rcases Prog.fails_op.mp h with ⟨hfailable, rfl, hrun⟩ | h
    · rw [hstrict.1 e] at hrun
      cases hrun
      refine ⟨?_, rfl, rfl⟩
      have hkind := (Bool.and_eq_true_iff.mp hfailable).2
      rw [not_deletesReceipt_of_reads hreads.1] at hkind
      exact (beq_iff_eq.mp hkind).symm
    · rw [exec_reads hreads.1] at h
      rcases hresult : (exec P o w).1 with e₀ | a
      · rw [hresult, hstrict.1 e₀] at h
        exact absurd h Prog.not_fails_ret
      · rw [hresult] at h
        exact ih _ (hreads.2 _) (hstrict.2 a) h

theorem decryptEntry_reads (entry : EncryptedReceiptIndexEntry) :
    Reads (decryptEntry entry : StorageProg P PrivateReceiptBundle) := by
  refine (reads_perform rfl).bind fun key => (reads_perform rfl).bind fun envelope => ?_
  split
  · split
    · exact only_throw _
    · refine Prog.Only.bind (only_ret _) fun bundle => ?_
      split
      · exact only_throw _
      · exact only_pure _
  · exact only_throw _

theorem openIndex_reads (persistent : SecureExtensionLocalState) :
    Reads (openIndex persistent : StorageProg P LoadedSecureExtensionState) := by
  have hentries : ∀ entries, Reads (decryptEntries entries : StorageProg P Bundles) := by
    intro entries
    induction entries with
    | nil => exact only_pure _
    | cons entry entries ih =>
      exact (decryptEntry_reads entry).bind fun _ => ih.bind fun _ => only_pure _
  refine Prog.Only.bind (Prog.Only.bind (hentries _) fun bundles => ?_) fun bundles =>
    Prog.Only.bind (only_ret _) fun _ => only_pure _
  split
  · exact only_throw _
  · exact only_pure _

theorem ensureIdentity_some_reads (metadata : SecureIdentityMetadata) (now : Timestamp) :
    Reads (ensureIdentity (some metadata) now : StorageProg P InstallationIdentityRecord) := by
  refine (reads_perform rfl).bind fun existing => ?_
  rcases existing with - | existing
  · exact only_throw _
  · dsimp only
    split
    · exact only_throw _
    · exact only_pure _

/-- A load of a current index only reads, unless it has to make an identity. -/
theorem loadCurrent_reads {secure : SecureExtensionLocalState} {ensure : Option Bool}
    (h : secure.identity.isSome = true ∨ ensure ≠ some true) (now : Timestamp) :
    Reads (loadCurrent secure ensure now : StorageProg P LoadedSecureExtensionState) := by
  refine (reads_perform rfl).bind fun stored => ?_
  split
  · split
    · exact only_throw _
    · exact openIndex_reads _
  · next hnone =>
    split
    · exact only_throw _
    · rw [hnone] at h
      rw [if_neg (h.resolve_left Bool.noConfusion)]
      exact openIndex_reads _

/-- A failure in a sequence that starts with such a program. -/
theorem reads_bind_fails {α β : Type} {p : StorageProg P α} {f : α → StorageProg P β}
    (hreads : Reads p) (hstrict : p.Strict) {deletion : Bool} {e : StorageError} {w b w' : World P}
    {r : Except StorageError β} (h : Prog.Fails (exec P) (failsAs deletion) e (p >>= f) w b r w') :
    (deletion = false ∧ r = .error e ∧ w' = w) ∨
      ∃ a, p.run (exec P) w = (.ok a, w) ∧
        Prog.Fails (exec P) (failsAs deletion) e (f a) w b r w' := by
  rcases hstrict.fails_sequence h with ⟨rfl, hfails⟩ | ⟨a, s, hrun, hfails⟩
  · obtain ⟨hkind, -, hw⟩ := reads_fails hreads hstrict hfails
    exact .inl ⟨hkind, rfl, hw⟩
  · have hsame : (p.run (exec P) w).2 = w := by
      have hthroughout : ∀ {p : StorageProg P α} {w : World P}, Reads p →
          (p.run (exec P) w).2 = w := by
        intro p
        induction p with
        | ret r => exact fun _ => rfl
        | op o k ih =>
          intro w hreads
          have hrest := ih (exec P o w).1 (w := (exec P o w).2) (hreads.2 _)
          rw [exec_reads hreads.1] at hrest
          show ((k (exec P o w).1).run (exec P) (exec P o w).2).2 = w
          rw [exec_reads hreads.1]
          exact hrest
      exact hthroughout hreads
    rw [hrun] at hsame
    obtain rfl : s = w := hsame
    exact .inr ⟨a, hrun, hfails⟩

/-! ### Where a failure strikes -/

/-- What was stored, or its upgrade. -/
def Untouched (now : Timestamp) (w w' : World P) : Prop :=
  w'.vault = w.vault ∧
    (w'.area = w.area ∨ ∃ state, w.area.index now = some state ∧ w'.area = .current state)

/-- The write of an index fails before it changes anything. -/
theorem write_fails {deletion : Bool} {e : StorageError} {state : SecureExtensionLocalState}
    {w b w' : World P} {r : Except StorageError SecureExtensionLocalState}
    (h : Prog.Fails (exec P) (failsAs deletion) e (writePersistentState state) w b r w') :
    deletion = false ∧ r = .error e ∧ w' = w := by
  unfold writePersistentState at h
  split at h
  · exact absurd h Prog.not_fails_ret
  · rcases (Prog.strict_perform _).fails_sequence h with ⟨rfl, hfails⟩ | ⟨a, s, -, hfails⟩
    · obtain ⟨hfailable, -, -, hw⟩ := Prog.fails_perform.mp hfails
      exact ⟨(beq_iff_eq.mp (Bool.and_eq_true_iff.mp hfailable).2).symm, rfl, hw⟩
    · exact absurd hfails Prog.not_fails_ret

/-- **A failure in the load** leaves what was stored, or its upgrade. -/
theorem load_encrypted_fails {deletion : Bool} {e : StorageError} {now : Timestamp}
    {w b w' : World P} {r : Except StorageError LoadedSecureExtensionState}
    (hencrypted : w.area.encrypted = true)
    (h : Prog.Fails (exec P) (failsAs deletion) e (loadSecureExtensionState none now) w b r w') :
    deletion = false ∧ r = .error e ∧ Untouched now w w' := by
  rcases reads_bind_fails (reads_perform rfl) (Prog.strict_perform _) h with
    ⟨hkind, hr, rfl⟩ | ⟨stored, hstored, h⟩
  · exact ⟨hkind, hr, rfl, .inl rfl⟩
  cases hstored
  rcases harea : w.area with - | secure | legacy | bad | value
  · rw [harea] at hencrypted
    cases hencrypted
  · rw [harea] at h
    dsimp only at h
    split at h
    · exact absurd h Prog.not_fails_ret
    · obtain ⟨hkind, hr, rfl⟩ := reads_fails (loadCurrent_reads (.inr (by decide)) now)
        (loadCurrent_strict secure none now) h
      exact ⟨hkind, hr, rfl, .inl rfl⟩
  · rw [harea] at h
    dsimp only at h
    split at h
    · exact absurd h Prog.not_fails_ret
    · rcases (writePersistentState_strict _).fails_sequence h with
        ⟨rfl, hfails⟩ | ⟨a, s, hrun, hfails⟩
      · obtain ⟨hkind, -, rfl⟩ := write_fails hfails
        exact ⟨hkind, rfl, rfl, .inl rfl⟩
      · obtain ⟨-, rfl, rfl⟩ := writePersistentState_ok hrun
        obtain ⟨hkind, hr, rfl⟩ := reads_fails (openIndex_reads _) (openIndex_strict _) hfails
        exact ⟨hkind, hr, rfl, .inr ⟨_, by rw [harea]; rfl, rfl⟩⟩
  · rw [harea] at hencrypted
    cases hencrypted
  · rw [harea] at hencrypted
    cases hencrypted

/-- The first part of a save, where the index has an identity, only reads. -/
theorem prepare_current_fails {deletion : Bool} {e : StorageError} {now : Timestamp}
    {s b s' : World P} {state : SecureExtensionLocalState} {metadata : SecureIdentityMetadata}
    {r : Except StorageError (LoadedSecureExtensionState × InstallationIdentityRecord)}
    (harea : s.area = .current state) (hidentity : state.identity = some metadata)
    (h : Prog.Fails (exec P) (failsAs deletion) e (prepare now) s b r s') :
    deletion = false ∧ r = .error e ∧ s' = s := by
  have hsome : state.identity.isSome = true := by rw [hidentity]; rfl
  rcases (load_strict (some true) now).fails_sequence h with
    ⟨rfl, hfails⟩ | ⟨current, s₁, hload, hrest⟩
  · rcases reads_bind_fails (reads_perform rfl) (Prog.strict_perform _) hfails with
      ⟨hkind, -, rfl⟩ | ⟨stored, hstored, hfails⟩
    · exact ⟨hkind, rfl, rfl⟩
    cases hstored
    rw [harea] at hfails
    dsimp only at hfails
    split at hfails
    · exact absurd hfails Prog.not_fails_ret
    · obtain ⟨hkind, -, rfl⟩ := reads_fails (loadCurrent_reads (.inl hsome) now)
        (loadCurrent_strict state _ now) hfails
      exact ⟨hkind, rfl, rfl⟩
  · obtain ⟨rfl, hreadable⟩ := (load_current_eq_ok harea hidentity).mp hload
    rw [hreadable.opened.index, hidentity] at hrest
    rcases reads_bind_fails (ensureIdentity_some_reads metadata now) (ensureIdentity_strict _ _)
      hrest with hearly | ⟨identity, -, hpure⟩
    · exact hearly
    · exact absurd hpure Prog.not_fails_ret

/-- What a failure in a deletion leaves: the index as it was; the index
without the receipt, but its key and its ciphertext in the vault; or nothing
of the receipt. -/
inductive Interrupted (receiptId : ReceiptId) (now : Timestamp) (w : World P) :
    Bool → World P → Prop
  | untouched {w' : World P} (h : Untouched now w w') : Interrupted receiptId now w false w'
  | committed {loaded : LoadedSecureExtensionState}
      (hopened : Opened w.vault loaded.persistent loaded)
      (hbundle : ∃ bundle, loaded.bundles.get receiptId = some bundle) :
      Interrupted receiptId now w true
        ⟨.current (loaded.persistent.without receiptId now), w.vault, w.draws⟩
  | deleted (loaded : LoadedSecureExtensionState) :
      Interrupted receiptId now w false
        ⟨.current (loaded.persistent.without receiptId now), w.vault.deleteReceipt receiptId,
          w.draws⟩

theorem commitIndex_strict (current : LoadedSecureExtensionState)
    (state : SecureExtensionLocalState) :
    (commitIndex current state : StorageProg P LoadedSecureExtensionState).Strict :=
  (writePersistentState_strict _).bind fun persistent =>
    afterCommit_strict state.receiptIndex current persistent

/-- A failure where nothing is staged. -/
theorem guarded_nil_fails {failable : StorageOp P → Bool} {e : StorageError}
    {p : StorageProg P LoadedSecureExtensionState} (hp : p.Strict) {s b w' : World P}
    {r : Except StorageError LoadedSecureExtensionState}
    (h : Prog.Fails (exec P) failable e (guarded [] p) s b r w') :
    r = .error e ∧ Prog.Fails (exec P) failable e p s b (.error e) w' := by
  rcases Prog.fails_bind.mp h with ⟨a, s₁, hfails, hrest⟩ | ⟨e', hfails, -⟩ | ⟨a, s₁, hrun, hfails⟩
  · obtain ⟨r₀, hr₀, hfails'⟩ := Prog.fails_attempt.mp hfails
    obtain ⟨rfl, rfl⟩ := hp.fails hfails'
    cases hr₀
    cases hrest
    exact ⟨rfl, hfails'⟩
  · obtain ⟨r₀, hr₀, -⟩ := Prog.fails_attempt.mp hfails
    cases hr₀
  · rcases a with e₀ | loaded
    · exact absurd hfails Prog.not_fails_ret
    · exact absurd hfails Prog.not_fails_ret

/-- **Where a failure strikes in a deletion**, and what it leaves. -/
theorem deleteSecureReceipt_fails {deletion : Bool} {e : StorageError} {receiptId : ReceiptId}
    {now : Timestamp} {w b w' : World P} {r : Except StorageError LoadedSecureExtensionState}
    (hencrypted : w.area.encrypted = true)
    (h : Prog.Fails (exec P) (failsAs deletion) e (deleteSecureReceipt receiptId now) w b r w') :
    r = .error e ∧ Interrupted receiptId now w deletion w' := by
  rcases (load_strict none now).fails_sequence h with ⟨rfl, hfails⟩ | ⟨loaded, s, hload, h⟩
  · obtain ⟨rfl, -, hw⟩ := load_encrypted_fails hencrypted hfails
    exact ⟨rfl, .untouched hw⟩
  obtain ⟨rfl, hindex, hvalid, hopened⟩ := load_encrypted_ok hencrypted hload
  split at h
  · exact absurd h Prog.not_fails_ret
  next hbundle =>
  obtain ⟨bundle, hget⟩ : ∃ bundle, loaded.bundles.get receiptId = some bundle := by
    rw [← Option.isSome_iff_exists, ← Option.not_isNone, Bool.not_eq_true']
    exact Bool.not_eq_true _ ▸ hbundle
  obtain ⟨entry, hentry, hid, -⟩ := hopened.bundles.of_get hget
  have hstored : receiptId ∈ loaded.persistent.receiptIndex.map (·.receiptId) :=
    List.mem_map.mpr ⟨entry, hentry, hid⟩
  obtain ⟨metadata, hmetadata⟩ := Option.isSome_iff_exists.mp
    (hvalid.identity.resolve_left (List.ne_nil_of_mem hentry))
  have huntouched : Untouched now w { w with area := .current loaded.persistent } :=
    ⟨rfl, .inr ⟨_, hindex, rfl⟩⟩
  -- the save
  have hsave : Prog.Fails (exec P) (failsAs deletion) e
      (saveSecureExtensionState (loaded.working.without receiptId) now)
      { w with area := .current loaded.persistent } b r w' := h
  by_cases hworking : validateExtensionState P { loaded.working.without receiptId with
      updatedAt := now } = true
  swap
  · unfold saveSecureExtensionState at hsave
    dsimp only at hsave
    rw [if_pos (Bool.not_eq_true _ ▸ hworking)] at hsave
    exact absurd hsave Prog.not_fails_ret
  rw [save_eq hworking] at hsave
  rcases (prepare_strict now).fails_sequence hsave with
    ⟨rfl, hfails⟩ | ⟨⟨current, identity⟩, s₁, hprepare, hrest⟩
  · obtain ⟨rfl, -, rfl⟩ := prepare_current_fails
      (s := { w with area := .current loaded.persistent }) rfl hmetadata hfails
    exact ⟨rfl, .untouched huntouched⟩
  obtain ⟨rfl, rfl, hreadable, hidentity, rfl⟩ := prepare_current_ok
    (s := { w with area := .current loaded.persistent }) rfl hopened hmetadata hprepare
  dsimp only at hrest
  rw [hopened.save_without hvalid hmetadata receiptId now] at hrest
  -- the commit and what follows it
  obtain ⟨rfl, hcommit⟩ := guarded_nil_fails (commitIndex_strict _ _) hrest
  refine ⟨rfl, ?_⟩
  rcases (writePersistentState_strict _).fails_sequence hcommit with
    ⟨-, hfails⟩ | ⟨_, s₂, hwrite, hafter⟩
  · obtain ⟨rfl, -, rfl⟩ := write_fails hfails
    exact .untouched huntouched
  obtain ⟨-, rfl, rfl⟩ := writePersistentState_ok hwrite
  rw [hvalid.deleteReplaced_without hstored now] at hafter
  rcases (Prog.strict_perform _).fails_sequence hafter with ⟨-, hfails⟩ | ⟨_, s₃, hdelete, hopen⟩
  · obtain ⟨hfailable, -, -, rfl⟩ := Prog.fails_perform.mp hfails
    obtain rfl : true = deletion := beq_iff_eq.mp (Bool.and_eq_true_iff.mp hfailable).2
    exact .committed hopened ⟨bundle, hget⟩
  · cases hdelete
    obtain ⟨rfl, -, rfl⟩ := reads_fails (openIndex_reads _) (openIndex_strict _) hopen
    exact .deleted current

/-! ### A deletion that nothing interrupts -/

/-- A load of a readable index with an identity. -/
theorem load_index_run {w : World P} {now : Timestamp} {state : SecureExtensionLocalState}
    {metadata : SecureIdentityMetadata} {loaded : LoadedSecureExtensionState}
    (hindex : w.area.index now = some state) (hidentity : state.identity = some metadata)
    (h : Readable w.vault state loaded) :
    (loadSecureExtensionState none now).run (exec P) w =
      (.ok loaded, { w with area := .current state }) := by
  rcases harea : w.area with - | secure | legacy | bad | value
  · rw [harea] at hindex
    cases hindex
  · rw [harea] at hindex
    cases hindex
    rw [← harea]
    exact (load_current_eq_ok harea hidentity).mpr ⟨rfl, h⟩
  · rw [harea] at hindex
    cases hindex
    show ((perform .areaGet >>= _ : StorageProg P _).run (exec P) w) = _
    rw [Prog.run_bind_ok (show (perform .areaGet : StorageProg P StoredValue).run (exec P) w =
      (.ok (.legacyEncrypted legacy), w) by rw [← harea]; rfl)]
    dsimp only
    rw [validateSecure_eq_true.mpr h.valid, if_neg Bool.noConfusion,
      Prog.run_bind_ok (writePersistentState_run h.valid w)]
    exact openIndex_run_eq h.opened
  · rw [harea] at hindex
    cases hindex
  · rw [harea] at hindex
    cases hindex

/-- The index without a receipt is as valid. -/
theorem ValidIndex.without {persistent : SecureExtensionLocalState} (h : ValidIndex persistent)
    (receiptId : ReceiptId) (now : Timestamp) : ValidIndex (persistent.without receiptId now) := by
  have hindex : (persistent.without receiptId now).receiptIndex.Sublist persistent.receiptIndex :=
    List.filter_sublist
  have hoperations : (persistent.without receiptId now).anchorOperations.Sublist
      persistent.anchorOperations := List.filter_sublist
  refine ⟨hoperations.length_le.trans h.operationsRoom, hindex.length_le.trans h.room, h.settings,
    h.enabledOrigins, h.migration, fun entry hentry => h.entries entry (hindex.subset hentry),
    h.receiptIds.sublist (hindex.map _), h.blobIds.sublist (hindex.map _),
    h.keyIds.sublist (hindex.map _), ?_, fun operation hoperation => ?_,
    h.eventHashes.sublist (hoperations.map _)⟩
  · refine h.identity.imp (fun hnil => ?_) id
    rw [hnil] at hindex
    exact List.eq_nil_of_sublist_nil hindex
  · obtain ⟨hold, hother⟩ := List.mem_filter.mp hoperation
    obtain ⟨hparse, hmem⟩ := h.operations operation hold
    obtain ⟨entry, hentry, hid⟩ := List.mem_map.mp hmem
    refine ⟨hparse, List.mem_map.mpr ⟨entry, List.mem_filter.mpr ⟨hentry, ?_⟩, hid⟩⟩
    rw [hid]
    exact hother

/-- So is the working state, whenever it is saved. -/
theorem Opened.validate_without {vault : Vault P} {loaded : LoadedSecureExtensionState}
    (h : Opened vault loaded.persistent loaded) (receiptId : ReceiptId) (now : Timestamp) :
    validateExtensionState P { loaded.working.without receiptId with updatedAt := now } = true := by
  have hworking := h.working
  unfold workingFromPersistent at hworking
  simp only [bind_eq_ok, revertIf_eq_ok, exists_const, Bool.not_eq_false] at hworking
  obtain ⟨receipts, -, hvalid, hworking⟩ := hworking
  rw [Except.ok.inj hworking, validateExtensionState_eq_true] at hvalid
  obtain ⟨hsettings, horigins, hreceipts, hmigration⟩ := hvalid
  obtain ⟨hroom, hparsed, hunrelated⟩ := parseReceiptIndex_eq_true.mp hreceipts
  have hsublist : (loaded.working.without receiptId).receiptIndex.Sublist
      loaded.working.receiptIndex := List.filter_sublist
  refine validateExtensionState_eq_true.mpr ⟨hsettings, horigins, ?_, hmigration⟩
  exact parseReceiptIndex_eq_true.mpr ⟨hsublist.length_le.trans hroom,
    fun receipt hreceipt => hparsed receipt (hsublist.subset hreceipt),
    hunrelated.sublist hsublist⟩

/-- **What is left opens.** -/
theorem Readable.open_without {vault : Vault P} {loaded : LoadedSecureExtensionState}
    (h : Readable vault loaded.persistent loaded) (receiptId : ReceiptId) (now : Timestamp) :
    ∃ target, Opened (vault.deleteReceipt receiptId) (loaded.persistent.without receiptId now)
      target := by
  have hbundles := h.opened.bundles.deleteReceipt receiptId
  have hget : ∀ entry ∈ loaded.persistent.receiptIndex.filter
      fun entry => entry.receiptId ≠ receiptId, ∃ bundle, Bundles.get (loaded.bundles.filter fun named => named.1 ≠ receiptId)
        entry.receiptId = some bundle ∧ Opens (vault.deleteReceipt receiptId) entry bundle :=
    fun entry hentry => hbundles.get ((h.valid.without receiptId now).receiptIds) hentry
  refine ⟨⟨loaded.bundles.filter fun named => named.1 ≠ receiptId,
    loaded.persistent.without receiptId now,
    { loaded.working.without receiptId with updatedAt := now }⟩, rfl, hbundles, ?_, ?_⟩
  · intro operation hoperation
    obtain ⟨hold, hother⟩ := List.mem_filter.mp hoperation
    show operationMatches (Bundles.get _ operation.receiptId) operation = true
    rw [Bundles.get_filter (of_decide_eq_true hother)]
    exact h.opened.operations operation hold
  · have hvalid := h.opened.validate_without receiptId now
    have hreceipts := h.opened.receipts h.valid.receiptIds
    have hworking := h.opened.working
    unfold workingFromPersistent at hworking ⊢
    simp only [bind_eq_ok, revertIf_eq_ok, exists_const, Bool.not_eq_false] at hworking ⊢
    obtain ⟨receipts, -, -, hworking⟩ := hworking
    have hsame : ({ loaded.working.without receiptId with updatedAt := now } :
        ExtensionLocalState) = {
          initializedAt := loaded.persistent.initializedAt
          updatedAt := now
          hasSeenWelcome := loaded.persistent.hasSeenWelcome
          settings := loaded.persistent.settings
          enabledOrigins := loaded.persistent.enabledOrigins
          receiptIndex := Bundles.receipts (loaded.bundles.filter fun named => named.1 ≠ receiptId)
          migration := loaded.persistent.migration } := by
      rw [Bundles.receipts_filter h.opened.bundles, ← hreceipts, ← Except.ok.inj hworking]
      rfl
    refine ⟨_, hbundles.operationalReceipts hget, ?_, ?_⟩
    · rw [hsame] at hvalid
      exact hvalid
    · rw [hsame]
      rfl

/-- The first part of a save, where the stored index is readable. -/
theorem prepare_current_run {s : World P} {loaded : LoadedSecureExtensionState}
    {metadata : SecureIdentityMetadata} (harea : s.area = .current loaded.persistent)
    (h : Readable s.vault loaded.persistent loaded)
    (hidentity : loaded.persistent.identity = some metadata) (now : Timestamp) :
    ∃ identity, identityMetadata identity = metadata ∧
      (prepare now).run (exec P) s = (.ok (loaded, identity), s) := by
  have hmatches := h.identity metadata hidentity
  obtain ⟨identity, hstored, hsame⟩ := (Option.any_eq_true _ _).mp hmatches
  refine ⟨identity, (of_decide_eq_true hsame).symm, ?_⟩
  have hensure : (ensureIdentity (some metadata) now).run (exec P) s = (.ok identity, s) := by
    show ((perform .getIdentity >>= _ : StorageProg P _).run (exec P) s) = _
    rw [Prog.run_bind_ok (show (perform .getIdentity :
      StorageProg P (Option InstallationIdentityRecord)).run (exec P) s =
        (.ok s.vault.identity, s) from rfl), hstored]
    dsimp only
    rw [hsame, if_neg Bool.noConfusion]
    rfl
  unfold prepare
  rw [Prog.run_bind_ok ((load_current_eq_ok harea hidentity).mpr ⟨rfl, h⟩), hidentity,
    Prog.run_bind_ok hensure]
  rfl

/-- The last part of a save returns what the commit returns. -/
theorem guarded_run {staged : List StagedArtifact} {p : StorageProg P LoadedSecureExtensionState}
    {s t : World P} {target : LoadedSecureExtensionState} (h : p.run (exec P) s = (.ok target, t)) :
    (guarded staged p).run (exec P) s = (.ok target, t) := by
  have hattempt : p.attempt.run (exec P) s = (.ok (.ok target), t) := by
    rw [Prog.run_attempt, h]
  unfold guarded
  rw [Prog.run_bind_ok hattempt]
  rfl

/-- **A deletion that nothing interrupts succeeds**, where the stored index
can be read and names the receipt. -/
theorem deleteSecureReceipt_returns {w : World P} {receiptId : ReceiptId} {now : Timestamp}
    {state : SecureExtensionLocalState} {loaded : LoadedSecureExtensionState}
    (hindex : w.area.index now = some state) (h : Readable w.vault state loaded)
    (hnamed : receiptId ∈ state.receiptIndex.map (·.receiptId)) :
    ∃ target t, (deleteSecureReceipt receiptId now).run (exec P) w = (.ok target, t) := by
  obtain rfl : state = loaded.persistent := h.opened.index.symm
  obtain ⟨entry, hentry, hid⟩ := List.mem_map.mp hnamed
  obtain ⟨metadata, hmetadata⟩ := Option.isSome_iff_exists.mp
    (h.valid.identity.resolve_left (List.ne_nil_of_mem hentry))
  obtain ⟨bundle, hget, -⟩ := h.opened.bundles.get h.valid.receiptIds hentry
  rw [hid] at hget
  obtain ⟨identity, rfl, hprepare⟩ := prepare_current_run
    (s := { w with area := .current loaded.persistent }) rfl h hmetadata now
  obtain ⟨target, htarget⟩ := h.open_without receiptId now
  refine ⟨target, ⟨.current (loaded.persistent.without receiptId now),
    w.vault.deleteReceipt receiptId, w.draws⟩, ?_⟩
  unfold deleteSecureReceipt
  rw [Prog.run_bind_ok (load_index_run hindex hmetadata h), hget, if_neg Bool.noConfusion]
  show (saveSecureExtensionState (loaded.working.without receiptId) now).run (exec P) _ = _
  rw [save_eq (h.opened.validate_without receiptId now), Prog.run_bind_ok hprepare]
  dsimp only
  rw [h.opened.save_without h.valid hmetadata receiptId now]
  apply guarded_run
  unfold commitIndex
  rw [Prog.run_bind_ok (writePersistentState_run (h.valid.without receiptId now) _),
    h.valid.deleteReplaced_without hnamed now, Prog.run_bind_ok
      (show (perform (.deleteReceipt receiptId) : StorageProg P Unit).run (exec P) _ =
        (.ok (), _) from rfl)]
  exact openIndex_run_eq htarget

/-! ### Trying again -/

/-- A call that deletes. -/
inductive DeletionCall
  | receipt (receiptId : ReceiptId) (now : Timestamp)
  | all (now : Timestamp)

namespace DeletionCall

def prog : DeletionCall → StorageProg P LoadedSecureExtensionState
  | receipt receiptId now => deleteSecureReceipt receiptId now
  | all now => deleteAllSecureExtensionData now

/-- Where the call is made: a receipt is deleted from a loadable encrypted
index that names it. -/
def Applies (w : World P) : DeletionCall → Prop
  | receipt receiptId _ => w.area.encrypted = true ∧
      ∃ loadedAt loaded s,
        (loadSecureExtensionState none loadedAt).run (exec P) w = (.ok loaded, s) ∧
        receiptId ∈ loaded.persistent.receiptIndex.map (·.receiptId)
  | all _ => True

/-- The call can be tried again in `w'`, after it was interrupted in `w`.  Of
a receipt that no entry names any more nothing is in the vault.  A second call
that returns leaves nothing of it either, and it does return where an entry
names the receipt (in a store whose identity is the one its index names).  A
second deletion of everything ends in the initial state. -/
def Retriable (w w' : World P) : DeletionCall → Prop
  | receipt receiptId _ =>
      (receiptId ∉ w'.area.entries.map (·.receiptId) → w'.vault.Forgets receiptId) ∧
      (∀ later target t, (deleteSecureReceipt receiptId later).run (exec P) w' = (.ok target, t) →
        t.vault.Forgets receiptId) ∧
      (receiptId ∈ w'.area.entries.map (·.receiptId) → IdentityKnown w → ∀ later, ∃ target t,
        (deleteSecureReceipt receiptId later).run (exec P) w' = (.ok target, t))
  | all _ => ∀ later, ∃ loaded t,
      (deleteAllSecureExtensionData later).run (exec P) w' = (.ok loaded, t) ∧
        t.area = .current (initialSecureState later) ∧ t.vault = .empty

end DeletionCall

/-- **Deleting everything** ends in the initial state, from any. -/
theorem deleteAll_run (w : World P) (now : Timestamp) :
    ∃ loaded, (deleteAllSecureExtensionData now).run (exec P) w =
      (.ok loaded, ⟨.current (initialSecureState now), .empty, w.draws⟩) := by
  refine ⟨⟨[], initialSecureState now, createInitialExtensionState now⟩, ?_⟩
  show ((writePersistentState (initialSecureState now) >>= fun persistent =>
    loadedFrom persistent [] : StorageProg P LoadedSecureExtensionState)).run (exec P)
      ⟨.absent, .empty, w.draws⟩ = _
  have hvalid : ValidIndex (initialSecureState now) := initial_valid now none
  rw [Prog.run_bind_ok (writePersistentState_run hvalid _)]
  rfl

theorem deleteAll_fails {deletion : Bool} {e : StorageError} {now : Timestamp} {w b w' : World P}
    {r : Except StorageError LoadedSecureExtensionState}
    (h : Prog.Fails (exec P) (failsAs deletion) e (deleteAllSecureExtensionData now) w b r w') :
    deletion = false := by
  have hperform : ∀ {o : StorageOp P} {s b s' : World P} {r}, o.deletesReceipt = false →
      Prog.Fails (exec P) (failsAs deletion) e (perform o) s b r s' → deletion = false := by
    intro o s b s' r ho hfails
    have hkind := (Bool.and_eq_true_iff.mp (Prog.fails_perform.mp hfails).1).2
    rw [ho] at hkind
    exact (beq_iff_eq.mp hkind).symm
  rcases (Prog.strict_perform _).fails_sequence h with ⟨-, hfails⟩ | ⟨_, s, -, h⟩
  · exact hperform rfl hfails
  rcases (Prog.strict_perform _).fails_sequence h with ⟨-, hfails⟩ | ⟨_, s, -, h⟩
  · exact hperform rfl hfails
  rcases (writePersistentState_strict _).fails_sequence h with ⟨-, hfails⟩ | ⟨persistent, s, -, h⟩
  · exact (write_fails hfails).1
  rcases (Prog.strict_ofExcept _).fails_sequence h with ⟨-, hfails⟩ | ⟨working, s, -, h⟩
  · exact absurd hfails Prog.not_fails_ret
  · exact absurd h Prog.not_fails_ret

/-- What an untouched store can still do: a load at any time reads what a load
before the failure read. -/
theorem Untouched.readable {w w' : World P} {now : Timestamp} (h : Untouched now w w')
    {content : StoredContent} (hw : Holds w content) (later : Timestamp) :
    ∃ state loaded, w'.area.index later = some state ∧ Readable w'.vault state loaded ∧
      state.receiptIndex = content.receiptIndex := by
  have hindex : ∀ {state loaded}, Readable w.vault state loaded → loaded.content = content →
      state.receiptIndex = content.receiptIndex := by
    rintro state loaded hreadable rfl
    show _ = loaded.persistent.receiptIndex
    rw [hreadable.opened.index]
  obtain ⟨hvault, harea | ⟨state, hstate, harea⟩⟩ := h
  · obtain ⟨state, loaded, hstate, hreadable, hcontent⟩ := hw later
    exact ⟨state, loaded, by rw [harea, hstate], by rw [hvault]; exact hreadable,
      hindex hreadable hcontent⟩
  · obtain ⟨state', loaded, hstate', hreadable, hcontent⟩ := hw now
    obtain rfl : state = state' := Option.some.inj (hstate.symm.trans hstate')
    exact ⟨state, loaded, by rw [harea]; rfl, by rw [hvault]; exact hreadable,
      hindex hreadable hcontent⟩

theorem StoredValue.entries_of_index {area : StoredValue} {now : Timestamp}
    {state : SecureExtensionLocalState} (h : area.index now = some state) :
    area.entries = state.receiptIndex ∧ area.encrypted = true := by
  cases area with
  | current secure =>
    cases h
    exact ⟨rfl, rfl⟩
  | legacyEncrypted legacy =>
    cases h
    exact ⟨rfl, rfl⟩
  | absent => cases h
  | malformed bad => cases h
  | plaintext value => cases h

/-- The stored index names what it named, and is still encrypted. -/
theorem Untouched.entries {w w' : World P} {now : Timestamp} (h : Untouched now w w')
    (hencrypted : w.area.encrypted = true) :
    w'.area.entries = w.area.entries ∧ w'.area.encrypted = true := by
  obtain ⟨-, harea | ⟨state, hstate, harea⟩⟩ := h
  · rw [harea]
    exact ⟨rfl, hencrypted⟩
  · rw [harea, (StoredValue.entries_of_index hstate).1]
    exact ⟨rfl, rfl⟩

/-- A second deletion that returns leaves nothing of the receipt. -/
theorem forgets_of_deleted {w t : World P} {receiptId : ReceiptId} {now : Timestamp}
    {target : LoadedSecureExtensionState} (hencrypted : w.area.encrypted = true)
    (h : (deleteSecureReceipt receiptId now).run (exec P) w = (.ok target, t)) :
    t.vault.Forgets receiptId := by
  obtain ⟨-, -, -, rfl, -⟩ := deleteSecureReceipt_ok hencrypted h
  exact w.vault.deleteReceipt_forgets receiptId

theorem not_mem_without (persistent : SecureExtensionLocalState) (receiptId : ReceiptId)
    (now : Timestamp) :
    receiptId ∉ (persistent.without receiptId now).receiptIndex.map (·.receiptId) := by
  intro hmem
  obtain ⟨entry, hentry, hid⟩ := List.mem_map.mp hmem
  exact of_decide_eq_true (List.mem_filter.mp hentry).2 hid

/-- What a failure leaves depends on the kind of the operation that failed. -/
theorem retriable_iff_kind {call : DeletionCall} {deletion : Bool} {w b w' : World P}
    (hw : call.Applies w) {r : Except StorageError LoadedSecureExtensionState}
    (hfails : Prog.Fails (exec P) (failsAs deletion) .operation call.prog w b r w') :
    call.Retriable w w' ↔ deletion = false := by
  cases call with
  | all now =>
    refine ⟨fun _ => deleteAll_fails hfails, fun _ later => ?_⟩
    obtain ⟨loaded, hrun⟩ := deleteAll_run w' later
    exact ⟨loaded, _, hrun, rfl, rfl⟩
  | receipt receiptId now =>
    obtain ⟨hencrypted, loadedAt, before, s, hload, hnamed⟩ := hw
    obtain ⟨-, hindex, -, -⟩ := load_encrypted_ok hencrypted hload
    rw [← (StoredValue.entries_of_index hindex).1] at hnamed
    obtain ⟨-, hinterrupted⟩ := deleteSecureReceipt_fails hencrypted hfails
    cases hinterrupted with
    | untouched huntouched =>
      obtain ⟨hentries, hencrypted'⟩ := huntouched.entries hencrypted
      refine ⟨fun _ => rfl, fun _ => ⟨fun hnot => ?_, fun _ _ _ => forgets_of_deleted hencrypted',
        fun _ hknown later => ?_⟩⟩
      · rw [hentries] at hnot
        exact absurd hnamed hnot
      · have hholds := holds_of_load hload hencrypted hknown
        obtain ⟨state, loaded, hstate, hreadable, hsame⟩ := huntouched.readable hholds later
        refine deleteSecureReceipt_returns hstate hreadable ?_
        rw [hsame, ← hholds.entries]
        exact hnamed
    | @committed loaded hopened hbundle =>
      refine ⟨fun hretriable => ?_, fun hkind => by cases hkind⟩
      -- no entry names the receipt, its key is still there
      obtain ⟨bundle, hget⟩ := hbundle
      obtain ⟨entry, -, hid, hopens⟩ := hopened.bundles.of_get hget
      obtain ⟨⟨key, hkey, hreceipt⟩, -⟩ := hopens.stored
      have hforgets := hretriable.1 (not_mem_without loaded.persistent receiptId now)
      exact absurd (hreceipt.trans hid) (hforgets.keys _ key hkey)
    | deleted loaded =>
      refine ⟨fun _ => rfl, fun _ => ⟨fun _ => w.vault.deleteReceipt_forgets receiptId,
        fun _ _ _ => forgets_of_deleted rfl, fun hnamed' => ?_⟩⟩
      exact absurd hnamed' (not_mem_without loaded.persistent receiptId now)

/-- **An interrupted deletion can be tried again**, if and only if the
operation that failed is not the vault's deletion of the receipt. -/
theorem interrupted_deletion_retriable_iff {call : DeletionCall} {w b w' : World P}
    (hw : call.Applies w) {r : Except StorageError LoadedSecureExtensionState}
    (h : Prog.Fails (exec P) StorageOp.isStorage .operation call.prog w b r w') :
    (call.Retriable w w' ↔
        Prog.Fails (exec P) (failsAs false) .operation call.prog w b r w') ∧
      (¬ call.Retriable w w' ↔
        Prog.Fails (exec P) (failsAs true) .operation call.prog w b r w') := by
  obtain ⟨deletion, hfails⟩ := h.kind StorageOp.deletesReceipt
  have hkind := retriable_iff_kind hw hfails
  constructor
  · constructor
    · intro hretriable
      rw [hkind.mp hretriable] at hfails
      exact hfails
    · exact fun hother => (retriable_iff_kind hw hother).mpr rfl
  · constructor
    · intro hnot
      rw [← Bool.eq_true_of_not_eq_false (mt hkind.mpr hnot)]
      exact hfails
    · exact fun hvault hretriable => Bool.noConfusion ((retriable_iff_kind hw hvault).mp hretriable)

/-- The deletion of a stored receipt. -/
def sampleDeletion : DeletionCall := .receipt 7 20

theorem sampleDeletion_applies : sampleDeletion.Applies (sampleWorld [7]) := by
  obtain ⟨before, hbefore⟩ := exists_ok (x := ((loadSecureExtensionState none 0).run
    (exec samplePlatform) (sampleWorld [7])).1) (by decide +kernel)
  have hencrypted : (sampleWorld [7]).area.encrypted = true := by decide +kernel
  obtain ⟨-, hindex, -, -⟩ := load_encrypted_ok hencrypted (Prod.ext hbefore rfl)
  refine ⟨hencrypted, 0, before, _, Prod.ext hbefore rfl, ?_⟩
  rw [← (StoredValue.entries_of_index hindex).1]
  decide +kernel

/-- The write of the index fails: the deletion can be tried again. -/
theorem interrupted_deletion_retriable_iff_commit : ∃ b r w',
    sampleDeletion.Applies (sampleWorld [7]) ∧
      Prog.Fails (exec samplePlatform) (failsAs false) .operation sampleDeletion.prog
        (sampleWorld [7]) b r w' ∧
      sampleDeletion.Retriable (sampleWorld [7]) w' := by
  obtain ⟨⟨b, r, w'⟩, hfails⟩ := Option.isSome_iff_exists.mp (show (Prog.failAt
    (exec samplePlatform) (failsAs false) .operation 9 sampleDeletion.prog
    (sampleWorld [7])).isSome = true by decide +kernel)
  have hstorage : Prog.Fails (exec samplePlatform) StorageOp.isStorage .operation
      sampleDeletion.prog (sampleWorld [7]) b r w' :=
    Prog.Fails.mono ⟨9, hfails⟩ fun o ho => (Bool.and_eq_true _ _ ▸ ho).1
  exact ⟨b, r, w', sampleDeletion_applies, ⟨9, hfails⟩,
    (interrupted_deletion_retriable_iff sampleDeletion_applies hstorage).1.mpr ⟨9, hfails⟩⟩

/-- The vault's deletion fails: the index does not name the receipt any more,
a second call is refused, and the key and the ciphertext are still there. -/
theorem interrupted_deletion_keeps_key : ∃ b r w',
    sampleDeletion.Applies (sampleWorld [7]) ∧
      Prog.Fails (exec samplePlatform) StorageOp.isStorage .operation sampleDeletion.prog
        (sampleWorld [7]) b r w' ∧
      w'.area.entries = [] ∧
      ((deleteSecureReceipt 7 21).run (exec samplePlatform) w').1 =
        .error (.failure "SubmittedIt could not find that local encrypted receipt.") ∧
      ((((deleteSecureReceipt 7 21).run (exec samplePlatform) w').2.vault.keys 3).any
        fun key => key.receiptId = 7) = true ∧
      ((((deleteSecureReceipt 7 21).run (exec samplePlatform) w').2.vault.blobs 4).any
        fun blob => blob.receiptId = 7) = true ∧
      ¬ sampleDeletion.Retriable (sampleWorld [7]) w' := by
  have hstruck : ((Prog.failAt (exec samplePlatform) StorageOp.isStorage .operation 10
      sampleDeletion.prog (sampleWorld [7])).any fun x =>
        decide (x.2.2.area.entries = []) &&
        decide (((deleteSecureReceipt 7 21).run (exec samplePlatform) x.2.2).1 =
          .error (.failure "SubmittedIt could not find that local encrypted receipt.")) &&
        (((deleteSecureReceipt 7 21).run (exec samplePlatform) x.2.2).2.vault.keys 3).any
          (fun key => key.receiptId = 7) &&
        (((deleteSecureReceipt 7 21).run (exec samplePlatform) x.2.2).2.vault.blobs 4).any
          (fun blob => blob.receiptId = 7) &&
        (x.2.2.vault.keys 3).any (fun key => key.receiptId = 7)) = true := by
    decide +kernel
  obtain ⟨⟨b, r, w'⟩, hfails, hstruck⟩ := (Option.any_eq_true _ _).mp hstruck
  simp only [Bool.and_eq_true, decide_eq_true_eq] at hstruck
  obtain ⟨⟨⟨⟨hentries, hrefused⟩, hkey⟩, hblob⟩, hleft⟩ := hstruck
  refine ⟨b, r, w', sampleDeletion_applies, ⟨10, hfails⟩, hentries, hrefused, hkey, hblob,
    fun hretriable => ?_⟩
  obtain ⟨key, hstored, hid⟩ := (Option.any_eq_true _ _).mp hleft
  have hforgets := hretriable.1 (by rw [hentries]; exact List.not_mem_nil)
  exact hforgets.keys 3 key hstored (of_decide_eq_true hid)

end SubmittedIt.Extension
