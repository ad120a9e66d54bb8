/-
SubmittedIt/StorageTidiness.lean

The vault holds what the index names, and nothing else.

The storage functions write artifacts before the index that names them and
delete the replaced ones after it.  `Tidy` says that no key and no blob is
left over.  What a successful function adds is named by the new index
(`stageReceipts_addsOnly`), and what the old index alone names is deleted
(`deleteReplaced_leaves`).

`Settled` is what each successful function leaves: a readable index with a
tidy vault.  Main results: `load_settled`, `save_settled`.
-/
import SubmittedIt.SaveAtomicity

namespace SubmittedIt.Extension

open Transaction ReceiptCore

variable {P : StoragePlatform}

/-! ### Programs that keep the artifacts -/

/-- The keys and blobs are the same. -/
structure SameArtifacts (vault vault' : Vault P) : Prop where
  keys : vault'.keys = vault.keys
  blobs : vault'.blobs = vault.blobs

theorem SameArtifacts.refl (vault : Vault P) : SameArtifacts vault vault := ⟨rfl, rfl⟩

theorem SameArtifacts.trans {v v' v'' : Vault P} (h : SameArtifacts v v')
    (h' : SameArtifacts v' v'') : SameArtifacts v v'' :=
  ⟨h'.keys.trans h.keys, h'.blobs.trans h.blobs⟩

/-- The program neither adds nor deletes a key or a blob. -/
def Spares {α : Type} (p : StorageProg P α) : Prop :=
  ∀ w, SameArtifacts w.vault (p.run (exec P) w).2.vault

namespace Spares

variable {α β : Type}

theorem pure (a : α) : Spares (Pure.pure a : StorageProg P α) := fun _ => .refl _

theorem ofExcept (r : Except StorageError α) : Spares (Prog.ofExcept r : StorageProg P α) :=
  fun _ => .refl _

theorem fail (message : String) : Spares (Extension.fail message : StorageProg P α) :=
  fun _ => .refl _

theorem perform {o : StorageOp P} (h : ∀ w, SameArtifacts w.vault (exec P o w).2.vault) :
    Spares (Extension.perform o) := h

theorem bind {p : StorageProg P α} {f : α → StorageProg P β} (hp : Spares p)
    (hf : ∀ a, Spares (f a)) : Spares (p >>= f) := by
  intro w
  have hfirst := hp w
  rw [Prog.run_bind]
  rcases hrun : p.run (exec P) w with ⟨e | a, s⟩
  · rw [hrun] at hfirst
    exact hfirst
  · rw [hrun] at hfirst
    exact hfirst.trans (hf a s)

end Spares

theorem ReadsOnly.spares {α : Type} {p : StorageProg P α} (h : ReadsOnly p) : Spares p := by
  intro w
  rw [h.run w]
  exact .refl _

theorem writePersistentState_spares (state : SecureExtensionLocalState) :
    Spares (writePersistentState state : StorageProg P SecureExtensionLocalState) := by
  unfold writePersistentState
  split
  · exact .fail _
  · exact .bind (.perform fun _ => .refl _) fun _ => .pure _

theorem ensureIdentity_spares (metadata : Option SecureIdentityMetadata) (now : Timestamp) :
    Spares (ensureIdentity metadata now : StorageProg P InstallationIdentityRecord) := by
  refine .bind (.perform fun _ => .refl _) fun existing => ?_
  rcases metadata with - | metadata
  · rcases existing with - | existing
    · exact .bind (.perform fun _ => .refl _) fun _ => .perform fun _ => ⟨rfl, rfl⟩
    · exact .pure _
  · rcases existing with - | existing
    · exact .fail _
    · dsimp only
      split
      · exact .fail _
      · exact .pure _

theorem secureBundle_spares (operational : StoredAttemptReceipt)
    (identity : InstallationIdentityRecord) (existing : Option PrivateReceiptBundle) :
    Spares (secureBundle operational identity existing : StorageProg P PrivateReceiptBundle) :=
  .bind (.perform fun _ => .refl _) fun _ => .bind (.perform fun _ => .refl _) fun _ =>
    .ofExcept _

theorem generateReceiptKey_spares (receiptId : ReceiptId) (createdAt : Timestamp) :
    Spares (generateReceiptKey P receiptId createdAt) :=
  .bind (.perform fun _ => .refl _) fun _ => .pure _

theorem openIndex_spares (persistent : SecureExtensionLocalState) :
    Spares (openIndex persistent : StorageProg P LoadedSecureExtensionState) :=
  (openIndex_readsOnly persistent).spares

theorem loadCurrent_spares (secure : SecureExtensionLocalState) (ensure : Option Bool)
    (now : Timestamp) : Spares (loadCurrent secure ensure now :
      StorageProg P LoadedSecureExtensionState) := by
  refine .bind (.perform fun _ => .refl _) fun storedIdentity => ?_
  split
  · split
    · exact .fail _
    · exact openIndex_spares _
  · split
    · exact .fail _
    · split
      · exact .bind (ensureIdentity_spares _ _) fun _ =>
          .bind (writePersistentState_spares _) fun _ => openIndex_spares _
      · exact openIndex_spares _

/-- A load adds artifacts only where it migrates a plaintext state. -/
theorem load_spares {w : World P} (hplain : ∀ value, w.area ≠ .plaintext value)
    (ensure : Option Bool) (now : Timestamp) :
    SameArtifacts w.vault ((loadSecureExtensionState ensure now).run (exec P) w).2.vault := by
  show SameArtifacts _ ((perform .areaGet >>= _).run (exec P) w).2.vault
  rw [Prog.run_bind_ok (show (perform .areaGet : StorageProg P StoredValue).run (exec P) w =
    (.ok w.area, w) from rfl)]
  rcases harea : w.area with - | secure | legacy | bad | value
  · have hfrom : ∀ identity : Option SecureIdentityMetadata, Spares (do
        let persistent ← writePersistentState { initialSecureState now with identity }
        loadedFrom persistent [] : StorageProg P LoadedSecureExtensionState) := by
      intro identity
      exact .bind (writePersistentState_spares _) fun _ => .bind (.ofExcept _) fun _ => .pure _
    dsimp only
    split
    · exact hfrom none w
    · exact Spares.bind (ensureIdentity_spares none now) (fun identity =>
        hfrom (some (identityMetadata identity))) w
  · dsimp only
    split
    · exact .refl _
    · exact loadCurrent_spares secure ensure now w
  · dsimp only
    split
    · exact .refl _
    · exact Spares.bind (writePersistentState_spares _) (fun _ => openIndex_spares _) w
  · dsimp only
    split
    · exact .refl _
    · exact .refl _
  · exact absurd harea (hplain value)

/-- What a program that keeps the artifacts leaves. -/
theorem Spares.of_run {α : Type} {p : StorageProg P α} (h : Spares p) {w s : World P}
    {r : Except StorageError α} (hrun : p.run (exec P) w = (r, s)) :
    SameArtifacts w.vault s.vault := by
  have hw := h w
  rw [hrun] at hw
  exact hw

/-! ### What staging adds -/

theorem exec_put_ok {key : ReceiptKeyRecord} {envelope : EncryptedReceiptEnvelope P}
    {w s : World P} {u : Unit} (h : exec P (.putReceiptArtifacts key envelope) w = (.ok u, s)) :
    s = { w with vault := w.vault.put key envelope } := by
  have hvault : (w.vault.putReceiptArtifacts key envelope).1 = .ok u ∧
      s = { w with vault := (w.vault.putReceiptArtifacts key envelope).2 } :=
    ⟨congrArg Prod.fst h, (congrArg Prod.snd h).symm⟩
  obtain ⟨hok, rfl⟩ := hvault
  unfold Vault.putReceiptArtifacts at hok ⊢
  rcases hparse : parseEncryptedReceiptEnvelope P envelope with e | envelope'
  · rw [hparse] at hok
    cases hok
  · obtain ⟨rfl, -⟩ := parseEnvelope_eq_ok.mp hparse
    rw [hparse] at hok
    dsimp only at hok ⊢
    split_ifs at hok ⊢
    rfl

theorem encryptBundle_ok {bundle : PrivateReceiptBundle} {key : ReceiptKeyRecord}
    {envelope : EncryptedReceiptEnvelope P} {w s : World P}
    (h : (encryptBundle bundle key).run (exec P) w = (.ok envelope, s)) :
    envelope = sealBundle P bundle key.key w.draws ∧ s = { w with draws := w.draws + 1 } := by
  obtain ⟨draw, w', hdraw, h⟩ := Prog.run_bind_eq_ok h
  cases hdraw
  obtain ⟨hencrypt, rfl⟩ := Prod.ext_iff.mp h
  exact ⟨(encrypt_eq_ok.mp hencrypt).2.2, rfl⟩

/-- What is new in a vault is named by an entry. -/
structure AddsOnly (entries : List EncryptedReceiptIndexEntry) (vault vault' : Vault P) : Prop where
  keys : ∀ id key, vault'.keys id = some key →
    vault.keys id = some key ∨ ∃ entry ∈ entries, entry.keyId = id
  blobs : ∀ id blob, vault'.blobs id = some blob →
    vault.blobs id = some blob ∨ ∃ entry ∈ entries, entry.blobId = id

theorem AddsOnly.refl (entries : List EncryptedReceiptIndexEntry) (vault : Vault P) :
    AddsOnly entries vault vault := ⟨fun _ _ => .inl, fun _ _ => .inl⟩

theorem SameArtifacts.addsOnly {vault vault' : Vault P} (h : SameArtifacts vault vault')
    (entries : List EncryptedReceiptIndexEntry) : AddsOnly entries vault vault' :=
  ⟨fun _ _ hkey => .inl (h.keys ▸ hkey), fun _ _ hblob => .inl (h.blobs ▸ hblob)⟩

theorem AddsOnly.mono {entries entries' : List EncryptedReceiptIndexEntry} {v v' : Vault P}
    (h : AddsOnly entries v v') (hsubset : entries ⊆ entries') : AddsOnly entries' v v' := by
  constructor
  · intro id key hkey
    exact (h.keys id key hkey).imp_right fun ⟨entry, hentry, hid⟩ => ⟨entry, hsubset hentry, hid⟩
  · intro id blob hblob
    exact (h.blobs id blob hblob).imp_right fun ⟨entry, hentry, hid⟩ =>
      ⟨entry, hsubset hentry, hid⟩

theorem AddsOnly.trans {entries : List EncryptedReceiptIndexEntry} {v v' v'' : Vault P}
    (h : AddsOnly entries v v') (h' : AddsOnly entries v' v'') : AddsOnly entries v v'' := by
  constructor
  · intro id key hkey
    exact (h'.keys id key hkey).elim (h.keys id key) .inr
  · intro id blob hblob
    exact (h'.blobs id blob hblob).elim (h.blobs id blob) .inr

/-- Sealing a bundle adds what its entry names. -/
theorem put_addsOnly (vault : Vault P) (key : ReceiptKeyRecord) (bundle : PrivateReceiptBundle)
    (blobId : OpaqueId) : AddsOnly [indexFromArtifacts bundle blobId key.keyId] vault
      (vault.put key (sealBundle P bundle key.key blobId)) := by
  constructor
  · intro id record hrecord
    rcases eq_or_ne id key.keyId with rfl | hne
    · exact .inr ⟨_, List.mem_singleton_self _, rfl⟩
    · have hold : (Function.update vault.keys key.keyId _) id = some record := hrecord
      rw [Function.update_of_ne hne] at hold
      exact .inl hold
  · intro id blob hblob
    rcases eq_or_ne id blobId with rfl | hne
    · exact .inr ⟨_, List.mem_singleton_self _, rfl⟩
    · have hold : (Function.update vault.blobs blobId _) id = some blob := hblob
      rw [Function.update_of_ne hne] at hold
      exact .inl hold

/-- **Staging a receipt adds what its entry names.** -/
theorem stageReceipt_addsOnly {current : LoadedSecureExtensionState}
    {identity : InstallationIdentityRecord} {now : Timestamp} {operational : StoredAttemptReceipt}
    {entry : EncryptedReceiptIndexEntry} {artifact : Option StagedArtifact} {w s : World P}
    (h : (stageReceipt current identity now operational).run (exec P) w =
      (.ok (entry, artifact), s)) : AddsOnly [entry] w.vault s.vault := by
  unfold stageReceipt at h
  dsimp only at h
  split at h
  · cases h
    exact .refl _ _
  · obtain ⟨bundle, w₁, hbundle, h⟩ := Prog.run_bind_eq_ok h
    have hw₁ := (secureBundle_spares _ _ _).of_run hbundle
    -- with the key at hand
    have hseal : ∀ (key : ReceiptKeyRecord) (w₂ : World P), SameArtifacts w.vault w₂.vault →
        (do
            let envelope ← encryptBundle bundle key
            perform (.putReceiptArtifacts key envelope)
            let entry := indexFromArtifacts bundle envelope.authenticatedMetadata.blobId key.keyId
            pure (entry, some ⟨entry.blobId, entry.keyId,
              (current.persistent.entry operational.receiptId).isNone⟩) :
          StorageProg P (EncryptedReceiptIndexEntry × Option StagedArtifact)).run (exec P) w₂ =
            (.ok (entry, artifact), s) →
        AddsOnly [entry] w.vault s.vault := by
      intro key w₂ hw₂ h
      obtain ⟨envelope, w₃, hencrypt, h⟩ := Prog.run_bind_eq_ok h
      obtain ⟨rfl, rfl⟩ := encryptBundle_ok hencrypt
      obtain ⟨_, w₄, hput, h⟩ := Prog.run_bind_eq_ok h
      have hw₄ := exec_put_ok hput
      cases h
      subst hw₄
      exact (hw₂.addsOnly _).trans (put_addsOnly w₂.vault key bundle w₂.draws)
    split at h
    · obtain ⟨found, w₂, hfound, h⟩ := Prog.run_bind_eq_ok h
      cases hfound
      split at h
      · cases h
      · next key _ => exact hseal key _ hw₁ h
    · obtain ⟨key, w₂, hkey, h⟩ := Prog.run_bind_eq_ok h
      have hw₂ := hw₁.trans ((generateReceiptKey_spares _ _).of_run hkey)
      obtain ⟨found, w₃, hfound, h⟩ := Prog.run_bind_eq_ok h
      cases hfound
      split at h
      · cases h
      · next key' _ => exact hseal key' w₂ hw₂ h

/-- **Staging adds only what the new index names.** -/
theorem stageReceipts_addsOnly {current : LoadedSecureExtensionState}
    {identity : InstallationIdentityRecord} {now : Timestamp}
    {nextIndex index : List EncryptedReceiptIndexEntry} {staged staged' : List StagedArtifact}
    {receipts : List StoredAttemptReceipt} {w s : World P}
    (h : (stageReceipts current identity now nextIndex staged receipts).run (exec P) w =
      (.ok (staged', .ok index), s)) :
    nextIndex ⊆ index ∧ AddsOnly index w.vault s.vault := by
  induction receipts generalizing nextIndex staged w with
  | nil =>
    cases h
    exact ⟨List.Subset.refl _, .refl _ _⟩
  | cons operational receipts ih =>
    obtain ⟨result, w₁, hattempt, h⟩ := Prog.run_bind_eq_ok h
    rw [Prog.run_attempt] at hattempt
    rcases hstage : (stageReceipt current identity now operational).run (exec P) w
      with ⟨e | ⟨entry, artifact⟩, w₂⟩
    · rw [hstage] at hattempt
      cases hattempt
      cases h
    · rw [hstage] at hattempt
      cases hattempt
      obtain ⟨hsubset, hrest⟩ := ih h
      obtain ⟨hnext, hentry⟩ := List.append_subset.mp hsubset
      refine ⟨hnext, ?_⟩
      exact ((stageReceipt_addsOnly hstage).mono hentry).trans hrest

/-! ### What deleting leaves -/

/-- The entry of a receipt in an index. -/
abbrev entryOf (index : List EncryptedReceiptIndexEntry) (receiptId : ReceiptId) :
    Option EncryptedReceiptIndexEntry :=
  index.find? fun entry => entry.receiptId = receiptId

/-- What is left after deleting what the new index does not name. -/
structure Leaves (nextIndex entries : List EncryptedReceiptIndexEntry) (vault vault' : Vault P) :
    Prop where
  keys : ∀ id key, vault'.keys id = some key → vault.keys id = some key ∧
    ∀ previous ∈ entries, entryOf nextIndex previous.receiptId = none →
      key.receiptId ≠ previous.receiptId
  blobs : ∀ id blob, vault'.blobs id = some blob → vault.blobs id = some blob ∧
    ∀ previous ∈ entries,
      (entryOf nextIndex previous.receiptId = none → blob.receiptId ≠ previous.receiptId) ∧
      ∀ replacement, entryOf nextIndex previous.receiptId = some replacement →
        replacement.blobId ≠ previous.blobId → id ≠ previous.blobId

theorem Leaves.nil (nextIndex : List EncryptedReceiptIndexEntry) (vault : Vault P) :
    Leaves nextIndex [] vault vault :=
  ⟨fun _ _ h => ⟨h, fun _ hp => absurd hp List.not_mem_nil⟩,
    fun _ _ h => ⟨h, fun _ hp => absurd hp List.not_mem_nil⟩⟩

theorem Leaves.cons {nextIndex entries : List EncryptedReceiptIndexEntry}
    {previous : EncryptedReceiptIndexEntry} {v v' v'' : Vault P}
    (h : Leaves nextIndex [previous] v v') (h' : Leaves nextIndex entries v' v'') :
    Leaves nextIndex (previous :: entries) v v'' := by
  constructor
  · intro id key hkey
    obtain ⟨hkey', hrest⟩ := h'.keys id key hkey
    obtain ⟨hkey'', hfirst⟩ := h.keys id key hkey'
    refine ⟨hkey'', fun p hp => ?_⟩
    rcases List.mem_cons.mp hp with rfl | hp
    · exact hfirst _ (List.mem_singleton_self _)
    · exact hrest p hp
  · intro id blob hblob
    obtain ⟨hblob', hrest⟩ := h'.blobs id blob hblob
    obtain ⟨hblob'', hfirst⟩ := h.blobs id blob hblob'
    refine ⟨hblob'', fun p hp => ?_⟩
    rcases List.mem_cons.mp hp with rfl | hp
    · exact hfirst _ (List.mem_singleton_self _)
    · exact hrest p hp

/-- **What deleting leaves** is named by the new index, as far as the old one
named it. -/
theorem deleteReplaced_leaves {nextIndex entries : List EncryptedReceiptIndexEntry} {w s : World P}
    {u : Unit} (h : (deleteReplaced nextIndex entries).run (exec P) w = (.ok u, s)) :
    Leaves nextIndex entries w.vault s.vault := by
  induction entries generalizing w with
  | nil =>
    cases h
    exact .nil _ _
  | cons previous entries ih =>
    unfold deleteReplaced at h
    split at h
    · next hnone =>
      obtain ⟨_, w₁, hdelete, h⟩ := Prog.run_bind_eq_ok h
      cases hdelete
      refine Leaves.cons ?_ (ih h)
      constructor
      · intro id key hkey
        obtain ⟨hkey, hother⟩ := Option.filter_eq_some_iff.mp hkey
        refine ⟨hkey, fun p hp _ => ?_⟩
        rw [List.mem_singleton.mp hp]
        exact of_decide_eq_true hother
      · intro id blob hblob
        obtain ⟨hblob, hother⟩ := Option.filter_eq_some_iff.mp hblob
        refine ⟨hblob, fun p hp => ?_⟩
        rw [List.mem_singleton.mp hp]
        refine ⟨fun _ => of_decide_eq_true hother, fun replacement hfound => ?_⟩
        rw [entryOf, hnone] at hfound
        cases hfound
    · next replacement hsome =>
      have hother : ∀ p ∈ [previous], entryOf nextIndex p.receiptId ≠ none := by
        intro p hp
        rw [List.mem_singleton.mp hp, entryOf, hsome]
        exact Option.some_ne_none _
      split at h
      · obtain ⟨_, w₁, hdelete, h⟩ := Prog.run_bind_eq_ok h
        cases hdelete
        refine Leaves.cons ?_ (ih h)
        refine ⟨fun id key hkey => ⟨hkey, fun p hp hnone => absurd hnone (hother p hp)⟩, ?_⟩
        intro id blob hblob
        have hne : id ≠ previous.blobId := by
          rintro rfl
          have hgone : Function.update w.vault.blobs previous.blobId none previous.blobId =
              some blob := hblob
          rw [Function.update_self] at hgone
          cases hgone
        have hold : Function.update w.vault.blobs previous.blobId none id = some blob := hblob
        rw [Function.update_of_ne hne] at hold
        refine ⟨hold, fun p hp => ⟨fun hnone => absurd hnone (hother p hp), fun _ _ _ => ?_⟩⟩
        rw [List.mem_singleton.mp hp]
        exact hne
      · next hsame =>
        refine Leaves.cons ?_ (ih h)
        refine ⟨fun id key hkey => ⟨hkey, fun p hp hnone => absurd hnone (hother p hp)⟩, ?_⟩
        refine fun id blob hblob => ⟨hblob, fun p hp =>
          ⟨fun hnone => absurd hnone (hother p hp), fun replacement' hfound hne => ?_⟩⟩
        rw [List.mem_singleton.mp hp, entryOf, hsome] at hfound
        cases hfound
        rw [List.mem_singleton.mp hp] at hne
        exact absurd hne hsame

/-! ### Settled stores -/

/-- Every key and every blob of the vault is named by an entry. -/
structure Tidy (vault : Vault P) (entries : List EncryptedReceiptIndexEntry) : Prop where
  keys : ∀ id key, vault.keys id = some key → ∃ entry ∈ entries, entry.keyId = id
  blobs : ∀ id blob, vault.blobs id = some blob → ∃ entry ∈ entries, entry.blobId = id

theorem Tidy.congr {vault vault' : Vault P} {entries : List EncryptedReceiptIndexEntry}
    (h : Tidy vault entries) (hsame : SameArtifacts vault vault') : Tidy vault' entries :=
  ⟨fun id key hkey => h.keys id key (hsame.keys ▸ hkey),
    fun id blob hblob => h.blobs id blob (hsame.blobs ▸ hblob)⟩

/-- What a successful function leaves. -/
structure Settled (s : World P) (loaded : LoadedSecureExtensionState) : Prop where
  area : s.area = .current loaded.persistent
  readable : Readable s.vault loaded.persistent loaded
  fresh : s.Fresh
  tidy : Tidy s.vault loaded.persistent.receiptIndex

/-- The operational receipts of some bundles. -/
def Bundles.receipts (bundles : Bundles) : List StoredAttemptReceipt :=
  bundles.map (·.2.operational)

theorem OpensAll.operationalReceipts {vault : Vault P} {bundles : Bundles}
    {entries' : List EncryptedReceiptIndexEntry} {bundles' : Bundles}
    (h : OpensAll vault entries' bundles')
    (hget : ∀ entry ∈ entries', ∃ bundle, bundles.get entry.receiptId = some bundle ∧
      Opens vault entry bundle) :
    Extension.operationalReceipts bundles entries' = .ok bundles'.receipts := by
  induction h with
  | nil => rfl
  | @cons entry named entries' bundles' hopens _ ih =>
    obtain ⟨bundle, hbundle, hopens'⟩ := hget entry List.mem_cons_self
    obtain rfl := hopens.2.unique hopens'
    rw [Extension.operationalReceipts, hbundle]
    dsimp only
    rw [ih fun e he => hget e (List.mem_cons_of_mem _ he)]
    rfl

/-- The working receipts are those of the bundles, in order. -/
theorem Opened.receipts {vault : Vault P} {persistent : SecureExtensionLocalState}
    {loaded : LoadedSecureExtensionState} (h : Opened vault persistent loaded)
    (hnodup : (persistent.receiptIndex.map (·.receiptId)).Nodup) :
    loaded.working.receiptIndex = loaded.bundles.receipts := by
  have hworking := h.working
  unfold workingFromPersistent at hworking
  obtain ⟨receipts, hreceipts, hworking⟩ := bind_eq_ok.mp hworking
  obtain ⟨_, -, hworking⟩ := bind_eq_ok.mp hworking
  rw [h.bundles.operationalReceipts fun entry hentry => h.bundles.get hnodup hentry] at hreceipts
  rw [← Except.ok.inj hworking, Except.ok.inj hreceipts]

theorem Settled.receipts {s : World P} {loaded : LoadedSecureExtensionState}
    (h : Settled s loaded) : loaded.working.receiptIndex = loaded.bundles.receipts :=
  h.readable.opened.receipts h.readable.valid.receiptIds

/-- **The artifacts are exactly those the index names**, where every entry
opens. -/
theorem Tidy.exact {vault : Vault P} {entries : List EncryptedReceiptIndexEntry}
    (h : Tidy vault entries) (hopens : ∀ entry ∈ entries, ∃ bundle, Opens vault entry bundle) :
    (∀ id, (vault.keys id).isSome = true ↔ ∃ entry ∈ entries, entry.keyId = id) ∧
      ∀ id, (vault.blobs id).isSome = true ↔ ∃ entry ∈ entries, entry.blobId = id := by
  constructor
  · intro id
    constructor
    · intro hsome
      obtain ⟨key, hkey⟩ := Option.isSome_iff_exists.mp hsome
      exact h.keys id key hkey
    · rintro ⟨entry, hentry, rfl⟩
      obtain ⟨bundle, hopens⟩ := hopens entry hentry
      obtain ⟨⟨key, hkey, -⟩, -⟩ := hopens.stored
      exact Option.isSome_iff_exists.mpr ⟨key, hkey⟩
  · intro id
    constructor
    · intro hsome
      obtain ⟨blob, hblob⟩ := Option.isSome_iff_exists.mp hsome
      exact h.blobs id blob hblob
    · rintro ⟨entry, hentry, rfl⟩
      obtain ⟨bundle, hopens⟩ := hopens entry hentry
      obtain ⟨-, blob, hblob, -⟩ := hopens.stored
      exact Option.isSome_iff_exists.mpr ⟨blob, hblob⟩

/-- A store with an index that can be loaded, or an empty one. -/
structure Stocked (w : World P) (bundles : Bundles) (operations : List AnchorOperation) : Prop where
  fresh : w.Fresh
  stored : (∃ content, Holds w content ∧ Tidy w.vault content.receiptIndex ∧
      content.bundles = bundles ∧ content.anchorOperations = operations) ∨
    (w.area = .absent ∧ w.vault = .empty ∧ bundles = [] ∧ operations = [])

theorem Settled.stocked {s : World P} {loaded : LoadedSecureExtensionState} (h : Settled s loaded) :
    Stocked s loaded.bundles loaded.persistent.anchorOperations :=
  ⟨h.fresh, .inl ⟨loaded.content, h.readable.holds h.area, h.tidy, rfl, rfl⟩⟩

theorem Stocked.draw {w : World P} {bundles : Bundles} {operations : List AnchorOperation}
    (h : Stocked w bundles operations) :
    Stocked { w with draws := w.draws + 1 } bundles operations := by
  have hkept := (Kept.refl h.fresh).draw
  refine ⟨hkept.fresh, h.stored.imp ?_ id⟩
  rintro ⟨content, hholds, htidy, hsame⟩
  exact ⟨content, hholds.of_kept h.fresh hkept rfl, htidy, hsame⟩

theorem initial_valid (now : Timestamp) (identity : Option SecureIdentityMetadata) :
    ValidIndex { initialSecureState now with identity } :=
  validateSecure_eq_true.mp rfl

/-- Writing the initial index. -/
theorem writeInitial_run {w : World P} (hfresh : w.Fresh)
    (hempty : w.vault.keys = (fun _ => none) ∧ w.vault.blobs = fun _ => none)
    (identity : Option SecureIdentityMetadata) (now : Timestamp)
    (hidentity : ∀ metadata, identity = some metadata →
      w.vault.identity.any (identityMetadataMatches metadata) = true) :
    ∃ loaded s, (do
        let persistent ← writePersistentState { initialSecureState now with identity }
        loadedFrom persistent [] : StorageProg P LoadedSecureExtensionState).run (exec P) w =
          (.ok loaded, s) ∧
      Settled s loaded ∧ loaded.bundles = [] ∧ loaded.persistent.anchorOperations = [] := by
  refine ⟨⟨[], { initialSecureState now with identity }, createInitialExtensionState now⟩,
    { w with area := .current { initialSecureState now with identity } }, ?_, ?_, rfl, rfl⟩
  · rw [Prog.run_bind_ok (writePersistentState_run (initial_valid now identity) w)]
    rfl
  · refine ⟨rfl, ⟨initial_valid now identity, hidentity, rfl, .nil, ?_, rfl⟩, hfresh, ?_, ?_⟩
    · exact fun operation hoperation => absurd hoperation List.not_mem_nil
    · intro id key hkey
      rw [show w.vault.keys id = none from congrFun hempty.1 id] at hkey
      cases hkey
    · intro id blob hblob
      rw [show w.vault.blobs id = none from congrFun hempty.2 id] at hblob
      cases hblob

/-- Loading an empty store. -/
theorem load_absent {w : World P} (hfresh : w.Fresh) (harea : w.area = .absent)
    (hvault : w.vault = .empty) (ensure : Option Bool) (now : Timestamp) :
    ∃ loaded s, (loadSecureExtensionState ensure now).run (exec P) w = (.ok loaded, s) ∧
      Settled s loaded ∧ loaded.bundles = [] ∧ loaded.persistent.anchorOperations = [] := by
  have hempty : w.vault.keys = (fun _ => none) ∧ w.vault.blobs = fun _ => none := by
    rw [hvault]
    exact ⟨rfl, rfl⟩
  show ∃ loaded s, (perform .areaGet >>= _).run (exec P) w = _ ∧ _
  rw [Prog.run_bind_ok (show (perform .areaGet : StorageProg P StoredValue).run (exec P) w =
    (.ok w.area, w) from rfl), harea]
  dsimp only
  split_ifs with hensure
  · exact writeInitial_run hfresh hempty none now fun metadata h => by cases h
  · obtain ⟨⟨hkept, -⟩, hstored, hexists⟩ :=
      ((ensureIdentity_meets (Kept.refl hfresh) none now).and_inv ⟨.refl hfresh, rfl⟩).result
    obtain ⟨identity, hidentity⟩ := hexists rfl
    have hsame := ensureIdentity_spares none now w
    rcases hrun : (ensureIdentity none now : StorageProg P InstallationIdentityRecord).run (exec P) w
      with ⟨r, s⟩
    rw [hrun] at hidentity hstored hkept hsame
    subst hidentity
    obtain ⟨hs, -⟩ := hstored identity rfl
    obtain ⟨loaded, t, hload, hsettled⟩ := writeInitial_run (w := s) hkept.fresh
      ⟨hsame.keys.trans hempty.1, hsame.blobs.trans hempty.2⟩ (some (identityMetadata identity))
      now (by
        rintro metadata ⟨⟩
        rw [hs, Option.any_some]
        exact decide_eq_true rfl)
    refine ⟨loaded, t, ?_, hsettled⟩
    rw [← hload]
    exact Prog.run_bind_ok hrun

/-- **A load of a stocked store** succeeds, settles it and returns what
it holds. -/
theorem Stocked.load {w : World P} {bundles : Bundles} {operations : List AnchorOperation}
    (hw : Stocked w bundles operations) (ensure : Option Bool) (now : Timestamp) :
    ∃ loaded s, (loadSecureExtensionState ensure now).run (exec P) w = (.ok loaded, s) ∧
      Settled s loaded ∧ loaded.bundles = bundles ∧
        loaded.persistent.anchorOperations = operations := by
  rcases hw.stored with ⟨content, hholds, htidy, rfl, rfl⟩ | ⟨harea, hvault, rfl, rfl⟩
  · obtain ⟨loaded, hok, hloads⟩ := (hholds.load hw.fresh ensure now).result
    have hplain : ∀ value, w.area ≠ .plaintext value := by
      intro value hvalue
      obtain ⟨state, _, hstate, -⟩ := hholds now
      rw [hvalue] at hstate
      cases hstate
    have hsame := load_spares hplain ensure now
    refine ⟨loaded, _, Prod.ext hok rfl, ?_, congrArg (·.bundles) hloads.content,
      congrArg (·.anchorOperations) hloads.content⟩
    refine ⟨hloads.area, hloads.readable, hloads.kept.fresh, ?_⟩
    rw [show loaded.persistent.receiptIndex = content.receiptIndex from
      congrArg (·.receiptIndex) hloads.content]
    exact htidy.congr hsame
  · exact load_absent hw.fresh harea hvault ensure now

theorem load_settled {w s : World P} {bundles : Bundles} {operations : List AnchorOperation}
    (hw : Stocked w bundles operations) {ensure : Option Bool} {now : Timestamp}
    {loaded : LoadedSecureExtensionState}
    (h : (loadSecureExtensionState ensure now).run (exec P) w = (.ok loaded, s)) :
    Settled s loaded ∧ loaded.bundles = bundles ∧
      loaded.persistent.anchorOperations = operations := by
  obtain ⟨loaded', s', h', hsettled⟩ := hw.load ensure now
  cases h.symm.trans h'
  exact hsettled

/-! ### A save settles the store -/

/-- Keys and blobs that a program keeps are as tidy. -/
theorem Settled.of_kept {s t : World P} {loaded : LoadedSecureExtensionState}
    (h : Settled s loaded) (hkept : Kept s t) (harea : t.area = s.area)
    (hsame : SameArtifacts s.vault t.vault) : Settled t loaded :=
  ⟨harea.trans h.area, h.readable.kept h.fresh hkept, hkept.fresh, h.tidy.congr hsame⟩

/-- The first part of a save settles the store. -/
theorem prepare_settled {w s : World P} {bundles : Bundles} {operations : List AnchorOperation}
    (hw : Stocked w bundles operations) {now : Timestamp} {current : LoadedSecureExtensionState}
    {identity : InstallationIdentityRecord}
    (h : (prepare now).run (exec P) w = (.ok (current, identity), s)) :
    Settled s current ∧ current.bundles = bundles ∧
      current.persistent.anchorOperations = operations ∧
      Prepared s current.content current identity s := by
  obtain ⟨current', s₀, hload, h⟩ := Prog.run_bind_eq_ok h
  obtain ⟨identity', s₁, hidentity, h⟩ := Prog.run_bind_eq_ok h
  cases h
  obtain ⟨hsettled, hbundles, hoperations⟩ := load_settled hw hload
  have hmeets := ((ensureIdentity_meets (.refl hsettled.fresh) current.persistent.identity
    now).and_inv ⟨.refl hsettled.fresh, rfl⟩).result
  rw [hidentity] at hmeets
  obtain ⟨⟨hkept, harea⟩, hstored, -⟩ := hmeets
  have hs := hsettled.of_kept hkept harea ((ensureIdentity_spares _ _).of_run hidentity)
  exact ⟨hs, hbundles, hoperations, hs.readable.holds hs.area, rfl, .refl hs.fresh, hs.area,
    hs.readable, (hstored _ rfl).1⟩

theorem StagedAll.receiptIds {w s : World P} {current : LoadedSecureExtensionState}
    {receipts : List StoredAttemptReceipt}
    {pairs : List (EncryptedReceiptIndexEntry × Option StagedArtifact)}
    (h : StagedAll w current s receipts pairs) :
    (stagedEntries pairs).map (·.receiptId) = receipts.map (·.receiptId) := by
  induction h with
  | nil => rfl
  | cons hfirst _ ih => exact congrArg₂ List.cons hfirst.receiptId ih

/-- The bundles that a save makes of receipts, in order. -/
def SavedAs (P : StoragePlatform) (bundles : Bundles) (receipts : List StoredAttemptReceipt)
    (bundles' : Bundles) : Prop :=
  List.Forall₂ (fun operational named => named.1 = operational.receiptId ∧
    Secured P bundles operational named.2) receipts bundles'

theorem SavedAs.receipts {bundles bundles' : Bundles} {receipts : List StoredAttemptReceipt}
    (h : SavedAs P bundles receipts bundles') : bundles'.receipts = receipts := by
  induction h with
  | nil => rfl
  | cons hfirst _ ih => exact congrArg₂ List.cons hfirst.2.operational ih

theorem StagedAll.savedAs {w s : World P} {current : LoadedSecureExtensionState}
    {receipts : List StoredAttemptReceipt}
    {pairs : List (EncryptedReceiptIndexEntry × Option StagedArtifact)}
    (h : StagedAll w current s receipts pairs) {bundles : Bundles}
    (hopens : OpensAll s.vault (stagedEntries pairs) bundles) :
    SavedAs P current.bundles receipts bundles := by
  induction h generalizing bundles with
  | nil =>
    cases hopens
    exact .nil
  | @cons operational pair _ _ hfirst _ ih =>
    have hopens' : OpensAll s.vault (pair.1 :: stagedEntries _) bundles := hopens
    cases hopens' with
    | cons hnamed hrest =>
      obtain ⟨bundle, hopen, hsecured⟩ := hfirst.opens
      rw [hnamed.2.unique hopen] at hsecured
      exact .cons ⟨hnamed.1.trans hfirst.receiptId, hsecured⟩ (ih hrest)

/-- The entry of a receipt in an index without duplicates. -/
theorem entryOf_eq_some {index : List EncryptedReceiptIndexEntry} {receiptId : ReceiptId}
    {entry : EncryptedReceiptIndexEntry} (h : entryOf index receiptId = some entry) :
    entry ∈ index ∧ entry.receiptId = receiptId := by
  have hfound := List.find?_some h
  exact ⟨List.mem_of_find?_eq_some h, of_decide_eq_true hfound⟩

theorem entryOf_of_mem {index : List EncryptedReceiptIndexEntry}
    (hnodup : (index.map (·.receiptId)).Nodup) {entry : EncryptedReceiptIndexEntry}
    (hentry : entry ∈ index) : entryOf index entry.receiptId = some entry := by
  rcases hfound : entryOf index entry.receiptId with - | found
  · exact absurd (decide_eq_true rfl) (List.find?_eq_none.mp hfound entry hentry)
  · obtain ⟨hmem, hid⟩ := entryOf_eq_some hfound
    rw [List.inj_on_of_nodup_map hnodup hmem hentry hid]

/-- A receipt that a save keeps keeps its key. -/
theorem StagedAll.keepsKeys {w s : World P} {current : LoadedSecureExtensionState}
    (hnodup : (current.persistent.receiptIndex.map (·.receiptId)).Nodup)
    {receipts : List StoredAttemptReceipt}
    {pairs : List (EncryptedReceiptIndexEntry × Option StagedArtifact)}
    (h : StagedAll w current s receipts pairs) :
    ∀ previous ∈ current.persistent.receiptIndex, ∀ replacement,
      entryOf (stagedEntries pairs) previous.receiptId = some replacement →
        replacement.keyId = previous.keyId := by
  intro previous hprevious replacement hfound
  obtain ⟨hmem, hid⟩ := entryOf_eq_some hfound
  obtain ⟨pair, hpair, rfl⟩ := List.mem_map.mp hmem
  obtain ⟨operational, -, hstaged⟩ := h.mem hpair
  rcases hstaged.origin with ⟨-, hold⟩ | ⟨-, -, hkey⟩
  · rw [List.inj_on_of_nodup_map hnodup hold hprevious hid]
  · have hentry : current.persistent.entry operational.receiptId = some previous := by
      rw [← hstaged.receiptId, hid]
      exact entryOf_of_mem hnodup hprevious
    rw [hentry] at hkey
    exact hkey

/-- **What replaces an index leaves a tidy vault**: artifacts are added for
the new index, and those of the old one that it does not name are deleted. -/
theorem Tidy.replace {entries nextIndex : List EncryptedReceiptIndexEntry} {v v₁ v₂ : Vault P}
    (h : Tidy v entries) (hadds : AddsOnly nextIndex v v₁) (hleaves : Leaves nextIndex entries v₁ v₂)
    (hstored : ∀ entry ∈ entries, ∃ bundle, Opens v₁ entry bundle)
    (hkeys : ∀ previous ∈ entries, ∀ replacement,
      entryOf nextIndex previous.receiptId = some replacement →
        replacement.keyId = previous.keyId) : Tidy v₂ nextIndex := by
  constructor
  · intro id key hkey
    obtain ⟨hkey₁, hgone⟩ := hleaves.keys id key hkey
    rcases hadds.keys id key hkey₁ with hold | hnamed
    · obtain ⟨previous, hprevious, rfl⟩ := h.keys id key hold
      obtain ⟨bundle, hopens⟩ := hstored previous hprevious
      obtain ⟨⟨key', hkey', hreceipt⟩, -⟩ := hopens.stored
      cases hkey₁.symm.trans hkey'
      rcases hfound : entryOf nextIndex previous.receiptId with - | replacement
      · exact absurd hreceipt (hgone previous hprevious hfound)
      · exact ⟨replacement, (entryOf_eq_some hfound).1, hkeys previous hprevious _ hfound⟩
    · exact hnamed
  · intro id blob hblob
    obtain ⟨hblob₁, hgone⟩ := hleaves.blobs id blob hblob
    rcases hadds.blobs id blob hblob₁ with hold | hnamed
    · obtain ⟨previous, hprevious, rfl⟩ := h.blobs id blob hold
      obtain ⟨bundle, hopens⟩ := hstored previous hprevious
      obtain ⟨-, blob', hblob', hreceipt⟩ := hopens.stored
      cases hblob₁.symm.trans hblob'
      obtain ⟨hnone, hother⟩ := hgone previous hprevious
      rcases hfound : entryOf nextIndex previous.receiptId with - | replacement
      · exact absurd hreceipt (hnone hfound)
      · refine ⟨replacement, (entryOf_eq_some hfound).1, ?_⟩
        by_contra hne
        exact hother replacement hfound hne rfl
    · exact hnamed

theorem Settled.opens {s : World P} {loaded : LoadedSecureExtensionState} (h : Settled s loaded) :
    ∀ entry ∈ loaded.persistent.receiptIndex, ∃ bundle, Opens s.vault entry bundle := by
  intro entry hentry
  obtain ⟨bundle, -, hopens⟩ := h.readable.opened.bundles.exists_bundle hentry
  exact ⟨bundle, hopens⟩

/-- **A save that succeeds** settles the store with the receipts it was given,
and keeps their anchor operations. -/
theorem save_settled {w t : World P} {bundles : Bundles} {operations : List AnchorOperation}
    (hw : Stocked w bundles operations) {working : ExtensionLocalState} {now : Timestamp}
    {target : LoadedSecureExtensionState}
    (h : (saveSecureExtensionState working now).run (exec P) w = (.ok target, t)) :
    Settled t target ∧ SavedAs P bundles working.receiptIndex target.bundles ∧
      target.persistent.anchorOperations = operations.filter fun operation =>
        operation.receiptId ∈ working.receiptIndex.map (·.receiptId) := by
  rw [save_eq (save_valid h)] at h
  obtain ⟨⟨current, identity⟩, s, hprepared, h⟩ := Prog.run_bind_eq_ok h
  obtain ⟨⟨staged, result⟩, s₁, hstage, h⟩ := Prog.run_bind_eq_ok h
  obtain ⟨hs, rfl, rfl, hprep⟩ := prepare_settled hw hprepared
  have hrun := guarded_ok h
  obtain ⟨pairs, rfl, hc⟩ := hprep.committed hstage hrun
  have hindex := hc.readable.opened.index
  have hbundles := hc.readable.opened.bundles
  -- what the loop that deletes leaves
  have hleaves : Leaves (stagedEntries pairs) current.persistent.receiptIndex s₁.vault t.vault := by
    obtain ⟨nextIndex, s₂, hnext, hcommit⟩ := Prog.run_bind_eq_ok hrun
    cases hnext
    obtain ⟨persistent, s₂, hwrite, hafter⟩ := Prog.run_bind_eq_ok hcommit
    obtain ⟨-, rfl, rfl⟩ := writePersistentState_ok hwrite
    obtain ⟨_, s₃, hdelete, hopen⟩ := Prog.run_bind_eq_ok hafter
    obtain ⟨-, rfl⟩ := openIndex_ok hopen
    have hdeleted := deleteReplaced_leaves hdelete
    exact hdeleted
  have htidy : Tidy t.vault (stagedEntries pairs) := by
    refine hs.tidy.replace (stageReceipts_addsOnly hstage).2 hleaves (fun entry hentry => ?_)
      (hc.all.keepsKeys hs.readable.valid.receiptIds)
    obtain ⟨bundle, hopens⟩ := hs.opens entry hentry
    exact ⟨bundle, hopens.kept hs.fresh hc.kept⟩
  refine ⟨⟨?_, hindex ▸ hc.readable, hc.pruned.fresh hc.kept.fresh, ?_⟩, ?_, ?_⟩
  · rw [hc.pruned.area, hindex]
  · rw [hindex]
    exact htidy
  · have hagrees := hc.pruned.agrees.symm
    exact hc.all.savedAs (hbundles.congr hagrees.keys hagrees.blobs)
  · rw [hindex]
    show List.filter (fun operation : AnchorOperation =>
      decide (operation.receiptId ∈ (stagedEntries pairs).map (·.receiptId))) _ = _
    rw [hc.all.receiptIds]

end SubmittedIt.Extension
