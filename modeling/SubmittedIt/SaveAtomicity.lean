/-
SubmittedIt/SaveAtomicity.lean

Saves and anchor confirmations under one failing operation.

Both write new artifacts, commit an index that names them, and delete the ones
it replaced; when anything fails after the artifacts are written, the `catch`
branch deletes them again.  Before the commit that restores what was there.
After it, the committed index names the deleted blobs.

Main results: `guarded_commit_fails` (the commit and its `catch` branch),
`save_fails`, `storeVerifiedChainAnchor_fails` and, for both together,
`interrupted_call_recovers_iff`: a call that a failure interrupts leaves a state that loads as
the one before it or the one it was to commit, if and only if the index stored
when the failure struck named no artifact of the call's own.
-/
import SubmittedIt.StorageStaging

namespace SubmittedIt.Extension

open Transaction ReceiptCore

variable {P : StoragePlatform}

/-! ### What a failure leaves -/

/-- The entries of a stored index. -/
def StoredValue.entries : StoredValue → List EncryptedReceiptIndexEntry
  | .current state => state.receiptIndex
  | .legacyEncrypted legacy => legacy.receiptIndex
  | .absent | .malformed _ | .plaintext _ => []

/-- The index stored in `b` names a blob that `w` does not have. -/
def NamesOwn (w b : World P) : Prop :=
  ∃ entry ∈ b.area.entries, w.vault.blobs entry.blobId = none

theorem Holds.entries {w : World P} {content : StoredContent} (h : Holds w content) :
    w.area.entries = content.receiptIndex := by
  obtain ⟨state, loaded, hstate, hreadable, rfl⟩ := h 0
  have hindex : loaded.content.receiptIndex = state.receiptIndex := by
    rw [← hreadable.opened.index]
    rfl
  rw [hindex]
  rcases harea : w.area with - | s | l | bad | value
  all_goals rw [harea] at hstate; cases hstate
  · rfl
  · rfl

/-- The blobs of the stored index are there. -/
theorem Holds.stored {w : World P} {content : StoredContent} (h : Holds w content)
    {entry : EncryptedReceiptIndexEntry} (hentry : entry ∈ content.receiptIndex) :
    w.vault.blobs entry.blobId ≠ none := by
  obtain ⟨state, loaded, hstate, hreadable, rfl⟩ := h 0
  have hindex : loaded.content.receiptIndex = state.receiptIndex := by
    rw [← hreadable.opened.index]
    rfl
  rw [hindex] at hentry
  obtain ⟨bundle, -, hopens⟩ := hreadable.opened.bundles.exists_bundle hentry
  obtain ⟨-, blob, hblob, -⟩ := hopens.stored
  rw [hblob]
  exact Option.some_ne_none blob

theorem Holds.not_namesOwn {w b : World P} {content : StoredContent} (hw : Holds w content)
    (hb : Holds b content) : ¬ NamesOwn w b := by
  rintro ⟨entry, hentry, hnone⟩
  rw [hb.entries] at hentry
  exact hw.stored hentry hnone

/-- The content is also there after the call's own artifacts are gone. -/
theorem Holds.transfer {w s w' : World P} {content : StoredContent} (hw : Holds w content)
    (hfresh : w.Fresh) (hs : Holds s content) (hkept : Kept w s) (hkept' : Kept w w')
    (harea : w'.area = s.area) (hidentity : w'.vault.identity = s.vault.identity) :
    Holds w' content := by
  intro now
  obtain ⟨state, loaded, hstate, hreadable, hcontent⟩ := hs now
  obtain ⟨state₀, loaded₀, -, hreadable₀, hcontent₀⟩ := hw now
  have hindex : state.receiptIndex = state₀.receiptIndex := by
    have h := congrArg StoredContent.receiptIndex (hcontent.trans hcontent₀.symm)
    rw [← hreadable.opened.index, ← hreadable₀.opened.index]
    exact h
  have hlt : ∀ entry ∈ state.receiptIndex, entry.keyId < w.draws ∧ entry.blobId < w.draws := by
    intro entry hentry
    rw [hindex] at hentry
    obtain ⟨bundle, -, hopens⟩ := hreadable₀.opened.bundles.exists_bundle hentry
    exact hopens.lt_draws hfresh
  have hagrees : Agrees state.receiptIndex s.vault w'.vault :=
    ⟨hidentity,
      fun entry hentry => (hkept'.keys _ (hlt entry hentry).1).trans
        (hkept.keys _ (hlt entry hentry).1).symm,
      fun entry hentry => (hkept'.blobs _ (hlt entry hentry).2).trans
        (hkept.blobs _ (hlt entry hentry).2).symm⟩
  exact ⟨state, loaded, by rw [harea, hstate], hreadable.agrees hagrees, hcontent⟩

/-- Where a failure strikes and what is left: nothing of the call's own is
named and one of the two contents is stored, or something is and nothing can
be loaded. -/
def Struck (w : World P) (before target : StoredContent) (b w' : World P) : Prop :=
  ¬ NamesOwn w b ∧ w'.Fresh ∧ (Holds w' before ∨ Holds w' target) ∨
    NamesOwn w b ∧ ∀ ensure now loaded s,
      (loadSecureExtensionState ensure now).run (exec P) w' ≠ (.ok loaded, s)

/-- Before the commit. -/
theorem Struck.early {w b w' : World P} {before target : StoredContent} (hw : Holds w before)
    (hb : Holds b before) (hw' : Holds w' before) (hfresh : w'.Fresh) :
    Struck w before target b w' :=
  .inl ⟨hw.not_namesOwn hb, hfresh, .inl hw'⟩

/-! ### The commit -/

/-- `try { p } catch (error) { delete what was staged; throw error }`. -/
def guarded (staged : List StagedArtifact) (p : StorageProg P LoadedSecureExtensionState) :
    StorageProg P LoadedSecureExtensionState := do
  let saved ← p.attempt
  match saved with
  | .ok loaded => pure loaded
  | .error e => do
    rollback staged
    Prog.throw e

theorem guarded_fails {failable : StorageOp P → Bool} {e : StorageError}
    {staged : List StagedArtifact} {p : StorageProg P LoadedSecureExtensionState} (hp : p.Strict)
    {s t b w' : World P} {loaded : LoadedSecureExtensionState}
    {r : Except StorageError LoadedSecureExtensionState}
    (hrun : p.run (exec P) s = (.ok loaded, t))
    (h : Prog.Fails (exec P) failable e (guarded staged p) s b r w') :
    r = .error e ∧ Prog.Fails (exec P) failable e p s b (.error e) b ∧ Withdrawn staged b w' := by
  rcases Prog.fails_bind.mp h with ⟨a, s₁, hfails, hrest⟩ | ⟨e', hfails, -⟩ | ⟨a, s₁, hrun', hfails⟩
  · obtain ⟨r₀, hr₀, hfails'⟩ := Prog.fails_attempt.mp hfails
    obtain ⟨rfl, rfl⟩ := hp.fails hfails'
    cases hr₀
    obtain ⟨t', hrollback, hwithdrawn⟩ := rollback_run staged s₁
    dsimp only at hrest
    rw [Prog.run_bind_ok hrollback] at hrest
    cases hrest
    exact ⟨rfl, hfails', hwithdrawn⟩
  · obtain ⟨r₀, hr₀, -⟩ := Prog.fails_attempt.mp hfails
    cases hr₀
  · rw [Prog.run_attempt, hrun] at hrun'
    cases hrun'
    exact absurd hfails Prog.not_fails_ret

/-- **A failure in the commit or after it.** -/
theorem guarded_commit_fails {failable : StorageOp P → Bool} {e : StorageError} {w s t b w' : World P}
    {before : StoredContent} (hw : Holds w before) (hs : Holds s before) (hkept : Kept w s)
    (hfresh : w.Fresh) {staged : List StagedArtifact} (hown : ∀ artifact ∈ staged, artifact.Own w)
    {state : SecureExtensionLocalState} {target : LoadedSecureExtensionState}
    {rest : SecureExtensionLocalState → StorageProg P LoadedSecureExtensionState}
    (hstrict : ∀ state, (rest state).Strict)
    (hpruned : (rest state).Throughout (exec P)
      (Pruned state.receiptIndex { s with area := .current state }) { s with area := .current state })
    (hrun : (writePersistentState state >>= rest).run (exec P) s = (.ok target, t))
    (hreadable : staged = [] → Readable t.vault state target)
    (hold : ∀ entry ∈ state.receiptIndex,
      entry ∈ before.receiptIndex ∨ ∃ artifact ∈ staged, artifact.blobId = entry.blobId)
    (hnew : ∀ artifact ∈ staged, ∃ entry ∈ state.receiptIndex, entry.blobId = artifact.blobId)
    {r : Except StorageError LoadedSecureExtensionState}
    (h : Prog.Fails (exec P) failable e (guarded staged (writePersistentState state >>= rest)) s b r
      w') :
    r = .error e ∧ Struck w before target.content b w' := by
  have hwrite := writePersistentState_strict (P := P) state
  obtain ⟨hr, hfails, hwithdrawn⟩ := guarded_fails (hwrite.bind hstrict) hrun h
  refine ⟨hr, ?_⟩
  obtain ⟨state', s₁, hwritten, hrest, hfails⟩ := hwrite.fails_bind hrun hfails
  obtain ⟨hvalid, rfl, rfl⟩ := writePersistentState_ok hwritten
  rcases hfails with ⟨-, -, hfails⟩ | hfails
  · -- the write fails: what was staged is withdrawn
    have hb : b = s := by
      rw [writePersistentState,
        if_neg (by rw [validateSecure_eq_true.mpr hvalid]; exact Bool.noConfusion)] at hfails
      rcases Prog.fails_bind.mp hfails with ⟨a, s₁, hf, -⟩ | ⟨e', hf, -⟩ | ⟨a, s₁, -, hf⟩
      · obtain ⟨-, -, hr, -⟩ := Prog.fails_perform.mp hf
        cases hr
      · exact (Prog.fails_perform.mp hf).2.1
      · exact absurd hf Prog.not_fails_ret
    subst hb
    have hkept' := hwithdrawn.kept w hkept hown
    exact .early hw hs (hw.transfer hfresh hs hkept hkept' hwithdrawn.area hwithdrawn.identity)
      hkept'.fresh
  · -- the index is written
    have hb := hfails.inv hpruned (.refl _ _)
    have ht := hpruned.run (.refl _ _)
    rw [hrest] at ht
    have hbfresh : b.Fresh := hb.fresh (hkept.setArea _).fresh
    have harea : b.area = .current state' := hb.area
    rcases staged with - | ⟨artifact, staged⟩
    · -- of artifacts that were there before: it stays
      have hkept' : Kept b w' := by
        apply hwithdrawn.kept b (.refl hbfresh)
        rintro artifact ⟨⟩
      have hagrees : Agrees state'.receiptIndex t.vault b.vault := ht.agrees.symm.trans hb.agrees
      have hloads := ((hreadable rfl).agrees hagrees).kept hbfresh hkept'
      refine .inl ⟨?_, hkept'.fresh, .inr (hloads.holds (hwithdrawn.area.trans harea))⟩
      rintro ⟨entry, hentry, hnone⟩
      rw [harea] at hentry
      rcases hold entry hentry with hbefore | ⟨artifact, ⟨⟩, -⟩
      exact hw.stored hbefore hnone
    · -- of staged ones: they are withdrawn under it
      obtain ⟨entry, hentry, hblob⟩ := hnew artifact List.mem_cons_self
      refine .inr ⟨⟨entry, by rw [harea]; exact hentry, ?_⟩, fun ensure now loaded s' => ?_⟩
      · rw [hblob]
        exact (hfresh _ (hown artifact List.mem_cons_self).blob).2
      · apply load_fails (hwithdrawn.area.trans harea) hentry
        rw [hblob]
        exact hwithdrawn.gone artifact List.mem_cons_self

/-! ### Saving -/

theorem ensureIdentity_some_ok {metadata : SecureIdentityMetadata} {now : Timestamp}
    {identity : InstallationIdentityRecord} {w s : World P}
    (h : (ensureIdentity (some metadata) now).run (exec P) w = (.ok identity, s)) :
    w.vault.identity.any (identityMetadataMatches metadata) = true := by
  obtain ⟨existing, w', hexisting, h⟩ := Prog.run_bind_eq_ok h
  cases hexisting
  rcases hidentity : w.vault.identity with - | existing
  · rw [hidentity] at h
    cases h
  · rw [hidentity] at h
    dsimp only at h
    split at h
    · cases h
    · rename_i hmatches
      exact Bool.not_eq_false _ ▸ hmatches

/-- A load of a version 4 index upgrades it and leaves the vault. -/
theorem load_legacy_ok {w s : World P} {legacy : LegacySecureState} {ensure : Option Bool}
    {now : Timestamp} {loaded : LoadedSecureExtensionState}
    (harea : w.area = .legacyEncrypted legacy)
    (h : (loadSecureExtensionState ensure now).run (exec P) w = (.ok loaded, s)) :
    loaded.persistent = legacy.upgrade now ∧ s.vault = w.vault := by
  obtain ⟨stored, w', hstored, h⟩ := Prog.run_bind_eq_ok h
  cases hstored
  rw [harea] at h
  dsimp only at h
  split at h
  · cases h
  · obtain ⟨state, w₁, hwrite, h⟩ := Prog.run_bind_eq_ok h
    obtain ⟨-, rfl, rfl⟩ := writePersistentState_ok hwrite
    obtain ⟨hopened, rfl⟩ := openIndex_ok h
    exact ⟨hopened.index, rfl⟩

/-- The first part of a save: the stored state and the identity. -/
def prepare (now : Timestamp) :
    StorageProg P (LoadedSecureExtensionState × InstallationIdentityRecord) := do
  let current ← loadSecureExtensionState (some true) now
  let identity ← ensureIdentity current.persistent.identity now
  pure (current, identity)

/-- What the first part of a save leaves. -/
structure Prepared (w : World P) (content : StoredContent) (current : LoadedSecureExtensionState)
    (identity : InstallationIdentityRecord) (s : World P) : Prop where
  holds : Holds s content
  same : current.content = content
  kept : Kept w s
  area : s.area = .current current.persistent
  readable : Readable s.vault current.persistent current
  identity : s.vault.identity = some identity

theorem prepare_strict (now : Timestamp) : (prepare now : StorageProg P _).Strict :=
  (load_strict _ _).bind fun _ => (ensureIdentity_strict _ _).bind fun _ => Prog.strict_pure _

theorem prepare_meets {w : World P} {content : StoredContent} (hw : Holds w content)
    (hfresh : w.Fresh) (now : Timestamp) :
    (prepare now).Meets (Prog.Runs (exec P)) (fun b => Holds b content ∧ Kept w b)
      (fun r s => ∃ current identity, r = .ok (current, identity) ∧
        Prepared w content current identity s) w := by
  refine Prog.meets_bind.mpr ((hw.load hfresh (some true) now).imp ?_)
  rintro r s ⟨current, rfl, hs⟩
  refine Prog.meets_bind.mpr ?_
  have hsfresh := hs.kept.fresh
  refine ((ensureIdentity_meets (.refl hsfresh) current.persistent.identity now).and_inv
    ⟨.refl hsfresh, rfl⟩).mono (fun _ _ _ _ h => h)
    (fun b hb => ⟨hs.holds.of_kept hsfresh hb.1 hb.2, hs.kept.trans hb.1⟩) ?_
  rintro r b ⟨⟨hb, harea⟩, hstored, hexists⟩
  have hmatches : (current.persistent.identity.all fun metadata =>
      s.vault.identity.any (identityMetadataMatches metadata)) = true := by
    rcases hmetadata : current.persistent.identity with - | metadata
    · rfl
    · rw [Option.all_some]
      exact hs.readable.identity metadata hmetadata
  obtain ⟨identity, rfl⟩ := hexists hmatches
  exact ⟨current, identity, rfl, hs.holds.of_kept hsfresh hb harea, hs.content, hs.kept.trans hb,
    harea.trans hs.area, hs.readable.kept hsfresh hb, (hstored identity rfl).1⟩

/-- The identity of an index is known where the first part of a save succeeds. -/
theorem identityKnown_of_prepare {now : Timestamp} {w s : World P} {prepared}
    (h : (prepare now).run (exec P) w = (.ok prepared, s)) : IdentityKnown w := by
  obtain ⟨current, s₁, hload, h⟩ := Prog.run_bind_eq_ok h
  obtain ⟨identity, s₂, hidentity, h⟩ := Prog.run_bind_eq_ok h
  intro legacy metadata harea hmetadata
  obtain ⟨hpersistent, hvault⟩ := load_legacy_ok harea hload
  have hsome : current.persistent.identity = some metadata := by
    rw [hpersistent]
    exact hmetadata
  rw [hsome] at hidentity
  rw [← hvault]
  exact ensureIdentity_some_ok hidentity

/-- The index that a save commits. -/
def nextPersistent (working : ExtensionLocalState) (now : Timestamp)
    (current : LoadedSecureExtensionState) (identity : InstallationIdentityRecord)
    (nextIndex : List EncryptedReceiptIndexEntry) : SecureExtensionLocalState :=
  persistentFromWorking { working with updatedAt := now } current.persistent identity nextIndex now

theorem save_eq {working : ExtensionLocalState} {now : Timestamp}
    (hvalid : validateExtensionState P { working with updatedAt := now } = true) :
    saveSecureExtensionState working now = (do
      let prepared ← prepare now
      let staging ← stageReceipts prepared.1 prepared.2 now [] [] working.receiptIndex
      guarded staging.1 (Prog.ofExcept staging.2 >>= fun nextIndex =>
        commitIndex prepared.1 (nextPersistent working now prepared.1 prepared.2 nextIndex)) :
      StorageProg P LoadedSecureExtensionState) := by
  unfold saveSecureExtensionState prepare
  dsimp only
  rw [if_neg (by rw [hvalid]; exact Bool.noConfusion), Prog.bind_assoc']
  simp only [Prog.bind_assoc', Prog.pure_bind']
  rfl

theorem save_valid {working : ExtensionLocalState} {now : Timestamp} {w s : World P}
    {target : LoadedSecureExtensionState}
    (h : (saveSecureExtensionState working now).run (exec P) w = (.ok target, s)) :
    validateExtensionState P { working with updatedAt := now } = true := by
  by_contra hinvalid
  unfold saveSecureExtensionState at h
  dsimp only at h
  rw [if_pos (Bool.not_eq_true _ ▸ hinvalid)] at h
  cases h

/-- What follows the commit of a save. -/
def afterCommit (nextIndex : List EncryptedReceiptIndexEntry)
    (current : LoadedSecureExtensionState) (persistent : SecureExtensionLocalState) :
    StorageProg P LoadedSecureExtensionState := do
  deleteReplaced nextIndex current.persistent.receiptIndex
  openIndex persistent

theorem afterCommit_strict (nextIndex : List EncryptedReceiptIndexEntry)
    (current : LoadedSecureExtensionState) (persistent : SecureExtensionLocalState) :
    (afterCommit nextIndex current persistent :
      StorageProg P LoadedSecureExtensionState).Strict :=
  (deleteReplaced_strict _ _).bind fun _ => openIndex_strict _

theorem afterCommit_throughout {nextIndex : List EncryptedReceiptIndexEntry}
    (current : LoadedSecureExtensionState) (persistent : SecureExtensionLocalState) {w : World P}
    (hopens : ∀ entry ∈ nextIndex, ∃ bundle, Opens w.vault entry bundle)
    (hreplaces : ReplacesOnly nextIndex current.persistent.receiptIndex) :
    (afterCommit nextIndex current persistent : StorageProg P LoadedSecureExtensionState).Throughout
      (exec P) (Pruned nextIndex w) w := by
  have hdelete := deleteReplaced_meets hopens hreplaces
  refine Prog.throughout_bind.mpr ⟨hdelete.throughout, fun a s hrun => ?_⟩
  apply (openIndex_readsOnly persistent).throughout
  have hs := hdelete.throughout.run (.refl _ _)
  rw [hrun] at hs
  exact hs

/-- What a commit that succeeds leaves. -/
theorem commitIndex_ok {current target : LoadedSecureExtensionState}
    {state : SecureExtensionLocalState} {s t : World P}
    (hopens : ∀ entry ∈ state.receiptIndex, ∃ bundle, Opens s.vault entry bundle)
    (hreplaces : ValidIndex state → ReplacesOnly state.receiptIndex current.persistent.receiptIndex)
    (hidentity : ∀ metadata, state.identity = some metadata →
      s.vault.identity.any (identityMetadataMatches metadata) = true)
    (h : (commitIndex current state).run (exec P) s = (.ok target, t)) :
    Readable t.vault state target ∧ Pruned state.receiptIndex { s with area := .current state } t := by
  obtain ⟨persistent, s', hwrite, hafter⟩ := Prog.run_bind_eq_ok h
  obtain ⟨hvalid, rfl, rfl⟩ := writePersistentState_ok hwrite
  have hthroughout := afterCommit_throughout current persistent
    (w := { s with area := .current persistent }) hopens (hreplaces hvalid)
  have ht := hthroughout.run (.refl _ _)
  have hafter' : (afterCommit persistent.receiptIndex current persistent).run (exec P)
      { s with area := .current persistent } = (.ok target, t) := hafter
  rw [hafter'] at ht
  obtain ⟨u, s₃, -, hopen⟩ := Prog.run_bind_eq_ok hafter'
  obtain ⟨hopened, rfl⟩ := openIndex_ok hopen
  refine ⟨⟨hvalid, fun metadata hmetadata => ?_, hopened⟩, ht⟩
  rw [ht.agrees.identity]
  exact hidentity metadata hmetadata

/-- The last part of a save, when it succeeds. -/
theorem guarded_ok {staged : List StagedArtifact} {p : StorageProg P LoadedSecureExtensionState}
    {s t : World P} {loaded : LoadedSecureExtensionState}
    (h : (guarded staged p).run (exec P) s = (.ok loaded, t)) :
    p.run (exec P) s = (.ok loaded, t) := by
  obtain ⟨saved, s₁, hsaved, h⟩ := Prog.run_bind_eq_ok h
  rw [Prog.run_attempt] at hsaved
  cases hsaved
  split at h
  · rename_i loaded' hloaded
    cases h
    exact Prod.ext hloaded rfl
  · obtain ⟨u, s₂, -, h⟩ := Prog.run_bind_eq_ok h
    cases h

/-- The last part of a save, when it does not. -/
theorem guarded_error (staged : List StagedArtifact)
    {p : StorageProg P LoadedSecureExtensionState} {s b : World P} {e : StorageError}
    (h : p.run (exec P) s = (.error e, b)) :
    ∃ t, (guarded staged p).run (exec P) s = (.error e, t) ∧ Withdrawn staged b t := by
  obtain ⟨t, hrollback, hwithdrawn⟩ := rollback_run staged b
  refine ⟨t, ?_, hwithdrawn⟩
  have hattempt : p.attempt.run (exec P) s = (.ok (.error e), b) := by
    rw [Prog.run_attempt, h]
  rw [guarded, Prog.run_bind_ok hattempt]
  dsimp only
  rw [Prog.run_bind_ok hrollback]
  rfl

/-- A save that has staged its receipts and commits them. -/
structure Committed (current : LoadedSecureExtensionState) (working : ExtensionLocalState)
    (now : Timestamp) (identity : InstallationIdentityRecord) (s s₁ t : World P)
    (staged : List StagedArtifact)
    (pairs : List (EncryptedReceiptIndexEntry × Option StagedArtifact))
    (target : LoadedSecureExtensionState) : Prop where
  artifacts : staged = stagedArtifacts pairs
  own : ∀ artifact ∈ staged, artifact.Own s
  kept : Kept s s₁
  area : s₁.area = s.area
  all : StagedAll s current s₁ working.receiptIndex pairs
  replaces : ReplacesOnly (stagedEntries pairs) current.persistent.receiptIndex
  readable : Readable t.vault (nextPersistent working now current identity (stagedEntries pairs))
    target
  pruned : Pruned (stagedEntries pairs) { s₁ with
    area := .current (nextPersistent working now current identity (stagedEntries pairs)) } t

theorem Prepared.committed {w s s₁ t : World P} {content : StoredContent}
    {current target : LoadedSecureExtensionState} {identity : InstallationIdentityRecord}
    (h : Prepared w content current identity s) {working : ExtensionLocalState} {now : Timestamp}
    {staged : List StagedArtifact} {result : Except StorageError (List EncryptedReceiptIndexEntry)}
    (hstage : (stageReceipts current identity now [] [] working.receiptIndex).run (exec P) s =
      (.ok (staged, result), s₁))
    (hcommit : (Prog.ofExcept result >>= fun nextIndex => commitIndex current
      (nextPersistent working now current identity nextIndex)).run (exec P) s₁ = (.ok target, t)) :
    ∃ pairs, result = .ok (stagedEntries pairs) ∧
      Committed current working now identity s s₁ t staged pairs target := by
  have hfresh := h.kept.fresh
  obtain ⟨nextIndex, s₂, hresult, hcommitted⟩ := Prog.run_bind_eq_ok hcommit
  cases hresult
  have hstaged := ((stageReceipts_meets hfresh h.readable identity now [] []
    working.receiptIndex).and_inv ⟨.refl hfresh, rfl⟩).result
  rw [hstage] at hstaged
  obtain ⟨⟨hkept, harea⟩, _, _, hpair, hloop⟩ := hstaged
  cases hpair
  obtain ⟨pairs, hentries, hartifacts, hall⟩ := hloop.done _ rfl
  obtain rfl : nextIndex = stagedEntries pairs := hentries
  have hreplaces : ValidIndex (nextPersistent working now current identity (stagedEntries pairs)) →
      ReplacesOnly (stagedEntries pairs) current.persistent.receiptIndex :=
    fun hvalid => hall.replacesOnly hfresh h.readable hvalid.receiptIds
  have hidentity : s₁.vault.identity = some identity := hkept.identity identity h.identity
  obtain ⟨hreadable, hpruned⟩ := commitIndex_ok hall.opens hreplaces (fun metadata hmetadata => by
    cases hmetadata
    rw [hidentity, Option.any_some]
    exact decide_eq_true rfl) hcommitted
  refine ⟨pairs, rfl, hartifacts, fun a ha => ?_, hkept, harea, hall, hreplaces hreadable.valid,
    hreadable, hpruned⟩
  rcases hloop.own a ha with ⟨⟨⟩⟩ | hown
  exact hown

/-- **A save that succeeds.** -/
theorem save_ok {w t : World P} {content : StoredContent} (hw : Holds w content) (hfresh : w.Fresh)
    {working : ExtensionLocalState} {now : Timestamp} {target : LoadedSecureExtensionState}
    (h : (saveSecureExtensionState working now).run (exec P) w = (.ok target, t)) :
    ∃ current identity s s₁ staged pairs, Prepared w content current identity s ∧
      Committed current working now identity s s₁ t staged pairs target := by
  rw [save_eq (save_valid h)] at h
  obtain ⟨⟨current, identity⟩, s, hprepared, h⟩ := Prog.run_bind_eq_ok h
  obtain ⟨⟨staged, result⟩, s₁, hstage, h⟩ := Prog.run_bind_eq_ok h
  have hs := (prepare_meets hw hfresh now).result
  rw [hprepared] at hs
  obtain ⟨_, _, hpair, hs⟩ := hs
  cases hpair
  obtain ⟨pairs, -, hcommitted⟩ := hs.committed hstage (guarded_ok h)
  exact ⟨current, identity, s, s₁, staged, pairs, hs, hcommitted⟩

/-- **A save that a failure interrupts.** -/
theorem save_fails {failable : StorageOp P → Bool} {e : StorageError} {w t b w' : World P}
    (hencrypted : w.area.encrypted = true) (hfresh : w.Fresh) {loadedAt : Timestamp}
    {before : LoadedSecureExtensionState} {s₀ : World P}
    (hload : (loadSecureExtensionState none loadedAt).run (exec P) w = (.ok before, s₀))
    {working : ExtensionLocalState} {now : Timestamp} {target : LoadedSecureExtensionState}
    (haccepted : (saveSecureExtensionState working now).run (exec P) w = (.ok target, t))
    {r : Except StorageError LoadedSecureExtensionState}
    (h : Prog.Fails (exec P) failable e (saveSecureExtensionState working now) w b r w') :
    r = .error e ∧ Struck w before.content target.content b w' := by
  have hvalid := save_valid haccepted
  rw [save_eq hvalid] at haccepted h
  obtain ⟨⟨current, identity⟩, s, hprepared, haccepted, hfails⟩ :=
    (prepare_strict now).fails_bind haccepted h
  have hw := holds_of_load hload hencrypted (identityKnown_of_prepare hprepared)
  have hmeets := prepare_meets hw hfresh now
  rcases hfails with ⟨rfl, rfl, hfails⟩ | hfails
  · -- while the state is loaded
    obtain ⟨hb, hkept⟩ := hfails.inv hmeets.throughout ⟨hw, .refl hfresh⟩
    exact ⟨rfl, .early hw hb hb hkept.fresh⟩
  have hs : Prepared w before.content current identity s := by
    have hresult := hmeets.result
    rw [hprepared] at hresult
    obtain ⟨_, _, hpair, hs⟩ := hresult
    cases hpair
    exact hs
  have hsfresh := hs.kept.fresh
  rcases Prog.fails_bind.mp hfails with ⟨staging, s₁, hstage, hrest⟩ | ⟨e', hstage, -⟩ |
    ⟨⟨staged, result⟩, s₁, hstage, hcommit⟩
  · -- while a receipt is staged: what was staged is withdrawn
    obtain ⟨hb, harea⟩ := hstage.inv (stageReceipts_meets hsfresh hs.readable identity now [] []
      working.receiptIndex).throughout ⟨.refl hsfresh, rfl⟩
    obtain ⟨staged, hstaging, rfl, hown⟩ := stageReceipts_fails hsfresh hs.readable hstage
    cases hstaging
    obtain ⟨t', hrun, hwithdrawn⟩ := guarded_error staged (s := s₁) (b := s₁) (e := e)
      (p := Prog.ofExcept (.error e) >>= fun nextIndex => commitIndex current
        (nextPersistent working now current identity nextIndex)) rfl
    cases hrest.trans hrun
    have hkept := hs.kept.trans hb
    have hholds := hs.holds.of_kept hsfresh hb harea
    have hkept' := hwithdrawn.kept w hkept fun a ha => by
      rcases hown a ha with ⟨⟨⟩⟩ | hown
      exact hown.mono hs.kept.draws
    exact ⟨rfl, .early hw hholds (hw.transfer hfresh hholds hkept hkept' hwithdrawn.area
      hwithdrawn.identity) hkept'.fresh⟩
  · obtain ⟨staged, hstaging, -⟩ := stageReceipts_fails hsfresh hs.readable hstage
    cases hstaging
  · -- at the commit or after it
    rw [Prog.run_bind_ok hstage] at haccepted
    have hrun := guarded_ok haccepted
    obtain ⟨pairs, rfl, hc⟩ := hs.committed hstage hrun
    have hartifacts := hc.artifacts
    subst hartifacts
    refine guarded_commit_fails hw (hs.holds.of_kept hsfresh hc.kept hc.area)
      (hs.kept.trans hc.kept) hfresh (fun a ha => (hc.own a ha).mono hs.kept.draws)
      (afterCommit_strict (stagedEntries pairs) current)
      (afterCommit_throughout current _ (w := { s₁ with area := .current (nextPersistent working
        now current identity (stagedEntries pairs)) }) hc.all.opens hc.replaces)
      hrun (fun _ => hc.readable) (fun entry hentry => ?_) hc.all.named hcommit
    have hindex : current.persistent.receiptIndex = before.content.receiptIndex := by
      rw [← hs.same]
      rfl
    rw [← hindex]
    exact hc.all.old_or_new entry hentry

/-! ### Confirming an anchor -/

/-- What the confirmation of an anchor has made before its commit. -/
structure AnchorUpdate where
  loaded : LoadedSecureExtensionState
  index : EncryptedReceiptIndexEntry
  anchored : PrivateReceiptBundle
  nextIndex : EncryptedReceiptIndexEntry
  confirmed : AnchorOperation

/-- The confirmation of an anchor up to its commit. -/
def prepareAnchor (input : VerifiedChainAnchor) (now : Timestamp) : StorageProg P AnchorUpdate := do
  let loadedAt ← (perform .now : StorageProg P Timestamp)
  let loaded ← loadSecureExtensionState none loadedAt
  let operation := loaded.persistent.anchorOperations.find? fun candidate =>
    candidate.eventHash = input.eventHash
  match operation, operation.bind fun operation => loaded.bundles.get operation.receiptId,
      operation.bind fun operation => loaded.persistent.entry operation.receiptId with
  | some operation, some bundle, some index =>
    if operation.chainId ≠ input.chainId
        ∨ ContractClient.toLowerCase operation.contractAddress ≠ .hex input.contractAddress 0 then
      fail "The verified chain evidence does not match a durable local operation."
    else do
      let key ← (perform (.getReceiptKey index.keyId) : StorageProg P (Option ReceiptKeyRecord))
      match key.filter fun key => key.receiptId = operation.receiptId with
      | none => fail "The receipt encryption key is unavailable."
      | some key => do
        let anchored ← Prog.ofExcept (attachVerifiedChainAnchor P bundle input.eventHash
          ⟨input.anchoredAt, input.blockNumber, input.chainId, input.contractAddress,
            input.transactionHash⟩ now)
        let envelope ← encryptBundle anchored key
        perform (.putReceiptArtifacts key envelope)
        let confirmed ← Prog.ofExcept (updateAnchorOperation (operation.confirm input now))
        pure ⟨loaded, index, anchored,
          indexFromArtifacts anchored envelope.authenticatedMetadata.blobId key.keyId, confirmed⟩
  | _, _, _ => fail "The verified chain evidence does not match a durable local operation."

/-- The index that the confirmation of an anchor commits. -/
def AnchorUpdate.persistent (update : AnchorUpdate) (now : Timestamp) :
    SecureExtensionLocalState :=
  { update.loaded.persistent with
    anchorOperations := update.loaded.persistent.anchorOperations.map fun candidate =>
      if candidate.eventHash = update.confirmed.eventHash then update.confirmed else candidate
    receiptIndex := update.loaded.persistent.receiptIndex.map fun entry =>
      if entry.receiptId = update.nextIndex.receiptId then update.nextIndex else entry
    updatedAt := now }

/-- What follows the commit of a confirmed anchor. -/
def AnchorUpdate.afterCommit (update : AnchorUpdate) (persistent : SecureExtensionLocalState) :
    StorageProg P LoadedSecureExtensionState := do
  if update.index.blobId ≠ update.nextIndex.blobId then perform (.deleteBlob update.index.blobId)
  else pure ()
  loadedFrom persistent
    (update.loaded.bundles.set update.anchored.receipt.receiptId update.anchored)

theorem storeVerifiedChainAnchor_eq (input : VerifiedChainAnchor) (now : Timestamp) :
    storeVerifiedChainAnchor input now = (prepareAnchor input now >>= fun update =>
      guarded [⟨update.nextIndex.blobId, update.nextIndex.keyId, false⟩]
        (writePersistentState (update.persistent now) >>= update.afterCommit) :
      StorageProg P LoadedSecureExtensionState) := by
  unfold storeVerifiedChainAnchor prepareAnchor
  rw [Prog.bind_assoc']
  refine congrArg _ (funext fun loadedAt => ?_)
  rw [Prog.bind_assoc']
  refine congrArg _ (funext fun loaded => ?_)
  generalize loaded.persistent.anchorOperations.find? _ = operation
  rcases operation with - | operation
  · rfl
  dsimp only [Option.bind_some]
  rcases loaded.bundles.get operation.receiptId with - | bundle
  · rfl
  rcases loaded.persistent.entry operation.receiptId with - | index
  · rfl
  dsimp only
  split_ifs
  · rfl
  rw [Prog.bind_assoc']
  refine congrArg _ (funext fun key => ?_)
  generalize Option.filter _ key = found
  rcases found with - | key
  · rfl
  simp only [Prog.bind_assoc', Prog.pure_bind']
  rfl

theorem prepareAnchor_strict (input : VerifiedChainAnchor) (now : Timestamp) :
    (prepareAnchor input now : StorageProg P AnchorUpdate).Strict := by
  refine (Prog.strict_perform _).bind fun loadedAt => (load_strict _ _).bind fun loaded => ?_
  dsimp only
  split
  · split
    · exact Prog.strict_throw _
    · refine (Prog.strict_perform _).bind fun key => ?_
      split
      · exact Prog.strict_throw _
      · exact (Prog.strict_ofExcept _).bind fun _ => (encryptBundle_strict _ _).bind fun _ =>
          (Prog.strict_perform _).bind fun _ => (Prog.strict_ofExcept _).bind fun _ =>
            Prog.strict_pure _
  · exact Prog.strict_throw _

/-- What the confirmation of an anchor relies on at its commit. -/
structure PreparedAnchor (w : World P) (content : StoredContent) (update : AnchorUpdate)
    (s : World P) : Prop where
  holds : Holds s content
  same : update.loaded.content = content
  kept : Kept w s
  area : s.area = .current update.loaded.persistent
  readable : Readable s.vault update.loaded.persistent update.loaded
  index : update.index ∈ update.loaded.persistent.receiptIndex
  opens : Opens s.vault update.nextIndex update.anchored
  receiptId : update.nextIndex.receiptId = update.index.receiptId
  blob : w.draws ≤ update.nextIndex.blobId
  old : ∀ entry ∈ update.loaded.persistent.receiptIndex, entry.blobId < w.draws

theorem prepareAnchor_meets {w : World P} {content : StoredContent} (hw : Holds w content)
    (hfresh : w.Fresh) (input : VerifiedChainAnchor) (now : Timestamp) :
    (prepareAnchor input now).Meets (Prog.Runs (exec P)) (fun b => Holds b content ∧ Kept w b)
      (fun r s => ∀ update, r = .ok update → PreparedAnchor w content update s) w := by
  have hrefl := Kept.refl hfresh
  have hdrawn : Holds { w with draws := w.draws + 1 } content := hw.of_kept hfresh hrefl.draw rfl
  refine Prog.meets_perform_ok rfl ⟨hdrawn, hrefl.draw⟩ (Prog.meets_bind.mpr ?_)
  refine (hdrawn.load hrefl.draw.fresh none _).mono (fun _ _ _ _ h => h)
    (fun b hb => ⟨hb.1, hrefl.draw.trans hb.2⟩) ?_
  rintro r s ⟨loaded, rfl, hs⟩
  have hkept : Kept w s := hrefl.draw.trans hs.kept
  have hI : ∀ b, Kept s b → b.area = s.area → Holds b content ∧ Kept w b :=
    fun b hb harea => ⟨hs.holds.of_kept hkept.fresh hb harea, hkept.trans hb⟩
  dsimp only
  generalize loaded.persistent.anchorOperations.find? _ = operation
  rcases operation with - | operation
  · rintro update ⟨⟩
  dsimp only [Option.bind_some]
  rcases hbundle : loaded.bundles.get operation.receiptId with - | bundle
  · rintro update ⟨⟩
  rcases hentry : loaded.persistent.entry operation.receiptId with - | index
  · rintro update ⟨⟩
  dsimp only
  split_ifs
  · rintro update ⟨⟩
  obtain ⟨hindex, hreceipt⟩ := entry_eq_some hentry
  obtain ⟨bundle', hget, hopens⟩ :=
    hs.readable.opened.bundles.get hs.readable.valid.receiptIds hindex
  obtain rfl : bundle' = bundle := by
    rw [hreceipt, hbundle] at hget
    exact (Option.some.inj hget).symm
  obtain ⟨key, envelope, hwith⟩ := hopens
  refine Prog.meets_perform_ok rfl (hI s (.refl hkept.fresh) rfl) ?_
  rw [hwith.getKey, Option.filter_some, if_pos (decide_eq_true (hwith.receiptId.trans hreceipt))]
  refine Prog.meets_bind.mpr ?_
  rw [Prog.meets_ofExcept]
  rcases hattach : attachVerifiedChainAnchor P bundle' input.eventHash ⟨input.anchoredAt,
    input.blockNumber, input.chainId, input.contractAddress, input.transactionHash⟩ now
    with e | anchored
  · rintro update ⟨⟩
  obtain ⟨hverified, hoperational, -⟩ := attach_ok hattach
  have hanchored : anchored.receipt.receiptId = index.receiptId := by
    rw [hverified.receiptId, hoperational]
    exact Opens.receiptId ⟨key, envelope, hwith⟩
  have hkeyId : key.keyId = index.keyId := (congrArg (·.keyId) hwith.entry).symm
  refine sealed_meets (.refl hkept.fresh) hverified (hwith.receiptId.trans hanchored.symm)
    (.inl (hkeyId ▸ hwith.getKey)) hI ?_ ?_
  · rintro e b - - update ⟨⟩
  rintro b hb harea - - hopens'
  refine Prog.meets_bind.mpr ?_
  rw [Prog.meets_ofExcept]
  rcases updateAnchorOperation (operation.confirm input now) with e | confirmed
  · rintro update ⟨⟩
  rintro update ⟨⟩
  refine ⟨hs.holds.of_kept hkept.fresh hb harea, hs.content, hkept.trans hb, harea.trans hs.area,
    hs.readable.kept hkept.fresh hb, hindex, hopens', ?_, hkept.draws, fun entry hold => ?_⟩
  · rw [← hanchored, hverified.receiptId]
    rfl
  · have hcontent : entry ∈ content.receiptIndex := by
      rw [← hs.content]
      exact hold
    by_contra hlt
    exact hw.stored hcontent (hfresh _ (not_lt.mp hlt)).2

/-- A version 4 index has no anchor operation to confirm. -/
theorem identityKnown_of_prepareAnchor {input : VerifiedChainAnchor} {now : Timestamp}
    {w s : World P} {update : AnchorUpdate}
    (h : (prepareAnchor input now).run (exec P) w = (.ok update, s)) : IdentityKnown w := by
  obtain ⟨loadedAt, w₁, hnow, h⟩ := Prog.run_bind_eq_ok h
  cases hnow
  obtain ⟨loaded, s₁, hload, h⟩ := Prog.run_bind_eq_ok h
  intro legacy metadata harea hmetadata
  obtain ⟨hpersistent, -⟩ := load_legacy_ok (w := { w with draws := w.draws + 1 }) harea hload
  rw [hpersistent] at h
  cases h

theorem AnchorUpdate.afterCommit_strict (update : AnchorUpdate)
    (persistent : SecureExtensionLocalState) :
    (update.afterCommit persistent : StorageProg P LoadedSecureExtensionState).Strict := by
  unfold AnchorUpdate.afterCommit
  split_ifs
  · exact (Prog.strict_perform _).bind fun _ => (Prog.strict_ofExcept _).bind fun _ =>
      Prog.strict_pure _
  · exact (Prog.strict_ofExcept _).bind fun _ => Prog.strict_pure _

/-- The committed index names the new blob in place of the old one. -/
theorem PreparedAnchor.entries {w s : World P} {content : StoredContent} {update : AnchorUpdate}
    (h : PreparedAnchor w content update s) (now : Timestamp) :
    update.nextIndex ∈ (update.persistent now).receiptIndex ∧
      ∀ entry ∈ (update.persistent now).receiptIndex, entry = update.nextIndex ∨
        entry ∈ update.loaded.persistent.receiptIndex ∧ entry.blobId ≠ update.index.blobId := by
  constructor
  · exact List.mem_map.mpr ⟨update.index, h.index, if_pos h.receiptId.symm⟩
  · intro entry hentry
    obtain ⟨old, hold, rfl⟩ := List.mem_map.mp hentry
    split_ifs with hsame
    · exact .inl rfl
    · refine .inr ⟨hold, fun hblob => hsame ?_⟩
      rw [List.inj_on_of_nodup_map h.readable.valid.blobIds hold h.index hblob, h.receiptId]

theorem PreparedAnchor.throughout {w s : World P} {content : StoredContent} {update : AnchorUpdate}
    (h : PreparedAnchor w content update s) (now : Timestamp) :
    (update.afterCommit (update.persistent now) :
      StorageProg P LoadedSecureExtensionState).Throughout (exec P)
      (Pruned (update.persistent now).receiptIndex
        { s with area := .current (update.persistent now) })
      { s with area := .current (update.persistent now) } := by
  have hfrom : ∀ bundles b, (loadedFrom (update.persistent now) bundles :
      StorageProg P LoadedSecureExtensionState).Throughout (exec P)
      (Pruned (update.persistent now).receiptIndex
        { s with area := .current (update.persistent now) }) b :=
    fun _ _ => Prog.throughout_bind.mpr ⟨trivial, fun _ _ _ => trivial⟩
  have hnot : ∀ entry ∈ (update.persistent now).receiptIndex,
      entry.blobId ≠ update.index.blobId := by
    intro entry hentry
    rcases (h.entries now).2 entry hentry with rfl | ⟨-, hne⟩
    · exact fun hblob => absurd (h.old _ h.index) (not_lt.mpr (hblob ▸ h.blob))
    · exact hne
  have hpruned := deleteBlob_pruned (w := { s with area := .current (update.persistent now) }) hnot
  unfold AnchorUpdate.afterCommit
  split_ifs
  · exact Prog.throughout_bind.mpr ⟨Prog.throughout_perform.mpr hpruned, fun _ _ _ => hfrom _ _⟩
  · exact hfrom _ _

/-- **The confirmation of an anchor that a failure interrupts.** -/
theorem storeVerifiedChainAnchor_fails {failable : StorageOp P → Bool} {e : StorageError}
    {w t b w' : World P} (hencrypted : w.area.encrypted = true) (hfresh : w.Fresh)
    {loadedAt : Timestamp} {before : LoadedSecureExtensionState} {s₀ : World P}
    (hload : (loadSecureExtensionState none loadedAt).run (exec P) w = (.ok before, s₀))
    {input : VerifiedChainAnchor} {now : Timestamp} {target : LoadedSecureExtensionState}
    (haccepted : (storeVerifiedChainAnchor input now).run (exec P) w = (.ok target, t))
    {r : Except StorageError LoadedSecureExtensionState}
    (h : Prog.Fails (exec P) failable e (storeVerifiedChainAnchor input now) w b r w') :
    r = .error e ∧ Struck w before.content target.content b w' := by
  rw [storeVerifiedChainAnchor_eq] at haccepted h
  obtain ⟨update, s, hprepared, haccepted, hfails⟩ :=
    (prepareAnchor_strict input now).fails_bind haccepted h
  have hw := holds_of_load hload hencrypted (identityKnown_of_prepareAnchor hprepared)
  have hmeets := prepareAnchor_meets hw hfresh input now
  rcases hfails with ⟨rfl, rfl, hfails⟩ | hfails
  · -- before the commit
    obtain ⟨hb, hkept⟩ := hfails.inv hmeets.throughout ⟨hw, .refl hfresh⟩
    exact ⟨rfl, .early hw hb hb hkept.fresh⟩
  have hs : PreparedAnchor w before.content update s := by
    have hresult := hmeets.result
    rw [hprepared] at hresult
    exact hresult update rfl
  refine guarded_commit_fails hw hs.holds hs.kept hfresh (fun a ha => ?_) update.afterCommit_strict
    (hs.throughout now) (guarded_ok haccepted) (fun hnil => by cases hnil) (fun entry hentry => ?_)
    (fun a ha => ?_) hfails
  · rw [List.mem_singleton.mp ha]
    exact ⟨hs.blob, fun hnew => by cases hnew⟩
  · rcases (hs.entries now).2 entry hentry with rfl | ⟨hold, -⟩
    · exact .inr ⟨_, List.mem_singleton.mpr rfl, rfl⟩
    · refine .inl ?_
      rw [← hs.same]
      exact hold
  · rw [List.mem_singleton.mp ha]
    exact ⟨update.nextIndex, (hs.entries now).1, rfl⟩

/-! ### Both calls -/

/-- A call that changes stored receipts. -/
inductive StorageCall
  | save (working : ExtensionLocalState) (now : Timestamp)
  | storeAnchor (input : VerifiedChainAnchor) (now : Timestamp)

def StorageCall.prog : StorageCall → StorageProg P LoadedSecureExtensionState
  | save working now => saveSecureExtensionState working now
  | storeAnchor input now => storeVerifiedChainAnchor input now

/-- The stored index can be loaded, and says what it said before the call or
what the call was to commit. -/
def Recovers (w : World P) (before target : LoadedSecureExtensionState) : Prop :=
  ∀ ensure now, ∃ loaded s, (loadSecureExtensionState ensure now).run (exec P) w = (.ok loaded, s) ∧
    (loaded.content = before.content ∨ loaded.content = target.content)

theorem Struck.recovers_iff {w b w' : World P} {before target : LoadedSecureExtensionState}
    (h : Struck w before.content target.content b w') :
    Recovers w' before target ↔ ¬ NamesOwn w b := by
  rcases h with ⟨hnot, hfresh, hholds⟩ | ⟨hnames, hfails⟩
  · refine ⟨fun _ => hnot, fun _ ensure now => ?_⟩
    have hloads : ∀ content, Holds w' content → ∃ loaded s,
        (loadSecureExtensionState ensure now).run (exec P) w' = (.ok loaded, s) ∧
          loaded.content = content := by
      intro content hcontent
      obtain ⟨loaded, hrun, hs⟩ := (hcontent.load hfresh ensure now).result
      exact ⟨loaded, _, Prod.ext hrun rfl, hs.content⟩
    rcases hholds with hbefore | htarget
    · obtain ⟨loaded, s, hrun, hcontent⟩ := hloads _ hbefore
      exact ⟨loaded, s, hrun, .inl hcontent⟩
    · obtain ⟨loaded, s, hrun, hcontent⟩ := hloads _ htarget
      exact ⟨loaded, s, hrun, .inr hcontent⟩
  · refine ⟨fun h => ?_, fun hnot => absurd hnames hnot⟩
    obtain ⟨loaded, s, hrun, -⟩ := h none 0
    exact absurd hrun (hfails _ _ _ _)

/-- **A call that one failing operation interrupts** is atomic, if and only if
the index stored when the operation failed names no blob of the call's own. -/
theorem interrupted_call_recovers_iff {w t b w' s₀ : World P} (call : StorageCall)
    (hencrypted : w.area.encrypted = true) (hfresh : w.Fresh) {loadedAt : Timestamp}
    {before target : LoadedSecureExtensionState}
    (hload : (loadSecureExtensionState none loadedAt).run (exec P) w = (.ok before, s₀))
    (haccepted : call.prog.run (exec P) w = (.ok target, t))
    {r : Except StorageError LoadedSecureExtensionState}
    (h : Prog.Fails (exec P) StorageOp.isStorage .operation call.prog w b r w') :
    ((∃ e, r = .error e) → Recovers w' before target) ↔ ¬ NamesOwn w b := by
  have hstruck : r = .error .operation ∧ Struck w before.content target.content b w' := by
    cases call with
    | save working now => exact save_fails hencrypted hfresh hload haccepted h
    | storeAnchor input now =>
      exact storeVerifiedChainAnchor_fails hencrypted hfresh hload haccepted h
  rw [← hstruck.2.recovers_iff]
  constructor
  · exact fun hrecovers => hrecovers ⟨_, hstruck.1⟩
  · exact fun hrecovers _ => hrecovers

/-! ### A store with receipts -/

theorem sample_prefixed :
    (ascii "sha256:").isPrefixOf (ascii "sha256:fingerprint") = true := by
  decide

/-- A platform whose ciphertexts are what they were made of. -/
def samplePlatform : StoragePlatform where
  keccak
    | .event core => 2 * core.receiptId + if core.stage = .attempted then 0 else 1
    | .extensionSignature payload => payload.eventHash
    | .authoritySignature payload => payload.eventHash
  hashPagePath _ path := BitVec.ofNat 256 path.length
  clock n := n
  generateIdentity createdAt draw :=
    ⟨createdAt, ⟨ascii "sha256:fingerprint", sample_prefixed⟩, draw,
      ⟨ascii "installation-key", ascii "public-key"⟩⟩
  sign _ _ _ := ascii "signature"
  verifyBytes _ signature _ := signature = ascii "signature"
  Ciphertext := CryptoKey × Nat × EncryptedReceiptMetadata × PrivateReceiptBundle
  byteLength _ := 1024
  encrypt key iv metadata bundle := (key, iv, metadata, bundle)
  decrypt key iv metadata sealed :=
    if sealed.1 = key ∧ sealed.2.1 = iv ∧ sealed.2.2.1 = metadata then some sealed.2.2.2 else none
  decrypt_encrypt _ _ _ _ := if_pos ⟨rfl, rfl, rfl⟩

def samplePage : Url := ⟨⟨true, ascii "a.example", none⟩, ascii "/", none⟩

theorem sampleCore_consent :
    (∃ f ∈ ([] : List CapturedField), f.isFile = true) → false = true := by
  rintro ⟨f, hf, -⟩
  exact absurd hf List.not_mem_nil

def sampleCore (receiptId : ReceiptId) : LifecycleEventCore where
  occurredAt := 5
  previousEventHash := ZERO_HASH
  receiptId
  schemaVersion := CURRENT_SCHEMA_VERSION
  body := .attempted {
    capturedFields := []
    excludedFields := []
    formDescriptor := ⟨samplePage, .other, none, none, ascii "POST"⟩
    origin := ⟨samplePage.origin, samplePage, rfl⟩
    fileMetadataIncluded := false
    submissionAttempt := ⟨.other, ascii "POST", samplePage, .formSubmit⟩
    captured_nodup := by decide
    excluded_nodup := by decide
    consent := sampleCore_consent
    disjoint := by decide }

/-- The receipt of an attempt. -/
def sampleReceipt (receiptId : ReceiptId) : StoredAttemptReceipt where
  attemptId := receiptId.toNat
  attemptFingerprint := receiptId
  receiptId
  receiptNonce := 0
  capturedAt := 5
  origin := samplePage.origin
  pagePathHash := 1
  actionOrigin := samplePage.origin
  event := {
    authoritySignature := none
    chainAnchor := none
    core := sampleCore receiptId
    eventHash := samplePlatform.keccak (.event (sampleCore receiptId))
    extensionSignature := none
    authority_stage := fun h => nomatch h }
  currentStage := .attempted
  siteConfirmationEvent := none
  siteConfirmationEvidence := none
  confirmationContext := none

/-- A store with an installation identity and no receipts. -/
def installedWorld : World samplePlatform :=
  let identity := samplePlatform.generateIdentity 0 0
  ⟨.current { initialSecureState 0 with identity := some (identityMetadata identity) },
    ⟨some identity, fun _ => none, fun _ => none, none⟩, 1⟩

/-- The state with the receipts of the given identifiers. -/
def sampleWorking (receiptIds : List ReceiptId) : ExtensionLocalState :=
  { createInitialExtensionState 0 with receiptIndex := receiptIds.map sampleReceipt }

/-- The store with these receipts. -/
def sampleWorld (receiptIds : List ReceiptId) : World samplePlatform :=
  ((saveSecureExtensionState (sampleWorking receiptIds) 10).run (exec samplePlatform)
    installedWorld).2

theorem exists_ok {ε α : Type} {x : Except ε α} (h : x.toBool = true) : ∃ a, x = .ok a := by
  cases x with
  | error e => cases h
  | ok a => exact ⟨a, rfl⟩

theorem installedWorld_fresh : installedWorld.Fresh := fun _ _ => ⟨rfl, rfl⟩

theorem installedWorld_holds : ∃ content, Holds installedWorld content := by
  obtain ⟨loaded, hloaded⟩ := exists_ok (x := ((loadSecureExtensionState none 0).run
    (exec samplePlatform) installedWorld).1) (by decide +kernel)
  refine ⟨_, holds_of_load (Prod.ext hloaded rfl) rfl ?_⟩
  rintro legacy metadata ⟨⟩

theorem sampleWorld_fresh {receiptIds : List ReceiptId}
    (h : ((saveSecureExtensionState (sampleWorking receiptIds) 10).run (exec samplePlatform)
      installedWorld).1.toBool = true) : (sampleWorld receiptIds).Fresh := by
  obtain ⟨content, hholds⟩ := installedWorld_holds
  obtain ⟨target, htarget⟩ := exists_ok h
  obtain ⟨_, _, _, s₁, _, _, _, hc⟩ := save_ok hholds installedWorld_fresh
    (t := sampleWorld receiptIds) (Prod.ext htarget rfl)
  exact hc.pruned.fresh hc.kept.fresh

/-- A second receipt is captured. -/
def sampleCall : StorageCall := .save (sampleWorking [7, 8]) 11

/-- The write of the index fails: the state before the call is still there. -/
theorem interrupted_call_recovers_iff_commit :
    ∃ before target t b w' s₀ r,
      (loadSecureExtensionState none 0).run (exec samplePlatform) (sampleWorld [7]) =
        (.ok before, s₀) ∧
      sampleCall.prog.run (exec samplePlatform) (sampleWorld [7]) = (.ok target, t) ∧
      Prog.Fails (exec samplePlatform) StorageOp.isStorage .operation sampleCall.prog
        (sampleWorld [7]) b r w' ∧
      r = .error .operation ∧ Recovers w' before target := by
  have hfresh : (sampleWorld [7]).Fresh := sampleWorld_fresh (by decide +kernel)
  obtain ⟨before, hbefore⟩ := exists_ok (x := ((loadSecureExtensionState none 0).run
    (exec samplePlatform) (sampleWorld [7])).1) (by decide +kernel)
  obtain ⟨target, htarget⟩ := exists_ok (x := (sampleCall.prog.run (exec samplePlatform)
    (sampleWorld [7])).1) (by decide +kernel)
  have hstruck : ((Prog.failAt (exec samplePlatform) StorageOp.isStorage .operation 6
      sampleCall.prog (sampleWorld [7])).any fun x => decide (x.2.1 = .error .operation) &&
        x.1.area.entries.all fun entry =>
          ((sampleWorld [7]).vault.blobs entry.blobId).isSome) = true := by
    decide +kernel
  obtain ⟨⟨b, r, w'⟩, hfails, hstruck⟩ := (Option.any_eq_true _ _).mp hstruck
  simp only [Bool.and_eq_true, decide_eq_true_eq, List.all_eq_true] at hstruck
  obtain ⟨hr, hstored⟩ := hstruck
  have hnamed : ¬ NamesOwn (sampleWorld [7]) b := by
    rintro ⟨entry, hentry, hnone⟩
    have hblob := hstored entry hentry
    rw [hnone] at hblob
    cases hblob
  refine ⟨before, target, _, b, w', _, r, Prod.ext hbefore rfl, Prod.ext htarget rfl, ⟨6, hfails⟩,
    hr, ?_⟩
  exact (interrupted_call_recovers_iff sampleCall (by decide +kernel) hfresh
    (Prod.ext hbefore rfl) (Prod.ext htarget rfl) ⟨6, hfails⟩).mpr hnamed ⟨_, hr⟩

/-- A read after the commit fails: the `catch` branch deletes a blob that the
committed index names, and no receipt can be loaded any more. -/
theorem interrupted_save_loses_receipts :
    ∃ before target t b w' s₀ r,
      (sampleWorld [7]).area.encrypted = true ∧ (sampleWorld [7]).Fresh ∧
      (loadSecureExtensionState none 0).run (exec samplePlatform) (sampleWorld [7]) =
        (.ok before, s₀) ∧
      sampleCall.prog.run (exec samplePlatform) (sampleWorld [7]) = (.ok target, t) ∧
      Prog.Fails (exec samplePlatform) StorageOp.isStorage .operation sampleCall.prog
        (sampleWorld [7]) b r w' ∧
      r = .error .operation ∧
      (∃ entry ∈ w'.area.entries, (b.vault.blobs entry.blobId).isSome = true ∧
        (w'.vault.blobs entry.blobId).isNone = true) ∧
      ¬ Recovers w' before target := by
  have hfresh : (sampleWorld [7]).Fresh := sampleWorld_fresh (by decide +kernel)
  obtain ⟨before, hbefore⟩ := exists_ok (x := ((loadSecureExtensionState none 0).run
    (exec samplePlatform) (sampleWorld [7])).1) (by decide +kernel)
  obtain ⟨target, htarget⟩ := exists_ok (x := (sampleCall.prog.run (exec samplePlatform)
    (sampleWorld [7])).1) (by decide +kernel)
  have hstruck : ((Prog.failAt (exec samplePlatform) StorageOp.isStorage .operation 7
      sampleCall.prog (sampleWorld [7])).any fun x => decide (x.2.1 = .error .operation) &&
        x.2.2.area.entries.any (fun entry => (x.1.vault.blobs entry.blobId).isSome &&
          (x.2.2.vault.blobs entry.blobId).isNone) &&
        !((loadSecureExtensionState none 0).run (exec samplePlatform) x.2.2).1.toBool) = true := by
    decide +kernel
  obtain ⟨⟨b, r, w'⟩, hfails, hstruck⟩ := (Option.any_eq_true _ _).mp hstruck
  simp only [Bool.and_eq_true, decide_eq_true_eq, List.any_eq_true, Bool.not_eq_true'] at hstruck
  obtain ⟨⟨hr, hnamed⟩, hload⟩ := hstruck
  refine ⟨before, target, _, b, w', _, r, by decide +kernel, hfresh, Prod.ext hbefore rfl,
    Prod.ext htarget rfl, ⟨7, hfails⟩, hr, hnamed, fun hrecovers => ?_⟩
  obtain ⟨loaded, s, hrun, -⟩ := hrecovers none 0
  rw [hrun] at hload
  cases hload

end SubmittedIt.Extension
