/-
SubmittedIt/SitePermissions.lean

Enabled and revoked sites (apps/extension: entrypoints/background.ts and
lib/storage-schema.ts).

Sites are enabled and revoked by the user, by permission events, at the active
tab and at startup.  Each operation loads the state and, where something
changes, tries to save another one, which the schema may refuse: it admits a
hundred enabled and a hundred revoked sites.  `addRevokedSite` forgets the
oldest revoked sites; nothing limits the enabled ones.

A match pattern stands for the origin that its text without `/*` is, or for
none.  Abstractly an operation makes of the set of enabled origins another one
(`SiteOperation.origins`).

Main results: `attempt_spec` (an operation does that, and what it tries to save
is accepted exactly if the set is not too large) and `saves_accepted_iff`, for
runs.
-/
import SubmittedIt.SaveAtomicity

namespace SubmittedIt.Extension

open ReceiptCore

/-! ### origin.ts -/

/-- A URL as text. -/
def urlText (url : Url) : Text :=
  originText url.origin ++ url.pathname ++
    match url.query with
    | none => []
    | some query => ascii "?" ++ query

/-- `toLowerCase`, of a path's ASCII letters. -/
def lowerPath (path : Text) : Text := path.map fun c => if 65 ≤ c ∧ c ≤ 90 then c + 32 else c

/-- `isRestrictedStorePage`; host names are lower case. -/
def isRestrictedStorePage (url : Url) : Bool :=
  url.origin.hostname = ascii "chromewebstore.google.com" ||
    (url.origin.hostname = ascii "chrome.google.com" &&
      (ascii "/webstore").isPrefixOf (lowerPath url.pathname)) ||
    (url.origin.hostname = ascii "microsoftedge.microsoft.com" &&
      (ascii "/addons").isPrefixOf (lowerPath url.pathname))

/-- `inspectOrigin`, of the URL of a web page as the browser writes it. -/
def inspectOrigin (url : Url) : Option Origin :=
  if (urlText url).length ≤ 4096 ∧ isRestrictedStorePage url = false ∧ url.origin.hostname ≠ [] then
    some url.origin
  else none

/-! ### storage-schema.ts -/

/-- `addRevokedSite`. -/
def addRevokedSite (settings : ExtensionSettings) (origin : Origin) (revokedAt : Timestamp) :
    ExtensionSettings :=
  { settings with
    revokedSites :=
      (⟨origin, revokedAt⟩ :: settings.revokedSites.filter (·.origin ≠ origin)).take 100 }

/-- The settings without a revoked site. -/
def clearRevoked (settings : ExtensionSettings) (origin : Origin) : ExtensionSettings :=
  { settings with revokedSites := settings.revokedSites.filter (·.origin ≠ origin) }

/-- `Boolean(enabledOrigins[origin])`. -/
def isEnabled (enabledOrigins : List EnabledOriginMetadata) (origin : Origin) : Bool :=
  enabledOrigins.any (·.origin = origin)

/-- `enabledOrigins[origin] ??= { origin, enabledAt }`. -/
def enableOrigin (enabledOrigins : List EnabledOriginMetadata) (origin : Origin)
    (enabledAt : Timestamp) : List EnabledOriginMetadata :=
  if isEnabled enabledOrigins origin then enabledOrigins
  else enabledOrigins ++ [⟨origin, enabledAt⟩]

/-- `delete enabledOrigins[origin]`. -/
def deleteOrigin (enabledOrigins : List EnabledOriginMetadata) (origin : Origin) :
    List EnabledOriginMetadata :=
  enabledOrigins.filter (·.origin ≠ origin)

/-! ### background.ts -/

/-- The sites of a state while an operation changes them. -/
structure Sites where
  enabledOrigins : List EnabledOriginMetadata
  settings : ExtensionSettings
  changed : Bool

def Sites.enable (sites : Sites) (origin : Origin) (timestamp : Timestamp) : Sites :=
  ⟨enableOrigin sites.enabledOrigins origin timestamp, clearRevoked sites.settings origin, true⟩

def Sites.revoke (sites : Sites) (origin : Origin) (timestamp : Timestamp) : Sites :=
  ⟨deleteOrigin sites.enabledOrigins origin, addRevokedSite sites.settings origin timestamp, true⟩

def ExtensionLocalState.sites (state : ExtensionLocalState) : Sites :=
  ⟨state.enabledOrigins, state.settings, false⟩

@[simp] theorem sites_enabledOrigins (state : ExtensionLocalState) :
    state.sites.enabledOrigins = state.enabledOrigins := rfl

/-- The state that is saved, where something changed. -/
def ExtensionLocalState.withSites (state : ExtensionLocalState) (sites : Sites) :
    Option ExtensionLocalState :=
  if sites.changed then
    some { state with enabledOrigins := sites.enabledOrigins, settings := sites.settings }
  else none

/-- What the text of a match pattern without `/*` is. -/
abbrev MatchPattern := Option Origin

/-- The origin of a pattern that passes `inspectNormalizedOrigin`. -/
def inspectPattern (pattern : MatchPattern) : Option Origin :=
  pattern.filter inspectNormalizedOrigin

/-- What is known of the active tab: its URL, or what its page reports. -/
inductive TabLocation
  | visible (url : Url)
  | reported (origin : Origin)

def inspectTab : TabLocation → Option Origin
  | .visible url => inspectOrigin url
  | .reported origin => if inspectNormalizedOrigin origin then some origin else none

section operations

variable (relayNetworkOrigins : List Origin) (timestamp : Timestamp) (state : ExtensionLocalState)

/-- `handlePermissionResult`. -/
def handlePermissionResult (tabUrl : Url) (requested : Origin) (granted permissionGranted : Bool) :
    Sites :=
  if inspectOrigin tabUrl = some requested ∧ granted = true ∧ permissionGranted = true then
    state.sites.enable requested timestamp
  else state.sites

/-- `reconcileCurrentSite`. -/
def reconcileCurrentSite (tab : TabLocation) (permissionGranted : Bool) : Sites :=
  match inspectTab tab with
  | none => state.sites
  | some origin =>
    if permissionGranted = true ∧ isEnabled state.enabledOrigins origin = false ∧
        origin ∉ relayNetworkOrigins then
      state.sites.enable origin timestamp
    else if permissionGranted = false ∧ isEnabled state.enabledOrigins origin = true then
      state.sites.revoke origin timestamp
    else state.sites

/-- `revokeCurrentSite`, of a site that was granted. -/
def revokeCurrentSite (tab : TabLocation) (removed : Bool) : Sites :=
  match inspectTab tab with
  | none => state.sites
  | some origin =>
    if origin ∈ relayNetworkOrigins ∨ removed = true then state.sites.revoke origin timestamp
    else state.sites

/-- The loop of `updateOriginsFromPermissionEvent`. -/
def updateOrigin (granted : Bool) (sites : Sites) (origin : Origin) : Sites :=
  if granted = true ∧ (origin ∉ relayNetworkOrigins ∨ isEnabled sites.enabledOrigins origin = true)
  then sites.enable origin timestamp
  else if isEnabled sites.enabledOrigins origin = true then sites.revoke origin timestamp
  else sites

/-- `updateOriginsFromPermissionEvent`. -/
def updateOriginsFromPermissionEvent (origins : List MatchPattern) (granted : Bool) : Sites :=
  (origins.filterMap inspectPattern).foldl (updateOrigin relayNetworkOrigins timestamp granted)
    state.sites

/-- The first loop of `reconcileAllPermissions`. -/
def revokeUngranted (granted : List Origin) (sites : Sites) (origin : Origin) : Sites :=
  if origin ∉ granted then sites.revoke origin timestamp else sites

/-- The second loop of `reconcileAllPermissions`. -/
def enableGranted (sites : Sites) (origin : Origin) : Sites :=
  if isEnabled sites.enabledOrigins origin = false ∧ origin ∉ relayNetworkOrigins then
    sites.enable origin timestamp
  else sites

/-- `reconcileAllPermissions`. -/
def reconcileAllPermissions (origins : List MatchPattern) : Sites :=
  let granted := origins.filterMap inspectPattern
  granted.foldl (enableGranted relayNetworkOrigins timestamp)
    ((state.enabledOrigins.map (·.origin)).foldl (revokeUngranted timestamp granted) state.sites)

end operations

/-- The operations on sites, with what the browser tells them. -/
inductive SiteOperation
  | permissionResult (tabUrl : Url) (requested : Origin) (granted permissionGranted : Bool)
  | reconcileCurrentSite (tab : TabLocation) (permissionGranted : Bool)
  | revokeCurrentSite (tab : TabLocation) (removed : Bool)
  | permissionEvent (origins : List MatchPattern) (granted : Bool)
  | reconcileAllPermissions (origins : List MatchPattern)

/-- The sites that an operation makes of a state's. -/
def SiteOperation.sites (relayNetworkOrigins : List Origin) (timestamp : Timestamp)
    (state : ExtensionLocalState) : SiteOperation → Sites
  | permissionResult tabUrl requested granted permissionGranted =>
    handlePermissionResult timestamp state tabUrl requested granted permissionGranted
  | reconcileCurrentSite tab permissionGranted =>
    Extension.reconcileCurrentSite relayNetworkOrigins timestamp state tab permissionGranted
  | revokeCurrentSite tab removed =>
    Extension.revokeCurrentSite relayNetworkOrigins timestamp state tab removed
  | permissionEvent origins granted =>
    updateOriginsFromPermissionEvent relayNetworkOrigins timestamp state origins granted
  | reconcileAllPermissions origins =>
    Extension.reconcileAllPermissions relayNetworkOrigins timestamp state origins

/-- The state that an operation tries to save, if it does. -/
def SiteOperation.attempt (operation : SiteOperation) (relayNetworkOrigins : List Origin)
    (timestamp : Timestamp) (state : ExtensionLocalState) : Option ExtensionLocalState :=
  state.withSites (operation.sites relayNetworkOrigins timestamp state)

/-! ### Sets of origins -/

/-- The set of the enabled origins. -/
def originsOf (enabledOrigins : List EnabledOriginMetadata) : Finset Origin :=
  (enabledOrigins.map (·.origin)).toFinset

/-- The origins of patterns. -/
def namedOrigins (origins : List MatchPattern) : Finset Origin :=
  (origins.filterMap inspectPattern).toFinset

/-- The set of enabled origins that an operation makes of a set. -/
def SiteOperation.origins (relayNetworkOrigins : List Origin) (enabled : Finset Origin) :
    SiteOperation → Finset Origin
  | permissionResult tabUrl requested granted permissionGranted =>
    if inspectOrigin tabUrl = some requested ∧ granted = true ∧ permissionGranted = true then
      insert requested enabled
    else enabled
  | reconcileCurrentSite tab permissionGranted =>
    match inspectTab tab with
    | none => enabled
    | some origin =>
      if permissionGranted then
        if origin ∈ relayNetworkOrigins then enabled else insert origin enabled
      else enabled.erase origin
  | revokeCurrentSite tab removed =>
    match inspectTab tab with
    | none => enabled
    | some origin =>
      if origin ∈ relayNetworkOrigins ∨ removed = true then enabled.erase origin else enabled
  | permissionEvent origins true => enabled ∪ (namedOrigins origins \ relayNetworkOrigins.toFinset)
  | permissionEvent origins false => enabled \ namedOrigins origins
  | reconcileAllPermissions origins =>
    (enabled ∩ namedOrigins origins) ∪ (namedOrigins origins \ relayNetworkOrigins.toFinset)

theorem isEnabled_iff {enabledOrigins : List EnabledOriginMetadata} {origin : Origin} :
    isEnabled enabledOrigins origin = true ↔ origin ∈ originsOf enabledOrigins := by
  simp [isEnabled, originsOf]

theorem originsOf_enableOrigin (enabledOrigins : List EnabledOriginMetadata) (origin : Origin)
    (timestamp : Timestamp) :
    originsOf (enableOrigin enabledOrigins origin timestamp) =
      insert origin (originsOf enabledOrigins) := by
  unfold enableOrigin
  split
  · next h => exact (Finset.insert_eq_of_mem (isEnabled_iff.mp h)).symm
  · ext other
    simp [originsOf]

theorem originsOf_deleteOrigin (enabledOrigins : List EnabledOriginMetadata) (origin : Origin) :
    originsOf (deleteOrigin enabledOrigins origin) = (originsOf enabledOrigins).erase origin := by
  ext other
  simp only [originsOf, deleteOrigin, List.mem_toFinset, List.mem_map, List.mem_filter,
    decide_eq_true_eq, Finset.mem_erase]
  constructor
  · rintro ⟨metadata, ⟨hmem, hne⟩, rfl⟩
    exact ⟨hne, metadata, hmem, rfl⟩
  · rintro ⟨hne, metadata, hmem, rfl⟩
    exact ⟨metadata, ⟨hmem, hne⟩, rfl⟩

/-! ### What the schema asks for -/

/-- The schema accepts the sites, their number aside. -/
structure Sites.Fine (sites : Sites) : Prop where
  settings : parseSettings sites.settings = true
  origins : ∀ metadata ∈ sites.enabledOrigins, inspectNormalizedOrigin metadata.origin = true
  nodup : (sites.enabledOrigins.map (·.origin)).Nodup

theorem parseSettings_iff {settings : ExtensionSettings} :
    parseSettings settings = true ↔ settings.revokedSites.length ≤ 100 ∧
      (∀ site ∈ settings.revokedSites, inspectNormalizedOrigin site.origin = true) ∧
      (settings.revokedSites.map (·.origin)).Nodup := by
  simp [parseSettings, and_assoc]

/-- A settings record with some of its revoked sites. -/
theorem parseSettings_clearRevoked {settings : ExtensionSettings} (origin : Origin)
    (h : parseSettings settings = true) : parseSettings (clearRevoked settings origin) = true := by
  obtain ⟨hlength, hvalid, hnodup⟩ := parseSettings_iff.mp h
  refine parseSettings_iff.mpr ⟨?_, fun site hsite => ?_, ?_⟩
  · exact Nat.le_trans (List.length_filter_le _ _) hlength
  · exact hvalid site (List.mem_of_mem_filter hsite)
  · exact hnodup.sublist (List.filter_sublist.map _)

/-- **The revoked sites stay within their bound.** -/
theorem parseSettings_addRevokedSite {settings : ExtensionSettings} {origin : Origin}
    (hvalid : inspectNormalizedOrigin origin = true) (revokedAt : Timestamp)
    (h : parseSettings settings = true) :
    parseSettings (addRevokedSite settings origin revokedAt) = true := by
  obtain ⟨-, hsites, hnodup⟩ := parseSettings_iff.mp h
  have hcons : ((⟨origin, revokedAt⟩ ::
      settings.revokedSites.filter (·.origin ≠ origin) : List RevokedSite).map
        (·.origin)).Nodup := by
    rw [List.map_cons, List.nodup_cons]
    refine ⟨fun hmem => ?_, hnodup.sublist (List.filter_sublist.map _)⟩
    obtain ⟨site, hsite, hsame⟩ := List.mem_map.mp hmem
    exact of_decide_eq_true (List.mem_filter.mp hsite).2 hsame
  refine parseSettings_iff.mpr ⟨?_, fun site hsite => ?_, ?_⟩
  · exact List.length_take_le _ _
  · rcases List.mem_cons.mp (List.mem_of_mem_take hsite) with rfl | hsite
    · exact hvalid
    · exact hsites site (List.mem_of_mem_filter hsite)
  · exact hcons.sublist ((List.take_sublist _ _).map _)

theorem Sites.Fine.enable {sites : Sites} (h : sites.Fine) {origin : Origin}
    (hvalid : inspectNormalizedOrigin origin = true) (timestamp : Timestamp) :
    (sites.enable origin timestamp).Fine := by
  refine ⟨parseSettings_clearRevoked origin h.settings, ?_, ?_⟩
  · show ∀ metadata ∈ enableOrigin sites.enabledOrigins origin timestamp, _
    unfold enableOrigin
    split
    · exact h.origins
    · intro metadata hmetadata
      rcases List.mem_append.mp hmetadata with hmetadata | hmetadata
      · exact h.origins metadata hmetadata
      · rw [List.mem_singleton.mp hmetadata]
        exact hvalid
  · show ((enableOrigin sites.enabledOrigins origin timestamp).map (·.origin)).Nodup
    unfold enableOrigin
    split
    · exact h.nodup
    · next habsent =>
      rw [isEnabled_iff, originsOf, List.mem_toFinset] at habsent
      rw [List.map_append, List.nodup_append]
      refine ⟨h.nodup, List.nodup_singleton _, fun first hfirst second hsecond hsame => ?_⟩
      rw [List.map_singleton, List.mem_singleton] at hsecond
      rw [hsame, hsecond] at hfirst
      exact habsent hfirst

theorem Sites.Fine.revoke {sites : Sites} (h : sites.Fine) {origin : Origin}
    (hvalid : inspectNormalizedOrigin origin = true) (timestamp : Timestamp) :
    (sites.revoke origin timestamp).Fine :=
  ⟨parseSettings_addRevokedSite hvalid timestamp h.settings,
    fun metadata hmetadata => h.origins metadata (List.mem_of_mem_filter hmetadata),
    h.nodup.sublist (List.filter_sublist.map _)⟩

/-! ### What an operation makes of the sites -/

/-- `result` is what the schema accepts, has the enabled origins `origins`, and
differs from `sites` only if it says so. -/
structure Sites.Makes (sites : Sites) (origins : Finset Origin) (result : Sites) : Prop where
  fine : result.Fine
  origins : originsOf result.enabledOrigins = origins
  unchanged : result.changed = false → result = sites

theorem Sites.Fine.makes {sites : Sites} (h : sites.Fine) :
    sites.Makes (originsOf sites.enabledOrigins) sites :=
  ⟨h, rfl, fun _ => rfl⟩

theorem Sites.Makes.trans {first second third : Sites} {origins : Finset Origin}
    {other : Finset Origin} (h : first.Makes other second) (h' : second.Makes origins third) :
    first.Makes origins third := by
  refine ⟨h'.fine, h'.origins, fun hchanged => ?_⟩
  have hsame := h'.unchanged hchanged
  rw [hsame] at hchanged ⊢
  exact h.unchanged hchanged

theorem Sites.Fine.makes_enable {sites : Sites} (h : sites.Fine) {origin : Origin}
    (hvalid : inspectNormalizedOrigin origin = true) (timestamp : Timestamp) :
    sites.Makes (insert origin (originsOf sites.enabledOrigins)) (sites.enable origin timestamp) :=
  ⟨h.enable hvalid timestamp, originsOf_enableOrigin _ _ _, fun hchanged => nomatch hchanged⟩

theorem Sites.Fine.makes_revoke {sites : Sites} (h : sites.Fine) {origin : Origin}
    (hvalid : inspectNormalizedOrigin origin = true) (timestamp : Timestamp) :
    sites.Makes ((originsOf sites.enabledOrigins).erase origin) (sites.revoke origin timestamp) :=
  ⟨h.revoke hvalid timestamp, originsOf_deleteOrigin _ _, fun hchanged => nomatch hchanged⟩

/-- A loop over origins makes of the set what its steps make of it. -/
theorem Sites.Fine.makes_foldl {step : Sites → Origin → Sites}
    {origins : Finset Origin → Origin → Finset Origin} {valid : Origin → Prop}
    (hstep : ∀ (sites : Sites) (origin : Origin), sites.Fine → valid origin →
      sites.Makes (origins (originsOf sites.enabledOrigins) origin) (step sites origin))
    {list : List Origin} (hlist : ∀ origin ∈ list, valid origin) {sites : Sites}
    (h : sites.Fine) :
    sites.Makes (list.foldl origins (originsOf sites.enabledOrigins)) (list.foldl step sites) := by
  induction list generalizing sites with
  | nil => exact h.makes
  | cons origin list ih =>
    have hfirst := hstep sites origin h (hlist origin List.mem_cons_self)
    have hrest := ih (fun other hother => hlist other (List.mem_cons_of_mem _ hother)) hfirst.fine
    rw [hfirst.origins] at hrest
    exact hfirst.trans hrest

/-- The set with an origin, unless it is excluded. -/
def insertUnless (excluded : List Origin) (enabled : Finset Origin) (origin : Origin) :
    Finset Origin :=
  if origin ∈ excluded then enabled else insert origin enabled

/-- The set without an origin, unless it is kept. -/
def eraseUnless (kept : List Origin) (enabled : Finset Origin) (origin : Origin) : Finset Origin :=
  if origin ∈ kept then enabled else enabled.erase origin

theorem foldl_insertUnless (excluded : List Origin) (list : List Origin) (enabled : Finset Origin) :
    list.foldl (insertUnless excluded) enabled =
      enabled ∪ (list.toFinset \ excluded.toFinset) := by
  induction list generalizing enabled with
  | nil => simp
  | cons origin list ih =>
    rw [List.foldl_cons, ih]
    ext other
    by_cases hexcluded : origin ∈ excluded
    · simp only [insertUnless, hexcluded]
      simp
      grind
    · simp [insertUnless, hexcluded]
      grind

theorem foldl_eraseUnless (kept : List Origin) (list : List Origin) (enabled : Finset Origin) :
    list.foldl (eraseUnless kept) enabled = enabled \ (list.toFinset \ kept.toFinset) := by
  induction list generalizing enabled with
  | nil => simp
  | cons origin list ih =>
    rw [List.foldl_cons, ih]
    ext other
    by_cases hkept : origin ∈ kept
    · simp [eraseUnless, hkept]
      grind
    · simp [eraseUnless, hkept]
      grind

theorem inspectNormalizedOrigin_of_inspectOrigin {url : Url} {origin : Origin}
    (h : inspectOrigin url = some origin) : inspectNormalizedOrigin origin = true := by
  unfold inspectOrigin at h
  split at h
  · next hfine =>
    obtain ⟨hlength, hstore, hhost⟩ := hfine
    obtain rfl := Option.some.inj h
    have hle : (originText url.origin).length ≤ (urlText url).length := by
      unfold urlText
      simp only [List.length_append]
      omega
    have hchrome : url.origin.hostname ≠ ascii "chromewebstore.google.com" := by
      intro hsame
      simp [isRestrictedStorePage, hsame] at hstore
    simp only [inspectNormalizedOrigin, Bool.and_eq_true, decide_eq_true_eq, ne_eq]
    exact ⟨⟨Nat.le_trans hle hlength, hhost⟩, hchrome⟩
  · cases h

theorem inspectNormalizedOrigin_of_inspectTab {tab : TabLocation} {origin : Origin}
    (h : inspectTab tab = some origin) : inspectNormalizedOrigin origin = true := by
  cases tab with
  | visible url => exact inspectNormalizedOrigin_of_inspectOrigin h
  | reported reported =>
    simp only [inspectTab, Option.ite_none_right_eq_some, Option.some.injEq] at h
    rw [← h.2]
    exact h.1

theorem inspectNormalizedOrigin_of_pattern (origins : List MatchPattern) {origin : Origin}
    (h : origin ∈ origins.filterMap inspectPattern) : inspectNormalizedOrigin origin = true := by
  obtain ⟨pattern, -, hpattern⟩ := List.mem_filterMap.mp h
  exact (Option.filter_eq_some_iff.mp hpattern).2

section makes

variable (relayNetworkOrigins : List Origin) (timestamp : Timestamp)

theorem Sites.Fine.makes_updateOrigin_true {sites : Sites} (h : sites.Fine) {origin : Origin}
    (hvalid : inspectNormalizedOrigin origin = true) :
    sites.Makes (insertUnless relayNetworkOrigins (originsOf sites.enabledOrigins) origin)
      (updateOrigin relayNetworkOrigins timestamp true sites origin) := by
  have hmakes := h.makes_enable hvalid timestamp
  by_cases henabled : isEnabled sites.enabledOrigins origin = true
  · have hmem := isEnabled_iff.mp henabled
    rw [Finset.insert_eq_of_mem hmem] at hmakes
    simpa [updateOrigin, insertUnless, henabled, Finset.insert_eq_of_mem hmem] using hmakes
  · by_cases hrelay : origin ∈ relayNetworkOrigins
    · simpa [updateOrigin, insertUnless, henabled, hrelay] using h.makes
    · simpa [updateOrigin, insertUnless, henabled, hrelay] using hmakes

theorem Sites.Fine.makes_updateOrigin_false {sites : Sites} (h : sites.Fine) {origin : Origin}
    (hvalid : inspectNormalizedOrigin origin = true) :
    sites.Makes (eraseUnless [] (originsOf sites.enabledOrigins) origin)
      (updateOrigin relayNetworkOrigins timestamp false sites origin) := by
  by_cases henabled : isEnabled sites.enabledOrigins origin = true
  · simpa [updateOrigin, eraseUnless, henabled] using h.makes_revoke hvalid timestamp
  · have habsent := mt isEnabled_iff.mpr henabled
    simpa [updateOrigin, eraseUnless, henabled, Finset.erase_eq_of_notMem habsent] using h.makes

theorem Sites.Fine.makes_revokeUngranted {sites : Sites} (h : sites.Fine) (granted : List Origin)
    {origin : Origin} (hvalid : inspectNormalizedOrigin origin = true) :
    sites.Makes (eraseUnless granted (originsOf sites.enabledOrigins) origin)
      (revokeUngranted timestamp granted sites origin) := by
  by_cases hgranted : origin ∈ granted
  · simpa [revokeUngranted, eraseUnless, hgranted] using h.makes
  · simpa [revokeUngranted, eraseUnless, hgranted] using h.makes_revoke hvalid timestamp

theorem Sites.Fine.makes_enableGranted {sites : Sites} (h : sites.Fine) {origin : Origin}
    (hvalid : inspectNormalizedOrigin origin = true) :
    sites.Makes (insertUnless relayNetworkOrigins (originsOf sites.enabledOrigins) origin)
      (enableGranted relayNetworkOrigins timestamp sites origin) := by
  by_cases hrelay : origin ∈ relayNetworkOrigins
  · simpa [enableGranted, insertUnless, hrelay] using h.makes
  · by_cases henabled : isEnabled sites.enabledOrigins origin = true
    · have hmem := isEnabled_iff.mp henabled
      simpa [enableGranted, insertUnless, hrelay, henabled, Finset.insert_eq_of_mem hmem]
        using h.makes
    · simpa [enableGranted, insertUnless, hrelay, henabled] using h.makes_enable hvalid timestamp

theorem makes_permissionEvent {state : ExtensionLocalState} (h : state.sites.Fine)
    (origins : List MatchPattern) (granted : Bool) :
    state.sites.Makes
      ((SiteOperation.permissionEvent origins granted).origins relayNetworkOrigins
        (originsOf state.enabledOrigins))
      (updateOriginsFromPermissionEvent relayNetworkOrigins timestamp state origins granted) := by
  cases granted with
  | true =>
    have hmakes := h.makes_foldl
      (fun _ _ hfine hvalid => hfine.makes_updateOrigin_true relayNetworkOrigins timestamp hvalid)
      (fun _ => inspectNormalizedOrigin_of_pattern origins)
    rw [foldl_insertUnless] at hmakes
    exact hmakes
  | false =>
    have hmakes := h.makes_foldl
      (fun _ _ hfine hvalid => hfine.makes_updateOrigin_false relayNetworkOrigins timestamp hvalid)
      (fun _ => inspectNormalizedOrigin_of_pattern origins)
    rw [foldl_eraseUnless, List.toFinset_nil, Finset.sdiff_empty] at hmakes
    exact hmakes

theorem makes_reconcileAllPermissions {state : ExtensionLocalState} (h : state.sites.Fine)
    (origins : List MatchPattern) :
    state.sites.Makes
      ((SiteOperation.reconcileAllPermissions origins).origins relayNetworkOrigins
        (originsOf state.enabledOrigins))
      (reconcileAllPermissions relayNetworkOrigins timestamp state origins) := by
  have hkeep := h.makes_foldl
    (fun _ _ hfine hvalid =>
      hfine.makes_revokeUngranted timestamp (origins.filterMap inspectPattern) hvalid)
    (fun _ horigin => by
      obtain ⟨metadata, hmetadata, rfl⟩ := List.mem_map.mp horigin
      exact h.origins metadata hmetadata)
  have hadd := hkeep.fine.makes_foldl
    (fun _ _ hfine hvalid => hfine.makes_enableGranted relayNetworkOrigins timestamp hvalid)
    (fun _ => inspectNormalizedOrigin_of_pattern origins)
  have hall := hkeep.trans hadd
  rw [foldl_insertUnless, hkeep.origins, foldl_eraseUnless] at hall
  -- the first loop ran over the enabled origins themselves
  have hinter : originsOf state.sites.enabledOrigins \
      ((state.sites.enabledOrigins.map (·.origin)).toFinset \
        (origins.filterMap inspectPattern).toFinset) =
      originsOf state.enabledOrigins ∩ namedOrigins origins :=
    sdiff_sdiff_right_self
  rw [hinter] at hall
  exact hall

theorem makes_permissionResult {state : ExtensionLocalState} (h : state.sites.Fine) (tabUrl : Url)
    (requested : Origin) (granted permissionGranted : Bool) :
    state.sites.Makes
      ((SiteOperation.permissionResult tabUrl requested granted permissionGranted).origins
        relayNetworkOrigins (originsOf state.enabledOrigins))
      (handlePermissionResult timestamp state tabUrl requested granted permissionGranted) := by
  unfold handlePermissionResult
  simp only [SiteOperation.origins]
  split
  · next hgranted =>
    exact h.makes_enable (inspectNormalizedOrigin_of_inspectOrigin hgranted.1) timestamp
  · exact h.makes

theorem makes_reconcileCurrentSite {state : ExtensionLocalState} (h : state.sites.Fine)
    (tab : TabLocation) (permissionGranted : Bool) :
    state.sites.Makes
      ((SiteOperation.reconcileCurrentSite tab permissionGranted).origins relayNetworkOrigins
        (originsOf state.enabledOrigins))
      (reconcileCurrentSite relayNetworkOrigins timestamp state tab permissionGranted) := by
  simp only [reconcileCurrentSite, SiteOperation.origins]
  cases htab : inspectTab tab with
  | none => exact h.makes
  | some origin =>
    have hvalid := inspectNormalizedOrigin_of_inspectTab htab
    by_cases henabled : isEnabled state.enabledOrigins origin = true
    · have hmem := isEnabled_iff.mp henabled
      cases permissionGranted with
      | true => simpa [henabled, Finset.insert_eq_of_mem hmem] using h.makes
      | false => simpa [henabled] using h.makes_revoke hvalid timestamp
    · have habsent := mt isEnabled_iff.mpr henabled
      cases permissionGranted with
      | true =>
        by_cases hrelay : origin ∈ relayNetworkOrigins
        · simpa [henabled, hrelay] using h.makes
        · simpa [henabled, hrelay] using h.makes_enable hvalid timestamp
      | false => simpa [henabled, Finset.erase_eq_of_notMem habsent] using h.makes

theorem makes_revokeCurrentSite {state : ExtensionLocalState} (h : state.sites.Fine)
    (tab : TabLocation) (removed : Bool) :
    state.sites.Makes
      ((SiteOperation.revokeCurrentSite tab removed).origins relayNetworkOrigins
        (originsOf state.enabledOrigins))
      (revokeCurrentSite relayNetworkOrigins timestamp state tab removed) := by
  simp only [revokeCurrentSite, SiteOperation.origins]
  cases htab : inspectTab tab with
  | none => exact h.makes
  | some origin =>
    dsimp only
    split
    · exact h.makes_revoke (inspectNormalizedOrigin_of_inspectTab htab) timestamp
    · exact h.makes

/-- **An operation on sites** makes of the set of enabled origins what it is for, whatever else
the schema asks for. -/
theorem SiteOperation.makes {state : ExtensionLocalState} (h : state.sites.Fine)
    (operation : SiteOperation) :
    state.sites.Makes (operation.origins relayNetworkOrigins (originsOf state.enabledOrigins))
      (operation.sites relayNetworkOrigins timestamp state) := by
  cases operation with
  | permissionResult tabUrl requested granted permissionGranted =>
    exact makes_permissionResult _ _ h tabUrl requested granted permissionGranted
  | reconcileCurrentSite tab permissionGranted =>
    exact makes_reconcileCurrentSite _ _ h tab permissionGranted
  | revokeCurrentSite tab removed => exact makes_revokeCurrentSite _ _ h tab removed
  | permissionEvent origins granted => exact makes_permissionEvent _ _ h origins granted
  | reconcileAllPermissions origins => exact makes_reconcileAllPermissions _ _ h origins

end makes

/-! ### One save -/

/-- A state that the schema accepts; an object's keys are distinct. -/
structure ExtensionLocalState.Accepted (P : StoragePlatform) (state : ExtensionLocalState) :
    Prop where
  valid : validateExtensionState P state = true
  keys : (state.enabledOrigins.map (·.origin)).Nodup

theorem parseEnabledOrigins_iff {enabledOrigins : List EnabledOriginMetadata} :
    parseEnabledOrigins enabledOrigins = true ↔ enabledOrigins.length ≤ 100 ∧
      ∀ metadata ∈ enabledOrigins, inspectNormalizedOrigin metadata.origin = true := by
  simp [parseEnabledOrigins]

theorem card_originsOf {enabledOrigins : List EnabledOriginMetadata}
    (h : (enabledOrigins.map (·.origin)).Nodup) :
    (originsOf enabledOrigins).card = enabledOrigins.length := by
  rw [originsOf, List.toFinset_card_of_nodup h, List.length_map]

section saves

variable {P : StoragePlatform} {state : ExtensionLocalState}

theorem ExtensionLocalState.Accepted.fine (h : state.Accepted P) : state.sites.Fine := by
  obtain ⟨hsettings, horigins, -, -⟩ := validateExtensionState_eq_true.mp h.valid
  exact ⟨hsettings, (parseEnabledOrigins_iff.mp horigins).2, h.keys⟩

theorem ExtensionLocalState.Accepted.card_le (h : state.Accepted P) :
    (originsOf state.enabledOrigins).card ≤ 100 := by
  obtain ⟨-, horigins, -, -⟩ := validateExtensionState_eq_true.mp h.valid
  rw [card_originsOf h.keys]
  exact (parseEnabledOrigins_iff.mp horigins).1

/-- A state with other sites is accepted if there are not too many of them. -/
theorem ExtensionLocalState.Accepted.withSites_iff (h : state.Accepted P) {sites : Sites}
    (hsites : sites.Fine) (updatedAt : Timestamp) :
    validateExtensionState P { state with
      enabledOrigins := sites.enabledOrigins, settings := sites.settings,
      updatedAt := updatedAt } = true ↔ (originsOf sites.enabledOrigins).card ≤ 100 := by
  obtain ⟨-, -, hindex, hmigration⟩ := validateExtensionState_eq_true.mp h.valid
  rw [card_originsOf hsites.nodup, validateExtensionState_eq_true, parseEnabledOrigins_iff]
  constructor
  · rintro ⟨-, ⟨hlength, -⟩, -, -⟩
    exact hlength
  · intro hlength
    exact ⟨hsites.settings, ⟨hlength, hsites.origins⟩, hindex, hmigration⟩

end saves

/-! ### Runs -/

/-- An operation, its clock readings, and whether the storage takes what it is given. -/
structure SiteStep where
  operation : SiteOperation
  timestamp : Timestamp
  savedAt : Timestamp
  stored : Bool

/-- The state that a step tries to save, as `saveState` dates it. -/
def SiteStep.attempt (step : SiteStep) (relayNetworkOrigins : List Origin)
    (state : ExtensionLocalState) : Option ExtensionLocalState :=
  (step.operation.attempt relayNetworkOrigins step.timestamp state).map
    ({ · with updatedAt := step.savedAt })

/-- The state after a step. -/
def SiteStep.next (P : StoragePlatform) (step : SiteStep) (relayNetworkOrigins : List Origin)
    (state : ExtensionLocalState) : ExtensionLocalState :=
  match step.attempt relayNetworkOrigins state with
  | none => state
  | some saved => if validateExtensionState P saved && step.stored then saved else state

/-- The states that the steps of a run try to save. -/
def saves (P : StoragePlatform) (relayNetworkOrigins : List Origin) :
    ExtensionLocalState → List SiteStep → List ExtensionLocalState
  | _, [] => []
  | state, step :: steps =>
    (step.attempt relayNetworkOrigins state).toList ++
      saves P relayNetworkOrigins (step.next P relayNetworkOrigins state) steps

/-- No operation of the run makes more than a hundred enabled origins. -/
def WithinBound (P : StoragePlatform) (relayNetworkOrigins : List Origin) :
    ExtensionLocalState → List SiteStep → Prop
  | _, [] => True
  | state, step :: steps =>
    (step.operation.origins relayNetworkOrigins (originsOf state.enabledOrigins)).card ≤ 100 ∧
      WithinBound P relayNetworkOrigins (step.next P relayNetworkOrigins state) steps

section runs

variable {P : StoragePlatform} (relayNetworkOrigins : List Origin) {state : ExtensionLocalState}

/-- **One step.**  What it tries to save has the enabled origins that the operation makes, and is
accepted unless they are too many; a step that tries nothing leaves them as they were. -/
theorem attempt_spec (h : state.Accepted P) (step : SiteStep) :
    match step.attempt relayNetworkOrigins state with
    | none =>
      step.operation.origins relayNetworkOrigins (originsOf state.enabledOrigins) =
        originsOf state.enabledOrigins
    | some saved =>
      (saved.enabledOrigins.map (·.origin)).Nodup ∧
        originsOf saved.enabledOrigins =
          step.operation.origins relayNetworkOrigins (originsOf state.enabledOrigins) ∧
        (validateExtensionState P saved = true ↔ (originsOf saved.enabledOrigins).card ≤ 100) := by
  have hmakes := step.operation.makes relayNetworkOrigins step.timestamp h.fine
  unfold SiteStep.attempt SiteOperation.attempt ExtensionLocalState.withSites
  by_cases hchanged :
      (step.operation.sites relayNetworkOrigins step.timestamp state).changed = true
  · simp only [hchanged, if_true, Option.map_some]
    exact ⟨hmakes.fine.nodup, hmakes.origins, h.withSites_iff hmakes.fine step.savedAt⟩
  · have hsame := hmakes.unchanged (Bool.not_eq_true _ ▸ hchanged)
    have horigins := hmakes.origins
    rw [hsame] at horigins
    simp only [hchanged, Bool.false_eq_true, if_false, Option.map_none]
    exact horigins.symm

theorem SiteStep.accepted_next (h : state.Accepted P) (step : SiteStep) :
    (step.next P relayNetworkOrigins state).Accepted P := by
  have hspec := attempt_spec relayNetworkOrigins h step
  unfold SiteStep.next
  cases hattempt : step.attempt relayNetworkOrigins state with
  | none => exact h
  | some saved =>
    rw [hattempt] at hspec
    dsimp only
    split
    · next hsaved => exact ⟨(Bool.and_eq_true_iff.mp hsaved).1, hspec.1⟩
    · exact h

/-- **Every save of a run is accepted** exactly if no operation makes more than a hundred enabled
origins. -/
theorem saves_accepted_iff (h : state.Accepted P) (steps : List SiteStep) :
    (∀ saved ∈ saves P relayNetworkOrigins state steps, validateExtensionState P saved = true) ↔
      WithinBound P relayNetworkOrigins state steps := by
  induction steps generalizing state with
  | nil => simp [saves, WithinBound]
  | cons step steps ih =>
    have hrest := ih (step.accepted_next relayNetworkOrigins h)
    have hspec := attempt_spec relayNetworkOrigins h step
    rw [saves, WithinBound, List.forall_mem_append, hrest]
    apply and_congr_left
    intro _
    cases hattempt : step.attempt relayNetworkOrigins state with
    | none =>
      rw [hattempt] at hspec
      have hle := h.card_le
      rw [← hspec] at hle
      simpa using hle
    | some saved =>
      rw [hattempt] at hspec
      obtain ⟨-, horigins, haccepted⟩ := hspec
      simp only [Option.toList_some, List.forall_mem_singleton]
      rw [haccepted, horigins]

end runs

/-! ### A hundred sites -/

/-- Origins `https://aa.example`, `https://ab.example` and so on. -/
def sampleOrigin (n : Nat) : Origin where
  secure := true
  hostname := [UInt16.ofNat (97 + n / 10), UInt16.ofNat (97 + n % 10)] ++ ascii ".example"
  port := none

/-- A state with so many enabled sites. -/
def sampleSites (count : Nat) : ExtensionLocalState :=
  { createInitialExtensionState 0 with
    enabledOrigins := (List.range count).map fun n => ⟨sampleOrigin n, 0⟩ }

/-- The user enables the site of a tab and the browser grants it. -/
def sampleGrant (n : Nat) : SiteStep :=
  ⟨.permissionResult ⟨sampleOrigin n, ascii "/", none⟩ (sampleOrigin n) true true, 1, 1, true⟩

theorem sampleSites_accepted : (sampleSites 100).Accepted samplePlatform :=
  ⟨by decide +kernel, by decide +kernel⟩

/-- A third site is granted, and saved. -/
theorem saves_accepted_iff_sample :
    (saves samplePlatform [] (sampleSites 2) [sampleGrant 5]).length = 1 ∧
      ∀ saved ∈ saves samplePlatform [] (sampleSites 2) [sampleGrant 5],
        validateExtensionState samplePlatform saved = true := by
  have hbound : WithinBound samplePlatform [] (sampleSites 2) [sampleGrant 5] :=
    ⟨by decide +kernel, trivial⟩
  exact ⟨by decide +kernel,
    (saves_accepted_iff [] ⟨by decide +kernel, by decide +kernel⟩ [sampleGrant 5]).mpr hbound⟩

/-- One more site than a hundred: the browser has granted it, and every save of it is refused. -/
theorem grant_beyond_bound_refused :
    ¬ ∀ (state : ExtensionLocalState) (steps : List SiteStep), state.Accepted samplePlatform →
      ∀ saved ∈ saves samplePlatform [] state steps,
        validateExtensionState samplePlatform saved = true := by
  intro h
  have hall := List.all_eq_true.mpr (h (sampleSites 100) [sampleGrant 100] sampleSites_accepted)
  have hnot : ((saves samplePlatform [] (sampleSites 100) [sampleGrant 100]).all
      (validateExtensionState samplePlatform)) = false := by decide +kernel
  rw [hnot] at hall
  cases hall

end SubmittedIt.Extension
