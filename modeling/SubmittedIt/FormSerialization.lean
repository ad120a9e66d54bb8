/-
SubmittedIt/FormSerialization.lean

The serialization of a submitted form (apps/extension, lib/capture.ts).

`serializeSuccessfulControls` groups the successful controls by name and type
and then gives each string entry to the group of its name's preferred type.

An entry's group does not depend on its value (`entryTarget`), and the entries
of protected names have none.  Main result: `serializeSuccessfulControls_spec`.
-/
import SubmittedIt.CapturePolicy

namespace SubmittedIt.Protocol

/-- `CaptureControlDescriptor`. -/
structure CaptureControlDescriptor where
  autocomplete : Option Text
  controlType : FieldControlType
  fieldId : Text
  name : Text
  successful : Bool
  deriving DecidableEq

/-- `SuccessfulFormDataEntry`. -/
inductive SuccessfulFormDataEntry
  | string (name value : Text)
  | file (name : Text)
  deriving DecidableEq

/-- The values of the map `groups`. -/
structure CandidateGroup where
  autocomplete : Option Text
  controlType : ValueControlType
  fieldId : Text
  name : Text
  order : Nat
  values : List Text
  deriving DecidableEq

/-- A text that is there and not empty. -/
def presentText (text : Option Text) : Option Text := text.filter fun t => !t.isEmpty

/-- `Map.prototype.get`. -/
def mapGet {α : Type} (key : Text) (map : List (Text × α)) : Option α :=
  (map.find? fun entry => entry.1 = key).map (·.2)

/-- `Map.prototype.has`. -/
def mapHas {α : Type} (key : Text) (map : List (Text × α)) : Bool :=
  map.any fun entry => entry.1 = key

/-- `candidateGroupKey`. -/
def candidateGroupKey (name : Text) (controlType : FieldControlType) : Text :=
  name ++ 0 :: fieldControlTypeText controlType

/-- `preferredControlType`. -/
def preferredControlType (controls : List CaptureControlDescriptor) : Option ValueControlType :=
  [.selectMultiple, .radio, .checkbox, .textarea, .selectOne, .hidden, .text].find? fun type =>
    controls.any fun control => control.controlType = .value type

/-- The candidate of a group. -/
def CandidateGroup.candidate (group : CandidateGroup) : RawFieldCandidate where
  autocomplete := presentText group.autocomplete
  controlType := .value group.controlType
  explicitlyExcluded := none
  fieldId := group.fieldId
  files := none
  name := some group.name
  values := some group.values

section serialization

variable (Q : ReceiptPlatform)

/-- `controlIsProtected`. -/
def controlIsProtected (control : CaptureControlDescriptor) : Bool :=
  control.controlType = .password || control.controlType = .file ||
    isAutofillSecret Q control.autocomplete || isSensitiveHiddenFieldName Q control.name

/-- The candidate of a protected control. -/
def exclusionCandidate (control : CaptureControlDescriptor) : RawFieldCandidate where
  autocomplete := presentText control.autocomplete
  controlType := control.controlType
  explicitlyExcluded :=
    if control.controlType ≠ .password ∧ control.controlType ≠ .file ∧
        control.controlType ≠ .value .hidden ∧ isAutofillSecret Q control.autocomplete = false ∧
        isSensitiveHiddenFieldName Q control.name = true then some true
    else none
  fieldId := control.fieldId
  files := none
  name := some control.name
  values := none

/-- The variables of the loop over the controls, and the number of controls
read. -/
structure GroupingState where
  order : Nat
  exclusions : List RawFieldCandidate
  groups : List (Text × CandidateGroup)
  controlsByName : List (Text × List CaptureControlDescriptor)

def GroupingState.initial : GroupingState := ⟨0, [], [], []⟩

/-- The groups with one for the control, if it is the first of its name and
type. -/
def addGroup (order : Nat) (control : CaptureControlDescriptor)
    (groups : List (Text × CandidateGroup)) : List (Text × CandidateGroup) :=
  match control.controlType with
  | .value controlType =>
    let key := candidateGroupKey control.name control.controlType
    if mapHas key groups then groups
    else groups ++ [(key, {
      autocomplete := presentText control.autocomplete
      controlType
      fieldId := control.fieldId
      name := control.name
      order
      values := [] })]
  | _ => groups

/-- One iteration of the loop over the controls. -/
def groupStep (state : GroupingState) (control : CaptureControlDescriptor) : GroupingState :=
  let named := (mapGet control.name state.controlsByName).getD []
  let controlsByName := JsValue.assign control.name (named ++ [control]) state.controlsByName
  if controlIsProtected Q control then
    { order := state.order + 1
      exclusions := state.exclusions ++ [exclusionCandidate Q control]
      groups := state.groups
      controlsByName }
  else
    { order := state.order + 1
      exclusions := state.exclusions
      groups := addGroup state.order control state.groups
      controlsByName }

/-- Where the value of an entry goes: the key of its group and the value. -/
def entryTarget (protectedNames : List Text)
    (controlsByName : List (Text × List CaptureControlDescriptor))
    (entry : SuccessfulFormDataEntry) : Option (Text × Text) :=
  match entry with
  | .file _ => none
  | .string name value =>
    if name ∈ protectedNames then none
    else
      match mapGet name controlsByName with
      | none => none
      | some named =>
        let namedControls := named.filter fun control => !controlIsProtected Q control
        if namedControls.isEmpty then none
        else (preferredControlType namedControls).map fun type =>
          (candidateGroupKey name (.value type), value)

/-- `group?.values.push`, of the group under a key. -/
def pushValue (key value : Text) : List (Text × CandidateGroup) → List (Text × CandidateGroup)
  | [] => []
  | (k, group) :: rest =>
    if k = key then (k, { group with values := group.values ++ [value] }) :: rest
    else (k, group) :: pushValue key value rest

/-- One iteration of the loop over the entries. -/
def entryStep (protectedNames : List Text)
    (controlsByName : List (Text × List CaptureControlDescriptor))
    (groups : List (Text × CandidateGroup)) (entry : SuccessfulFormDataEntry) :
    List (Text × CandidateGroup) :=
  match entryTarget Q protectedNames controlsByName entry with
  | none => groups
  | some (key, value) => pushValue key value groups

/-- `serializeSuccessfulControls`. -/
def serializeSuccessfulControls (controls : List CaptureControlDescriptor)
    (entries : List SuccessfulFormDataEntry) : List RawFieldCandidate :=
  let successfulControls := controls.filter (·.successful)
  let protectedNames := (successfulControls.filter (controlIsProtected Q)).map (·.name)
  let state := successfulControls.foldl (groupStep Q) GroupingState.initial
  let groups := entries.foldl (entryStep Q protectedNames state.controlsByName) state.groups
  let filled := (groups.map (·.2)).filter fun group => !group.values.isEmpty
  let captured := (JsValue.sortBy (fun first second => compare first.order second.order)
    filled).map CandidateGroup.candidate
  captured ++ state.exclusions

end serialization

/-! ### Maps -/

section maps

variable {α : Type}

theorem mapHas_iff {key : Text} {map : List (Text × α)} :
    mapHas key map = true ↔ key ∈ map.map (·.1) := by
  rw [mapHas, List.any_eq_true, List.mem_map]
  simp only [decide_eq_true_eq]

theorem mapGet_assign (key other : Text) (value : α) (map : List (Text × α)) :
    mapGet other (JsValue.assign key value map) =
      if key = other then some value else mapGet other map := by
  induction map with
  | nil =>
    by_cases h : key = other
    · simp [JsValue.assign, mapGet, h]
    · simp [JsValue.assign, mapGet, h]
  | cons entry rest ih =>
    obtain ⟨k, v⟩ := entry
    rw [JsValue.assign]
    rcases eq_or_ne k key with rfl | hk
    · rw [if_pos rfl]
      by_cases h : k = other
      · simp [mapGet, h]
      · simp [mapGet, h]
    · rw [if_neg hk]
      rcases eq_or_ne k other with rfl | h
      · rw [if_neg hk.symm]
        simp [mapGet]
      · simp only [mapGet, List.find?_cons, h, decide_false] at ih ⊢
        exact ih

end maps

/-! ### Groups -/

theorem candidateGroupKey_injective {name name' : Text} {type type' : FieldControlType}
    (h : candidateGroupKey name type = candidateGroupKey name' type') :
    name = name' ∧ type = type' := by
  -- no type's text has a zero, so the last zero is the separator
  have hzero : ∀ type : FieldControlType, (0 : UInt16) ∉ (fieldControlTypeText type).reverse := by
    rintro ((_ | _) | _ | _) <;> decide
  have hreverse := congrArg List.reverse h
  rw [candidateGroupKey, candidateGroupKey, List.reverse_append, List.reverse_append,
    List.reverse_cons, List.reverse_cons, List.append_assoc, List.append_assoc] at hreverse
  obtain ⟨htype, hname⟩ := append_nul_inj (hzero type) (hzero type') hreverse
  exact ⟨List.reverse_injective hname,
    fieldControlTypeText_injective (List.reverse_injective htype)⟩

/-- The preferred type is that of a control. -/
theorem preferredControlType_spec {controls : List CaptureControlDescriptor}
    {control : CaptureControlDescriptor} (hmem : control ∈ controls) {type : ValueControlType}
    (htype : control.controlType = .value type) : ∃ preferred,
      preferredControlType controls = some preferred ∧
        ∃ control ∈ controls, control.controlType = .value preferred := by
  have hfound : (preferredControlType controls).isSome = true := by
    rw [preferredControlType, List.find?_isSome]
    refine ⟨type, by cases type <;> simp, List.any_eq_true.mpr ⟨control, hmem, ?_⟩⟩
    exact decide_eq_true htype
  obtain ⟨preferred, hpreferred⟩ := Option.isSome_iff_exists.mp hfound
  have hany := List.find?_some (p := fun type => controls.any fun control =>
    control.controlType = .value type) hpreferred
  obtain ⟨control, hcontrol, h⟩ := List.any_eq_true.mp hany
  exact ⟨preferred, hpreferred, control, hcontrol, of_decide_eq_true h⟩

section proofs

variable {Q : ReceiptPlatform}

/-- The variables after the controls that were read. -/
structure GroupingState.Reads (Q : ReceiptPlatform) (controls : List CaptureControlDescriptor)
    (state : GroupingState) : Prop where
  byName : ∀ name, (mapGet name state.controlsByName).getD [] =
    controls.filter fun control => control.name = name
  named : ∀ name named, mapGet name state.controlsByName = some named → named ≠ []
  keys : (state.groups.map (·.1)).Nodup
  group : ∀ entry ∈ state.groups,
    entry.1 = candidateGroupKey entry.2.name (.value entry.2.controlType) ∧ entry.2.values = []
  complete : ∀ control ∈ controls, controlIsProtected Q control = false →
    ∀ type, control.controlType = .value type →
      candidateGroupKey control.name (.value type) ∈ state.groups.map (·.1)
  exclusions : state.exclusions =
    (controls.filter (controlIsProtected Q)).map (exclusionCandidate Q)

theorem mem_addGroup {order : Nat} {control : CaptureControlDescriptor}
    {groups : List (Text × CandidateGroup)} {key : Text} (h : key ∈ groups.map (·.1)) :
    key ∈ (addGroup order control groups).map (·.1) := by
  rw [addGroup]
  split
  · dsimp only
    split_ifs
    · exact h
    · rw [List.map_append]
      exact List.mem_append_left _ h
  · exact h

theorem addGroup_spec (order : Nat) (control : CaptureControlDescriptor)
    {groups : List (Text × CandidateGroup)} (hkeys : (groups.map (·.1)).Nodup)
    (hgroup : ∀ entry ∈ groups,
      entry.1 = candidateGroupKey entry.2.name (.value entry.2.controlType) ∧
        entry.2.values = []) :
    ((addGroup order control groups).map (·.1)).Nodup ∧
      (∀ entry ∈ addGroup order control groups,
        entry.1 = candidateGroupKey entry.2.name (.value entry.2.controlType) ∧
          entry.2.values = []) ∧
      ∀ type, control.controlType = .value type →
        candidateGroupKey control.name (.value type) ∈
          (addGroup order control groups).map (·.1) := by
  rcases htype : control.controlType with type | - | -
  · have hadd : addGroup order control groups =
        if mapHas (candidateGroupKey control.name (.value type)) groups then groups
        else groups ++ [(candidateGroupKey control.name (.value type),
          ⟨presentText control.autocomplete, type, control.fieldId, control.name, order, []⟩)] := by
      simp only [addGroup, htype]
    rw [hadd]
    split_ifs with hhas
    · refine ⟨hkeys, hgroup, fun type' htype' => ?_⟩
      obtain rfl := FieldControlType.value.inj htype'
      exact mapHas_iff.mp hhas
    · refine ⟨?_, ?_, fun type' htype' => ?_⟩
      · rw [List.map_append, List.map_singleton]
        refine List.Nodup.append hkeys (List.nodup_singleton _) ?_
        rw [List.disjoint_singleton]
        exact fun hmem => hhas (mapHas_iff.mpr hmem)
      · intro entry hentry
        rcases List.mem_append.mp hentry with hentry | hentry
        · exact hgroup entry hentry
        · rw [List.mem_singleton.mp hentry]
          exact ⟨rfl, rfl⟩
      · obtain rfl := FieldControlType.value.inj htype'
        rw [List.map_append]
        exact List.mem_append_right _ List.mem_cons_self
  all_goals
    have hadd : addGroup order control groups = groups := by
      simp only [addGroup, htype]
    rw [hadd]
    exact ⟨hkeys, hgroup, nofun⟩

/-- One control more. -/
theorem GroupingState.Reads.step {controls : List CaptureControlDescriptor}
    {state : GroupingState} (h : state.Reads Q controls) (control : CaptureControlDescriptor) :
    (groupStep Q state control).Reads Q (controls ++ [control]) := by
  have hget : ∀ name, mapGet name (groupStep Q state control).controlsByName =
      if control.name = name then
        some ((mapGet control.name state.controlsByName).getD [] ++ [control])
      else mapGet name state.controlsByName := by
    intro name
    rw [← mapGet_assign, groupStep]
    split_ifs <;> rfl
  have hbyName : ∀ name, (mapGet name (groupStep Q state control).controlsByName).getD [] =
      (controls ++ [control]).filter fun control => control.name = name := by
    intro name
    rw [hget, List.filter_append, ← h.byName name]
    split_ifs with hname
    · subst hname
      simp
    · simp [hname]
  have hnamed : ∀ name named, mapGet name (groupStep Q state control).controlsByName =
      some named → named ≠ [] := by
    intro name named hnamed
    rw [hget] at hnamed
    split_ifs at hnamed with hname
    · rw [← Option.some.inj hnamed]
      simp
    · exact h.named name named hnamed
  rcases hprotected : controlIsProtected Q control with - | -
  · have hgroups : (groupStep Q state control).groups =
        addGroup state.order control state.groups := by
      simp [groupStep, hprotected]
    have hexclusions : (groupStep Q state control).exclusions = state.exclusions := by
      simp [groupStep, hprotected]
    obtain ⟨hkeys, hgroup, hnew⟩ := addGroup_spec state.order control h.keys h.group
    refine ⟨hbyName, hnamed, ?_, ?_, fun other hother hopen type htype => ?_, ?_⟩
    · rwa [hgroups]
    · rwa [hgroups]
    · rw [hgroups]
      rcases List.mem_append.mp hother with hother | hother
      · exact mem_addGroup (h.complete other hother hopen type htype)
      · rw [List.mem_singleton.mp hother] at htype ⊢
        exact hnew type htype
    · rw [hexclusions, h.exclusions, List.filter_append]
      simp [hprotected]
  · have hgroups : (groupStep Q state control).groups = state.groups := by
      simp [groupStep, hprotected]
    have hexclusions : (groupStep Q state control).exclusions =
        state.exclusions ++ [exclusionCandidate Q control] := by
      simp [groupStep, hprotected]
    refine ⟨hbyName, hnamed, ?_, ?_, fun other hother hopen type htype => ?_, ?_⟩
    · rw [hgroups]
      exact h.keys
    · rw [hgroups]
      exact h.group
    · rw [hgroups]
      rcases List.mem_append.mp hother with hother | hother
      · exact h.complete other hother hopen type htype
      · rw [List.mem_singleton.mp hother, hprotected] at hopen
        cases hopen
    · rw [hexclusions, h.exclusions, List.filter_append]
      simp [hprotected]

/-- **The variables after the loop over the controls.** -/
theorem foldl_groupStep (controls : List CaptureControlDescriptor) :
    (controls.foldl (groupStep Q) GroupingState.initial).Reads Q controls := by
  have hrun : ∀ (rest before : List CaptureControlDescriptor) (state : GroupingState),
      state.Reads Q before → (rest.foldl (groupStep Q) state).Reads Q (before ++ rest) := by
    intro rest
    induction rest with
    | nil =>
      intro before state h
      rw [List.append_nil]
      exact h
    | cons control rest ih =>
      intro before state h
      rw [List.append_cons]
      exact ih _ _ (h.step control)
  have hinitial : GroupingState.initial.Reads Q [] :=
    ⟨fun _ => rfl, nofun, List.nodup_nil, nofun, nofun, rfl⟩
  exact hrun controls [] _ hinitial

/-! ### Values -/

/-- The values that go to the group under a key. -/
def received (key : Text) (targets : List (Text × Text)) : List Text :=
  (targets.filter fun target => target.1 = key).map (·.2)

/-- A group with more values. -/
def CandidateGroup.receive (group : CandidateGroup) (values : List Text) : CandidateGroup :=
  { group with values := group.values ++ values }

theorem pushValue_eq {key value : Text} {groups : List (Text × CandidateGroup)}
    (hkeys : (groups.map (·.1)).Nodup) : pushValue key value groups =
      groups.map fun entry => (entry.1, entry.2.receive (received entry.1 [(key, value)])) := by
  have hother : ∀ {k : Text}, key ≠ k → received k [(key, value)] = [] := by
    intro k hk
    simp [received, hk]
  have hsame : received key [(key, value)] = [value] := by simp [received]
  have hnone : ∀ group : CandidateGroup, group.receive [] = group := by
    intro group
    simp [CandidateGroup.receive]
  induction groups with
  | nil => rfl
  | cons entry rest ih =>
    obtain ⟨k, group⟩ := entry
    rw [List.map_cons, List.nodup_cons] at hkeys
    rw [pushValue, List.map_cons]
    rcases eq_or_ne k key with rfl | hk
    · rw [if_pos rfl]
      show _ = (k, group.receive (received k [(k, value)])) :: _
      rw [hsame]
      -- the other groups have other keys
      have hrest : rest.map (fun entry => (entry.1, entry.2.receive
          (received entry.1 [(k, value)]))) = rest := by
        conv_rhs => rw [← List.map_id rest]
        apply List.map_congr_left
        intro entry hentry
        have hne : k ≠ entry.1 := by
          rintro rfl
          exact hkeys.1 (List.mem_map.mpr ⟨entry, hentry, rfl⟩)
        rw [hother hne, hnone]
        rfl
      rw [hrest]
      rfl
    · rw [if_neg hk, ih hkeys.2]
      show _ = (k, group.receive (received k [(key, value)])) :: _
      rw [hother hk.symm, hnone]

/-- **Every group receives the values of its key, in order.** -/
theorem foldl_pushValue {targets : List (Text × Text)} {groups : List (Text × CandidateGroup)}
    (hkeys : (groups.map (·.1)).Nodup) :
    targets.foldl (fun groups target => pushValue target.1 target.2 groups) groups =
      groups.map fun entry => (entry.1, entry.2.receive (received entry.1 targets)) := by
  induction targets generalizing groups with
  | nil =>
    conv_lhs => rw [List.foldl_nil, ← List.map_id groups]
    apply List.map_congr_left
    intro entry _
    simp [received, CandidateGroup.receive]
  | cons target rest ih =>
    have hsame : (pushValue target.1 target.2 groups).map (·.1) = groups.map (·.1) := by
      rw [pushValue_eq hkeys, List.map_map]
      rfl
    rw [List.foldl_cons, ih (hsame ▸ hkeys), pushValue_eq hkeys, List.map_map]
    apply List.map_congr_left
    intro entry _
    have happend : received entry.1 (target :: rest) =
        received entry.1 [target] ++ received entry.1 rest := by
      rw [received, received, received, ← List.map_append, ← List.filter_append,
        List.singleton_append]
    rw [happend]
    simp [CandidateGroup.receive]

theorem foldl_entryStep (protectedNames : List Text)
    (controlsByName : List (Text × List CaptureControlDescriptor))
    (entries : List SuccessfulFormDataEntry) {groups : List (Text × CandidateGroup)}
    (hkeys : (groups.map (·.1)).Nodup) :
    entries.foldl (entryStep Q protectedNames controlsByName) groups =
      groups.map fun entry => (entry.1, entry.2.receive (received entry.1
        (entries.filterMap (entryTarget Q protectedNames controlsByName)))) := by
  rw [← foldl_pushValue hkeys, List.foldl_filterMap]
  congr 1
  funext groups entry
  rw [entryStep]
  rcases entryTarget Q protectedNames controlsByName entry with - | ⟨key, value⟩ <;> rfl

/-- One item at most passes the filter. -/
theorem filter_of_unique {α : Type} {p : α → Bool} {l : List α} {a : α} (hnodup : l.Nodup)
    (ha : a ∈ l) (h : ∀ b ∈ l, p b = true → b = a) :
    l.filter p = if p a = true then [a] else [] := by
  induction l with
  | nil => cases ha
  | cons b rest ih =>
    rw [List.nodup_cons] at hnodup
    rcases List.mem_cons.mp ha with rfl | ha
    · have hrest : rest.filter p = [] := by
        rw [List.filter_eq_nil_iff]
        intro c hc hpc
        exact hnodup.1 (h c (List.mem_cons_of_mem _ hc) hpc ▸ hc)
      rw [List.filter_cons, hrest]
    · have hb : ¬p b = true := fun hpb => hnodup.1 (h b List.mem_cons_self hpb ▸ ha)
      rw [List.filter_cons_of_neg hb]
      exact ih hnodup.2 ha fun c hc => h c (List.mem_cons_of_mem _ hc)

/-! ### Names -/

/-- A successful control has the name. -/
def OwnedName (controls : List CaptureControlDescriptor) (name : Text) : Prop :=
  ∃ control ∈ controls, control.successful = true ∧ control.name = name

/-- A protected successful control has the name. -/
def ProtectedName (Q : ReceiptPlatform) (controls : List CaptureControlDescriptor)
    (name : Text) : Prop :=
  ∃ control ∈ controls, control.successful = true ∧ control.name = name ∧
    controlIsProtected Q control = true

/-- The same entry, but for the value under a protected name. -/
def SameUnlessProtected (Q : ReceiptPlatform) (controls : List CaptureControlDescriptor)
    (entry entry' : SuccessfulFormDataEntry) : Prop :=
  entry = entry' ∨ ∃ name value value', entry = .string name value ∧
    entry' = .string name value' ∧ ProtectedName Q controls name

/-- The value of a string entry of the name. -/
def entryValue (name : Text) : SuccessfulFormDataEntry → Option Text
  | .string other value => if other = name then some value else none
  | .file _ => none

/-- The names of protected controls. -/
def protectedNamesOf (Q : ReceiptPlatform) (controls : List CaptureControlDescriptor) :
    List Text :=
  ((controls.filter (·.successful)).filter (controlIsProtected Q)).map (·.name)

theorem mem_protectedNames {controls : List CaptureControlDescriptor} {name : Text} :
    name ∈ protectedNamesOf Q controls ↔ ProtectedName Q controls name := by
  simp only [protectedNamesOf, List.mem_map, List.mem_filter, ProtectedName]
  constructor
  · rintro ⟨control, ⟨⟨hmem, hsuccessful⟩, hprotected⟩, rfl⟩
    exact ⟨control, hmem, hsuccessful, rfl, hprotected⟩
  · rintro ⟨control, hmem, hsuccessful, rfl, hprotected⟩
    exact ⟨control, ⟨⟨hmem, hsuccessful⟩, hprotected⟩, rfl⟩

section targets

variable {controls : List CaptureControlDescriptor} {state : GroupingState}

/-- A value goes to a group of its entry's name, which is not protected. -/
theorem entryTarget_eq_some {entry : SuccessfulFormDataEntry} {key value : Text}
    (h : entryTarget Q (protectedNamesOf Q controls) state.controlsByName entry =
      some (key, value)) : ∃ name type, entry = .string name value ∧
        key = candidateGroupKey name (.value type) ∧ ¬ProtectedName Q controls name := by
  rcases entry with ⟨name, text⟩ | name
  · rw [entryTarget] at h
    split_ifs at h with hprotected
    split at h
    · cases h
    · dsimp only at h
      split_ifs at h
      obtain ⟨type, -, htype⟩ := Option.map_eq_some_iff.mp h
      cases htype
      exact ⟨name, type, rfl, rfl, fun hname => hprotected (mem_protectedNames.mpr hname)⟩
  · cases h

/-- **The values of a name that is not protected go to one group.** -/
theorem entryTarget_owned (hstate : state.Reads Q (controls.filter (·.successful)))
    {name : Text} (howned : OwnedName controls name) (hopen : ¬ProtectedName Q controls name) :
    ∃ type, candidateGroupKey name (.value type) ∈ state.groups.map (·.1) ∧
      ∀ value, entryTarget Q (protectedNamesOf Q controls) state.controlsByName
        (.string name value) = some (candidateGroupKey name (.value type), value) := by
  obtain ⟨control, hmem, hsuccessful, rfl⟩ := howned
  have hcontrol : control ∈ controls.filter (·.successful) :=
    List.mem_filter.mpr ⟨hmem, hsuccessful⟩
  have hunprotected : ∀ other ∈ controls.filter (·.successful), other.name = control.name →
      controlIsProtected Q other = false := by
    intro other hother hname
    rw [← Bool.not_eq_true]
    intro hprotected
    obtain ⟨hmem, hsuccessful⟩ := List.mem_filter.mp hother
    exact hopen ⟨other, hmem, hsuccessful, hname, hprotected⟩
  have hvalue : ∀ other : CaptureControlDescriptor, controlIsProtected Q other = false →
      ∃ type, other.controlType = .value type := by
    intro other hother
    rcases htype : other.controlType with type | - | -
    · exact ⟨type, rfl⟩
    · simp [controlIsProtected, htype] at hother
    · simp [controlIsProtected, htype] at hother
  -- the controls of the name, none of which is protected
  have hbyName := hstate.byName control.name
  rcases hnamed : mapGet control.name state.controlsByName with - | named
  · rw [hnamed] at hbyName
    have hnone := List.filter_eq_nil_iff.mp (show _ = [] from hbyName.symm) control hcontrol
    exact absurd (decide_eq_true rfl) hnone
  · rw [hnamed, Option.getD_some] at hbyName
    have hall : named.filter (fun control => !controlIsProtected Q control) = named := by
      rw [List.filter_eq_self]
      intro other hother
      rw [hbyName] at hother
      obtain ⟨hother, hname⟩ := List.mem_filter.mp hother
      rw [hunprotected other hother (of_decide_eq_true hname)]
      rfl
    have hin : control ∈ named := by
      rw [hbyName]
      exact List.mem_filter.mpr ⟨hcontrol, decide_eq_true rfl⟩
    obtain ⟨own, hown⟩ := hvalue control (hunprotected control hcontrol rfl)
    obtain ⟨type, hpreferred, other, hother, htype⟩ := preferredControlType_spec hin hown
    rw [hbyName] at hother
    obtain ⟨hother, hname⟩ := List.mem_filter.mp hother
    have hname := of_decide_eq_true hname
    refine ⟨type, ?_, fun value => ?_⟩
    · have hkey := hstate.complete other hother (hunprotected other hother hname) type htype
      rwa [hname] at hkey
    · have hempty : named.isEmpty = false := by
        rw [← Bool.not_eq_true, List.isEmpty_iff]
        exact List.ne_nil_of_mem hin
      rw [entryTarget, if_neg (mt mem_protectedNames.mp hopen), hnamed]
      dsimp only
      rw [hall, hempty, hpreferred]
      rfl

/-- What the group of a name receives. -/
theorem received_owned {entries : List SuccessfulFormDataEntry} {name : Text}
    {type : ValueControlType}
    (htarget : ∀ value, entryTarget Q (protectedNamesOf Q controls) state.controlsByName
      (.string name value) = some (candidateGroupKey name (.value type), value)) :
    received (candidateGroupKey name (.value type))
      (entries.filterMap (entryTarget Q (protectedNamesOf Q controls) state.controlsByName)) =
        entries.filterMap (entryValue name) := by
  induction entries with
  | nil => rfl
  | cons entry rest ih =>
    rw [List.filterMap_cons, List.filterMap_cons]
    rcases hentry : entryTarget Q (protectedNamesOf Q controls) state.controlsByName entry with
      - | ⟨key, value⟩
    · -- no target: the entry has another name, or is a file
      have hnone : entryValue name entry = none := by
        rcases entry with ⟨other, value⟩ | other
        · refine if_neg ?_
          rintro rfl
          rw [htarget] at hentry
          cases hentry
        · rfl
      rw [hnone]
      exact ih
    · obtain ⟨other, type', rfl, rfl, -⟩ := entryTarget_eq_some hentry
      rcases eq_or_ne other name with rfl | hother
      · rw [htarget] at hentry
        obtain ⟨hkey, -⟩ := Prod.mk.inj (Option.some.inj hentry)
        have hvalue : entryValue other (.string other value) = some value := if_pos rfl
        rw [hvalue, ← hkey]
        show received _ (_ :: _) = value :: _
        rw [← ih]
        simp [received]
      · have hkey : candidateGroupKey other (.value type') ≠ candidateGroupKey name (.value type) :=
          fun h => hother (candidateGroupKey_injective h).1
        have hvalue : entryValue name (.string other value) = none := if_neg hother
        rw [hvalue, ← ih]
        simp [received, hkey]

/-- A group that no entry goes to receives nothing. -/
theorem received_eq_nil {entries : List SuccessfulFormDataEntry} {key : Text}
    (h : ∀ entry ∈ entries, ∀ value,
      entryTarget Q (protectedNamesOf Q controls) state.controlsByName entry ≠
        some (key, value)) :
    received key (entries.filterMap
      (entryTarget Q (protectedNamesOf Q controls) state.controlsByName)) = [] := by
  rw [received, List.map_eq_nil_iff, List.filter_eq_nil_iff]
  rintro ⟨key', value⟩ htarget hkey
  obtain ⟨entry, hentry, htarget⟩ := List.mem_filterMap.mp htarget
  obtain rfl : key' = key := of_decide_eq_true hkey
  exact h entry hentry value htarget

end targets

/-! ### The output -/

/-- The groups with what they receive. -/
def filledGroups (Q : ReceiptPlatform) (controls : List CaptureControlDescriptor)
    (entries : List SuccessfulFormDataEntry) : List CandidateGroup :=
  let state := (controls.filter (·.successful)).foldl (groupStep Q) GroupingState.initial
  state.groups.map fun entry => entry.2.receive (received entry.1
    (entries.filterMap (entryTarget Q (protectedNamesOf Q controls) state.controlsByName)))

theorem serializeSuccessfulControls_eq (controls : List CaptureControlDescriptor)
    (entries : List SuccessfulFormDataEntry) : serializeSuccessfulControls Q controls entries =
      (JsValue.sortBy (fun first second => compare first.order second.order)
        ((filledGroups Q controls entries).filter fun group => !group.values.isEmpty)).map
          CandidateGroup.candidate ++
        ((controls.filter (·.successful)).filter (controlIsProtected Q)).map
          (exclusionCandidate Q) := by
  have hstate := foldl_groupStep (Q := Q) (controls.filter (·.successful))
  have hfilled := foldl_entryStep (Q := Q) (protectedNamesOf Q controls)
    ((controls.filter (·.successful)).foldl (groupStep Q) GroupingState.initial).controlsByName
    entries hstate.keys
  rw [serializeSuccessfulControls]
  show (JsValue.sortBy _ (((entries.foldl (entryStep Q (protectedNamesOf Q controls) _) _).map
    (·.2)).filter _)).map _ ++ _ = _
  rw [hfilled, List.map_map, hstate.exclusions]
  rfl

/-- A group with values has received them. -/
theorem exists_target {controls : List CaptureControlDescriptor}
    {entries : List SuccessfulFormDataEntry} {group : CandidateGroup}
    (hgroup : group ∈ filledGroups Q controls entries) (hfull : group.values ≠ []) :
    ∃ entry ∈ entries, ∃ value, entryTarget Q (protectedNamesOf Q controls)
      ((controls.filter (·.successful)).foldl (groupStep Q)
        GroupingState.initial).controlsByName entry =
          some (candidateGroupKey group.name (.value group.controlType), value) := by
  have hstate := foldl_groupStep (Q := Q) (controls.filter (·.successful))
  obtain ⟨⟨key, first⟩, hfirst, rfl⟩ := List.mem_map.mp hgroup
  obtain ⟨hkey, hvalues⟩ := hstate.group _ hfirst
  by_contra hnone
  refine hfull ?_
  show first.values ++ received key _ = []
  rw [show first.values = [] from hvalues, List.nil_append]
  refine received_eq_nil fun entry hentry value htarget => hnone ⟨entry, hentry, value, ?_⟩
  rw [htarget]
  exact congrArg (fun k => some (k, value)) hkey

/-- **The group with the values of a name.** -/
theorem filledGroups_owned {controls : List CaptureControlDescriptor}
    (entries : List SuccessfulFormDataEntry) {name : Text} (howned : OwnedName controls name)
    (hopen : ¬ProtectedName Q controls name) :
    ∃ group ∈ filledGroups Q controls entries, group.name = name ∧
      group.values = entries.filterMap (entryValue name) ∧
      ∀ other ∈ filledGroups Q controls entries, other.name = name → other.values ≠ [] →
        other = group := by
  have hstate := foldl_groupStep (Q := Q) (controls.filter (·.successful))
  obtain ⟨type, hkey, htarget⟩ := entryTarget_owned hstate howned hopen
  obtain ⟨⟨key, first⟩, hfirst, hfirstKey⟩ := List.mem_map.mp hkey
  obtain rfl : key = candidateGroupKey name (.value type) := hfirstKey
  obtain ⟨hsame, hvalues⟩ := hstate.group _ hfirst
  refine ⟨_, List.mem_map_of_mem hfirst, (candidateGroupKey_injective hsame).1.symm, ?_, ?_⟩
  · show first.values ++ received _ _ = _
    rw [show first.values = [] from hvalues, List.nil_append]
    exact received_owned htarget
  · rintro other hother hname hfull
    obtain ⟨entry, -, value, hentry⟩ := exists_target hother hfull
    obtain ⟨second, hsecond, rfl⟩ := List.mem_map.mp hother
    -- the entry's group is that of the name's preferred type
    obtain ⟨entryName, entryType, rfl, hentryKey, -⟩ := entryTarget_eq_some hentry
    obtain ⟨hentryName, -⟩ := candidateGroupKey_injective hentryKey
    rw [← hentryName, hname, htarget] at hentry
    have hkeys : candidateGroupKey name (.value type) = second.1 := by
      rw [(hstate.group second hsecond).1, show second.2.name = name from hname]
      exact (Prod.mk.inj (Option.some.inj hentry)).1
    have hentries : (candidateGroupKey name (.value type), first) = second :=
      List.inj_on_of_nodup_map hstate.keys hfirst hsecond hkeys
    rw [← hentries]

theorem filledGroups_nodup (controls : List CaptureControlDescriptor)
    (entries : List SuccessfulFormDataEntry) : (filledGroups Q controls entries).Nodup := by
  have hstate := foldl_groupStep (Q := Q) (controls.filter (·.successful))
  apply List.Nodup.of_map fun group : CandidateGroup =>
    candidateGroupKey group.name (.value group.controlType)
  have hsame : (filledGroups Q controls entries).map (fun group =>
      candidateGroupKey group.name (.value group.controlType)) =
      ((controls.filter (·.successful)).foldl (groupStep Q)
        GroupingState.initial).groups.map (·.1) := by
    rw [filledGroups, List.map_map]
    apply List.map_congr_left
    intro entry hentry
    exact (hstate.group entry hentry).1.symm
  rw [hsame]
  exact hstate.keys

/-- **Privacy and completeness of the serialization.**  The values of protected
names do not matter; the values of every other name that a successful control
has are the name's string entries, in order; and what has a protected name has
no values. -/
theorem serializeSuccessfulControls_spec (Q : ReceiptPlatform)
    (controls : List CaptureControlDescriptor) (entries : List SuccessfulFormDataEntry) :
    (∀ entries', List.Forall₂ (SameUnlessProtected Q controls) entries entries' →
      serializeSuccessfulControls Q controls entries =
        serializeSuccessfulControls Q controls entries') ∧
    (∀ name, OwnedName controls name → ¬ProtectedName Q controls name →
      ((serializeSuccessfulControls Q controls entries).filter fun candidate =>
        candidate.name = some name).flatMap (fun candidate => candidate.values.getD []) =
          entries.filterMap (entryValue name)) ∧
    ∀ candidate ∈ serializeSuccessfulControls Q controls entries, ∀ name ∈ candidate.name,
      ProtectedName Q controls name → candidate.values = none := by
  refine ⟨fun entries' hsame => ?_, fun name howned hopen => ?_, fun candidate hcandidate => ?_⟩
  · -- the two runs have the same targets
    have htargets : ∀ byName, entries.filterMap (entryTarget Q (protectedNamesOf Q controls)
        byName) = entries'.filterMap (entryTarget Q (protectedNamesOf Q controls) byName) := by
      intro byName
      induction hsame with
      | nil => rfl
      | cons hentry _ ih =>
        rw [List.filterMap_cons, List.filterMap_cons, ih]
        rcases hentry with rfl | ⟨name, value, value', rfl, rfl, hname⟩
        · rfl
        · have hnone : ∀ value, entryTarget Q (protectedNamesOf Q controls) byName
              (.string name value) = none := fun value => if_pos (mem_protectedNames.mpr hname)
          rw [hnone, hnone]
    rw [serializeSuccessfulControls_eq, serializeSuccessfulControls_eq, filledGroups, filledGroups,
      htargets]
  · have hexclusions : (((controls.filter (·.successful)).filter (controlIsProtected Q)).map
        (exclusionCandidate Q)).filter (fun candidate => candidate.name = some name) = [] := by
      rw [List.filter_eq_nil_iff]
      intro candidate hcandidate hname
      obtain ⟨control, hcontrol, rfl⟩ := List.mem_map.mp hcandidate
      obtain rfl : control.name = name := Option.some.inj (of_decide_eq_true hname)
      exact hopen (mem_protectedNames.mp (List.mem_map_of_mem hcontrol))
    obtain ⟨group, hgroup, hname, hvalues, hunique⟩ :=
      filledGroups_owned entries howned hopen
    rw [serializeSuccessfulControls_eq, List.filter_append, hexclusions, List.append_nil,
      List.filter_map, List.flatMap_map]
    -- one group at most has values of the name
    have hfilter : (((filledGroups Q controls entries).filter fun group =>
        !group.values.isEmpty).filter ((fun candidate : RawFieldCandidate =>
          decide (candidate.name = some name)) ∘ CandidateGroup.candidate)) =
        if group.values = [] then [] else [group] := by
      rw [List.filter_filter]
      rw [filter_of_unique (filledGroups_nodup controls entries) hgroup fun other hother hp => ?_]
      · by_cases hempty : group.values = []
        · simp [hempty]
        · simp [hempty, CandidateGroup.candidate, hname]
      · rw [Bool.and_eq_true] at hp
        refine hunique other hother (Option.some.inj (of_decide_eq_true hp.1)) ?_
        simpa using hp.2
    have hperm := ((JsValue.perm_sortBy (fun first second : CandidateGroup =>
      compare first.order second.order) ((filledGroups Q controls entries).filter fun group =>
        !group.values.isEmpty)).filter ((fun candidate : RawFieldCandidate =>
          decide (candidate.name = some name)) ∘ CandidateGroup.candidate))
    rw [hfilter] at hperm
    rw [← hvalues]
    split_ifs at hperm with hempty
    · rw [List.perm_nil.mp hperm, hempty]
      rfl
    · rw [List.perm_singleton.mp hperm]
      exact List.append_nil _
  · intro name hname hprotected
    rw [serializeSuccessfulControls_eq] at hcandidate
    rcases List.mem_append.mp hcandidate with hcandidate | hcandidate
    · -- no value goes to a group of the name
      obtain ⟨group, hgroup, rfl⟩ := List.mem_map.mp hcandidate
      obtain ⟨hgroup, hfull⟩ := List.mem_filter.mp
        ((JsValue.perm_sortBy (fun first second : CandidateGroup =>
          compare first.order second.order) _).subset hgroup)
      obtain ⟨entry, -, value, htarget⟩ := exists_target hgroup (by simpa using hfull)
      obtain ⟨other, type, -, hkey, hother⟩ := entryTarget_eq_some htarget
      obtain rfl : group.name = name := Option.some.inj hname
      rw [← (candidateGroupKey_injective hkey).1] at hother
      exact absurd hprotected hother
    · obtain ⟨control, -, rfl⟩ := List.mem_map.mp hcandidate
      rfl

/-- A password, and a checkbox and a text field of one name. -/
def sampleControls : List CaptureControlDescriptor :=
  [⟨none, .password, ascii "a", ascii "p", true⟩, ⟨none, .value .text, ascii "b", ascii "n", true⟩,
    ⟨none, .value .checkbox, ascii "c", ascii "n", true⟩]

/-- The password does not matter, and both values of the other name are there. -/
theorem serializeSuccessfulControls_spec_sample :
    serializeSuccessfulControls sampleReceiptPlatform sampleControls
        [.string (ascii "p") (ascii "x"), .string (ascii "n") (ascii "y"),
          .string (ascii "n") (ascii "z")] =
      serializeSuccessfulControls sampleReceiptPlatform sampleControls
        [.string (ascii "p") [], .string (ascii "n") (ascii "y"),
          .string (ascii "n") (ascii "z")] ∧
    ((serializeSuccessfulControls sampleReceiptPlatform sampleControls
      [.string (ascii "n") (ascii "y"), .string (ascii "n") (ascii "z")]).filter fun candidate =>
        candidate.name = some (ascii "n")).flatMap (fun candidate => candidate.values.getD []) =
          [ascii "y", ascii "z"] := by
  have hpassword : ProtectedName sampleReceiptPlatform sampleControls (ascii "p") :=
    ⟨_, List.mem_cons_self, rfl, rfl, by decide⟩
  have hopen : ¬ProtectedName sampleReceiptPlatform sampleControls (ascii "n") := by
    rw [← mem_protectedNames]
    decide
  constructor
  · apply (serializeSuccessfulControls_spec sampleReceiptPlatform sampleControls _).1
    exact .cons (.inr ⟨ascii "p", _, _, rfl, rfl, hpassword⟩) (.cons (.inl rfl)
      (.cons (.inl rfl) .nil))
  · apply (serializeSuccessfulControls_spec sampleReceiptPlatform sampleControls _).2.1
    · exact ⟨_, List.mem_cons_of_mem _ List.mem_cons_self, rfl, rfl⟩
    · exact hopen

end proofs

end SubmittedIt.Protocol
