/-
SubmittedIt/CapturePolicy.lean

The capture policy (packages/receipt-core, capture-policy.ts).

A candidate is normalized, and then captured or excluded: `exclusionReason` is
the cascade of `applyCapturePolicy`, and `policyStep` one iteration of its
loop.

The run of the loop is `policy_run`: after any list of candidates the captured
fields are those of the candidates without a reason, and the excluded ones
those of the others, in their order.  Main result: `applyCapturePolicy_safe`.
-/
import SubmittedIt.EventChains

namespace SubmittedIt.Protocol

open Transaction

open JsValue (member hasOwn)

/-- `RawFieldCandidate`, normalized. -/
structure RawFieldCandidate where
  autocomplete : Option Text
  controlType : FieldControlType
  explicitlyExcluded : Option Bool
  fieldId : Text
  files : Option (List CapturedFileMetadata)
  name : Option Text
  values : Option (List Text)
  deriving DecidableEq

/-- `assertAllowedKeys`. -/
def assertAllowedKeys (value : List (Text × JsValue)) (allowed : List String) (path : Text) :
    Except ReceiptProtocolError Unit :=
  match value.find? fun m => !(allowed.map ascii).contains m.1 with
  | some m => protocolError "UNKNOWN_PROPERTY"
      (ascii "contains unknown property " ++ Json.quote m.1 ++ ascii ".") path
  | none => .ok ()

/-- `parseControlType`. -/
def parseControlType (value : JsValue) (path : Text) :
    Except ReceiptProtocolError FieldControlType :=
  match parseEnum FIELD_CONTROL_TYPES fieldControlTypeText value path with
  | .ok controlType => .ok controlType
  | .error _ => protocolError "INVALID_CONTROL_TYPE"
      (ascii "must be one of: " ++ joinTexts (FIELD_CONTROL_TYPES.map fieldControlTypeText) ++
        ascii ".") path

/-- The items of an array, with a message for other values. -/
def parseArrayOf {α : Type} (parse : JsValue → Text → Except ReceiptProtocolError α)
    (message : Text) (value : JsValue) (path : Text) : Except ReceiptProtocolError (List α) :=
  match value with
  | .array items => parseItems parse items path 0
  | _ => protocolError "EXPECTED_ARRAY" message path

section policy

variable (Q : ReceiptPlatform)

/-- `parseValues`. -/
def parseValues : JsValue → Text → Except ReceiptProtocolError (List Text) :=
  parseArrayOf (normalizeOptionalText Q) (ascii "must be an array of strings.")

/-- `parseFileMetadataCandidate`. -/
def parseFileMetadataCandidate (input : JsValue) (path : Text) :
    Except ReceiptProtocolError CapturedFileMetadata := do
  let value ← asRecord input path
  assertAllowedKeys value ["content", "lastModified", "mediaType", "name", "size"] path
  refuseIf (hasOwn (ascii "content") value = true) "FILE_CONTENT_FORBIDDEN"
    (ascii "file contents must never enter the receipt protocol.") (path ++ ascii ".content")
  refuseIf (hasOwn (ascii "name") value = false ∨ hasOwn (ascii "size") value = false)
    "MISSING_PROPERTY" (ascii "requires name and size metadata.") path
  let lastModified ← optionalField normalizeTimestamp "lastModified" value path
  let mediaType ← optionalField (normalizeOptionalText Q) "mediaType" value path
  let name ← field (normalizeNonEmptyText Q) "name" value path
  let size ← field normalizeNonNegativeSafeInteger "size" value path
  return { lastModified, mediaType, name, size }

/-- The files of a candidate. -/
def parseCandidateFiles :
    JsValue → Text → Except ReceiptProtocolError (List CapturedFileMetadata) :=
  parseArrayOf (parseFileMetadataCandidate Q) (ascii "files must be an array.")

/-- `normalizeCandidate`. -/
def normalizeCandidate (input : JsValue) (path : Text) :
    Except ReceiptProtocolError RawFieldCandidate := do
  let value ← asRecord input path
  assertAllowedKeys value ["autocomplete", "controlType", "explicitlyExcluded", "fieldId", "files",
    "name", "values"] path
  refuseIf (hasOwn (ascii "controlType") value = false ∨ hasOwn (ascii "fieldId") value = false)
    "MISSING_PROPERTY" (ascii "requires controlType and fieldId.") path
  let controlType ← field parseControlType "controlType" value path
  let fieldId ← field (normalizeNonEmptyText Q) "fieldId" value path
  let name ← optionalField (normalizeNonEmptyText Q) "name" value path
  let autocomplete ← optionalField (normalizeOptionalText Q) "autocomplete" value path
  let explicitlyExcluded ← optionalField parseBoolean "explicitlyExcluded" value path
  let values ← optionalField (parseValues Q) "values" value path
  let files ← optionalField (parseCandidateFiles Q) "files" value path
  refuseIf (controlType = .file ∧ values.isSome = true) "FILE_VALUE_FORBIDDEN"
    (ascii "file controls must not provide string values.") path
  refuseIf (controlType ≠ .file ∧ files.isSome = true) "FILE_METADATA_MISMATCH"
    (ascii "only file controls may provide files.") path
  return { autocomplete, controlType, explicitlyExcluded, fieldId, files, name, values }

/-- Why a candidate is excluded, if it is. -/
def exclusionReason (includeFileMetadata : Bool) (candidate : RawFieldCandidate) :
    Option ExclusionReason :=
  if candidate.explicitlyExcluded = some true then some .explicitlyExcluded
  else if candidate.controlType = .password then some .password
  else if isAutofillSecret Q candidate.autocomplete = true then some .autofillSecret
  else if candidate.controlType = .value .hidden ∧
      ∃ name ∈ candidate.name, isSensitiveHiddenFieldName Q name = true then
    some .sensitiveHiddenToken
  else if candidate.controlType = .file ∧ includeFileMetadata = false then
    some .fileMetadataNotOptedIn
  else none

/-- `exclusion`. -/
def exclusion (candidate : RawFieldCandidate) (reason : ExclusionReason) :
    ExcludedFieldDescriptor where
  controlType := candidate.controlType
  fieldId := candidate.fieldId
  name := candidate.name
  reason := reason

/-- The variables of the loop of `applyCapturePolicy`, the identifiers newest
first, and the number of candidates read. -/
structure PolicyState where
  index : Nat
  captured : List CapturedField
  excluded : List ExcludedFieldDescriptor
  ids : List Text

def PolicyState.initial : PolicyState := ⟨0, [], [], []⟩

/-- The variables after a captured field. -/
def PolicyState.capture (state : PolicyState) (field : CapturedField) : PolicyState where
  index := state.index + 1
  captured := state.captured ++ [field]
  excluded := state.excluded
  ids := field.fieldId :: state.ids

/-- The variables after an excluded field. -/
def PolicyState.exclude (state : PolicyState) (field : ExcludedFieldDescriptor) :
    PolicyState where
  index := state.index + 1
  captured := state.captured
  excluded := state.excluded ++ [field]
  ids := field.fieldId :: state.ids

/-- The captured field of a candidate. -/
def captureCandidate (candidate : RawFieldCandidate) (path : Text) :
    Except ReceiptProtocolError CapturedField :=
  match candidate.name with
  | none => protocolError "MISSING_FIELD_NAME"
      (ascii "captured fields require a non-empty name.") path
  | some name =>
    match candidate.controlType with
    | .file => .ok (.file candidate.fieldId name (candidate.files.getD []))
    | .password => protocolError "SENSITIVE_FIELD_CAPTURED"
        (ascii "password fields must never be captured.") path
    | .value controlType =>
      .ok (.value controlType candidate.fieldId name (candidate.values.getD []))

/-- One iteration of the loop of `applyCapturePolicy`. -/
def policyStep (includeFileMetadata : Bool) (state : PolicyState) (raw : JsValue) :
    Except ReceiptProtocolError PolicyState := do
  let path := ascii "$.fields[" ++ Json.decimal state.index ++ ascii "]"
  let candidate ← normalizeCandidate Q raw path
  refuseIf (candidate.fieldId ∈ state.ids) "DUPLICATE_FIELD_ID"
    (ascii "contains duplicate fieldId " ++ Json.quote candidate.fieldId ++ ascii ".")
    (ascii "$.fields")
  match exclusionReason Q includeFileMetadata candidate with
  | some reason => return state.exclude (exclusion candidate reason)
  | none =>
    let captured ← captureCandidate candidate path
    return state.capture captured

/-- `CapturePolicyResult`. -/
structure CapturePolicyResult where
  capturedFields : List CapturedField
  excludedFields : List ExcludedFieldDescriptor
  privacyFlags : PrivacyFlags
  deriving DecidableEq

/-- `applyCapturePolicy`. -/
def applyCapturePolicy (input : List JsValue) (includeFileMetadata : Bool) :
    Except ReceiptProtocolError CapturePolicyResult := do
  let state ← replay (policyStep Q includeFileMetadata) PolicyState.initial input
  let capturedFields ← parseCapturedFields Q (writeList CapturedField.write state.captured)
    (ascii "$.capturedFields")
  let excludedFields ← parseExcludedFields Q
    (writeList ExcludedFieldDescriptor.value state.excluded) (ascii "$.excludedFields")
  return { capturedFields, excludedFields, privacyFlags := ⟨includeFileMetadata⟩ }

end policy

section results

variable {Q : ReceiptPlatform}

/-! ### Candidates -/

theorem assertAllowedKeys_eq_ok {value : List (Text × JsValue)} {allowed : List String} {p : Text}
    {u : Unit} : assertAllowedKeys value allowed p = .ok u ↔
      ∀ m ∈ value, m.1 ∈ allowed.map ascii := by
  have hunknown : value.find? (fun m => !(allowed.map ascii).contains m.1) = none ↔
      ∀ m ∈ value, m.1 ∈ allowed.map ascii := by
    simp only [List.find?_eq_none, Bool.not_eq_true', Bool.not_eq_false, List.contains_iff_mem]
  rw [← hunknown, assertAllowedKeys]
  split
  · next hfind => exact ⟨nofun, fun h => absurd (hfind.symm.trans h) nofun⟩
  · next hfind => exact ⟨fun _ => hfind, fun _ => rfl⟩

theorem parseControlType_eq_ok {v : JsValue} {p : Text} {type : FieldControlType} :
    parseControlType v p = .ok type ↔
      parseEnum FIELD_CONTROL_TYPES fieldControlTypeText v p = .ok type := by
  rw [parseControlType]
  rcases parseEnum FIELD_CONTROL_TYPES fieldControlTypeText v p with e | type
  · exact ⟨nofun, nofun⟩
  · exact Iff.rfl

theorem parseArrayOf_eq_ok {α : Type} {parse : JsValue → Text → Except ReceiptProtocolError α}
    {message : Text} {v : JsValue} {p : Text} {xs : List α} :
    parseArrayOf parse message v p = .ok xs ↔ parseList parse v p = .ok xs := by
  cases v with
  | array items => exact Iff.rfl
  | _ => exact ⟨nofun, nofun⟩

/-- A key with a value is there. -/
theorem hasOwn_of_member {value : List (Text × JsValue)} {key : Text}
    (h : member key value ≠ .undefined) : hasOwn key value = true :=
  List.any_eq_true.mpr ⟨_, mem_of_member h, decide_eq_true rfl⟩

/-- **The files of a candidate are those of a captured field.** -/
theorem parseFileMetadataCandidate_eq_ok {v : JsValue} {p : Text} {x : CapturedFileMetadata} :
    parseFileMetadataCandidate Q v p = .ok x ↔ parseFileMetadata Q v p = .ok x := by
  have hname : ∀ {w r y}, normalizeNonEmptyText Q w r = .ok y → w ≠ .undefined := by
    rintro w r y h rfl
    cases h
  simp only [parseFileMetadataCandidate, bind_eq_ok, asRecord_eq_ok, assertAllowedKeys_eq_ok,
    refuseIf_eq_ok, not_or, Bool.not_eq_false, Bool.not_eq_true]
  rw [parseFileMetadata]
  simp only [bind_eq_ok, asRecord_eq_ok]
  constructor
  · rintro ⟨value, hvalue, _, hallowed, _, hcontent, _, hthere, lastModified, h1, mediaType, h2,
      name, h3, size, h4, h⟩
    refine ⟨value, hvalue, (), ?_, lastModified, h1, mediaType, h2, name, h3, size, h4, h⟩
    refine assertKeys_eq_ok.mpr ⟨fun m hm => ?_, fun key hkey => ?_, fun key hkey hown => ?_⟩
    · -- the content was refused
      have hm' := hallowed m hm
      simp only [List.map_cons, List.map_nil, List.mem_cons, List.not_mem_nil, or_false] at hm'
      rcases hm' with hm' | hm' | hm' | hm' | hm'
      · have hown : hasOwn (ascii "content") value = true :=
          List.any_eq_true.mpr ⟨m, hm, decide_eq_true hm'⟩
        rw [hcontent] at hown
        cases hown
      all_goals simp [hm']
    · simp only [List.mem_cons, List.not_mem_nil, or_false] at hkey
      rcases hkey with rfl | rfl
      · exact hname h3
      · intro hv
        rw [field, hv] at h4
        cases h4
    · simp only [List.mem_cons, List.not_mem_nil, or_false] at hkey
      rcases hkey with rfl | rfl
      · intro hv
        rw [optionalField, if_pos hown, field, hv] at h1
        cases h1
      · intro hv
        rw [optionalField, if_pos hown, field, hv] at h2
        cases h2
  · rintro ⟨value, hvalue, _, hkeys, lastModified, h1, mediaType, h2, name, h3, size, h4, h⟩
    obtain ⟨hallowed, hrequired, -⟩ := assertKeys_eq_ok.mp hkeys
    refine ⟨value, hvalue, (), fun m hm => ?_, (), ?_, (), ⟨?_, ?_⟩, lastModified, h1, mediaType,
      h2, name, h3, size, h4, h⟩
    · have hm' := hallowed m hm
      simp only [List.map_append, List.map_cons, List.map_nil, List.mem_append, List.mem_cons,
        List.not_mem_nil, or_false] at hm'
      rcases hm' with (hm' | hm') | hm' | hm' <;> simp [hm']
    · rw [← Bool.not_eq_true, hasOwn, List.any_eq_true]
      rintro ⟨m, hm, hkey⟩
      have hm' := hallowed m hm
      rw [of_decide_eq_true hkey] at hm'
      exact absurd hm' (by decide)
    · exact hasOwn_of_member (hrequired _ (by simp))
    · exact hasOwn_of_member (hrequired _ (by simp))

/-- What is known of a normalized candidate. -/
structure RawFieldCandidate.Normal (Q : ReceiptPlatform) (candidate : RawFieldCandidate) :
    Prop where
  fieldId : ∀ q, normalizeNonEmptyText Q (.string candidate.fieldId) q = .ok candidate.fieldId
  name : ∀ name ∈ candidate.name, ∀ q, normalizeNonEmptyText Q (.string name) q = .ok name
  values : ∀ q, parseStringValues Q (writeList .string (candidate.values.getD [])) q =
    .ok (candidate.values.getD [])
  files : ∀ q, parseList (parseFileMetadata Q)
    (writeList CapturedFileMetadata.value (candidate.files.getD [])) q =
      .ok (candidate.files.getD [])

theorem optionalField_getD {α : Type}
    {parse : JsValue → Text → Except ReceiptProtocolError (List α)} {write : List α → JsValue}
    (hparse : Parses Q parse write)
    (hnil : ∀ q, parse (write []) q = .ok []) {key : String} {value : List (Text × JsValue)}
    {p : Text} {xs : Option (List α)} (h : optionalField parse key value p = .ok xs) (q : Text) :
    parse (write (xs.getD [])) q = .ok (xs.getD []) := by
  rcases xs with - | xs
  · exact hnil q
  · exact hparse.again (field_of_optionalField h) q

theorem optionalField_congr {α : Type}
    {parse parse' : JsValue → Text → Except ReceiptProtocolError α}
    (hparse : ∀ {v p x}, parse v p = .ok x → parse' v p = .ok x) {key : String}
    {value : List (Text × JsValue)} {p : Text} {x : Option α}
    (h : optionalField parse key value p = .ok x) : optionalField parse' key value p = .ok x := by
  rw [optionalField] at h ⊢
  split_ifs at h ⊢
  · obtain ⟨a, ha, hx⟩ := map_eq_ok.mp h
    exact map_eq_ok.mpr ⟨a, hparse ha, hx⟩
  · exact h

theorem parseCandidateFiles_eq_ok {v : JsValue} {p : Text} {xs : List CapturedFileMetadata} :
    parseCandidateFiles Q v p = .ok xs ↔ parseList (parseFileMetadata Q) v p = .ok xs := by
  have hsame : ∀ (items : List JsValue) (index : Nat) (xs : List CapturedFileMetadata),
      parseItems (parseFileMetadataCandidate Q) items p index = .ok xs ↔
        parseItems (parseFileMetadata Q) items p index = .ok xs := by
    intro items
    induction items with
    | nil => exact fun _ _ => Iff.rfl
    | cons item rest ih =>
      intro index xs
      simp only [parseItems, bind_eq_ok, parseFileMetadataCandidate_eq_ok, ih]
  rw [parseCandidateFiles, parseArrayOf_eq_ok, parseList, parseList]
  simp only [bind_eq_ok, hsame]

/-- **Candidates are normalized.** -/
theorem normalizeCandidate_normal {v : JsValue} {p : Text} {candidate : RawFieldCandidate}
    (h : normalizeCandidate Q v p = .ok candidate) : candidate.Normal Q := by
  simp only [normalizeCandidate, bind_eq_ok] at h
  obtain ⟨value, -, _, -, _, -, controlType, -, fieldId, h2, name, h3, autocomplete, -,
    explicitlyExcluded, -, values, h6, files, h7, _, -, _, -, h⟩ := h
  obtain rfl := Except.ok.inj h
  have h6 : optionalField (parseStringValues Q) "values" value p = .ok values :=
    optionalField_congr parseArrayOf_eq_ok.mp h6
  have h7 : optionalField (parseList (parseFileMetadata Q)) "files" value p = .ok files :=
    optionalField_congr parseCandidateFiles_eq_ok.mp h7
  refine ⟨fun q => normalizeNonEmptyText_parses.again h2 q, ?_, ?_, ?_⟩
  · rintro text rfl q
    exact normalizeNonEmptyText_parses.again (field_of_optionalField h3) q
  · exact optionalField_getD parseStringValues_parses (fun _ => rfl) h6
  · exact optionalField_getD parseFiles_parses (fun _ => rfl) h7

/-- What a candidate is does not depend on where it stands. -/
theorem normalizeCandidate_pathless : Pathless (normalizeCandidate Q) := by
  have hvalues : Pathless (parseValues Q) := fun v p x h q => parseArrayOf_eq_ok.mpr
    (parseStringValues_parses.anywhere (parseArrayOf_eq_ok.mp h) q)
  have hfiles : Pathless (parseCandidateFiles Q) := fun v p x h q => parseCandidateFiles_eq_ok.mpr
    (parseFiles_parses.anywhere (parseCandidateFiles_eq_ok.mp h) q)
  have htype : Pathless parseControlType := fun v p x h q => parseControlType_eq_ok.mpr
    ((fieldControlType_parses (Q := Q)).anywhere (parseControlType_eq_ok.mp h) q)
  intro v p candidate h q
  simp only [normalizeCandidate, bind_eq_ok, refuseIf_eq_ok, assertAllowedKeys_eq_ok,
    asRecord_eq_ok] at h ⊢
  obtain ⟨value, hvalue, _, hkeys, _, hthere, controlType, h1, fieldId, h2, name, h3, autocomplete,
    h4, explicitlyExcluded, h5, values, h6, files, h7, _, hvalues', _, hfiles', h⟩ := h
  refine ⟨value, hvalue, (), hkeys, (), hthere, controlType, ?_, fieldId, ?_, name, ?_,
    autocomplete, ?_, explicitlyExcluded, ?_, values, ?_, files, ?_, (), hvalues', (), hfiles', h⟩
  · exact field_anywhere htype h1 q
  · exact field_anywhere normalizeNonEmptyText_parses.anywhere h2 q
  · exact optionalField_anywhere normalizeNonEmptyText_parses.anywhere h3 q
  · exact optionalField_anywhere normalizeOptionalText_parses.anywhere h4 q
  · exact optionalField_anywhere parseBoolean_pathless h5 q
  · exact optionalField_anywhere hvalues h6 q
  · exact optionalField_anywhere hfiles h7 q

/-! ### The loop -/

/-- The fields so far and the candidates that they come from. -/
structure PolicyState.Partition (Q : ReceiptPlatform) (includeFileMetadata : Bool)
    (candidates : List RawFieldCandidate) (state : PolicyState) : Prop where
  ids : state.ids = (candidates.map (·.fieldId)).reverse
  nodup : state.ids.Nodup
  partition : (state.captured.map (·.fieldId) ++ state.excluded.map (·.fieldId)).Perm state.ids
  captured : ∀ field ∈ state.captured, ∃ candidate ∈ candidates,
    exclusionReason Q includeFileMetadata candidate = none ∧
      ∀ p, captureCandidate candidate p = .ok field
  excluded : ∀ field ∈ state.excluded, ∃ candidate ∈ candidates, ∃ reason,
    exclusionReason Q includeFileMetadata candidate = some reason ∧
      field = exclusion candidate reason

theorem captureCandidate_pathless {candidate : RawFieldCandidate} {p : Text}
    {field : CapturedField} (h : captureCandidate candidate p = .ok field) (q : Text) :
    captureCandidate candidate q = .ok field := by
  rw [captureCandidate] at h ⊢
  split at h
  · cases h
  · split at h
    · exact h
    · cases h
    · exact h

theorem captureCandidate_fieldId {candidate : RawFieldCandidate} {p : Text}
    {field : CapturedField} (h : captureCandidate candidate p = .ok field) :
    field.fieldId = candidate.fieldId := by
  rw [captureCandidate] at h
  split at h
  · cases h
  · split at h
    · exact congrArg _ (Except.ok.inj h).symm
    · cases h
    · exact congrArg _ (Except.ok.inj h).symm

theorem policyStep_eq_ok {includeFileMetadata : Bool} {state state' : PolicyState}
    {raw : JsValue} : policyStep Q includeFileMetadata state raw = .ok state' ↔ ∃ candidate,
      (∀ p, normalizeCandidate Q raw p = .ok candidate) ∧ candidate.fieldId ∉ state.ids ∧
      ((∃ reason, exclusionReason Q includeFileMetadata candidate = some reason ∧
          state' = state.exclude (exclusion candidate reason)) ∨
        exclusionReason Q includeFileMetadata candidate = none ∧
          ∃ field, (∀ p, captureCandidate candidate p = .ok field) ∧
            state' = state.capture field) := by
  rw [policyStep]
  simp only [bind_eq_ok, refuseIf_eq_ok]
  constructor
  · rintro ⟨candidate, hcandidate, _, hnew, h⟩
    refine ⟨candidate, normalizeCandidate_pathless hcandidate, hnew, ?_⟩
    rcases hreason : exclusionReason Q includeFileMetadata candidate with - | reason
    · rw [hreason] at h
      obtain ⟨field, hfield, h⟩ := bind_eq_ok.mp h
      exact .inr ⟨rfl, field, captureCandidate_pathless hfield, (Except.ok.inj h).symm⟩
    · rw [hreason] at h
      exact .inl ⟨reason, rfl, (Except.ok.inj h).symm⟩
  · rintro ⟨candidate, hcandidate, hnew, h⟩
    refine ⟨candidate, hcandidate _, (), hnew, ?_⟩
    rcases h with ⟨reason, hreason, rfl⟩ | ⟨hreason, field, hfield, rfl⟩
    · rw [hreason]
      rfl
    · rw [hreason]
      exact bind_eq_ok.mpr ⟨field, hfield _, rfl⟩

/-- An iteration puts one candidate on one of the two sides. -/
theorem PolicyState.Partition.step {includeFileMetadata : Bool}
    {candidates : List RawFieldCandidate} {state state' : PolicyState} {raw : JsValue}
    (hstate : state.Partition Q includeFileMetadata candidates)
    (h : policyStep Q includeFileMetadata state raw = .ok state') : ∃ candidate,
      (∀ p, normalizeCandidate Q raw p = .ok candidate) ∧
        state'.Partition Q includeFileMetadata (candidates ++ [candidate]) := by
  obtain ⟨candidate, hcandidate, hnew, h⟩ := policyStep_eq_ok.mp h
  have hids : candidate.fieldId :: state.ids =
      ((candidates ++ [candidate]).map (·.fieldId)).reverse := by
    rw [hstate.ids]
    simp
  have hnodup : (candidate.fieldId :: state.ids).Nodup := List.nodup_cons.mpr ⟨hnew, hstate.nodup⟩
  have hold : ∀ {P : RawFieldCandidate → Prop}, (∃ c ∈ candidates, P c) →
      ∃ c ∈ candidates ++ [candidate], P c :=
    fun ⟨c, hc, hP⟩ => ⟨c, List.mem_append_left _ hc, hP⟩
  have hlast : candidate ∈ candidates ++ [candidate] :=
    List.mem_append_right _ List.mem_cons_self
  refine ⟨candidate, hcandidate, ?_⟩
  rcases h with ⟨reason, hreason, rfl⟩ | ⟨hreason, field, hfield, rfl⟩
  · refine ⟨hids, hnodup, ?_, fun x hx => hold (hstate.captured x hx), fun x hx => ?_⟩
    · show (state.captured.map (·.fieldId) ++
        (state.excluded ++ [exclusion candidate reason]).map (·.fieldId)).Perm
          (candidate.fieldId :: state.ids)
      rw [List.map_append, ← List.append_assoc]
      exact (List.perm_append_singleton _ _).trans (hstate.partition.cons _)
    · rcases List.mem_append.mp hx with hx | hx
      · exact hold (hstate.excluded x hx)
      · exact ⟨candidate, hlast, reason, hreason, List.mem_singleton.mp hx⟩
  · have hsame : field.fieldId = candidate.fieldId := captureCandidate_fieldId (hfield [])
    refine ⟨?_, ?_, ?_, fun x hx => ?_, fun x hx => hold (hstate.excluded x hx)⟩
    · show field.fieldId :: state.ids = _
      rw [hsame, hids]
    · show (field.fieldId :: state.ids).Nodup
      rw [hsame]
      exact hnodup
    · show ((state.captured ++ [field]).map (·.fieldId) ++ state.excluded.map (·.fieldId)).Perm
        (field.fieldId :: state.ids)
      rw [List.map_append, List.append_assoc]
      exact List.perm_middle.trans (hstate.partition.cons _)
    · rcases List.mem_append.mp hx with hx | hx
      · exact hold (hstate.captured x hx)
      · rw [List.mem_singleton.mp hx]
        exact ⟨candidate, hlast, hreason, hfield⟩

/-- **The run of the loop.** -/
theorem policy_run {includeFileMetadata : Bool} {input : List JsValue}
    {candidates : List RawFieldCandidate} {state state' : PolicyState}
    (hstate : state.Partition Q includeFileMetadata candidates)
    (h : replay (policyStep Q includeFileMetadata) state input = .ok state') : ∃ rest,
      List.Forall₂ (fun raw candidate => ∀ p, normalizeCandidate Q raw p = .ok candidate) input
        rest ∧ state'.Partition Q includeFileMetadata (candidates ++ rest) := by
  induction input generalizing candidates state with
  | nil =>
    obtain rfl := Except.ok.inj h
    exact ⟨[], .nil, by rwa [List.append_nil]⟩
  | cons raw input ih =>
    obtain ⟨next, hstep, hrest⟩ := replay_cons_ok.mp h
    obtain ⟨candidate, hcandidate, hnext⟩ := hstate.step hstep
    obtain ⟨rest, hinput, hlast⟩ := ih hnext hrest
    exact ⟨candidate :: rest, .cons hcandidate hinput, by rwa [List.append_cons]⟩

/-! ### The result -/

/-- A field of what is written. -/
theorem field_written {α : Type} {parse : JsValue → Text → Except ReceiptProtocolError α}
    {members : List (Text × JsValue)} (hkeys : distinctKeys members = true) {key : String} {x : α}
    {v : JsValue} (hv : member (ascii key) members = v) (h : ∀ q, parse v q = .ok x) (q : Text) :
    field parse key (definedMembers members) q = .ok x := by
  rw [field, member_definedMembers hkeys, hv]
  exact h _

theorem optionalField_written {α : Type} {parse : JsValue → Text → Except ReceiptProtocolError α}
    {write : α → JsValue} {members : List (Text × JsValue)} (hkeys : distinctKeys members = true)
    {key : String} {x : Option α} (hv : member (ascii key) members = writeOption write x)
    (hwrite : ∀ a, isUndefined (write a) = false)
    (h : ∀ a ∈ x, ∀ q, parse (write a) q = .ok a) (q : Text) :
    optionalField parse key (definedMembers members) q = .ok x := by
  rw [optionalField, hasOwn_definedMembers hkeys, hv]
  rcases x with - | a
  · rfl
  · rw [writeOption, hwrite, field_written hkeys hv (h a rfl)]
    rfl

theorem fieldControlType_again (type : FieldControlType) (q : Text) :
    parseEnum FIELD_CONTROL_TYPES fieldControlTypeText (writeEnum fieldControlTypeText type) q =
      .ok type := by
  rcases type with type | - | -
  · cases type <;> rfl
  · rfl
  · rfl

/-- **What is captured is parsed to itself.** -/
theorem captureCandidate_parses {includeFileMetadata : Bool} {candidate : RawFieldCandidate}
    {p : Text} {field : CapturedField} (hnormal : candidate.Normal Q)
    (hreason : exclusionReason Q includeFileMetadata candidate = none)
    (h : captureCandidate candidate p = .ok field) (q : Text) :
    parseCapturedField Q field.write q = .ok field := by
  have hhidden : ∀ name ∈ candidate.name, ¬(candidate.controlType = .value .hidden ∧
      isSensitiveHiddenFieldName Q name = true) := by
    rintro name hname ⟨htype, hsensitive⟩
    rw [exclusionReason] at hreason
    split_ifs at hreason with _ _ _ hnot
    all_goals exact hnot ⟨htype, name, hname, hsensitive⟩
  rw [captureCandidate] at h
  split at h
  · cases h
  · next name hname =>
    split at h
    · next htype =>
      obtain rfl := Except.ok.inj h
      refine parseCapturedField_eq_ok.mpr ⟨_, rfl, fun q => ⟨?_, ?_, ?_, ?_, ?_⟩⟩
      · exact field_written rfl rfl (fieldControlType_again .file) q
      · exact field_written rfl rfl hnormal.fieldId q
      · exact field_written rfl rfl (hnormal.name name hname) q
      · exact assertKeys_fits rfl q
      · exact field_written rfl rfl hnormal.files q
    · cases h
    · next type htype =>
      obtain rfl := Except.ok.inj h
      refine parseCapturedField_eq_ok.mpr ⟨_, rfl, fun q => ⟨?_, ?_, ?_, ?_, ?_, ?_⟩⟩
      · exact field_written rfl rfl (fieldControlType_again (.value type)) q
      · exact field_written rfl rfl hnormal.fieldId q
      · exact field_written rfl rfl (hnormal.name name hname) q
      · exact assertKeys_fits rfl q
      · exact field_written rfl rfl hnormal.values q
      · rintro ⟨rfl, hsensitive⟩
        exact hhidden name hname ⟨htype, hsensitive⟩

theorem exclusion_parses {candidate : RawFieldCandidate} (hnormal : candidate.Normal Q)
    (reason : ExclusionReason) (q : Text) :
    parseExcludedField Q (exclusion candidate reason).value q =
      .ok (exclusion candidate reason) := by
  refine parseExcludedField_eq_ok.mpr ⟨_, rfl, fun q => ⟨assertKeys_fits rfl q, ?_, ?_, ?_, ?_⟩⟩
  · exact field_written rfl rfl (fieldControlType_again candidate.controlType) q
  · exact field_written rfl rfl hnormal.fieldId q
  · exact optionalField_written rfl rfl (fun _ => rfl) hnormal.name q
  · refine field_written rfl rfl (fun q => ?_) q
    cases reason <;> rfl

/-- Items are parsed to one list. -/
theorem eq_of_forall₂_parse {α : Type} {parse : JsValue → Text → Except ReceiptProtocolError α}
    {items : List JsValue} {xs ys : List α}
    (hxs : List.Forall₂ (fun item x => ∀ q, parse item q = .ok x) items xs)
    (hys : List.Forall₂ (fun item x => ∀ q, parse item q = .ok x) items ys) : xs = ys := by
  induction hxs generalizing ys with
  | nil =>
    cases hys
    rfl
  | cons hfirst _ ih =>
    cases hys with
    | cons hfirst' hrest => rw [Except.ok.inj ((hfirst []).symm.trans (hfirst' [])), ih hrest]

/-- Fields that are parsed to themselves are only put in order. -/
theorem parseFields_written {α : Type} {parse : JsValue → Text → Except ReceiptProtocolError α}
    {write : α → JsValue} {key : α → FieldKey} (hparse : Pathless parse) {xs ys : List α}
    {p : Text} (hwritten : ∀ x ∈ xs, ∀ q, parse (write x) q = .ok x)
    (h : parseFields parse key (writeList write xs) p = .ok ys) : ys.Perm xs := by
  obtain ⟨items, parsed, hitems, hparsed, hperm, -, -⟩ := (parseFields_eq_ok hparse).mp h
  obtain rfl := JsValue.array.inj hitems
  have hsame : List.Forall₂ (fun item x => ∀ q, parse item q = .ok x) (xs.map write) xs := by
    rw [List.forall₂_map_left_iff, List.forall₂_same]
    exact hwritten
  rwa [eq_of_forall₂_parse hparsed hsame] at hperm

/-- Why a candidate without a reason is captured. -/
structure Capturable (Q : ReceiptPlatform) (includeFileMetadata : Bool)
    (candidate : RawFieldCandidate) : Prop where
  password : candidate.controlType ≠ .password
  explicitly : candidate.explicitlyExcluded ≠ some true
  autofill : isAutofillSecret Q candidate.autocomplete = false
  hidden : ¬(candidate.controlType = .value .hidden ∧
    ∃ name ∈ candidate.name, isSensitiveHiddenFieldName Q name = true)
  file : candidate.controlType = .file → includeFileMetadata = true

theorem exclusionReason_eq_none {includeFileMetadata : Bool} {candidate : RawFieldCandidate} :
    exclusionReason Q includeFileMetadata candidate = none ↔
      Capturable Q includeFileMetadata candidate := by
  rw [exclusionReason]
  constructor
  · intro h
    split_ifs at h with hexplicit hpassword hautofill hhidden hfile
    refine ⟨hpassword, hexplicit, ?_, hhidden, fun htype => ?_⟩
    · rwa [Bool.not_eq_true] at hautofill
    · rw [← Bool.not_eq_false]
      exact fun hnot => hfile ⟨htype, hnot⟩
  · rintro ⟨hpassword, hexplicit, hautofill, hhidden, hfile⟩
    rw [if_neg hexplicit, if_neg hpassword, hautofill, if_neg Bool.noConfusion, if_neg hhidden,
      if_neg]
    rintro ⟨htype, hnot⟩
    rw [hfile htype] at hnot
    cases hnot

/-- **The capture policy is safe.**  The candidates are those of the input,
normalized: each of their identifiers is that of one field, captured or
excluded, and no other is; what is excluded has no value and no file; what is
captured comes from a candidate that nothing forbids to capture; and the two
lists are parsed to themselves and have no identifier in common. -/
theorem applyCapturePolicy_safe {input : List JsValue} {includeFileMetadata : Bool}
    {result : CapturePolicyResult}
    (h : applyCapturePolicy Q input includeFileMetadata = .ok result) :
    ∃ candidates : List RawFieldCandidate,
      List.Forall₂ (fun raw candidate => ∀ p, normalizeCandidate Q raw p = .ok candidate) input
        candidates ∧
      (result.capturedFields.map (·.fieldId) ++ result.excludedFields.map (·.fieldId)).Perm
        (candidates.map (·.fieldId)) ∧
      (candidates.map (·.fieldId)).Nodup ∧
      (∀ field ∈ result.excludedFields, ∃ members, field.value = .object members ∧
        ∀ m ∈ members, m.1 ≠ ascii "values" ∧ m.1 ≠ ascii "files") ∧
      (∀ field ∈ result.capturedFields, ∃ candidate ∈ candidates,
        candidate.fieldId = field.fieldId ∧ candidate.controlType = field.controlType ∧
          candidate.name = some field.name ∧ Capturable Q includeFileMetadata candidate) ∧
      (∀ q, parseCapturedFields Q (writeList CapturedField.write result.capturedFields) q =
        .ok result.capturedFields) ∧
      (∀ q, parseExcludedFields Q (writeList ExcludedFieldDescriptor.value result.excludedFields)
        q = .ok result.excludedFields) ∧
      ∀ fieldId ∈ result.excludedFields.map (·.fieldId),
        fieldId ∉ result.capturedFields.map (·.fieldId) := by
  rw [applyCapturePolicy] at h
  simp only [bind_eq_ok] at h
  obtain ⟨state, hstate, captured, hcaptured, excluded, hexcluded, h⟩ := h
  obtain rfl := Except.ok.inj h
  have hinitial : PolicyState.initial.Partition Q includeFileMetadata [] :=
    ⟨rfl, List.nodup_nil, List.Perm.refl _, fun _ h => absurd h List.not_mem_nil,
      fun _ h => absurd h List.not_mem_nil⟩
  obtain ⟨candidates, hcandidates, hrun⟩ := policy_run hinitial hstate
  rw [List.nil_append] at hrun
  have hnormal : ∀ candidate ∈ candidates, candidate.Normal Q := by
    intro candidate hmem
    obtain ⟨_, -, hcandidate⟩ := exists_of_forall₂ hcandidates hmem
    exact normalizeCandidate_normal (hcandidate [])
  -- the two lists are those of the loop, in order
  have hperm : captured.Perm state.captured := by
    refine parseFields_written parseCapturedField_parses.anywhere (fun field hfield => ?_) hcaptured
    obtain ⟨candidate, hmem, hreason, hfield⟩ := hrun.captured field hfield
    exact captureCandidate_parses (hnormal candidate hmem) hreason (hfield [])
  have hperm' : excluded.Perm state.excluded := by
    refine parseFields_written parseExcludedField_parses.anywhere (fun field hfield => ?_) hexcluded
    obtain ⟨candidate, hmem, reason, -, rfl⟩ := hrun.excluded field hfield
    exact exclusion_parses (hnormal candidate hmem) reason
  have hids : (captured.map (·.fieldId) ++ excluded.map (·.fieldId)).Perm
      (candidates.map (·.fieldId)) := by
    refine (((hperm.map _).append (hperm'.map _)).trans hrun.partition).trans ?_
    rw [hrun.ids]
    exact List.reverse_perm _
  have hnodup : (candidates.map (·.fieldId)).Nodup := by
    rw [← List.nodup_reverse, ← hrun.ids]
    exact hrun.nodup
  refine ⟨candidates, hcandidates, hids, hnodup, fun field hfield => ?_, fun field hfield => ?_,
    parseCapturedFields_parses.again hcaptured, parseExcludedFields_parses.again hexcluded, ?_⟩
  · refine ⟨_, rfl, fun m hm => ?_⟩
    have hkeys : ∀ key ∈ ["controlType", "fieldId", "name", "reason"].map ascii,
        key ≠ ascii "values" ∧ key ≠ ascii "files" := by decide
    exact hkeys _ (List.mem_map_of_mem (f := Prod.fst) (mem_definedMembers.mp hm).1)
  · obtain ⟨candidate, hmem, hreason, hcapture⟩ := hrun.captured field (hperm.subset hfield)
    have hcapture := hcapture []
    refine ⟨candidate, hmem, (captureCandidate_fieldId hcapture).symm, ?_, ?_,
      exclusionReason_eq_none.mp hreason⟩
    all_goals
      rw [captureCandidate] at hcapture
      split at hcapture
      · cases hcapture
      · next hname =>
        split at hcapture
        · next htype =>
          obtain rfl := Except.ok.inj hcapture
          first | exact htype | exact hname
        · cases hcapture
        · next htype =>
          obtain rfl := Except.ok.inj hcapture
          first | exact htype | exact hname
  · intro fieldId hexcluded' hcaptured'
    exact List.disjoint_of_nodup_append (hids.nodup_iff.mpr hnodup) hcaptured' hexcluded'

/-- A text field, a password and a hidden token. -/
def sampleCandidates : List JsValue :=
  [record [(ascii "controlType", .string (ascii "TEXT")), (ascii "fieldId", .string (ascii "a")),
      (ascii "name", .string (ascii "n")), (ascii "values", .array [.string (ascii "x")])],
    record [(ascii "controlType", .string (ascii "PASSWORD")),
      (ascii "fieldId", .string (ascii "b")), (ascii "values", .array [.string (ascii "y")])],
    record [(ascii "controlType", .string (ascii "HIDDEN")), (ascii "fieldId", .string (ascii "c")),
      (ascii "name", .string (ascii "csrf_token"))]]

/-- What is captured and excluded of them. -/
def samplePolicy : CapturePolicyResult where
  capturedFields := [.value .text (ascii "a") (ascii "n") [ascii "x"]]
  excludedFields := [⟨.password, ascii "b", none, .password⟩,
    ⟨.value .hidden, ascii "c", some (ascii "csrf_token"), .sensitiveHiddenToken⟩]
  privacyFlags := ⟨false⟩

/-- The samples: the two lists have nothing in common and are parsed to
themselves. -/
theorem applyCapturePolicy_safe_sample :
    (∀ q, parseCapturedFields sampleReceiptPlatform
      (writeList CapturedField.write samplePolicy.capturedFields) q =
        .ok samplePolicy.capturedFields) ∧
    ∀ fieldId ∈ samplePolicy.excludedFields.map (·.fieldId),
      fieldId ∉ samplePolicy.capturedFields.map (·.fieldId) := by
  have hresult : applyCapturePolicy sampleReceiptPlatform sampleCandidates false =
      .ok samplePolicy := by decide +kernel
  obtain ⟨_, -, -, -, -, -, hcaptured, -, hdisjoint⟩ := applyCapturePolicy_safe hresult
  exact ⟨hcaptured, hdisjoint⟩

end results

end SubmittedIt.Protocol
