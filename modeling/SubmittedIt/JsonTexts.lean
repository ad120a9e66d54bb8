/-
SubmittedIt/JsonTexts.lean

What `JSON.stringify` writes of a value, and what is read of it again.

A canonical text has the properties of an object in an order of its own;
`JSON.stringify` alone writes them in the order of their enumeration and leaves
out those that are `undefined`.  `Tidy v` says that nothing of `v` is left out or
moved, and the numbers of a value with a canonical form are safe integers.

Main results: `jsonText_tidy`, and `LifecycleEventEnvelope.tidy` with the
lemmas of its parts.
-/
import SubmittedIt.Encoding
import SubmittedIt.EnvelopeSchema

namespace SubmittedIt.Protocol

open JsValue (arrayIndex Enumerated ownProperties)

/-! ### What is written -/

mutual

/-- The data that `JSON.stringify` writes of a value; none where it writes
nothing, or a number that is not a safe integer. -/
def toJson : JsValue → Option Json
  | .null => some .null
  | .boolean value => some (.boolean value)
  | .number value => if isSafeInteger value then some (.number (safeInteger value)) else none
  | .string text => some (.string text)
  | .array items => (toJsonItems items).map .array
  | .object members => (toJsonMembers members).map fun data => .object (ownProperties data)
  | .undefined | .other _ => none

/-- In an array what is `undefined` is written as `null`. -/
def toJsonItems : List JsValue → Option (List Json)
  | [] => some []
  | .undefined :: rest => (toJsonItems rest).map (.null :: ·)
  | item :: rest => (toJson item).bind fun data => (toJsonItems rest).map (data :: ·)

def toJsonMembers : List (Text × JsValue) → Option (List (Text × Json))
  | [] => some []
  | (_, .undefined) :: rest => toJsonMembers rest
  | (key, item) :: rest =>
    (toJson item).bind fun data => (toJsonMembers rest).map ((key, data) :: ·)

end

/-- `JSON.stringify`. -/
def jsonText (value : JsValue) : Option Text := (toJson value).map Json.stringify

/-! ### What is written as it is -/

mutual

/-- Nothing of the value is left out or moved. -/
def Tidy : JsValue → Prop
  | .null | .boolean _ | .string _ => True
  | .number value => value ≠ .negativeZero
  | .array items => TidyItems items
  | .object members => (members.map (·.1)).Nodup ∧ Enumerated members ∧ TidyMembers members
  | .undefined | .other _ => False

def TidyItems : List JsValue → Prop
  | [] => True
  | item :: rest => Tidy item ∧ TidyItems rest

def TidyMembers : List (Text × JsValue) → Prop
  | [] => True
  | m :: rest => Tidy m.2 ∧ TidyMembers rest

end

section texts

variable {Q : TextPlatform}

theorem Tidy.ne_undefined {v : JsValue} (h : Tidy v) : v ≠ .undefined := by
  rintro rfl
  exact h

theorem toJsonItems_cons {item : JsValue} {rest : List JsValue} (h : item ≠ .undefined) :
    toJsonItems (item :: rest) =
      (toJson item).bind fun data => (toJsonItems rest).map (data :: ·) := by
  rw [toJsonItems]
  exact h

theorem toJsonMembers_cons {key : Text} {item : JsValue} {rest : List (Text × JsValue)}
    (h : item ≠ .undefined) : toJsonMembers ((key, item) :: rest) =
      (toJson item).bind fun data => (toJsonMembers rest).map ((key, data) :: ·) := by
  rw [toJsonMembers]
  exact h

/-- Members that are in order and of different names stay so whatever their
values are. -/
theorem proper_of_keys {members : List (Text × JsValue)} {data : List (Text × Json)}
    (hkeys : data.map (·.1) = members.map (·.1)) (hordered : Enumerated members) :
    Enumerated data := by
  have hnames : ∀ {α : Type} (l : List (Text × α)), Enumerated l ↔ (l.map (·.1)).Pairwise
      fun a b => ∀ j, arrayIndex b = some j → ∃ i, arrayIndex a = some i ∧ i ≤ j := by
    intro α l
    rw [Enumerated, List.pairwise_map]
  rw [hnames, hkeys, ← hnames]
  exact hordered

mutual

/-- **The data of a tidy value** is that value. -/
theorem toJson_tidy (v : JsValue) {j : Json} (h : Tidy v) (hcanonical : Canonical Q v j) :
    ∃ data, toJson v = some data ∧ JsValue.Proper data ∧ JsValue.ofJson data = v := by
  cases v with
  | undefined | other => exact h.elim
  | null => exact ⟨.null, rfl, trivial, rfl⟩
  | boolean value => exact ⟨.boolean value, rfl, trivial, rfl⟩
  | string text => exact ⟨.string text, rfl, trivial, rfl⟩
  | number value =>
    obtain ⟨hsafe, -⟩ := hcanonical
    cases value with
    | integer n => exact ⟨.number n, if_pos hsafe, trivial, rfl⟩
    | negativeZero => exact absurd rfl h
    | other => cases hsafe
  | array items =>
    obtain ⟨values, -, hvalues⟩ := hcanonical
    obtain ⟨data, hdata, hproper, hitems⟩ := toJsonItems_tidy items h hvalues
    refine ⟨.array data, ?_, hproper, ?_⟩
    · rw [toJson, hdata]
      rfl
    · rw [JsValue.ofJson, hitems]
  | object members =>
    obtain ⟨hnodup, hordered, hmembers⟩ := h
    obtain ⟨values, -, hvalues, -⟩ := hcanonical
    obtain ⟨data, hdata, hproper, hgiven⟩ := toJsonMembers_tidy members hmembers hvalues
    have hkeys : data.map (·.1) = members.map (·.1) := by
      rw [← hgiven, JsValue.ofMembers_eq, List.map_map]
      rfl
    have hdataOrdered := proper_of_keys hkeys hordered
    refine ⟨.object data, ?_, ⟨hkeys ▸ hnodup, hdataOrdered, hproper⟩, ?_⟩
    · rw [toJson, hdata, Option.map_some, JsValue.ownProperties_eq hdataOrdered]
    · rw [JsValue.ofJson, hgiven]

theorem toJsonItems_tidy (items : List JsValue) {values : List Json} (h : TidyItems items)
    (hcanonical : CanonicalItems Q items values) : ∃ data, toJsonItems items = some data ∧
      JsValue.ProperItems data ∧ JsValue.ofItems data = items := by
  cases items with
  | nil => exact ⟨[], rfl, trivial, rfl⟩
  | cons item rest =>
    obtain ⟨hitem, hrest⟩ := h
    obtain ⟨value, values', -, hvalue, hvalues⟩ := hcanonical
    obtain ⟨first, hfirst, hproper, hback⟩ := toJson_tidy item hitem hvalue
    obtain ⟨others, hothers, hothersProper, hothersBack⟩ := toJsonItems_tidy rest hrest hvalues
    refine ⟨first :: others, ?_, ⟨hproper, hothersProper⟩, ?_⟩
    · rw [toJsonItems_cons hitem.ne_undefined, hfirst, hothers]
      rfl
    · rw [JsValue.ofItems, hback, hothersBack]

theorem toJsonMembers_tidy (members : List (Text × JsValue)) {values : List (Text × Json)}
    (h : TidyMembers members) (hcanonical : CanonicalMembers Q members values) :
    ∃ data, toJsonMembers members = some data ∧ JsValue.ProperMembers data ∧
      JsValue.ofMembers data = members := by
  cases members with
  | nil => exact ⟨[], rfl, trivial, rfl⟩
  | cons m rest =>
    obtain ⟨key, item⟩ := m
    obtain ⟨hitem, hrest⟩ := h
    obtain ⟨value, values', -, hvalue, hvalues⟩ :=
      (canonicalMembers_cons (Tidy.ne_undefined hitem)).mp hcanonical
    obtain ⟨first, hfirst, hproper, hback⟩ := toJson_tidy item hitem hvalue
    obtain ⟨others, hothers, hothersProper, hothersBack⟩ :=
      toJsonMembers_tidy rest hrest hvalues
    refine ⟨(key, first) :: others, ?_, ⟨hproper, hothersProper⟩, ?_⟩
    · rw [toJsonMembers_cons (Tidy.ne_undefined hitem), hfirst, hothers]
      rfl
    · rw [JsValue.ofMembers, hback, hothersBack]

end

/-- **What is written of a tidy value denotes it**, also from its bytes. -/
theorem jsonText_tidy {v : JsValue} {j : Json} (h : Tidy v) (hcanonical : Canonical Q v j) :
    ∃ text, jsonText v = some text ∧ utf8Text (utf8Bytes text) = some text ∧
      JsValue.parse text = some v := by
  obtain ⟨data, hdata, hproper, hback⟩ := toJson_tidy v h hcanonical
  have hmark : (Json.stringify data).head? ≠ some 0xFEFF := by
    have hkind : data.kind < 8 := by
      rcases data with - | (- | -) | (- | -) | - | - | - <;> simp [Json.kind]
    obtain ⟨u, rest, htext, hu⟩ := Json.stringify_lead data
    rw [htext]
    intro hfirst
    obtain rfl := Option.some.inj hfirst
    rw [← hu] at hkind
    exact absurd hkind (by decide)
  refine ⟨Json.stringify data, ?_, utf8Text_utf8Bytes (Utf8.wellFormed_stringify data) hmark, ?_⟩
  · rw [jsonText, hdata]
    rfl
  · rw [JsValue.parse_stringify hproper, hback]

end texts

/-! ### Records -/

/-- The names are different and no array indices. -/
def tidyNames (members : List (Text × JsValue)) : Bool :=
  distinctKeys members && members.all fun m => (arrayIndex m.1).isNone

/-- Each value is tidy, where there is one. -/
def TidyAll : List (Text × JsValue) → Prop
  | [] => True
  | m :: rest => (m.2 = .undefined ∨ Tidy m.2) ∧ TidyAll rest

theorem tidyAll_append {first second : List (Text × JsValue)} (hfirst : TidyAll first)
    (hsecond : TidyAll second) : TidyAll (first ++ second) := by
  induction first with
  | nil => exact hsecond
  | cons m rest ih => exact ⟨hfirst.1, ih hfirst.2⟩

theorem tidyMembers_definedMembers {members : List (Text × JsValue)} (h : TidyAll members) :
    TidyMembers (definedMembers members) := by
  induction members with
  | nil => exact trivial
  | cons m rest ih =>
    obtain ⟨key, item⟩ := m
    obtain ⟨hitem, hrest⟩ := h
    by_cases hundefined : item = .undefined
    · subst hundefined
      exact ih hrest
    · have hdefined : definedMembers ((key, item) :: rest) =
          (key, item) :: definedMembers rest := by
        refine List.filter_cons_of_pos ?_
        rw [Bool.not_eq_true', ← Bool.not_eq_true, isUndefined_iff]
        exact hundefined
      rw [hdefined]
      exact ⟨hitem.resolve_left hundefined, ih hrest⟩

/-- Names that are no array indices are in the order of enumeration. -/
theorem enumerated_of_words {members : List (Text × JsValue)}
    (h : ∀ m ∈ members, arrayIndex m.1 = none) : Enumerated members := by
  apply List.pairwise_iff_forall_sublist.mpr
  intro a b hab j hj
  have hb := h b (hab.subset (List.mem_cons_of_mem a List.mem_cons_self))
  rw [hj] at hb
  cases hb

theorem tidyNames_spec {members : List (Text × JsValue)} (h : tidyNames members = true) :
    (members.map (·.1)).Nodup ∧ ∀ m ∈ members, arrayIndex m.1 = none := by
  rw [tidyNames, Bool.and_eq_true, List.all_eq_true] at h
  exact ⟨nodup_of_distinctKeys h.1, fun m hm => Option.isNone_iff_eq_none.mp (h.2 m hm)⟩

/-- **Objects and records are tidy where their values are.** -/
theorem tidy_object {members : List (Text × JsValue)} (hnames : tidyNames members = true)
    (h : TidyMembers members) : Tidy (.object members) := by
  obtain ⟨hnodup, hwords⟩ := tidyNames_spec hnames
  exact ⟨hnodup, enumerated_of_words hwords, h⟩

theorem tidy_record {members : List (Text × JsValue)} (hnames : tidyNames members = true)
    (h : TidyAll members) : Tidy (record members) := by
  obtain ⟨hnodup, hwords⟩ := tidyNames_spec hnames
  have hsublist : (definedMembers members).Sublist members := List.filter_sublist
  refine ⟨hnodup.sublist (hsublist.map _), ?_, tidyMembers_definedMembers h⟩
  exact enumerated_of_words fun m hm => hwords m (hsublist.subset hm)

theorem tidy_string (text : Text) : Tidy (.string text) := trivial

theorem tidy_writeNat (n : Nat) : Tidy (writeNat n) := by
  show JsNumber.integer n ≠ .negativeZero
  exact fun h => JsNumber.noConfusion h

theorem tidy_writeOption {α : Type} {write : α → JsValue} (h : ∀ x, Tidy (write x))
    (x : Option α) : writeOption write x = .undefined ∨ Tidy (writeOption write x) := by
  cases x with
  | none => exact .inl rfl
  | some x => exact .inr (h x)

theorem tidy_writeList {α : Type} {write : α → JsValue} (h : ∀ x, Tidy (write x))
    (xs : List α) : Tidy (writeList write xs) := by
  show TidyItems (xs.map write)
  induction xs with
  | nil => exact trivial
  | cons x rest ih => exact ⟨h x, ih⟩

/-! ### Events -/

theorem CapturedFileMetadata.tidy (file : CapturedFileMetadata) : Tidy file.value :=
  tidy_record rfl ⟨tidy_writeOption tidy_string _, tidy_writeOption tidy_string _,
    .inr (tidy_string _), .inr (tidy_writeNat _), trivial⟩

theorem CapturedField.tidy (field : CapturedField) : Tidy field.write := by
  cases field with
  | value controlType fieldId name values =>
    exact tidy_record rfl ⟨.inr (tidy_string _), .inr (tidy_string _), .inr (tidy_string _),
      .inr (tidy_writeList tidy_string _), trivial⟩
  | file fieldId name files =>
    exact tidy_record rfl ⟨.inr (tidy_string _), .inr (tidy_string _), .inr (tidy_string _),
      .inr (tidy_writeList CapturedFileMetadata.tidy _), trivial⟩

theorem ExcludedFieldDescriptor.tidy (field : ExcludedFieldDescriptor) : Tidy field.value :=
  tidy_record rfl ⟨.inr (tidy_string _), .inr (tidy_string _), tidy_writeOption tidy_string _,
    .inr (tidy_string _), trivial⟩

theorem FormDescriptor.tidy (descriptor : FormDescriptor) : Tidy descriptor.value :=
  tidy_record rfl ⟨.inr (tidy_string _), .inr (tidy_string _), tidy_writeOption tidy_string _,
    tidy_writeOption tidy_string _, .inr (tidy_string _), trivial⟩

theorem OriginDescriptor.tidy (descriptor : OriginDescriptor) : Tidy descriptor.value :=
  tidy_record rfl ⟨.inr (tidy_string _), .inr (tidy_string _), trivial⟩

theorem PrivacyFlags.tidy (flags : PrivacyFlags) : Tidy flags.value :=
  tidy_record rfl ⟨.inr trivial, .inr trivial, .inr trivial, trivial⟩

theorem SubmissionAttempt.tidy (attempt : SubmissionAttempt) : Tidy attempt.value :=
  tidy_record rfl ⟨.inr (tidy_string _), .inr (tidy_string _), .inr (tidy_string _),
    .inr (tidy_string _), trivial⟩

theorem SiteConfirmation.tidy (confirmation : SiteConfirmation) : Tidy confirmation.value :=
  tidy_record rfl ⟨.inr (tidy_string _), tidy_writeOption tidy_string _, .inr (tidy_string _),
    tidy_writeOption tidy_string _, trivial⟩

theorem AuthorityAcknowledgment.tidy (acknowledgment : AuthorityAcknowledgment) :
    Tidy acknowledgment.value :=
  tidy_record rfl ⟨.inr (tidy_string _), .inr (tidy_string _), .inr (tidy_string _),
    tidy_writeOption tidy_string _, tidy_writeOption tidy_string _, trivial⟩

/-- The properties that depend on the stage. -/
theorem EventBody.tidy (body : EventBody) : TidyAll body.members := by
  cases body with
  | attempted body =>
    exact ⟨.inr (tidy_writeList CapturedField.tidy _),
      .inr (tidy_writeList ExcludedFieldDescriptor.tidy _), .inr body.formDescriptor.tidy,
      .inr body.origin.tidy, .inr body.privacyFlags.tidy, .inr (tidy_string _),
      .inr body.submissionAttempt.tidy, trivial⟩
  | siteConfirmed confirmation => exact ⟨.inr confirmation.tidy, .inr (tidy_string _), trivial⟩
  | authority acknowledgment => exact ⟨.inr acknowledgment.tidy, .inr (tidy_string _), trivial⟩

theorem LifecycleEventCore.tidy (core : LifecycleEventCore) : Tidy core.value := by
  refine tidy_record ?_ (tidyAll_append ?_ core.body.tidy)
  · obtain ⟨occurredAt, previousEventHash, receiptId, schemaVersion, body⟩ := core
    cases body with
    | attempted | siteConfirmed | authority => rfl
  · exact ⟨.inr (tidy_string _), .inr (tidy_string _), .inr (tidy_string _),
      .inr (tidy_string _), trivial⟩

theorem PublicKeyDescriptor.tidy (key : PublicKeyDescriptor) : Tidy key.write :=
  tidy_record rfl ⟨.inr (tidy_string _), .inr (tidy_string _), .inr (tidy_string _),
    .inr (tidy_string _), trivial⟩

theorem SignatureEnvelope.tidy (envelope : SignatureEnvelope) : Tidy envelope.value :=
  tidy_record rfl ⟨.inr (tidy_string _), .inr (tidy_string _), .inr (tidy_string _),
    .inr (tidy_string _), .inr (tidy_string _), .inr (tidy_string _), trivial⟩

theorem ChainAnchorMetadata.tidy (anchor : ChainAnchorMetadata) : Tidy anchor.value :=
  tidy_record rfl ⟨.inr (tidy_string _), .inr (tidy_string _), .inr (tidy_writeNat _),
    .inr (tidy_string _), .inr (tidy_string _), trivial⟩

/-- **An event is written as it is.** -/
theorem LifecycleEventEnvelope.tidy (event : LifecycleEventEnvelope) : Tidy event.value :=
  tidy_record rfl ⟨tidy_writeOption SignatureEnvelope.tidy _,
    tidy_writeOption ChainAnchorMetadata.tidy _, .inr event.core.tidy, .inr (tidy_string _),
    tidy_writeOption SignatureEnvelope.tidy _, trivial⟩

end SubmittedIt.Protocol
