/-
SubmittedIt/FieldOrder.lean

The order of fields and of values (packages/receipt-core, schema.ts).

The parser of event cores sorts the captured and the excluded fields, whose
identifiers differ, so that their order in the input is of no matter; the
values of one field keep their order.

`Replaced R` says that two records have the same keys, and under each key the
same value or related ones; `Reordered` is the relation between lists of fields
in different orders.

Main result: `hashEventCore_fieldOrder`.
-/
import SubmittedIt.EventChains

namespace SubmittedIt.Protocol

open JsValue (member hasOwn)

/-! ### Records with other values -/

/-- The same keys, with the same values or related ones. -/
def Replaced (R : Text → JsValue → JsValue → Prop) :
    List (Text × JsValue) → List (Text × JsValue) → Prop :=
  List.Forall₂ fun m n => m.1 = n.1 ∧ (m.2 = n.2 ∨ R m.1 m.2 n.2)

/-- A permutation of one of the two lists of fields. -/
inductive Reordered : Text → JsValue → JsValue → Prop
  | captured {items items' : List JsValue} (h : items'.Perm items) :
    Reordered (ascii "capturedFields") (.array items) (.array items')
  | excluded {items items' : List JsValue} (h : items'.Perm items) :
    Reordered (ascii "excludedFields") (.array items) (.array items')

section replaced

variable {R : Text → JsValue → JsValue → Prop} {value value' : List (Text × JsValue)}

theorem Replaced.member (h : Replaced R value value') (key : Text) :
    member key value = member key value' ∨ R key (member key value) (member key value') := by
  induction h with
  | nil => exact .inl rfl
  | @cons m n rest rest' hmn _ ih =>
    obtain ⟨hkey, hvalue⟩ := hmn
    unfold JsValue.member
    rw [← hkey]
    split_ifs with hm
    · rw [← hm]
      exact hvalue
    · exact ih

theorem Replaced.keys (h : Replaced R value value') : value.map (·.1) = value'.map (·.1) := by
  induction h with
  | nil => rfl
  | cons hmn _ ih => rw [List.map_cons, List.map_cons, hmn.1, ih]

theorem Replaced.hasOwn (h : Replaced R value value') (key : Text) :
    hasOwn key value = hasOwn key value' := by
  have hany : ∀ members : List (Text × JsValue),
      JsValue.hasOwn key members = (members.map (·.1)).any fun k => decide (k = key) := by
    intro members
    rw [JsValue.hasOwn, List.any_map]
    rfl
  rw [hany, hany, h.keys]

/-- The same keys have values. -/
theorem Replaced.undefined (hR : ∀ {key v w}, R key v w → v ≠ .undefined ∧ w ≠ .undefined)
    (h : Replaced R value value') (key : Text) :
    JsValue.member key value = .undefined ↔ JsValue.member key value' = .undefined := by
  rcases h.member key with heq | hrelated
  · rw [heq]
  · exact iff_of_false (hR hrelated).1 (hR hrelated).2

theorem Replaced.assertKeys (hR : ∀ {key v w}, R key v w → v ≠ .undefined ∧ w ≠ .undefined)
    (h : Replaced R value value') {required optional : List String} {p : Text} {u : Unit}
    (hkeys : assertKeys value required optional p = .ok u) :
    assertKeys value' required optional p = .ok () := by
  obtain ⟨hknown, hrequired, hoptional⟩ := assertKeys_eq_ok.mp hkeys
  refine assertKeys_eq_ok.mpr ⟨fun m hm => ?_, fun key hkey => ?_, fun key hkey hown => ?_⟩
  · have hm : m.1 ∈ value.map (·.1) := h.keys ▸ List.mem_map_of_mem hm
    obtain ⟨n, hn, hnm⟩ := List.mem_map.mp hm
    exact hnm ▸ hknown n hn
  · exact fun hundefined => hrequired key hkey ((h.undefined hR _).mpr hundefined)
  · rw [← h.hasOwn] at hown
    exact fun hundefined => hoptional key hkey hown ((h.undefined hR _).mpr hundefined)

end replaced

/-! ### Permuted fields -/

section order

variable {Q : ReceiptPlatform} {value value' : List (Text × JsValue)}

theorem Reordered.defined {key : Text} {v w : JsValue} (h : Reordered key v w) :
    v ≠ .undefined ∧ w ≠ .undefined := by
  cases h <;> exact ⟨nofun, nofun⟩

theorem Reordered.symm {key : Text} {v w : JsValue} (h : Reordered key v w) :
    Reordered key w v := by
  cases h with
  | captured h => exact .captured h.symm
  | excluded h => exact .excluded h.symm

theorem Reordered.key {key : Text} {v w : JsValue} (h : Reordered key v w) :
    key = ascii "capturedFields" ∨ key = ascii "excludedFields" := by
  cases h with
  | captured _ => exact .inl rfl
  | excluded _ => exact .inr rfl

theorem Reordered.perm {key : Text} {v w : JsValue} (h : Reordered key v w) :
    ∃ items items', v = .array items ∧ w = .array items' ∧ items'.Perm items := by
  cases h with
  | captured h => exact ⟨_, _, rfl, rfl, h⟩
  | excluded h => exact ⟨_, _, rfl, rfl, h⟩

theorem Replaced.symm (h : Replaced Reordered value value') : Replaced Reordered value' value :=
  (List.Forall₂.imp (fun _ _ hmn => ⟨hmn.1.symm, hmn.2.imp Eq.symm fun hrelated =>
    hmn.1 ▸ hrelated.symm⟩) h).flip

/-- The other keys have the same values. -/
theorem Replaced.field {α : Type} {parse : JsValue → Text → Except ReceiptProtocolError α}
    (h : Replaced Reordered value value') {key : String}
    (hkey : ascii key ≠ ascii "capturedFields" ∧ ascii key ≠ ascii "excludedFields") (p : Text) :
    field parse key value' p = field parse key value p := by
  unfold Protocol.field
  rcases h.member (ascii key) with heq | hrelated
  · rw [heq]
  · rcases hrelated.key with h | h
    · exact absurd h hkey.1
    · exact absurd h hkey.2

/-- The lists of fields are parsed alike. -/
theorem Replaced.parseFields {α : Type} {parse : JsValue → Text → Except ReceiptProtocolError α}
    {fieldKey : α → FieldKey} (hparse : Pathless parse) (h : Replaced Reordered value value')
    {key : String} {p : Text} {xs : List α}
    (hvalue : Protocol.field (parseFields parse fieldKey) key value p = .ok xs) :
    Protocol.field (parseFields parse fieldKey) key value' p = .ok xs := by
  unfold Protocol.field at hvalue ⊢
  rcases h.member (ascii key) with heq | hrelated
  · rw [← heq]
    exact hvalue
  · obtain ⟨items, items', hitems, hitems', hperm⟩ := hrelated.perm
    rw [hitems] at hvalue
    rw [hitems']
    exact parseFields_perm hparse hvalue hperm _

theorem Replaced.fits (h : Replaced Reordered value value') {body : EventBody} {q : Text}
    (hbody : body.Fits Q value q) : body.Fits Q value' q := by
  rcases body with body | confirmation | acknowledgment
  · obtain ⟨hconsistent, hfields⟩ := parseAttemptedBody_eq_ok.mp hbody
    refine parseAttemptedBody_eq_ok.mpr ⟨hconsistent, fun q => ?_⟩
    obtain ⟨hkeys, h1, h2, h3, h4, h5, h6⟩ := hfields q
    refine ⟨h.assertKeys Reordered.defined hkeys, ?_, ?_, ?_, ?_, ?_, ?_⟩
    · exact h.parseFields parseCapturedField_parses.anywhere h1
    · exact h.parseFields parseExcludedField_parses.anywhere h2
    · rwa [h.field (by decide)]
    · rwa [h.field (by decide)]
    · rwa [h.field (by decide)]
    · rwa [h.field (by decide)]
  · refine ⟨h.assertKeys Reordered.defined hbody.1, ?_⟩
    rw [h.field (by decide)]
    exact hbody.2
  · refine ⟨h.assertKeys Reordered.defined hbody.1, ?_⟩
    rw [h.field (by decide)]
    exact hbody.2

/-- **Permuted fields give the same core.** -/
theorem parseEventCore_reordered (h : Replaced Reordered value value') {p : Text}
    {core : LifecycleEventCore} (hcore : parseEventCore Q (.object value) p = .ok core) :
    parseEventCore Q (.object value') p = .ok core := by
  obtain ⟨_, hobject, hfields⟩ := parseEventCore_eq_ok.mp hcore
  cases hobject
  refine parseEventCore_eq_ok.mpr ⟨value', rfl, fun q => ?_⟩
  obtain ⟨h1, h2, h3, h4, h5, h6⟩ := hfields q
  refine ⟨?_, ?_, ?_, ?_, ?_, h.fits h6⟩
  · rwa [h.field (by decide)]
  · rwa [h.field (by decide)]
  · rwa [h.field (by decide)]
  · rwa [h.field (by decide)]
  · rwa [h.field (by decide)]

end order

/-! ### The order of values -/

/-- An attempt without the values of one captured field. -/
structure ValuesContext where
  before : List (Text × JsValue)
  fieldsBefore : List JsValue
  membersBefore : List (Text × JsValue)
  membersAfter : List (Text × JsValue)
  fieldsAfter : List JsValue
  after : List (Text × JsValue)
  captured_free : ascii "capturedFields" ∉ before.map (·.1)
  values_free : ascii "values" ∉ membersBefore.map (·.1)

namespace ValuesContext

/-- The properties of the field with the values. -/
def fieldMembers (context : ValuesContext) (values : List Text) : List (Text × JsValue) :=
  context.membersBefore ++ (ascii "values", writeList .string values) :: context.membersAfter

def captured (context : ValuesContext) (values : List Text) : List JsValue :=
  context.fieldsBefore ++ .object (context.fieldMembers values) :: context.fieldsAfter

/-- The core with the values. -/
def core (context : ValuesContext) (values : List Text) : JsValue :=
  .object (context.before ++ (ascii "capturedFields", .array (context.captured values)) ::
    context.after)

end ValuesContext

theorem member_append {members : List (Text × JsValue)} {key : Text}
    (h : key ∉ members.map (·.1)) (rest : List (Text × JsValue)) :
    member key (members ++ rest) = member key rest := by
  induction members with
  | nil => rfl
  | cons m members ih =>
    rw [List.map_cons, List.mem_cons, not_or] at h
    show (if m.1 = key then m.2 else member key (members ++ rest)) = _
    rw [if_neg (Ne.symm h.1), ih h.2]

theorem member_append_cons {members : List (Text × JsValue)} {key : Text}
    (h : key ∉ members.map (·.1)) (v : JsValue) (rest : List (Text × JsValue)) :
    member key (members ++ (key, v) :: rest) = v := by
  rw [member_append h]
  exact if_pos rfl

/-- A key besides the one that is between the two parts. -/
theorem member_append_other {key other : Text} (h : other ≠ key) (v w : JsValue)
    (members rest : List (Text × JsValue)) :
    member key (members ++ (other, v) :: rest) = member key (members ++ (other, w) :: rest) := by
  induction members with
  | nil =>
    show (if other = key then v else member key rest) = if other = key then w else member key rest
    rw [if_neg h, if_neg h]
  | cons m members ih =>
    show (if m.1 = key then m.2 else member key (members ++ (other, v) :: rest)) =
      if m.1 = key then m.2 else member key (members ++ (other, w) :: rest)
    rw [ih]

section values

variable {Q : ReceiptPlatform}

theorem parseItems_string {values parsed : List Text}
    (h : List.Forall₂ (fun item x => ∀ q, normalizeOptionalText Q item q = .ok x)
      (values.map JsValue.string) parsed) :
    parsed = values.map (normalizeText Q.toTextPlatform) := by
  induction values generalizing parsed with
  | nil =>
    cases h
    rfl
  | cons value rest ih =>
    cases h with
    | cons hvalue hrest =>
      rw [List.map_cons, ih hrest]
      exact congrArg (· :: _) (Except.ok.inj (hvalue [])).symm

/-- **What a field with the values is parsed to**: a field with the values'
normal forms. -/
theorem ValuesContext.field_values (context : ValuesContext) {values : List Text}
    {x : CapturedField} {p : Text}
    (h : parseCapturedField Q (.object (context.fieldMembers values)) p = .ok x) :
    ∃ type fieldId name,
      x = .value type fieldId name (values.map (normalizeText Q.toTextPlatform)) := by
  obtain ⟨_, hobject, hfields⟩ := parseCapturedField_eq_ok.mp h
  cases hobject
  obtain ⟨-, -, -, hfits⟩ := hfields p
  rcases x with ⟨type, fieldId, name, parsed⟩ | ⟨fieldId, name, files⟩
  · obtain ⟨-, hvalues, -⟩ := hfits
    unfold Protocol.field at hvalues
    rw [fieldMembers, member_append_cons context.values_free] at hvalues
    obtain ⟨items, hitems, hparsed⟩ :=
      (parseList_eq_ok normalizeOptionalText_parses.anywhere).mp hvalues
    obtain rfl := JsValue.array.inj hitems
    exact ⟨type, fieldId, name, congrArg _ (parseItems_string hparsed)⟩
  · -- a file control has no values
    have hknown := (assertKeys_eq_ok.mp hfits.1).1 _
      (List.mem_append_right context.membersBefore List.mem_cons_self)
    exact absurd hknown (by decide : ascii "values" ∉ _)

/-- The identifier is that of the field without the values. -/
theorem ValuesContext.field_fieldId (context : ValuesContext) {values values' : List Text}
    {x y : CapturedField} {p q : Text}
    (hx : parseCapturedField Q (.object (context.fieldMembers values)) p = .ok x)
    (hy : parseCapturedField Q (.object (context.fieldMembers values')) q = .ok y) :
    x.fieldId = y.fieldId := by
  obtain ⟨_, hobject, hx⟩ := parseCapturedField_eq_ok.mp hx
  cases hobject
  obtain ⟨_, hobject, hy⟩ := parseCapturedField_eq_ok.mp hy
  cases hobject
  have hsame : field (normalizeNonEmptyText Q) "fieldId" (context.fieldMembers values) [] =
      field (normalizeNonEmptyText Q) "fieldId" (context.fieldMembers values') [] := by
    unfold Protocol.field ValuesContext.fieldMembers
    rw [member_append_other (by decide)]
  exact Except.ok.inj ((hx []).2.1.symm.trans (hsame.trans (hy []).2.1))

/-- A core with the values is an attempt that has the field. -/
theorem ValuesContext.mem_captured (context : ValuesContext) {values : List Text} {p : Text}
    {x : LifecycleEventCore} (h : parseEventCore Q (context.core values) p = .ok x) :
    ∃ body field, x.body = .attempted body ∧ field ∈ body.capturedFields ∧
      parseCapturedField Q (.object (context.fieldMembers values)) [] = .ok field ∧
      (body.capturedFields.map (·.fieldId)).Nodup := by
  obtain ⟨_, hobject, hfields⟩ := parseEventCore_eq_ok.mp h
  cases hobject
  obtain ⟨-, -, -, -, -, hfits⟩ := hfields p
  have hmem : (ascii "capturedFields", JsValue.array (context.captured values)) ∈
      context.before ++ (ascii "capturedFields", .array (context.captured values)) ::
        context.after := List.mem_append_right _ List.mem_cons_self
  rcases hbody : x.body with body | confirmation | acknowledgment
  · rw [hbody] at hfits
    obtain ⟨-, hparts⟩ := parseAttemptedBody_eq_ok.mp hfits
    obtain ⟨-, hcaptured, -⟩ := hparts p
    unfold Protocol.field at hcaptured
    rw [member_append_cons context.captured_free] at hcaptured
    obtain ⟨items, parsed, hitems, hparsed, hperm, -, hnodup⟩ :=
      (parseFields_eq_ok parseCapturedField_parses.anywhere).mp hcaptured
    obtain rfl := JsValue.array.inj hitems
    obtain ⟨field, hfield, hparse⟩ := exists_of_forall₂ hparsed.flip
      (List.mem_append_right context.fieldsBefore List.mem_cons_self)
    exact ⟨body, field, rfl, hperm.mem_iff.mpr hfield, hparse [], hnodup⟩
  · rw [hbody] at hfits
    exact absurd ((assertKeys_eq_ok.mp hfits.1).1 _ hmem) (by decide : ascii "capturedFields" ∉ _)
  · rw [hbody] at hfits
    exact absurd ((assertKeys_eq_ok.mp hfits.1).1 _ hmem) (by decide : ascii "capturedFields" ∉ _)

/-- **Other values give another core.** -/
theorem ValuesContext.core_ne (context : ValuesContext) {values values' : List Text} {p q : Text}
    {x y : LifecycleEventCore} (hx : parseEventCore Q (context.core values) p = .ok x)
    (hy : parseEventCore Q (context.core values') q = .ok y)
    (hne : values.map (normalizeText Q.toTextPlatform) ≠
      values'.map (normalizeText Q.toTextPlatform)) : x ≠ y := by
  rintro rfl
  obtain ⟨body, first, hbody, hfirst, hparse, hnodup⟩ := context.mem_captured hx
  obtain ⟨body', second, hbody', hsecond, hparse', -⟩ := context.mem_captured hy
  obtain rfl : body = body' := EventBody.attempted.inj (hbody.symm.trans hbody')
  -- the core has one field with this identifier
  have hsame : first = second :=
    List.inj_on_of_nodup_map hnodup hfirst hsecond (context.field_fieldId hparse hparse')
  obtain ⟨type, fieldId, name, hvalues⟩ := context.field_values hparse
  obtain ⟨type', fieldId', name', hvalues'⟩ := context.field_values hparse'
  rw [hvalues, hvalues'] at hsame
  exact hne (CapturedField.value.inj hsame).2.2.2

/-- The preimage of an accepted core. -/
theorem exists_preimage {v : JsValue} {p : Text} {core : LifecycleEventCore}
    (h : parseEventCore Q v p = .ok core) (domain : Text) :
    ∃ preimage, createDomainSeparatedPreimage Q.toTextPlatform domain core.value =
      .ok preimage := by
  obtain ⟨j, hj⟩ := parseEventCore_parses.canonical h
  exact ⟨_, createDomainSeparatedPreimage_eq_ok.mpr
    ⟨_, canonicalize_eq_ok.mpr ⟨j, hj, rfl⟩, rfl⟩⟩

/-- Different cores have different preimages. -/
theorem preimage_ne {v w : JsValue} {p q domain s t : Text} {x y : LifecycleEventCore}
    (hx : parseEventCore Q v p = .ok x) (hy : parseEventCore Q w q = .ok y) (hne : x ≠ y)
    (hs : createDomainSeparatedPreimage Q.toTextPlatform domain x.value = .ok s)
    (ht : createDomainSeparatedPreimage Q.toTextPlatform domain y.value = .ok t) : s ≠ t := by
  rintro rfl
  obtain ⟨text, htext, rfl⟩ := createDomainSeparatedPreimage_eq_ok.mp hs
  obtain ⟨text', htext', heq⟩ := createDomainSeparatedPreimage_eq_ok.mp ht
  obtain rfl : text = text' := (List.cons.inj (List.append_cancel_left heq)).2
  obtain ⟨j, hj, rfl⟩ := canonicalize_eq_ok.mp htext
  obtain ⟨j', hj', hjson⟩ := canonicalize_eq_ok.mp htext'
  exact hne (parseEventCore_parses.distinct hx hy
    ((canonical_eq_iff hj hj').mp (Json.stringify_injective hjson)))

end values

/-- **The order of fields and of values**: a core with its fields permuted is
accepted where the core is, and has the same hash; and cores that differ in the
values of one captured field, in their order for instance, have different
preimages if the values' normal forms differ. -/
theorem hashEventCore_fieldOrder (Q : ReceiptPlatform) (keccak256 : List UInt8 → HashHex)
    (p : Text) :
    (∀ value value' : List (Text × JsValue), Replaced Reordered value value' →
      ((∃ core, parseEventCore Q (.object value) p = .ok core) ↔
        ∃ core, parseEventCore Q (.object value') p = .ok core) ∧
      ∀ core core', parseEventCore Q (.object value) p = .ok core →
        parseEventCore Q (.object value') p = .ok core' →
          ∃ hash, hashEventCore Q keccak256 (.object value) = .ok hash ∧
            hashEventCore Q keccak256 (.object value') = .ok hash) ∧
    ∀ (context : ValuesContext) (values values' : List Text) (core core' : LifecycleEventCore),
      parseEventCore Q (context.core values) p = .ok core →
      parseEventCore Q (context.core values') p = .ok core' →
      values.map (normalizeText Q.toTextPlatform) ≠
        values'.map (normalizeText Q.toTextPlatform) →
      ∃ preimage preimage',
        createDomainSeparatedPreimage Q.toTextPlatform HashDomain.event.text core.value =
          .ok preimage ∧
        createDomainSeparatedPreimage Q.toTextPlatform HashDomain.event.text core'.value =
          .ok preimage' ∧ preimage ≠ preimage' := by
  refine ⟨fun value value' hreordered => ⟨⟨?_, ?_⟩, fun core core' hcore hcore' => ?_⟩, ?_⟩
  · exact fun ⟨core, hcore⟩ => ⟨core, parseEventCore_reordered hreordered hcore⟩
  · exact fun ⟨core, hcore⟩ => ⟨core, parseEventCore_reordered hreordered.symm hcore⟩
  · obtain rfl : core = core' :=
      Except.ok.inj ((parseEventCore_reordered hreordered hcore).symm.trans hcore')
    obtain ⟨preimage, hpreimage⟩ := exists_preimage hcore HashDomain.event.text
    have hhash : hashCanonical Q.toTextPlatform keccak256 HashDomain.event.text core.value =
        .ok (hashText (keccak256 (Utf8.encode preimage))) := by
      rw [hashCanonical, hpreimage]
      rfl
    exact ⟨_, (hashEventCore_eq hcore).trans hhash, (hashEventCore_eq hcore').trans hhash⟩
  · intro context values values' core core' hcore hcore' hne
    obtain ⟨s, hs⟩ := exists_preimage hcore HashDomain.event.text
    obtain ⟨t, ht⟩ := exists_preimage hcore' HashDomain.event.text
    exact ⟨s, t, hs, ht, preimage_ne hcore hcore' (context.core_ne hcore hcore' hne) hs ht⟩

/-- A core around the values of a text field. -/
def sampleContext : ValuesContext where
  before := (definedMembers sampleCore.members).take 4
  fieldsBefore := [(CapturedField.value .text (ascii "b") (ascii "n") []).write]
  membersBefore := [(ascii "controlType", writeEnum valueControlTypeText .text),
    (ascii "fieldId", .string (ascii "a")), (ascii "name", .string (ascii "n"))]
  membersAfter := []
  fieldsAfter := []
  after := (definedMembers sampleCore.members).drop 5
  captured_free := by decide
  values_free := by decide

/-- The core of the sample with its fields in a list's order. -/
def sampleOrder (fields : List JsValue) : List (Text × JsValue) :=
  sampleContext.before ++ (ascii "capturedFields", .array fields) :: sampleContext.after

/-- Two fields in both orders, and two values in both orders. -/
theorem hashEventCore_fieldOrder_sample :
    (∃ hash, hashEventCore sampleReceiptPlatform (fun _ => sampleHash)
        (.object (sampleOrder (sampleContext.captured []))) = .ok hash ∧
      hashEventCore sampleReceiptPlatform (fun _ => sampleHash)
        (.object (sampleOrder (sampleContext.captured []).reverse)) = .ok hash) ∧
    ∃ core core' preimage preimage',
      parseEventCore sampleReceiptPlatform
        (sampleContext.core [ascii "x", ascii "y"]) [] = .ok core ∧
      parseEventCore sampleReceiptPlatform
        (sampleContext.core [ascii "y", ascii "x"]) [] = .ok core' ∧
      createDomainSeparatedPreimage samplePlatform HashDomain.event.text core.value =
        .ok preimage ∧
      createDomainSeparatedPreimage samplePlatform HashDomain.event.text core'.value =
        .ok preimage' ∧ preimage ≠ preimage' := by
  have h := hashEventCore_fieldOrder sampleReceiptPlatform (fun _ => sampleHash) []
  have haccepted : ∀ v, (parseEventCore sampleReceiptPlatform v []).isOk = true →
      ∃ core, parseEventCore sampleReceiptPlatform v [] = .ok core := by
    intro v hv
    rcases hparsed : parseEventCore sampleReceiptPlatform v [] with e | core
    · rw [hparsed] at hv
      cases hv
    · exact ⟨core, rfl⟩
  constructor
  · have hreordered : Replaced Reordered (sampleOrder (sampleContext.captured []))
        (sampleOrder (sampleContext.captured []).reverse) :=
      List.rel_append (List.forall₂_same.mpr fun _ _ => ⟨rfl, .inl rfl⟩)
        (.cons ⟨rfl, .inr (.captured (List.reverse_perm _))⟩
          (List.forall₂_same.mpr fun _ _ => ⟨rfl, .inl rfl⟩))
    obtain ⟨core, hcore⟩ := haccepted (.object (sampleOrder (sampleContext.captured [])))
      (by decide +kernel)
    obtain ⟨core', hcore'⟩ :=
      haccepted (.object (sampleOrder (sampleContext.captured []).reverse)) (by decide +kernel)
    exact (h.1 _ _ hreordered).2 core core' hcore hcore'
  · obtain ⟨core, hcore⟩ := haccepted (sampleContext.core [ascii "x", ascii "y"])
      (by decide +kernel)
    obtain ⟨core', hcore'⟩ := haccepted (sampleContext.core [ascii "y", ascii "x"])
      (by decide +kernel)
    obtain ⟨preimage, preimage', hpreimage, hpreimage', hne⟩ :=
      h.2 sampleContext _ _ core core' hcore hcore' (by decide)
    exact ⟨core, core', preimage, preimage', hcore, hcore', hpreimage, hpreimage', hne⟩

end SubmittedIt.Protocol
