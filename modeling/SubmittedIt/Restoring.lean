/-
SubmittedIt/Restoring.lean

What canonical texts are parsed to.

`Restored v w` says that `w` is what `JSON.parse` makes of the canonical text
of `v`: texts and keys are normalized, properties that are `undefined` are gone
and the others stand in another order.  A parser is `Stable` if what it returns
of a value it returns of that value restored too.  The leaves are stable, since
they normalize texts themselves or accept only texts that are normal, and
records are, since they are read by their keys.

Main results: `parseEventEnvelope_stable` and `parseReceiptStructure_stable`.
-/
import SubmittedIt.EventChains

namespace SubmittedIt.Protocol

open JsValue (member hasOwn)

open Extension (VerificationCheckName VerificationCheckResult VerificationResult
  DerivedReceiptStatus)

/-! ### Values and their canonical texts -/

/-- What the canonical text of `v` is parsed to. -/
def Restored (Q : ReceiptPlatform) (v w : JsValue) : Prop :=
  ∃ j, Canonical Q.toTextPlatform v j ∧ w = JsValue.ofJson j

/-- What the parser returns of a value it returns of the value restored. -/
def Stable (Q : ReceiptPlatform) {α : Type} (f : JsValue → Text → Except ReceiptProtocolError α) :
    Prop :=
  ∀ ⦃v w p x⦄, Restored Q v w → f v p = .ok x → f w p = .ok x

section restoring

variable {Q : ReceiptPlatform}

theorem restored_string {text : Text} {w : JsValue} :
    Restored Q (.string text) w ↔ w = .string (normalizeText Q.toTextPlatform text) := by
  constructor
  · rintro ⟨_, rfl, rfl⟩
    rfl
  · rintro rfl
    exact ⟨_, rfl, rfl⟩

/-- Normal texts are restored as they are. -/
theorem restored_normal {text : Text} (h : normalizeText Q.toTextPlatform text = text)
    {w : JsValue} (hw : Restored Q (.string text) w) : w = .string text := by
  rw [restored_string.mp hw, h]

theorem restored_visible {text : Text} (h : isVisible text = true) {w : JsValue}
    (hw : Restored Q (.string text) w) : w = .string text :=
  restored_normal (normalizeText_visible h) hw

theorem restored_null {w : JsValue} : Restored Q .null w ↔ w = .null := by
  constructor
  · rintro ⟨_, rfl, rfl⟩
    rfl
  · rintro rfl
    exact ⟨_, rfl, rfl⟩

theorem restored_boolean {b : Bool} {w : JsValue} :
    Restored Q (.boolean b) w ↔ w = .boolean b := by
  constructor
  · rintro ⟨_, rfl, rfl⟩
    rfl
  · rintro rfl
    exact ⟨_, rfl, rfl⟩

theorem restored_number {n : JsNumber} {w : JsValue} (h : Restored Q (.number n) w) :
    isSafeInteger n = true ∧ w = .number (.integer (safeInteger n)) := by
  obtain ⟨_, ⟨hsafe, rfl⟩, rfl⟩ := h
  exact ⟨hsafe, rfl⟩

/-- The items of an array are restored one by one. -/
theorem restored_array {items : List JsValue} {w : JsValue} (h : Restored Q (.array items) w) :
    ∃ items', w = .array items' ∧ List.Forall₂ (Restored Q) items items' := by
  obtain ⟨_, ⟨values, rfl, hvalues⟩, rfl⟩ := h
  refine ⟨JsValue.ofItems values, rfl, ?_⟩
  induction items generalizing values with
  | nil =>
    obtain rfl : values = [] := hvalues
    exact .nil
  | cons item rest ih =>
    obtain ⟨value, values', rfl, hvalue, hrest⟩ := hvalues
    exact .cons ⟨value, hvalue, rfl⟩ (ih values' hrest)

theorem restored_ne_undefined {v w : JsValue} (h : Restored Q v w) :
    v ≠ .undefined ∧ w ≠ .undefined := by
  obtain ⟨j, hj, rfl⟩ := h
  refine ⟨?_, ofJson_ne_undefined j⟩
  rintro rfl
  exact hj

/-! ### Properties -/

/-- What the properties of an object are restored to. -/
structure RestoredMembers (Q : ReceiptPlatform) (value props : List (Text × JsValue)) : Prop where
  kept : ∀ {m}, m ∈ value → m.2 ≠ .undefined →
    ∃ w, Restored Q m.2 w ∧ (normalizeText Q.toTextPlatform m.1, w) ∈ props
  given : ∀ {n}, n ∈ props →
    ∃ m ∈ value, normalizeText Q.toTextPlatform m.1 = n.1 ∧ Restored Q m.2 n.2
  nodup : (props.map (·.1)).Nodup

/-- **The object that a canonical text is parsed to.** -/
theorem restored_object {value : List (Text × JsValue)} {w : JsValue}
    (h : Restored Q (.object value) w) :
    ∃ props, w = .object props ∧ RestoredMembers Q value props := by
  obtain ⟨_, ⟨values, sorted, hvalues, hnodup, hperm, -, rfl⟩, rfl⟩ := h
  have hown := (JsValue.perm_ownProperties sorted).trans hperm
  refine ⟨_, rfl, ?_⟩
  rw [JsValue.ofMembers_eq]
  refine ⟨fun {m} hm hdefined => ?_, fun {n} hn => ?_, ?_⟩
  · obtain ⟨j, hj, hmem⟩ := exists_mem_canonicalMembers hvalues hm hdefined
    exact ⟨_, ⟨j, hj, rfl⟩, List.mem_map.mpr ⟨_, hown.mem_iff.mpr hmem, rfl⟩⟩
  · obtain ⟨c, hc, rfl⟩ := List.mem_map.mp hn
    obtain ⟨m, hm, -, hkey, hj⟩ := exists_of_mem_canonicalMembers hvalues (hown.mem_iff.mp hc)
    exact ⟨m, hm, hkey, _, hj, rfl⟩
  · rw [List.map_map]
    exact (hown.map _).nodup_iff.mpr hnodup

/-- What a record with the keys of a schema is restored to. -/
structure RestoredRecord (Q : ReceiptPlatform) (required optional : List String)
    (value props : List (Text × JsValue)) : Prop where
  keys : ∀ q, assertKeys props required optional q = .ok ()
  required : ∀ key ∈ required,
    Restored Q (member (ascii key) value) (member (ascii key) props)
  optional : ∀ key ∈ optional, hasOwn (ascii key) props = hasOwn (ascii key) value ∧
    (hasOwn (ascii key) value = true →
      Restored Q (member (ascii key) value) (member (ascii key) props))

theorem hasOwn_iff {key : Text} {value : List (Text × JsValue)} :
    hasOwn key value = true ↔ ∃ m ∈ value, m.1 = key := by
  simp [hasOwn]

/-- A value under a visible key is found under it again. -/
theorem RestoredMembers.found {value props : List (Text × JsValue)}
    (h : RestoredMembers Q value props) {key : Text} (hkey : isVisible key = true)
    (hdefined : member key value ≠ .undefined) :
    Restored Q (member key value) (member key props) := by
  obtain ⟨w, hw, hmem⟩ := h.kept (mem_of_member hdefined) hdefined
  rw [normalizeText_visible hkey] at hmem
  rw [show member key props = w from member_eq_of_mem h.nodup hmem]
  exact hw

/-- **Records with the keys of a schema have them again.** -/
theorem RestoredMembers.record {value props : List (Text × JsValue)}
    (h : RestoredMembers Q value props) {required optional : List String} {p : Text} {u : Unit}
    (hkeys : assertKeys value required optional p = .ok u)
    (hvisible : ((required ++ optional).map ascii).all isVisible = true) :
    RestoredRecord Q required optional value props := by
  obtain ⟨hallowed, hrequired, hoptional⟩ := assertKeys_eq_ok.mp hkeys
  have hnormal : ∀ m ∈ value, normalizeText Q.toTextPlatform m.1 = m.1 := fun m hm =>
    normalizeText_visible (List.all_eq_true.mp hvisible _ (hallowed m hm))
  have hkey : ∀ key ∈ required ++ optional, isVisible (ascii key) = true := fun key hmem =>
    List.all_eq_true.mp hvisible _ (List.mem_map_of_mem hmem)
  have hown : ∀ key, hasOwn key props = true → hasOwn key value = true := by
    intro key hown
    obtain ⟨n, hn, rfl⟩ := hasOwn_iff.mp hown
    obtain ⟨m, hm, hname, -⟩ := h.given hn
    exact hasOwn_iff.mpr ⟨m, hm, (hnormal m hm).symm.trans hname⟩
  have hfound : ∀ key ∈ required ++ optional, member (ascii key) value ≠ .undefined →
      Restored Q (member (ascii key) value) (member (ascii key) props) :=
    fun key hmem => h.found (hkey key hmem)
  have hagain : ∀ key ∈ required ++ optional, member (ascii key) value ≠ .undefined →
      member (ascii key) props ≠ .undefined := fun key hmem hdefined =>
    (restored_ne_undefined (hfound key hmem hdefined)).2
  refine ⟨fun q => assertKeys_eq_ok.mpr ⟨fun n hn => ?_, fun key hmem => ?_, ?_⟩,
    fun key hmem => ?_, fun key hmem => ⟨?_, fun hvalue => ?_⟩⟩
  · obtain ⟨m, hm, hname, -⟩ := h.given hn
    rw [← hname, hnormal m hm]
    exact hallowed m hm
  · exact hagain key (List.mem_append_left _ hmem) (hrequired key hmem)
  · intro key hmem hprops
    exact hagain key (List.mem_append_right _ hmem) (hoptional key hmem (hown _ hprops))
  · exact hfound key (List.mem_append_left _ hmem) (hrequired key hmem)
  · rw [Bool.eq_iff_iff]
    refine ⟨hown _, fun hvalue => ?_⟩
    have hthere := hagain key (List.mem_append_right _ hmem) (hoptional key hmem hvalue)
    exact hasOwn_iff.mpr ⟨_, mem_of_member hthere, rfl⟩
  · exact hfound key (List.mem_append_right _ hmem) (hoptional key hmem hvalue)

section fields

variable {α : Type} {parse : JsValue → Text → Except ReceiptProtocolError α}
variable {required optional : List String} {value props : List (Text × JsValue)}

theorem RestoredRecord.field (h : RestoredRecord Q required optional value props)
    (hparse : Stable Q parse) {key : String} (hkey : key ∈ required) {p : Text} {x : α}
    (hx : field parse key value p = .ok x) : field parse key props p = .ok x :=
  hparse (h.required key hkey) hx

theorem RestoredRecord.optionalField (h : RestoredRecord Q required optional value props)
    (hparse : Stable Q parse) {key : String} (hkey : key ∈ optional) {p : Text} {x : Option α}
    (hx : optionalField parse key value p = .ok x) : optionalField parse key props p = .ok x := by
  obtain ⟨hown, hfound⟩ := h.optional key hkey
  unfold Protocol.optionalField at hx ⊢
  rw [hown]
  split at hx
  · next hvalue =>
    obtain ⟨a, ha, hsome⟩ := map_eq_ok.mp hx
    rw [if_pos hvalue]
    exact map_eq_ok.mpr ⟨a, hparse (hfound hvalue) ha, hsome⟩
  · next hvalue =>
    rw [if_neg hvalue]
    exact hx

end fields

/-! ### Leaves -/

theorem normalizeNonEmptyText_stable : Stable Q (normalizeNonEmptyText Q) := by
  intro v w p x hw h
  unfold normalizeNonEmptyText at h
  split at h
  · rw [restored_string.mp hw, normalizeNonEmptyText, normalizeText_normalizeText]
    exact h
  · cases h

theorem normalizeOptionalText_stable : Stable Q (normalizeOptionalText Q) := by
  intro v w p x hw h
  unfold normalizeOptionalText at h
  split at h
  · rw [restored_string.mp hw, normalizeOptionalText, normalizeText_normalizeText]
    exact h
  · cases h

/-- A parser of visible texts is stable. -/
theorem stable_of_visible {α : Type} {f : JsValue → Text → Except ReceiptProtocolError α}
    (hvisible : ∀ {v p x}, f v p = .ok x → ∃ text, v = .string text ∧ isVisible text = true) :
    Stable Q f := by
  intro v w p x hw h
  obtain ⟨text, rfl, htext⟩ := hvisible h
  rw [restored_visible htext hw]
  exact h

theorem matchesHex_visible {length : Nat} {text : Text} (h : matchesHex length text = true) :
    isVisible text = true := by
  simp only [matchesHex, Bool.and_eq_true, decide_eq_true_eq] at h
  obtain ⟨⟨hstart, -⟩, hdigits⟩ := h
  rw [← List.take_append_drop 2 text, hstart, isVisible_iff]
  intro u hu
  rcases List.mem_append.mp hu with hu | hu
  · exact isVisible_iff.mp (show isVisible (ascii "0x") = true from rfl) u hu
  · have := isHexDigit_iff.mp (List.all_eq_true.mp hdigits u hu)
    omega

theorem normalizeHash_stable : Stable Q normalizeHash := by
  apply stable_of_visible
  intro v p x h
  unfold normalizeHash at h
  split at h
  · split at h
    · next hmatch => exact ⟨_, rfl, matchesHex_visible hmatch⟩
    · cases h
  · cases h

theorem normalizeAddress_stable : Stable Q normalizeAddress := by
  apply stable_of_visible
  intro v p x h
  unfold normalizeAddress at h
  split at h
  · split at h
    · next hmatch => exact ⟨_, rfl, matchesHex_visible hmatch⟩
    · cases h
  · cases h

theorem normalizeBase64Url_stable : Stable Q normalizeBase64Url :=
  stable_of_visible fun h =>
    ⟨_, (normalizeBase64Url_eq_ok.mp h).1, base64Url_visible (normalizeBase64Url_eq_ok.mp h).2.2⟩

theorem normalizeDecimalString_stable : Stable Q normalizeDecimalString :=
  stable_of_visible fun h => ⟨_, (normalizeDecimalString_eq_ok.mp h).1,
    isDecimal_visible (normalizeDecimalString_eq_ok.mp h).2⟩

theorem normalizeSchemaVersion_stable : Stable Q normalizeSchemaVersion :=
  stable_of_visible fun h => ⟨_, normalizeSchemaVersion_eq_ok h⟩

theorem parseHttpUrl_stable : Stable Q (parseHttpUrl Q) := by
  intro v w p x hw h
  unfold parseHttpUrl at h
  split at h
  · rw [restored_string.mp hw, parseHttpUrl, normalizeText_normalizeText]
    exact h
  · cases h

theorem normalizeOrigin_stable : Stable Q (normalizeOrigin Q) := by
  intro v w p x hw h
  obtain ⟨url, hurl, h⟩ := map_eq_ok.mp h
  exact map_eq_ok.mpr ⟨url, parseHttpUrl_stable hw hurl, h⟩

theorem normalizeUrl_stable : Stable Q (normalizeUrl Q) := by
  intro v w p x hw h
  obtain ⟨url, hurl, h⟩ := map_eq_ok.mp h
  exact map_eq_ok.mpr ⟨url, parseHttpUrl_stable hw hurl, h⟩

theorem normalizeHttpMethod_stable : Stable Q (normalizeHttpMethod Q) := by
  intro v w p x hw h
  unfold normalizeHttpMethod at h
  split at h
  · rw [restored_string.mp hw, normalizeHttpMethod, normalizeText_normalizeText]
    exact h
  · cases h

theorem normalizeNonNegativeSafeInteger_stable : Stable Q normalizeNonNegativeSafeInteger := by
  intro v w p n hw h
  have hagain := normalizeNonNegativeSafeInteger_again h p
  obtain ⟨number, rfl, -, hn⟩ := normalizeNonNegativeSafeInteger_eq_ok.mp h
  rw [(restored_number hw).2, hn]
  exact hagain

theorem normalizePositiveSafeInteger_stable : Stable Q normalizePositiveSafeInteger := by
  intro v w p n hw h
  obtain ⟨hn, hne⟩ := normalizePositiveSafeInteger_eq_ok.mp h
  exact normalizePositiveSafeInteger_eq_ok.mpr ⟨normalizeNonNegativeSafeInteger_stable hw hn, hne⟩

theorem parseBoolean_stable : Stable Q parseBoolean := by
  intro v w p b hw h
  obtain rfl := parseBoolean_eq_ok.mp h
  exact parseBoolean_eq_ok.mpr (restored_boolean.mp hw)

theorem parseLiteralTrue_stable : Stable Q parseLiteralTrue := by
  intro v w p u hw h
  unfold parseLiteralTrue at h
  split at h
  · rw [restored_boolean.mp hw]
    rfl
  · cases h

/-- An enumeration of visible texts. -/
theorem parseEnum_stable {α : Type} (values : List α) {text : α → Text}
    (hvisible : ∀ x, isVisible (text x) = true) : Stable Q (parseEnum values text) := by
  apply stable_of_visible
  intro v p x h
  unfold parseEnum at h
  dsimp only at h
  split at h
  · next s =>
    split at h
    · next a hfind =>
      have hs : text a = s := by simpa using List.find?_some hfind
      exact ⟨s, rfl, hs ▸ hvisible a⟩
    · cases h
  · cases h

/-! ### Timestamps -/

/-- A text is visible from a place on, if it is up to a later place and from
there on. -/
theorem visible_drop {text : Text} {start length : Nat}
    (hfirst : isVisible ((text.drop start).take length) = true)
    (hrest : isVisible (text.drop (start + length)) = true) :
    isVisible (text.drop start) = true := by
  rw [← List.take_append_drop length (text.drop start), isVisible, List.all_append,
    Bool.and_eq_true, List.drop_drop]
  exact ⟨hfirst, hrest⟩

theorem visible_digits {text : Text} (h : text.all Json.isDigit = true) : isVisible text = true :=
  isVisible_iff.mpr fun u hu => isDigit_visible (List.all_eq_true.mp h u hu)

theorem visible_digitsAt {text : Text} {start length n : Nat}
    (h : digitsAt text start length = some n) :
    isVisible ((text.drop start).take length) = true := by
  unfold digitsAt at h
  dsimp only at h
  split at h
  · next hdigits => exact visible_digits hdigits.2
  · cases h

theorem visible_unitAt {text : Text} {index : Nat} {u : UInt16} {found : Unit}
    (h : unitAt text index u = some found) (hu : isVisible [u] = true) :
    isVisible ((text.drop index).take 1) = true := by
  unfold unitAt at h
  split at h
  · next hunit =>
    rw [List.take_one, List.head?_drop, hunit]
    exact hu
  · cases h

theorem matchZone_visible {text : Text} {zone : Option (Bool × Nat × Nat)}
    (h : matchZone text = some zone) : isVisible text = true := by
  unfold matchZone at h
  split at h
  · next hz =>
    rw [hz]
    rfl
  · split at h
    · next hsign =>
      simp only [Option.bind_eq_bind, Option.bind_eq_some_iff] at h
      obtain ⟨hour, hhour, _, hcolon, minute, hminute, -⟩ := h
      have hend : isVisible (text.drop 6) = true := by
        rw [List.drop_of_length_le (le_of_eq hsign.1)]
        rfl
      have hfirst : isVisible ((text.drop 0).take 1) = true := by
        rw [List.take_one, List.head?_drop]
        rcases hsign.2 with hsign | hsign
        · rw [hsign]
          rfl
        · rw [hsign]
          rfl
      exact visible_drop hfirst (visible_drop (visible_digitsAt hhour)
        (visible_drop (visible_unitAt hcolon rfl) (visible_drop (visible_digitsAt hminute) hend)))
    · cases h

theorem matchFraction_visible {text rest : Text} {n : Nat}
    (h : matchFraction text = some (n, rest)) (hrest : isVisible rest = true) :
    isVisible text = true := by
  unfold matchFraction at h
  split at h
  · next hpoint =>
    dsimp only at h
    split at h
    · obtain ⟨-, rfl⟩ := Prod.mk.inj (Option.some.inj h)
      rcases text with - | ⟨point, digits⟩
      · cases hpoint
      · obtain rfl := Option.some.inj hpoint
        have hdigits : isVisible (digits.takeWhile Json.isDigit) = true :=
          visible_digits (List.all_eq_true.mpr fun u hu => List.mem_takeWhile_imp hu)
        show isVisible ([46] ++ digits) = true
        rw [← List.takeWhile_append_dropWhile (p := Json.isDigit) (l := digits), isVisible,
          List.all_append, List.all_append, Bool.and_eq_true, Bool.and_eq_true]
        exact ⟨rfl, hdigits, hrest⟩
    · cases h
  · obtain ⟨-, rfl⟩ := Prod.mk.inj (Option.some.inj h)
    exact hrest

/-- **Timestamps are visible texts**, before they are normalized. -/
theorem matchTimestamp_visible {text : Text} {fields : TimestampFields}
    (h : matchTimestamp text = some fields) : isVisible text = true := by
  simp only [matchTimestamp, Option.bind_eq_bind, Option.bind_eq_some_iff] at h
  obtain ⟨year, hyear, _, h4, month, hmonth, _, h7, day, hday, _, h10, hour, hhour, _, h13, minute,
    hminute, _, h16, second, hsecond, ⟨millisecond, rest⟩, hfraction, zone, hzone, -⟩ := h
  have hrest := matchFraction_visible hfraction (matchZone_visible hzone)
  have htime : isVisible (text.drop 11) = true :=
    visible_drop (visible_digitsAt hhour) (visible_drop (visible_unitAt h13 rfl)
      (visible_drop (visible_digitsAt hminute) (visible_drop (visible_unitAt h16 rfl)
        (visible_drop (visible_digitsAt hsecond) hrest))))
  have hdate : isVisible (text.drop 0) = true :=
    visible_drop (visible_digitsAt hyear) (visible_drop (visible_unitAt h4 rfl)
      (visible_drop (visible_digitsAt hmonth) (visible_drop (visible_unitAt h7 rfl)
        (visible_drop (visible_digitsAt hday) (visible_drop (visible_unitAt h10 rfl) htime)))))
  exact hdate

theorem normalizeTimestamp_source {v : JsValue} {p x : Text} (h : normalizeTimestamp v p = .ok x) :
    ∃ text, v = .string text ∧ isVisible text = true := by
  unfold normalizeTimestamp at h
  split at h
  · split at h
    · cases h
    · next hmatch => exact ⟨_, rfl, matchTimestamp_visible hmatch⟩
  · cases h

theorem normalizeTimestamp_stable : Stable Q normalizeTimestamp :=
  stable_of_visible normalizeTimestamp_source

theorem normalizeTimestamp_visible {v : JsValue} {p x : Text}
    (h : normalizeTimestamp v p = .ok x) : isVisible x = true := by
  obtain ⟨text, htext, hvisible⟩ :=
    normalizeTimestamp_source ((normalizeTimestamp_parses (Q := sampleReceiptPlatform)).again h [])
  rw [JsValue.string.inj htext]
  exact hvisible

/-! ### Enumerations -/

theorem formEncoding_stable : Stable Q (parseEnum FORM_ENCODINGS formEncodingText) :=
  parseEnum_stable _ (by rintro (_ | _) <;> rfl)

theorem fieldControlType_stable : Stable Q (parseEnum FIELD_CONTROL_TYPES fieldControlTypeText) :=
  parseEnum_stable _ (by rintro (_ | _ | _); exacts [valueControlTypeText_visible _, rfl, rfl])

theorem exclusionReason_stable : Stable Q (parseEnum EXCLUSION_REASONS exclusionReasonText) :=
  parseEnum_stable _ (by rintro (_ | _) <;> rfl)

theorem attemptTrigger_stable :
    Stable Q (parseEnum [.formSubmit, .requestObserved] attemptTriggerText) :=
  parseEnum_stable _ (by rintro (_ | _) <;> rfl)

theorem evidenceType_stable :
    Stable Q (parseEnum [.confirmationPage, .inlineMessage, .redirect, .download]
      evidenceTypeText) :=
  parseEnum_stable _ (by rintro (_ | _) <;> rfl)

theorem authorityOutcome_stable :
    Stable Q (parseEnum [.accepted, .rejected] authorityOutcomeText) :=
  parseEnum_stable _ (by rintro (_ | _) <;> rfl)

theorem eventStage_stable : Stable Q (parseEnum EVENT_STAGES eventStageText) :=
  parseEnum_stable _ (by rintro (_ | _) <;> rfl)

theorem unitText_stable {text : Unit → Text} (h : isVisible (text ()) = true) :
    Stable Q (parseEnum [()] text) :=
  parseEnum_stable _ fun _ => h

theorem signatureSigner_stable :
    Stable Q (parseEnum [.extension, .authority] signatureSignerText) :=
  parseEnum_stable _ (by rintro (_ | _) <;> rfl)

theorem verificationCheckName_stable :
    Stable Q (parseEnum VERIFICATION_CHECK_NAMES verificationCheckNameText) :=
  parseEnum_stable _ (by rintro (_ | _) <;> rfl)

theorem verificationCheckResult_stable :
    Stable Q (parseEnum VERIFICATION_RESULTS verificationCheckResultText) :=
  parseEnum_stable _ (by rintro (_ | _) <;> rfl)

theorem verificationResult_stable :
    Stable Q (parseEnum [.notVerified, .verified, .failed] verificationResultName) :=
  parseEnum_stable _ (by rintro (_ | _) <;> rfl)

theorem lifecycleStage_stable : Stable Q (parseEnum LIFECYCLE_STAGES lifecycleStageText) :=
  parseEnum_stable _ (by rintro (_ | _ | _) <;> rfl)

theorem derivedReceiptStatus_stable :
    Stable Q (parseEnum DERIVED_RECEIPT_STATUSES derivedReceiptStatusText) :=
  parseEnum_stable _ (by rintro (_ | _) <;> rfl)

/-! ### Lists -/

/-- What is parsed of items is parsed of the items restored. -/
theorem forall₂_restored {α : Type} {parse : JsValue → Text → Except ReceiptProtocolError α}
    (hparse : Stable Q parse) {items items' : List JsValue} {xs : List α}
    (hitems : List.Forall₂ (Restored Q) items items')
    (h : List.Forall₂ (fun item x => ∀ q, parse item q = .ok x) items xs) :
    List.Forall₂ (fun item x => ∀ q, parse item q = .ok x) items' xs := by
  induction hitems generalizing xs with
  | nil => exact h
  | cons hfirst _ ih =>
    obtain ⟨x, xs', hx, hxs, rfl⟩ := List.forall₂_cons_left_iff.mp h
    exact .cons (fun q => hparse hfirst (hx q)) (ih hxs)

theorem parseList_stable {α : Type} {parse : JsValue → Text → Except ReceiptProtocolError α}
    (hanywhere : Pathless parse) (hparse : Stable Q parse) : Stable Q (parseList parse) := by
  intro v w p xs hw h
  obtain ⟨items, rfl, hxs⟩ := (parseList_eq_ok hanywhere).mp h
  obtain ⟨items', rfl, hitems⟩ := restored_array hw
  exact (parseList_eq_ok hanywhere).mpr ⟨items', rfl, forall₂_restored hparse hitems hxs⟩

theorem parseFields_stable {α : Type} {parse : JsValue → Text → Except ReceiptProtocolError α}
    {key : α → FieldKey} (hanywhere : Pathless parse) (hparse : Stable Q parse) :
    Stable Q (parseFields parse key) := by
  intro v w p xs hw h
  obtain ⟨items, parsed, rfl, hparsed, hrest⟩ := (parseFields_eq_ok hanywhere).mp h
  obtain ⟨items', rfl, hitems⟩ := restored_array hw
  exact (parseFields_eq_ok hanywhere).mpr
    ⟨items', parsed, rfl, forall₂_restored hparse hitems hparsed, hrest⟩

/-! ### Records of event cores -/

theorem parseFileMetadata_stable : Stable Q (parseFileMetadata Q) := by
  intro v w p x hw h
  obtain ⟨value, rfl, hfields⟩ := parseFileMetadata_eq_ok.mp h
  obtain ⟨props, rfl, hprops⟩ := restored_object hw
  have hrecord := hprops.record (hfields p).1 rfl
  refine parseFileMetadata_eq_ok.mpr ⟨props, rfl, fun q => ?_⟩
  obtain ⟨-, h1, h2, h3, h4⟩ := hfields q
  refine ⟨hrecord.keys q, ?_, ?_, ?_, ?_⟩
  · exact hrecord.optionalField normalizeTimestamp_stable (by simp) h1
  · exact hrecord.optionalField normalizeOptionalText_stable (by simp) h2
  · exact hrecord.field normalizeNonEmptyText_stable (by simp) h3
  · exact hrecord.field normalizeNonNegativeSafeInteger_stable (by simp) h4

theorem parseExcludedField_stable : Stable Q (parseExcludedField Q) := by
  intro v w p x hw h
  obtain ⟨value, rfl, hfields⟩ := parseExcludedField_eq_ok.mp h
  obtain ⟨props, rfl, hprops⟩ := restored_object hw
  have hrecord := hprops.record (hfields p).1 rfl
  refine parseExcludedField_eq_ok.mpr ⟨props, rfl, fun q => ?_⟩
  obtain ⟨-, h1, h2, h3, h4⟩ := hfields q
  refine ⟨hrecord.keys q, ?_, ?_, ?_, ?_⟩
  · exact hrecord.field fieldControlType_stable (by simp) h1
  · exact hrecord.field normalizeNonEmptyText_stable (by simp) h2
  · exact hrecord.optionalField normalizeNonEmptyText_stable (by simp) h3
  · exact hrecord.field exclusionReason_stable (by simp) h4

theorem parseFormDescriptor_stable : Stable Q (parseFormDescriptor Q) := by
  intro v w p x hw h
  obtain ⟨value, rfl, hfields⟩ := parseFormDescriptor_eq_ok.mp h
  obtain ⟨props, rfl, hprops⟩ := restored_object hw
  have hrecord := hprops.record (hfields p).1 rfl
  refine parseFormDescriptor_eq_ok.mpr ⟨props, rfl, fun q => ?_⟩
  obtain ⟨-, h1, h2, h3, h4, h5⟩ := hfields q
  refine ⟨hrecord.keys q, ?_, ?_, ?_, ?_, ?_⟩
  · exact hrecord.field normalizeUrl_stable (by simp) h1
  · exact hrecord.field formEncoding_stable (by simp) h2
  · exact hrecord.optionalField normalizeNonEmptyText_stable (by simp) h3
  · exact hrecord.optionalField normalizeNonEmptyText_stable (by simp) h4
  · exact hrecord.field normalizeHttpMethod_stable (by simp) h5

theorem parsePrivacyFlags_stable : Stable Q parsePrivacyFlags := by
  intro v w p x hw h
  obtain ⟨value, rfl, hfields⟩ := parsePrivacyFlags_eq_ok.mp h
  obtain ⟨props, rfl, hprops⟩ := restored_object hw
  have hrecord := hprops.record (hfields p).1 rfl
  refine parsePrivacyFlags_eq_ok.mpr ⟨props, rfl, fun q => ?_⟩
  obtain ⟨-, h1, h2, h3⟩ := hfields q
  refine ⟨hrecord.keys q, ?_, ?_, ?_⟩
  · exact hrecord.field parseBoolean_stable (by simp) h1
  · exact hrecord.field parseLiteralTrue_stable (by simp) h2
  · exact hrecord.field parseLiteralTrue_stable (by simp) h3

theorem parseSubmissionAttempt_stable : Stable Q (parseSubmissionAttempt Q) := by
  intro v w p x hw h
  obtain ⟨value, rfl, hfields⟩ := parseSubmissionAttempt_eq_ok.mp h
  obtain ⟨props, rfl, hprops⟩ := restored_object hw
  have hrecord := hprops.record (hfields p).1 rfl
  refine parseSubmissionAttempt_eq_ok.mpr ⟨props, rfl, fun q => ?_⟩
  obtain ⟨-, h1, h2, h3, h4⟩ := hfields q
  refine ⟨hrecord.keys q, ?_, ?_, ?_, ?_⟩
  · exact hrecord.field formEncoding_stable (by simp) h1
  · exact hrecord.field normalizeHttpMethod_stable (by simp) h2
  · exact hrecord.field normalizeUrl_stable (by simp) h3
  · exact hrecord.field attemptTrigger_stable (by simp) h4

theorem parseSiteConfirmation_stable : Stable Q (parseSiteConfirmation Q) := by
  intro v w p x hw h
  obtain ⟨value, rfl, hfields⟩ := parseSiteConfirmation_eq_ok.mp h
  obtain ⟨props, rfl, hprops⟩ := restored_object hw
  have hrecord := hprops.record (hfields p).1 rfl
  refine parseSiteConfirmation_eq_ok.mpr ⟨props, rfl, fun q => ?_⟩
  obtain ⟨-, h1, h2, h3, h4⟩ := hfields q
  refine ⟨hrecord.keys q, ?_, ?_, ?_, ?_⟩
  · exact hrecord.field evidenceType_stable (by simp) h1
  · exact hrecord.optionalField normalizeOptionalText_stable (by simp) h2
  · exact hrecord.field normalizeUrl_stable (by simp) h3
  · exact hrecord.optionalField normalizeOptionalText_stable (by simp) h4

theorem parseAuthorityAcknowledgment_stable : Stable Q (parseAuthorityAcknowledgment Q) := by
  intro v w p x hw h
  obtain ⟨value, rfl, hfields⟩ := parseAuthorityAcknowledgment_eq_ok.mp h
  obtain ⟨props, rfl, hprops⟩ := restored_object hw
  have hrecord := hprops.record (hfields p).1 rfl
  refine parseAuthorityAcknowledgment_eq_ok.mpr ⟨props, rfl, fun q => ?_⟩
  obtain ⟨-, h1, h2, h3, h4, h5⟩ := hfields q
  refine ⟨hrecord.keys q, ?_, ?_, ?_, ?_, ?_⟩
  · exact hrecord.field normalizeTimestamp_stable (by simp) h1
  · exact hrecord.field normalizeNonEmptyText_stable (by simp) h2
  · exact hrecord.field authorityOutcome_stable (by simp) h3
  · exact hrecord.optionalField normalizeOptionalText_stable (by simp) h4
  · exact hrecord.optionalField normalizeOptionalText_stable (by simp) h5

theorem parseOriginDescriptor_stable : Stable Q (parseOriginDescriptor Q) := by
  intro v w p x hw h
  obtain ⟨value, rfl, hfields⟩ := parseOriginDescriptor_eq_ok.mp h
  obtain ⟨props, rfl, hprops⟩ := restored_object hw
  have hrecord := hprops.record (hfields p).1 rfl
  refine parseOriginDescriptor_eq_ok.mpr ⟨props, rfl, fun q => ?_⟩
  obtain ⟨-, h1, h2, horigin⟩ := hfields q
  refine ⟨hrecord.keys q, ?_, ?_, horigin⟩
  · exact hrecord.field normalizeOrigin_stable (by simp) h1
  · exact hrecord.field normalizeUrl_stable (by simp) h2

theorem parseCapturedField_stable : Stable Q (parseCapturedField Q) := by
  intro v w p x hw h
  obtain ⟨value, rfl, hfields⟩ := parseCapturedField_eq_ok.mp h
  obtain ⟨props, rfl, hprops⟩ := restored_object hw
  refine parseCapturedField_eq_ok.mpr ⟨props, rfl, fun q => ?_⟩
  obtain ⟨h1, h2, h3, h4⟩ := hfields q
  rcases x with ⟨controlType, fieldId, name, values⟩ | ⟨fieldId, name, files⟩
  · obtain ⟨hkeys, h4, hsensitive⟩ := h4
    have hrecord := hprops.record hkeys rfl
    refine ⟨?_, ?_, ?_, hrecord.keys q, ?_, hsensitive⟩
    · exact hrecord.field fieldControlType_stable (by simp) h1
    · exact hrecord.field normalizeNonEmptyText_stable (by simp) h2
    · exact hrecord.field normalizeNonEmptyText_stable (by simp) h3
    · exact hrecord.field (parseList_stable normalizeOptionalText_parses.anywhere
        normalizeOptionalText_stable) (by simp) h4
  · obtain ⟨hkeys, h4⟩ := h4
    have hrecord := hprops.record hkeys rfl
    refine ⟨?_, ?_, ?_, hrecord.keys q, ?_⟩
    · exact hrecord.field fieldControlType_stable (by simp) h1
    · exact hrecord.field normalizeNonEmptyText_stable (by simp) h2
    · exact hrecord.field normalizeNonEmptyText_stable (by simp) h3
    · exact hrecord.field (parseList_stable parseFileMetadata_parses.anywhere
        parseFileMetadata_stable) (by simp) h4

theorem parseCapturedFields_stable : Stable Q (parseCapturedFields Q) :=
  parseFields_stable parseCapturedField_parses.anywhere parseCapturedField_stable

theorem parseExcludedFields_stable : Stable Q (parseExcludedFields Q) :=
  parseFields_stable parseExcludedField_parses.anywhere parseExcludedField_stable

/-- The part of a core for its stage is read by its keys. -/
theorem EventBody.Fits.restored {x : EventBody} {value props : List (Text × JsValue)} {q : Text}
    (hprops : RestoredMembers Q value props) (h : x.Fits Q value q) :
    x.Fits Q props q ∧ ∃ required, (∀ key ∈ baseKeys, key ∈ required) ∧
      RestoredRecord Q required [] value props := by
  rcases x with body | confirmation | acknowledgment
  · obtain ⟨hconsistent, h⟩ := parseAttemptedBody_eq_ok.mp h
    have hrecord := hprops.record (h q).1 rfl
    refine ⟨parseAttemptedBody_eq_ok.mpr ⟨hconsistent, fun q => ?_⟩, _,
      fun key hkey => List.mem_append_left _ hkey, hrecord⟩
    obtain ⟨-, h1, h2, h3, h4, h5, h6⟩ := h q
    refine ⟨hrecord.keys q, ?_, ?_, ?_, ?_, ?_, ?_⟩
    · exact hrecord.field parseCapturedFields_stable (by simp) h1
    · exact hrecord.field parseExcludedFields_stable (by simp) h2
    · exact hrecord.field parsePrivacyFlags_stable (by simp) h3
    · exact hrecord.field parseFormDescriptor_stable (by simp) h4
    · exact hrecord.field parseOriginDescriptor_stable (by simp) h5
    · exact hrecord.field parseSubmissionAttempt_stable (by simp) h6
  · have hrecord := hprops.record h.1 rfl
    exact ⟨⟨hrecord.keys q, hrecord.field parseSiteConfirmation_stable (by simp) h.2⟩, _,
      fun key hkey => List.mem_append_left _ hkey, hrecord⟩
  · have hrecord := hprops.record h.1 rfl
    exact ⟨⟨hrecord.keys q, hrecord.field parseAuthorityAcknowledgment_stable (by simp) h.2⟩, _,
      fun key hkey => List.mem_append_left _ hkey, hrecord⟩

theorem parseEventCore_stable : Stable Q (parseEventCore Q) := by
  intro v w p x hw h
  obtain ⟨value, rfl, hfields⟩ := parseEventCore_eq_ok.mp h
  obtain ⟨props, rfl, hprops⟩ := restored_object hw
  refine parseEventCore_eq_ok.mpr ⟨props, rfl, fun q => ?_⟩
  obtain ⟨h1, h2, h3, h4, h5, h6⟩ := hfields q
  obtain ⟨hfits, required, hbase, hrecord⟩ := h6.restored hprops
  refine ⟨?_, ?_, ?_, ?_, ?_, hfits⟩
  · exact hrecord.field eventStage_stable (hbase _ (by simp [baseKeys])) h1
  · exact hrecord.field normalizeTimestamp_stable (hbase _ (by simp [baseKeys])) h2
  · exact hrecord.field normalizeHash_stable (hbase _ (by simp [baseKeys])) h3
  · exact hrecord.field normalizeHash_stable (hbase _ (by simp [baseKeys])) h4
  · exact hrecord.field normalizeSchemaVersion_stable (hbase _ (by simp [baseKeys])) h5

/-! ### Records of envelopes and receipts -/

theorem parsePublicKeyDescriptor_stable : Stable Q (parsePublicKeyDescriptor Q) := by
  intro v w p x hw h
  obtain ⟨value, rfl, hfields⟩ := parsePublicKeyDescriptor_eq_ok.mp h
  obtain ⟨props, rfl, hprops⟩ := restored_object hw
  have hrecord := hprops.record (hfields p).1 rfl
  refine parsePublicKeyDescriptor_eq_ok.mpr ⟨props, rfl, fun q => ?_⟩
  obtain ⟨-, h1, h2, h3, h4⟩ := hfields q
  refine ⟨hrecord.keys q, ?_, ?_, ?_, ?_⟩
  · exact hrecord.field (unitText_stable rfl) (by simp) h1
  · exact hrecord.field (unitText_stable rfl) (by simp) h2
  · exact hrecord.field normalizeNonEmptyText_stable (by simp) h3
  · exact hrecord.field normalizeBase64Url_stable (by simp) h4

theorem parseSignatureEnvelope_stable : Stable Q (parseSignatureEnvelope Q) := by
  intro v w p x hw h
  obtain ⟨value, rfl, hfields⟩ := parseSignatureEnvelope_eq_ok.mp h
  obtain ⟨props, rfl, hprops⟩ := restored_object hw
  have hrecord := hprops.record (hfields p).1 rfl
  refine parseSignatureEnvelope_eq_ok.mpr ⟨props, rfl, fun q => ?_⟩
  obtain ⟨-, h1, h2, h3, h4, h5, h6⟩ := hfields q
  refine ⟨hrecord.keys q, ?_, ?_, ?_, ?_, ?_, ?_⟩
  · exact hrecord.field (unitText_stable rfl) (by simp) h1
  · exact hrecord.field (unitText_stable rfl) (by simp) h2
  · exact hrecord.field normalizeNonEmptyText_stable (by simp) h3
  · exact hrecord.field normalizeHash_stable (by simp) h4
  · exact hrecord.field normalizeBase64Url_stable (by simp) h5
  · exact hrecord.field signatureSigner_stable (by simp) h6

theorem parseVerificationCheck_stable : Stable Q (parseVerificationCheck Q) := by
  intro v w p x hw h
  obtain ⟨value, rfl, hfields⟩ := parseVerificationCheck_eq_ok.mp h
  obtain ⟨props, rfl, hprops⟩ := restored_object hw
  have hrecord := hprops.record (hfields p).1 rfl
  refine parseVerificationCheck_eq_ok.mpr ⟨props, rfl, fun q => ?_⟩
  obtain ⟨-, h1, h2, h3⟩ := hfields q
  refine ⟨hrecord.keys q, ?_, ?_, ?_⟩
  · exact hrecord.field verificationCheckName_stable (by simp) h1
  · exact hrecord.optionalField normalizeOptionalText_stable (by simp) h2
  · exact hrecord.field verificationCheckResult_stable (by simp) h3

theorem parseChainAnchorMetadata_stable : Stable Q parseChainAnchorMetadata := by
  intro v w p x hw h
  obtain ⟨value, rfl, hfields⟩ := parseChainAnchorMetadata_eq_ok.mp h
  obtain ⟨props, rfl, hprops⟩ := restored_object hw
  have hrecord := hprops.record (hfields p).1 rfl
  refine parseChainAnchorMetadata_eq_ok.mpr ⟨props, rfl, fun q => ?_⟩
  obtain ⟨-, h1, h2, h3, h4, h5⟩ := hfields q
  refine ⟨hrecord.keys q, ?_, ?_, ?_, ?_, ?_⟩
  · exact hrecord.field normalizeTimestamp_stable (by simp) h1
  · exact hrecord.field normalizeDecimalString_stable (by simp) h2
  · exact hrecord.field normalizePositiveSafeInteger_stable (by simp) h3
  · exact hrecord.field normalizeAddress_stable (by simp) h4
  · exact hrecord.field normalizeHash_stable (by simp) h5

/-- **Event envelopes are read alike** of their canonical texts. -/
theorem parseEventEnvelope_stable : Stable Q (parseEventEnvelope Q) := by
  intro v w p x hw h
  obtain ⟨hconsistent, value, rfl, hfields⟩ := parseEventEnvelope_eq_ok.mp h
  obtain ⟨props, rfl, hprops⟩ := restored_object hw
  have hrecord := hprops.record (hfields p).1 rfl
  refine parseEventEnvelope_eq_ok.mpr ⟨hconsistent, props, rfl, fun q => ?_⟩
  obtain ⟨-, h1, h2, h3, h4, h5⟩ := hfields q
  refine ⟨hrecord.keys q, ?_, ?_, ?_, ?_, ?_⟩
  · exact hrecord.field parseEventCore_stable (by simp) h1
  · exact hrecord.optionalField parseSignatureEnvelope_stable (by simp) h2
  · exact hrecord.optionalField parseSignatureEnvelope_stable (by simp) h3
  · exact hrecord.optionalField parseChainAnchorMetadata_stable (by simp) h4
  · exact hrecord.field normalizeHash_stable (by simp) h5

theorem parseVerificationState_stable : Stable Q (parseVerificationState Q) := by
  intro v w p x hw h
  obtain ⟨hconsistent, value, parsed, rfl, hperm, hfields⟩ := parseVerificationState_eq_ok.mp h
  obtain ⟨props, rfl, hprops⟩ := restored_object hw
  have hrecord := hprops.record (hfields p).1 rfl
  refine parseVerificationState_eq_ok.mpr ⟨hconsistent, props, parsed, rfl, hperm, fun q => ?_⟩
  obtain ⟨-, h1, h2, h3⟩ := hfields q
  refine ⟨hrecord.keys q, ?_, ?_, ?_⟩
  · exact hrecord.field (parseList_stable parseVerificationCheck_parses.anywhere
      parseVerificationCheck_stable) (by simp) h1
  · exact hrecord.field verificationResult_stable (by simp) h2
  · exact hrecord.optionalField normalizeTimestamp_stable (by simp) h3

/-- **Receipts are read alike** of their canonical texts. -/
theorem parseReceiptStructure_stable : Stable Q (parseReceiptStructure Q) := by
  intro v w p x hw h
  obtain ⟨value, rfl, hfields⟩ := parseReceiptStructure_eq_ok.mp h
  obtain ⟨props, rfl, hprops⟩ := restored_object hw
  have hrecord := hprops.record (hfields p).1 rfl
  refine parseReceiptStructure_eq_ok.mpr ⟨props, rfl, fun q => ?_⟩
  obtain ⟨-, h1, h2, h3, h4, h5, h6, h7, h8⟩ := hfields q
  refine ⟨hrecord.keys q, ?_, ?_, ?_, ?_, ?_, ?_, ?_, ?_⟩
  · exact hrecord.field normalizeTimestamp_stable (by simp) h1
  · exact hrecord.field lifecycleStage_stable (by simp) h2
  · exact hrecord.field derivedReceiptStatus_stable (by simp) h3
  · exact hrecord.field (parseList_stable parseEventEnvelope_parses.anywhere
      parseEventEnvelope_stable) (by simp) h4
  · exact hrecord.field parsePublicKeyDescriptor_stable (by simp) h5
  · exact hrecord.field normalizeHash_stable (by simp) h6
  · exact hrecord.field normalizeSchemaVersion_stable (by simp) h7
  · exact hrecord.field parseVerificationState_stable (by simp) h8

theorem validateReceipt_stable {keccak256 : List UInt8 → HashHex} {v w : JsValue}
    {receipt : Receipt} (hw : Restored Q v w) (h : validateReceipt Q keccak256 v = .ok receipt) :
    validateReceipt Q keccak256 w = .ok receipt := by
  obtain ⟨hparsed, hcheck⟩ := validateReceipt_eq_ok.mp h
  exact validateReceipt_eq_ok.mpr ⟨parseReceiptStructure_stable hw hparsed, hcheck⟩

end restoring

end SubmittedIt.Protocol
