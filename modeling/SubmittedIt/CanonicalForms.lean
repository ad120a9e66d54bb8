/-
SubmittedIt/CanonicalForms.lean

What canonical texts are good for.

`Same` is equality after normalization: of texts and keys by line endings and
NFC, of numbers up to the sign of zero, of objects by their properties that
are not `undefined`, in any order.

Main results: `canonicalize_normal_form` (a canonical text parses to a value
with the same canonical text, canonical texts are equal exactly where values
are the same, and a preimage determines its domain and its canonical text) and
`canonicalize_keys_iff` (the keys of every object are in increasing order
exactly where the array indices among them come first in that order anyway,
since they are enumerated first).
-/
import SubmittedIt.Canonicalize

namespace SubmittedIt.Protocol

variable {Q : TextPlatform}

/-! ### Properties of objects -/

/-- A property is one of the canonical value. -/
theorem exists_of_mem_canonicalMembers {members : List (Text × JsValue)}
    {values : List (Text × Json)} (h : CanonicalMembers Q members values) {c : Text × Json}
    (hc : c ∈ values) : ∃ m ∈ members, m.2 ≠ .undefined ∧ normalizeText Q m.1 = c.1 ∧
      Canonical Q m.2 c.2 := by
  induction members generalizing values with
  | nil =>
    obtain rfl : values = [] := h
    exact absurd hc List.not_mem_nil
  | cons m rest ih =>
    obtain ⟨key, item⟩ := m
    by_cases hundefined : item = .undefined
    · subst hundefined
      obtain ⟨m, hm, hfacts⟩ := ih h hc
      exact ⟨m, List.mem_cons_of_mem _ hm, hfacts⟩
    · obtain ⟨value, values', rfl, hvalue, hvalues⟩ := (canonicalMembers_cons hundefined).mp h
      rcases List.mem_cons.mp hc with rfl | hc
      · exact ⟨(key, item), List.mem_cons_self, hundefined, rfl, hvalue⟩
      · obtain ⟨m, hm, hfacts⟩ := ih hvalues hc
        exact ⟨m, List.mem_cons_of_mem _ hm, hfacts⟩

/-- The canonical value has every property that is not `undefined`. -/
theorem exists_mem_canonicalMembers {members : List (Text × JsValue)}
    {values : List (Text × Json)} (h : CanonicalMembers Q members values) {m : Text × JsValue}
    (hm : m ∈ members) (hdefined : m.2 ≠ .undefined) :
    ∃ j, Canonical Q m.2 j ∧ (normalizeText Q m.1, j) ∈ values := by
  induction members generalizing values with
  | nil => exact absurd hm List.not_mem_nil
  | cons first rest ih =>
    obtain ⟨key, item⟩ := first
    by_cases hundefined : item = .undefined
    · subst hundefined
      rcases List.mem_cons.mp hm with rfl | hm
      · exact absurd rfl hdefined
      · exact ih h hm
    · obtain ⟨value, values', rfl, hvalue, hvalues⟩ := (canonicalMembers_cons hundefined).mp h
      rcases List.mem_cons.mp hm with rfl | hm
      · exact ⟨value, hvalue, List.mem_cons_self⟩
      · obtain ⟨j, hj, hmem⟩ := ih hvalues hm
        exact ⟨j, hj, List.mem_cons_of_mem _ hmem⟩

theorem nodup_of_nodup_keys {α : Type} {values : List (Text × α)} (h : (values.map (·.1)).Nodup) :
    values.Nodup := List.Nodup.of_map _ h

/-! ### Equality after normalization -/

/-- `-0` is `0`. -/
def unsignedZero : JsNumber → JsNumber
  | .negativeZero => .integer 0
  | n => n

section same

variable (Q)

mutual

/-- The values are equal after normalization. -/
def Same : JsValue → JsValue → Prop
  | .undefined, w => w = .undefined
  | .null, w => w = .null
  | .boolean b, w => w = .boolean b
  | .string s, w => ∃ t, w = .string t ∧ normalizeText Q s = normalizeText Q t
  | .number m, w => ∃ n, w = .number n ∧ unsignedZero m = unsignedZero n
  | .array items, w => ∃ items', w = .array items' ∧ SameItems items items'
  | .object members, w => ∃ members', w = .object members' ∧ SameMembers members members' ∧
      ∀ n ∈ members', n.2 ≠ .undefined →
        ∃ m ∈ members, m.2 ≠ .undefined ∧ normalizeText Q m.1 = normalizeText Q n.1
  | .other kind, w => w = .other kind

def SameItems : List JsValue → List JsValue → Prop
  | [], items' => items' = []
  | item :: rest, items' => ∃ item' rest', items' = item' :: rest' ∧ Same item item' ∧
      SameItems rest rest'

/-- The properties that are not `undefined` are the same in the other object. -/
def SameMembers : List (Text × JsValue) → List (Text × JsValue) → Prop
  | [], _ => True
  | (key, item) :: rest, members' =>
    (item ≠ .undefined → ∃ n ∈ members', n.2 ≠ .undefined ∧
      normalizeText Q key = normalizeText Q n.1 ∧ Same item n.2) ∧ SameMembers rest members'

end

end same

theorem safeInteger_eq_iff {m n : JsNumber} (hm : isSafeInteger m = true)
    (hn : isSafeInteger n = true) :
    safeInteger m = safeInteger n ↔ unsignedZero m = unsignedZero n := by
  rcases m with m | - | -
  · rcases n with n | - | -
    · simp [safeInteger, unsignedZero]
    · simp [safeInteger, unsignedZero]
    · cases hn
  · rcases n with n | - | -
    · simp [safeInteger, unsignedZero]
    · simp
    · cases hn
  · cases hm

/-- Objects with the same properties are the same value. -/
theorem object_eq_iff {values values' sorted sorted' : List (Text × Json)}
    (hnodup : (values.map (·.1)).Nodup) (hnodup' : (values'.map (·.1)).Nodup)
    (hperm : sorted.Perm values) (hperm' : sorted'.Perm values')
    (hsorted : sorted.Pairwise fun a b => (compareCanonicalText a.1 b.1).isLE = true)
    (hsorted' : sorted'.Pairwise fun a b => (compareCanonicalText a.1 b.1).isLE = true) :
    Json.object (JsValue.ownProperties sorted) = .object (JsValue.ownProperties sorted') ↔
      ∀ c, c ∈ values ↔ c ∈ values' := by
  constructor
  · intro h c
    have hsame : (JsValue.ownProperties sorted).Perm (JsValue.ownProperties sorted') := by
      rw [Json.object.inj h]
    have hvalues := ((JsValue.perm_ownProperties sorted).trans hperm).symm.trans
      (hsame.trans ((JsValue.perm_ownProperties sorted').trans hperm'))
    exact hvalues.mem_iff
  · intro h
    have hvalues : values.Perm values' := (List.perm_ext_iff_of_nodup (nodup_of_nodup_keys hnodup)
      (nodup_of_nodup_keys hnodup')).mpr h
    rw [eq_of_sorted_keys ((hperm.map _).nodup_iff.mpr hnodup) hsorted hsorted'
      (hperm.trans (hvalues.trans hperm'.symm))]

/-- The kind of a JSON value. -/
def jsonKind : Json → Nat
  | .null => 0
  | .boolean _ => 1
  | .number _ => 2
  | .string _ => 3
  | .array _ => 4
  | .object _ => 5

/-- The kind of the JSON value that a value normalizes to. -/
def valueKind : JsValue → Nat
  | .null => 0
  | .boolean _ => 1
  | .number _ => 2
  | .string _ => 3
  | .array _ => 4
  | .object _ => 5
  | .undefined => 6
  | .other _ => 7

theorem Canonical.kind {v : JsValue} {j : Json} (h : Canonical Q v j) :
    jsonKind j = valueKind v := by
  rcases v with - | - | v | v | v | v | v | v
  · exact h.elim
  · rw [show j = .null from h]
    rfl
  · rw [show j = .boolean v from h]
    rfl
  · rw [h.2]
    rfl
  · rw [show j = .string _ from h]
    rfl
  · obtain ⟨values, rfl, -⟩ := h
    rfl
  · obtain ⟨values, sorted, -, -, -, -, rfl⟩ := h
    rfl
  · exact h.elim

theorem Same.kind {v w : JsValue} (h : Same Q v w) : valueKind v = valueKind w := by
  rcases v with - | - | v | v | v | v | v | v
  · rw [show w = .undefined from h]
  · rw [show w = .null from h]
  · rw [show w = .boolean v from h]
  · obtain ⟨n, rfl, -⟩ := h
    rfl
  · obtain ⟨t, rfl, -⟩ := h
    rfl
  · obtain ⟨items', rfl, -⟩ := h
    rfl
  · obtain ⟨members', rfl, -⟩ := h
    rfl
  · rw [show w = .other v from h]

mutual

/-- **Canonical values are equal where the values are the same.** -/
theorem canonical_eq_iff {v w : JsValue} {a b : Json} (ha : Canonical Q v a)
    (hb : Canonical Q w b) : a = b ↔ Same Q v w := by
  by_cases hkind : valueKind v = valueKind w
  swap
  · refine ⟨fun h => absurd ?_ hkind, fun h => absurd h.kind hkind⟩
    rw [← ha.kind, ← hb.kind, h]
  match v, w, hkind with
  | .null, .null, _ => exact ⟨fun _ => rfl, fun _ => (show a = _ from ha).trans (Eq.symm hb)⟩
  | .boolean value, .boolean value', _ =>
    obtain rfl : a = .boolean value := ha
    obtain rfl : b = .boolean value' := hb
    exact ⟨fun h => congrArg _ (Json.boolean.inj h).symm,
      fun h => congrArg _ (JsValue.boolean.inj h).symm⟩
  | .string value, .string value', _ =>
    obtain rfl : a = .string (normalizeText Q value) := ha
    obtain rfl : b = .string (normalizeText Q value') := hb
    constructor
    · exact fun h => ⟨value', rfl, Json.string.inj h⟩
    · rintro ⟨t, ht, hsame⟩
      rw [hsame, JsValue.string.inj ht]
  | .number value, .number value', _ =>
    obtain ⟨hsafe, rfl⟩ := ha
    obtain ⟨hsafe', rfl⟩ := hb
    constructor
    · exact fun h => ⟨value', rfl, (safeInteger_eq_iff hsafe hsafe').mp (Json.number.inj h)⟩
    · rintro ⟨n, hn, hsame⟩
      rw [← JsValue.number.inj hn] at hsame
      rw [(safeInteger_eq_iff hsafe hsafe').mpr hsame]
  | .array items, .array items', _ =>
    obtain ⟨values, rfl, hvalues⟩ := ha
    obtain ⟨values', rfl, hvalues'⟩ := hb
    have hitems := canonicalItems_eq_iff hvalues hvalues'
    constructor
    · exact fun h => ⟨items', rfl, hitems.mp (Json.array.inj h)⟩
    · rintro ⟨_, hsame, h⟩
      cases hsame
      rw [hitems.mpr h]
  | .object members, .object members', _ =>
    obtain ⟨values, sorted, hvalues, hnodup, hperm, hsorted, rfl⟩ := ha
    obtain ⟨values', sorted', hvalues', hnodup', hperm', hsorted', rfl⟩ := hb
    have hmembers := canonicalMembers_subset_iff hvalues hvalues'
    rw [object_eq_iff hnodup hnodup' hperm hperm' hsorted hsorted']
    constructor
    · intro h
      refine ⟨members', rfl, hmembers.mp fun c hc => (h c).mp hc, fun n hn hdefined => ?_⟩
      obtain ⟨j, -, hj⟩ := exists_mem_canonicalMembers hvalues' hn hdefined
      obtain ⟨m, hm, hm', hkey, -⟩ := exists_of_mem_canonicalMembers hvalues ((h _).mpr hj)
      exact ⟨m, hm, hm', hkey⟩
    · rintro ⟨_, hsame, hfirst, hsecond⟩
      cases hsame
      have hsubset := hmembers.mpr hfirst
      refine fun c => ⟨fun hc => hsubset c hc, fun hc => ?_⟩
      -- a property of the second has its key in the first, and so its value
      obtain ⟨n, hn, hdefined, hkey, -⟩ := exists_of_mem_canonicalMembers hvalues' hc
      obtain ⟨m, hm, hm', hkeys⟩ := hsecond n hn hdefined
      obtain ⟨j, -, hj⟩ := exists_mem_canonicalMembers hvalues hm hm'
      rw [hkeys, hkey] at hj
      rw [← List.inj_on_of_nodup_map hnodup' (hsubset _ hj) hc rfl]
      exact hj

theorem canonicalItems_eq_iff {items items' : List JsValue} {values values' : List Json}
    (h : CanonicalItems Q items values) (h' : CanonicalItems Q items' values') :
    values = values' ↔ SameItems Q items items' := by
  match items, items' with
  | [], [] => exact ⟨fun _ => rfl, fun _ => (show values = [] from h).trans (Eq.symm h')⟩
  | [], item' :: rest' =>
    obtain rfl : values = [] := h
    obtain ⟨value', tail', rfl, -⟩ := h'
    exact ⟨nofun, nofun⟩
  | item :: rest, [] =>
    obtain ⟨value, tail, rfl, -⟩ := h
    obtain rfl : values' = [] := h'
    exact ⟨nofun, fun ⟨_, _, hnil, _⟩ => nomatch hnil⟩
  | item :: rest, item' :: rest' =>
    obtain ⟨value, tail, rfl, hvalue, htail⟩ := h
    obtain ⟨value', tail', rfl, hvalue', htail'⟩ := h'
    have hfirst := canonical_eq_iff hvalue hvalue'
    have hrest := canonicalItems_eq_iff htail htail'
    constructor
    · intro hsame
      obtain ⟨hv, ht⟩ := List.cons.inj hsame
      exact ⟨item', rest', rfl, hfirst.mp hv, hrest.mp ht⟩
    · rintro ⟨_, _, hsame, hv, ht⟩
      cases hsame
      rw [hfirst.mpr hv, hrest.mpr ht]

theorem canonicalMembers_subset_iff {members members' : List (Text × JsValue)}
    {values values' : List (Text × Json)} (h : CanonicalMembers Q members values)
    (h' : CanonicalMembers Q members' values') :
    (∀ c ∈ values, c ∈ values') ↔ SameMembers Q members members' := by
  match members with
  | [] =>
    obtain rfl : values = [] := h
    exact ⟨fun _ => trivial, fun _ c hc => absurd hc List.not_mem_nil⟩
  | (key, item) :: rest =>
    by_cases hundefined : item = .undefined
    · subst hundefined
      have hrest := canonicalMembers_subset_iff (show CanonicalMembers Q rest values from h) h'
      exact hrest.trans ⟨fun hs => ⟨fun hne => absurd rfl hne, hs⟩, fun hs => hs.2⟩
    · obtain ⟨value, tail, rfl, hvalue, htail⟩ := (canonicalMembers_cons hundefined).mp h
      have hrest := canonicalMembers_subset_iff htail h'
      rw [List.forall_mem_cons, hrest, SameMembers]
      refine and_congr_left fun _ => ⟨fun hmem _ => ?_, fun hsame => ?_⟩
      · obtain ⟨n, hn, hdefined, hkey, hcanonical⟩ := exists_of_mem_canonicalMembers h' hmem
        exact ⟨n, hn, hdefined, hkey.symm, (canonical_eq_iff hvalue hcanonical).mp rfl⟩
      · obtain ⟨n, hn, hdefined, hkey, hsame⟩ := hsame hundefined
        obtain ⟨j, hj, hmem⟩ := exists_mem_canonicalMembers h' hn hdefined
        rw [hkey, (canonical_eq_iff hvalue hj).mpr hsame]
        exact hmem

end

/-! ### Normal forms -/

theorem properItems_iff {items : List Json} :
    JsValue.ProperItems items ↔ ∀ v ∈ items, JsValue.Proper v := by
  induction items with
  | nil => exact ⟨fun _ v hv => absurd hv List.not_mem_nil, fun _ => trivial⟩
  | cons v rest ih => rw [JsValue.ProperItems, ih, List.forall_mem_cons]

theorem properMembers_iff {members : List (Text × Json)} :
    JsValue.ProperMembers members ↔ ∀ m ∈ members, JsValue.Proper m.2 := by
  induction members with
  | nil => exact ⟨fun _ v hv => absurd hv List.not_mem_nil, fun _ => trivial⟩
  | cons m rest ih => rw [JsValue.ProperMembers, ih, List.forall_mem_cons]

theorem ofJson_ne_undefined (j : Json) : JsValue.ofJson j ≠ .undefined := by
  rcases j with - | b | n | t | items | members <;> rw [JsValue.ofJson] <;> exact nofun

/-- Properties whose keys and values are canonical. -/
theorem canonicalMembers_ofMembers {values : List (Text × Json)}
    (h : ∀ c ∈ values, normalizeText Q c.1 = c.1 ∧ Canonical Q (JsValue.ofJson c.2) c.2) :
    CanonicalMembers Q (JsValue.ofMembers values) values := by
  induction values with
  | nil => rfl
  | cons c rest ih =>
    obtain ⟨key, j⟩ := c
    obtain ⟨⟨hkey, hj⟩, hrest⟩ := List.forall_mem_cons.mp h
    refine (canonicalMembers_cons (ofJson_ne_undefined j)).mpr ⟨j, rest, ?_, hj, ih hrest⟩
    rw [hkey]

theorem canonicalItems_ofItems {values : List Json}
    (h : ∀ j ∈ values, Canonical Q (JsValue.ofJson j) j) :
    CanonicalItems Q (JsValue.ofItems values) values := by
  induction values with
  | nil => rfl
  | cons j rest ih =>
    obtain ⟨hj, hrest⟩ := List.forall_mem_cons.mp h
    exact ⟨j, rest, rfl, hj, ih hrest⟩

mutual

/-- **A canonical value is canonical for itself.** -/
theorem canonical_ofJson {v : JsValue} {j : Json} (h : Canonical Q v j) :
    Canonical Q (JsValue.ofJson j) j ∧ JsValue.Proper j := by
  match v with
  | .undefined => exact h.elim
  | .null =>
    obtain rfl : j = .null := h
    exact ⟨rfl, trivial⟩
  | .boolean value =>
    obtain rfl : j = .boolean value := h
    exact ⟨rfl, trivial⟩
  | .string value =>
    obtain rfl : j = .string (normalizeText Q value) := h
    exact ⟨congrArg _ (normalizeText_normalizeText value).symm, trivial⟩
  | .number value =>
    obtain ⟨hsafe, rfl⟩ := h
    refine ⟨⟨?_, rfl⟩, trivial⟩
    rcases value with n | - | -
    · exact hsafe
    · rfl
    · rfl
  | .array items =>
    obtain ⟨values, rfl, hvalues⟩ := h
    have hall := canonicalItems_ofJson hvalues
    exact ⟨⟨values, rfl, canonicalItems_ofItems fun j hj => (hall j hj).1⟩,
      properItems_iff.mpr fun j hj => (hall j hj).2⟩
  | .object members =>
    obtain ⟨values, sorted, hvalues, hnodup, hperm, hsorted, rfl⟩ := h
    have hown := (JsValue.perm_ownProperties sorted).trans hperm
    have hall : ∀ c ∈ JsValue.ownProperties sorted, _ := fun c hc =>
      canonicalMembers_ofJson hvalues c (hown.mem_iff.mp hc)
    have hkeys : ((JsValue.ownProperties sorted).map (·.1)).Nodup := (hown.map _).nodup_iff.mpr hnodup
    refine ⟨⟨_, sorted, canonicalMembers_ofMembers fun c hc => ⟨(hall c hc).1, (hall c hc).2.1⟩,
      hkeys, (JsValue.perm_ownProperties sorted).symm, hsorted, rfl⟩, hkeys,
      JsValue.ownProperties_enumerated sorted, properMembers_iff.mpr fun c hc => (hall c hc).2.2⟩
  | .other _ => exact h.elim

theorem canonicalItems_ofJson {items : List JsValue} {values : List Json}
    (h : CanonicalItems Q items values) :
    ∀ j ∈ values, Canonical Q (JsValue.ofJson j) j ∧ JsValue.Proper j := by
  match items with
  | [] =>
    obtain rfl : values = [] := h
    exact fun j hj => absurd hj List.not_mem_nil
  | item :: rest =>
    obtain ⟨value, tail, rfl, hvalue, htail⟩ := h
    exact List.forall_mem_cons.mpr ⟨canonical_ofJson hvalue, canonicalItems_ofJson htail⟩

theorem canonicalMembers_ofJson {members : List (Text × JsValue)} {values : List (Text × Json)}
    (h : CanonicalMembers Q members values) : ∀ c ∈ values, normalizeText Q c.1 = c.1 ∧
      Canonical Q (JsValue.ofJson c.2) c.2 ∧ JsValue.Proper c.2 := by
  match members with
  | [] =>
    obtain rfl : values = [] := h
    exact fun c hc => absurd hc List.not_mem_nil
  | (key, item) :: rest =>
    by_cases hundefined : item = .undefined
    · subst hundefined
      exact canonicalMembers_ofJson (show CanonicalMembers Q rest values from h)
    · obtain ⟨value, tail, rfl, hvalue, htail⟩ := (canonicalMembers_cons hundefined).mp h
      exact List.forall_mem_cons.mpr ⟨⟨normalizeText_normalizeText key, canonical_ofJson hvalue⟩,
        canonicalMembers_ofJson htail⟩

end

theorem toCanonicalValue_eq_ok {v : JsValue} {j : Json} :
    toCanonicalValue Q v = .ok j ↔ Canonical Q v j :=
  normalizeCanonicalValue_eq_ok v _ j

theorem canonicalize_eq_ok {v : JsValue} {text : Text} :
    canonicalize Q v = .ok text ↔ ∃ j, Canonical Q v j ∧ text = Json.stringify j := by
  rw [canonicalize]
  constructor
  · intro h
    rcases hv : toCanonicalValue Q v with e | j
    · rw [hv] at h
      cases h
    · rw [hv] at h
      exact ⟨j, toCanonicalValue_eq_ok.mp hv, (Except.ok.inj h).symm⟩
  · rintro ⟨j, hj, rfl⟩
    rw [toCanonicalValue_eq_ok.mpr hj]
    rfl

/-- What follows the first NUL of a preimage. -/
theorem append_nul_inj {d e s t : Text} (hd : 0 ∉ d) (he : 0 ∉ e)
    (h : d ++ 0 :: s = e ++ 0 :: t) : d = e ∧ s = t := by
  induction d generalizing e with
  | nil =>
    rcases e with - | ⟨u, e⟩
    · exact ⟨rfl, (List.cons.inj h).2⟩
    · exact absurd ((List.cons.inj h).1 ▸ List.mem_cons_self) he
  | cons u d ih =>
    rcases e with - | ⟨w, e⟩
    · exact absurd ((List.cons.inj h).1.symm ▸ List.mem_cons_self) hd
    · obtain ⟨rfl, htail⟩ := List.cons.inj h
      rw [List.mem_cons, not_or] at hd he
      obtain ⟨rfl, rfl⟩ := ih hd.2 he.2 htail
      exact ⟨rfl, rfl⟩

theorem createDomainSeparatedPreimage_eq_ok {domain : Text} {v : JsValue} {preimage : Text} :
    createDomainSeparatedPreimage Q domain v = .ok preimage ↔
      ∃ text, canonicalize Q v = .ok text ∧ preimage = domain ++ 0 :: text := by
  rw [createDomainSeparatedPreimage]
  rcases canonicalize Q v with e | text
  · exact ⟨nofun, nofun⟩
  · constructor
    · exact fun h => ⟨text, rfl, (Except.ok.inj h).symm⟩
    · rintro ⟨_, ⟨⟩, rfl⟩
      rfl

/-- **Canonical texts are normal forms**: a canonical text parses to a value
with that canonical text, two values have one canonical text exactly where
they are the same, and a preimage determines its domain and its text. -/
theorem canonicalize_normal_form (Q : TextPlatform) :
    (∀ v text, canonicalize Q v = .ok text →
      ∃ w, JsValue.parse text = some w ∧ canonicalize Q w = .ok text) ∧
    (∀ v w s t, canonicalize Q v = .ok s → canonicalize Q w = .ok t → (s = t ↔ Same Q v w)) ∧
    ∀ d e v w s t, 0 ∉ d → 0 ∉ e → createDomainSeparatedPreimage Q d v = .ok s →
      createDomainSeparatedPreimage Q e w = .ok t → s = t →
        d = e ∧ canonicalize Q v = canonicalize Q w := by
  refine ⟨fun v text h => ?_, fun v w s t hv hw => ?_, fun d e v w s t hd he hv hw hsame => ?_⟩
  · obtain ⟨j, hj, rfl⟩ := canonicalize_eq_ok.mp h
    obtain ⟨hself, hproper⟩ := canonical_ofJson hj
    exact ⟨JsValue.ofJson j, JsValue.parse_stringify hproper, canonicalize_eq_ok.mpr ⟨j, hself, rfl⟩⟩
  · obtain ⟨a, ha, rfl⟩ := canonicalize_eq_ok.mp hv
    obtain ⟨b, hb, rfl⟩ := canonicalize_eq_ok.mp hw
    exact Json.stringify_injective.eq_iff.trans (canonical_eq_iff ha hb)
  · obtain ⟨text, htext, rfl⟩ := createDomainSeparatedPreimage_eq_ok.mp hv
    obtain ⟨text', htext', rfl⟩ := createDomainSeparatedPreimage_eq_ok.mp hw
    obtain ⟨hdomain, rfl⟩ := append_nul_inj hd he hsame
    exact ⟨hdomain, htext.trans htext'.symm⟩

/-! ### The order of keys -/

mutual

/-- The keys of every object are in strictly increasing order. -/
def KeysIncreasing : Json → Prop
  | .null | .boolean _ | .number _ | .string _ => True
  | .array items => KeysIncreasingItems items
  | .object members =>
    members.Pairwise (fun a b => compareCanonicalText a.1 b.1 = .lt) ∧ KeysIncreasingMembers members

def KeysIncreasingItems : List Json → Prop
  | [] => True
  | v :: rest => KeysIncreasing v ∧ KeysIncreasingItems rest

def KeysIncreasingMembers : List (Text × Json) → Prop
  | [] => True
  | m :: rest => KeysIncreasing m.2 ∧ KeysIncreasingMembers rest

end

section indices

variable (Q)

/-- A key that is an array index is less than another key of its object,
unless that one is a smaller index. -/
def IndexBelow (first second : Text) : Prop :=
  ∀ i, JsValue.arrayIndex (normalizeText Q first) = some i →
    normalizeText Q first ≠ normalizeText Q second →
    (∀ j, JsValue.arrayIndex (normalizeText Q second) = some j → i ≤ j) →
    compareCanonicalText (normalizeText Q first) (normalizeText Q second) = .lt

mutual

/-- In every object the array indices come first in the order of texts too. -/
def IndicesFirst : JsValue → Prop
  | .undefined | .null | .boolean _ | .number _ | .string _ | .other _ => True
  | .array items => IndicesFirstItems items
  | .object members =>
    (∀ m ∈ members, ∀ n ∈ members, m.2 ≠ .undefined → n.2 ≠ .undefined → IndexBelow Q m.1 n.1) ∧
      IndicesFirstMembers members

def IndicesFirstItems : List JsValue → Prop
  | [] => True
  | item :: rest => IndicesFirst item ∧ IndicesFirstItems rest

def IndicesFirstMembers : List (Text × JsValue) → Prop
  | [] => True
  | (_, item) :: rest => IndicesFirst item ∧ IndicesFirstMembers rest

end

end indices

theorem lt_of_isLE {first second : Text} (hne : first ≠ second)
    (h : (compareCanonicalText first second).isLE = true) :
    compareCanonicalText first second = .lt := by
  rcases hcompare : compareCanonicalText first second
  · rfl
  · exact absurd (eq_of_compareCanonicalText hcompare) hne
  · rw [hcompare] at h
    cases h

/-- Of two properties one is enumerated before the other. -/
theorem before_or_before {α : Type} {members : List (Text × α)} {R : Text × α → Text × α → Prop}
    (h : members.Pairwise R) {a b : Text × α} (ha : a ∈ members) (hb : b ∈ members) (hne : a ≠ b) :
    R a b ∨ R b a := by
  have hsymmetric : members.Pairwise fun a b => R a b ∨ R b a := h.imp fun hab => .inl hab
  have : Std.Symm fun a b => R a b ∨ R b a := ⟨fun _ _ => Or.symm⟩
  exact hsymmetric.forall ha hb hne

/-- **Enumeration is in increasing order** exactly where every index is less
than what it is enumerated before. -/
theorem ownProperties_increasing_iff {sorted : List (Text × Json)}
    (hnodup : (sorted.map (·.1)).Nodup)
    (hsorted : sorted.Pairwise fun a b => (compareCanonicalText a.1 b.1).isLE = true) :
    (JsValue.ownProperties sorted).Pairwise (fun a b => compareCanonicalText a.1 b.1 = .lt) ↔
      ∀ a ∈ sorted, ∀ b ∈ sorted, ∀ i, JsValue.arrayIndex a.1 = some i → a.1 ≠ b.1 →
        (∀ j, JsValue.arrayIndex b.1 = some j → i ≤ j) → compareCanonicalText a.1 b.1 = .lt := by
  have hperm := JsValue.perm_ownProperties sorted
  have hordered := JsValue.ownProperties_enumerated sorted
  constructor
  · intro h a ha b hb i hi hne hle
    have hboth := h.and hordered
    rcases before_or_before hboth (hperm.mem_iff.mpr ha) (hperm.mem_iff.mpr hb)
      (fun hab => hne (congrArg _ hab)) with hab | hba
    · exact hab.1
    · -- the other is enumerated first, so it is a smaller index
      obtain ⟨j, hj, hji⟩ := hba.2 i hi
      obtain rfl : i = j := le_antisymm (hle j hj) hji
      exact absurd (JsValue.arrayIndex_injective hi hj) hne
  · intro h
    have hkeys : ((JsValue.ownProperties sorted).map (·.1)).Nodup := (hperm.map _).nodup_iff.mpr hnodup
    have hplain : (JsValue.ownProperties sorted).Pairwise fun a b =>
        JsValue.arrayIndex a.1 = none → JsValue.arrayIndex b.1 = none →
          (compareCanonicalText a.1 b.1).isLE = true := by
      refine List.pairwise_append.mpr ⟨?_, ?_, ?_⟩
      · refine List.pairwise_of_forall_mem_list fun a ha b _ hnone => ?_
        have hsome := (List.mem_filter.mp ((List.perm_insertionSort _ _).mem_iff.mp ha)).2
        rw [hnone] at hsome
        cases hsome
      · exact (hsorted.filter _).imp fun hab _ _ => hab
      · intro a ha b _ hnone
        have hsome := (List.mem_filter.mp ((List.perm_insertionSort _ _).mem_iff.mp ha)).2
        rw [hnone] at hsome
        cases hsome
    refine ((hplain.and hordered).and (List.pairwise_map.mp hkeys)).imp_of_mem ?_
    rintro a b ha hb ⟨⟨hnone, hindex⟩, hne⟩
    rcases hi : JsValue.arrayIndex a.1 with - | i
    · rcases hj : JsValue.arrayIndex b.1 with - | j
      · exact lt_of_isLE hne (hnone hi hj)
      · obtain ⟨i, hi', -⟩ := hindex j hj
        rw [hi] at hi'
        cases hi'
    · refine h a (hperm.mem_iff.mp ha) b (hperm.mem_iff.mp hb) i hi hne fun j hj => ?_
      obtain ⟨i', hi', hle⟩ := hindex j hj
      rw [hi] at hi'
      exact Option.some.inj hi' ▸ hle

theorem keysIncreasingMembers_iff {members : List (Text × Json)} :
    KeysIncreasingMembers members ↔ ∀ m ∈ members, KeysIncreasing m.2 := by
  induction members with
  | nil => exact ⟨fun _ v hv => absurd hv List.not_mem_nil, fun _ => trivial⟩
  | cons m rest ih => rw [KeysIncreasingMembers, ih, List.forall_mem_cons]

mutual

/-- **The keys are in increasing order** exactly where the indices among them
come first anyway. -/
theorem keysIncreasing_iff {v : JsValue} {j : Json} (h : Canonical Q v j) :
    KeysIncreasing j ↔ IndicesFirst Q v := by
  match v with
  | .undefined => exact h.elim
  | .null =>
    obtain rfl : j = .null := h
    exact Iff.rfl
  | .boolean value =>
    obtain rfl : j = .boolean value := h
    exact Iff.rfl
  | .string value =>
    obtain rfl : j = .string (normalizeText Q value) := h
    exact Iff.rfl
  | .number value =>
    obtain ⟨-, rfl⟩ := h
    exact Iff.rfl
  | .array items =>
    obtain ⟨values, rfl, hvalues⟩ := h
    exact keysIncreasingItems_iff hvalues
  | .object members =>
    obtain ⟨values, sorted, hvalues, hnodup, hperm, hsorted, rfl⟩ := h
    have hmembers := keysIncreasingMembers_of hvalues
    rw [KeysIncreasing, IndicesFirst, keysIncreasingMembers_iff,
      ownProperties_increasing_iff ((hperm.map _).nodup_iff.mpr hnodup) hsorted, ← hmembers]
    refine and_congr ⟨fun hfirst m hm n hn hm' hn' i hi hne hle => ?_, fun hfirst a ha b hb => ?_⟩ ?_
    · obtain ⟨x, -, hx⟩ := exists_mem_canonicalMembers hvalues hm hm'
      obtain ⟨y, -, hy⟩ := exists_mem_canonicalMembers hvalues hn hn'
      exact hfirst _ (hperm.mem_iff.mpr hx) _ (hperm.mem_iff.mpr hy) i hi hne hle
    · obtain ⟨m, hm, hm', hkey, -⟩ := exists_of_mem_canonicalMembers hvalues (hperm.mem_iff.mp ha)
      obtain ⟨n, hn, hn', hkey', -⟩ := exists_of_mem_canonicalMembers hvalues (hperm.mem_iff.mp hb)
      rw [← hkey, ← hkey']
      exact hfirst m hm n hn hm' hn'
    · have hown := (JsValue.perm_ownProperties sorted).trans hperm
      exact forall_congr' fun m => by rw [hown.mem_iff]
  | .other _ => exact h.elim

theorem keysIncreasingItems_iff {items : List JsValue} {values : List Json}
    (h : CanonicalItems Q items values) : KeysIncreasingItems values ↔ IndicesFirstItems Q items := by
  match items with
  | [] =>
    obtain rfl : values = [] := h
    exact Iff.rfl
  | item :: rest =>
    obtain ⟨value, tail, rfl, hvalue, htail⟩ := h
    exact and_congr (keysIncreasing_iff hvalue) (keysIncreasingItems_iff htail)

theorem keysIncreasingMembers_of {members : List (Text × JsValue)} {values : List (Text × Json)}
    (h : CanonicalMembers Q members values) :
    (∀ c ∈ values, KeysIncreasing c.2) ↔ IndicesFirstMembers Q members := by
  match members with
  | [] =>
    obtain rfl : values = [] := h
    exact ⟨fun _ => trivial, fun _ c hc => absurd hc List.not_mem_nil⟩
  | (key, item) :: rest =>
    by_cases hundefined : item = .undefined
    · subst hundefined
      have hrest := keysIncreasingMembers_of (show CanonicalMembers Q rest values from h)
      exact hrest.trans ⟨fun hs => ⟨trivial, hs⟩, fun hs => hs.2⟩
    · obtain ⟨value, tail, rfl, hvalue, htail⟩ := (canonicalMembers_cons hundefined).mp h
      rw [List.forall_mem_cons, keysIncreasingMembers_of htail]
      exact and_congr_left fun _ => keysIncreasing_iff hvalue

end

/-- **The keys of a canonical text** are in strictly increasing order in every
object exactly where the array indices come first in that order. -/
theorem canonicalize_keys_iff {v : JsValue} {text : Text} (h : canonicalize Q v = .ok text) :
    (∃ j, text = Json.stringify j ∧ KeysIncreasing j) ↔ IndicesFirst Q v := by
  obtain ⟨j, hj, rfl⟩ := canonicalize_eq_ok.mp h
  rw [← keysIncreasing_iff hj]
  constructor
  · rintro ⟨j', hsame, hkeys⟩
    rw [Json.stringify_injective hsame]
    exact hkeys
  · exact fun hkeys => ⟨j, rfl, hkeys⟩

/-- A runtime on ASCII texts. -/
def samplePlatform : TextPlatform := ⟨id, fun _ => rfl, fun _ _ => rfl, fun _ h => h⟩

/-- An object with the names 10 and 9. -/
def sampleIndices : JsValue :=
  .object [(ascii "10", .boolean true), (ascii "9", .boolean false)]

/-- An object with the names b and 1. -/
def sampleNames : JsValue :=
  .object [(ascii "b", .boolean true), (ascii "1", .boolean false)]

/-- The names b and 1 are in order in the text. -/
theorem canonicalize_keys_sample :
    ∃ j, ascii "\x7b\"1\":false,\"b\":true\x7d" = Json.stringify j ∧ KeysIncreasing j := by
  have h : canonicalize samplePlatform sampleNames =
      .ok (ascii "\x7b\"1\":false,\"b\":true\x7d") := by decide +kernel
  refine (canonicalize_keys_iff h).mpr ⟨?_, trivial, trivial, trivial⟩
  intro m hm n hn _ _ i hi hne hle
  rcases List.mem_cons.mp hm with rfl | hm
  · cases hi
  · obtain rfl := List.mem_singleton.mp hm
    rcases List.mem_cons.mp hn with rfl | hn
    · decide
    · obtain rfl := List.mem_singleton.mp hn
      exact absurd rfl hne

/-- The names 10 and 9 are not: 9 is enumerated first. -/
theorem indices_not_increasing :
    canonicalize samplePlatform sampleIndices =
        .ok (ascii "\x7b\"9\":false,\"10\":true\x7d") ∧
      ¬ ∃ j, ascii "\x7b\"9\":false,\"10\":true\x7d" = Json.stringify j ∧ KeysIncreasing j := by
  have h : canonicalize samplePlatform sampleIndices =
      .ok (ascii "\x7b\"9\":false,\"10\":true\x7d") := by decide +kernel
  refine ⟨h, ?_⟩
  rintro ⟨j, hsame, hkeys⟩
  obtain ⟨j', hj, htext⟩ := canonicalize_eq_ok.mp h
  obtain rfl := Json.stringify_injective (hsame.symm.trans htext)
  -- the text of 9 is greater than that of 10
  have hbelow := ((keysIncreasing_iff hj).mp hkeys).1 _ (List.mem_cons_of_mem _ List.mem_cons_self)
    _ List.mem_cons_self nofun nofun
  exact absurd (hbelow 9 (by decide) (by decide) (by decide)) (by decide)

end SubmittedIt.Protocol
