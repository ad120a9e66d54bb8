/-
SubmittedIt/CanonicalSizes.lean

How long canonical texts are, in UTF-8.

The text of a JSON value has the bytes of its parts, and of the punctuation between
them, in whatever order the parts stand; so the length of a canonical text is found
by adding up along the value.

Main results: `sized_array` and `sized_object`.
-/
import SubmittedIt.Records
import SubmittedIt.Encoding
import SubmittedIt.TextSearch

namespace Utf8

/-- Behind a well-formed text everything is written as at the start. -/
theorem encode_append {s : List UInt16} (h : WellFormed s) (t : List UInt16) :
    encode (s ++ t) = encode s ++ encode t := by
  rw [encode, (codePoints_append h t).1, List.flatMap_append]
  rfl

end Utf8

namespace Json

/-! ### Sizes of JSON texts -/

/-- The number of bytes of a text. -/
def byteLength (text : List UInt16) : Nat := (Utf8.encode text).length

/-- The number of bytes of a value. -/
def size (v : Json) : Nat := byteLength (stringify v)

theorem byteLength_append {s : List UInt16} (h : Utf8.WellFormed s) (t : List UInt16) :
    byteLength (s ++ t) = byteLength s + byteLength t := by
  rw [byteLength, Utf8.encode_append h, List.length_append]
  rfl

theorem byteLength_cons {u : UInt16} (h : u.toNat < 128) (t : List UInt16) :
    byteLength (u :: t) = byteLength t + 1 := by
  have hone : Utf8.WellFormed [u] :=
    Utf8.wellFormed_of_ascii (by simpa [Utf8.isAscii, UInt16.lt_iff_toNat_lt] using h)
  have hsingle : byteLength [u] = 1 := by
    rw [byteLength, Utf8.encode_ascii (by simpa using h)]
    rfl
  have happend := byteLength_append hone t
  rw [hsingle] at happend
  exact happend.trans (Nat.add_comm _ _)

/-- A character of a string that needs no escape. -/
def isPlain (u : UInt16) : Bool := 32 ≤ u && u ≤ 126 && u ≠ 34 && u ≠ 92

theorem isPlain_iff {u : UInt16} :
    isPlain u = true ↔ (32 ≤ u.toNat ∧ u.toNat ≤ 126) ∧ u ≠ 34 ∧ u ≠ 92 := by
  simp only [isPlain, Bool.and_eq_true, decide_eq_true_eq, UInt16.le_iff_toNat_le, and_assoc]
  rfl

theorem escapeUnit_plain {u : UInt16} (h : isPlain u = true) : escapeUnit u = [u] := by
  obtain ⟨⟨hlow, hhigh⟩, hquote, hslash⟩ := isPlain_iff.mp h
  have hhighSurrogate : isHighSurrogate u = false := by
    simp only [isHighSurrogate, Bool.and_eq_false_iff, decide_eq_false_iff_not,
      UInt16.le_iff_toNat_le, UInt16.reduceToNat]
    omega
  have hlowSurrogate : isLowSurrogate u = false := by
    simp only [isLowSurrogate, Bool.and_eq_false_iff, decide_eq_false_iff_not,
      UInt16.le_iff_toNat_le, UInt16.reduceToNat]
    omega
  have hcontrol : ∀ v : UInt16, v.toNat < 32 → u ≠ v := by
    rintro _ hv rfl
    omega
  rw [escapeUnit, if_neg (hcontrol 8 (by decide)), if_neg (hcontrol 9 (by decide)),
    if_neg (hcontrol 10 (by decide)), if_neg (hcontrol 12 (by decide)),
    if_neg (hcontrol 13 (by decide)), if_neg hquote, if_neg hslash, if_neg]
  rw [hhighSurrogate, hlowSurrogate, UInt16.lt_iff_toNat_lt]
  simp only [UInt16.reduceToNat, Bool.false_eq_true, or_false]
  omega

theorem escape_plain {text : List UInt16} (h : text.all isPlain = true) : escape text = text := by
  induction text using escape.induct with
  | case1 => rfl
  | case2 u =>
    rw [List.all_cons, Bool.and_eq_true] at h
    exact escapeUnit_plain h.1
  | case3 u v rest hpair ih =>
    rw [List.all_cons, List.all_cons, Bool.and_eq_true, Bool.and_eq_true] at h
    rw [escape, if_pos hpair, ih h.2.2]
  | case4 u v rest hpair ih =>
    rw [List.all_cons, Bool.and_eq_true] at h
    rw [escape, if_neg hpair, escapeUnit_plain h.1, ih h.2]
    rfl

/-- A plain text has a byte for each character. -/
theorem byteLength_plain {text : List UInt16} (h : text.all isPlain = true) :
    byteLength text = text.length := by
  have hascii : ∀ u ∈ text, u.toNat < 128 := by
    intro u hu
    have hplain := isPlain_iff.mp (List.all_eq_true.mp h u hu)
    omega
  rw [byteLength, Utf8.encode_ascii hascii, List.length_map]

theorem byteLength_quote (text : List UInt16) :
    byteLength (quote text) = byteLength (escape text) + 2 := by
  rw [quote, byteLength_cons (by decide), byteLength_append (Utf8.wellFormed_escape text)]
  rfl

theorem byteLength_quote_plain {text : List UInt16} (h : text.all isPlain = true) :
    byteLength (quote text) = text.length + 2 := by
  rw [byteLength_quote, escape_plain h, byteLength_plain h]

theorem byteLength_stringifyItems (items : List Json) :
    byteLength (stringifyItems items) = (items.map fun v => v.size + 1).sum + 1 := by
  induction items with
  | nil => rfl
  | cons v rest ih =>
    rw [stringifyItems, byteLength_cons (by decide),
      byteLength_append (Utf8.wellFormed_stringify v), ih, List.map_cons, List.sum_cons]
    have hsize : v.size = byteLength (stringify v) := rfl
    omega

theorem byteLength_stringifyMembers (members : List (List UInt16 × Json)) :
    byteLength (stringifyMembers members) =
      (members.map fun m => byteLength (quote m.1) + m.2.size + 2).sum + 1 := by
  induction members with
  | nil => rfl
  | cons m rest ih =>
    obtain ⟨k, v⟩ := m
    rw [stringifyMembers, byteLength_cons (by decide), byteLength_append (Utf8.wellFormed_quote k),
      byteLength_cons (by decide), byteLength_append (Utf8.wellFormed_stringify v), ih,
      List.map_cons, List.sum_cons]
    have hsize : v.size = byteLength (stringify v) := rfl
    dsimp only
    omega

/-- **The size of an array**: that of its items, a comma or a bracket after each. -/
theorem size_array {items : List Json} (h : items ≠ []) :
    size (.array items) = (items.map fun v => v.size + 1).sum + 1 := by
  obtain ⟨v, rest, rfl⟩ := List.exists_cons_of_ne_nil h
  rw [size, stringify, byteLength_cons (by decide), byteLength_append (Utf8.wellFormed_stringify v),
    byteLength_stringifyItems, List.map_cons, List.sum_cons]
  have hsize : v.size = byteLength (stringify v) := rfl
  omega

/-- **The size of an object**: that of its names and values, a colon and a comma or a
brace for each. -/
theorem size_object {members : List (List UInt16 × Json)} (h : members ≠ []) :
    size (.object members) =
      (members.map fun m => byteLength (quote m.1) + m.2.size + 2).sum + 1 := by
  obtain ⟨⟨k, v⟩, rest, rfl⟩ := List.exists_cons_of_ne_nil h
  rw [size, stringify, byteLength_cons (by decide), byteLength_append (Utf8.wellFormed_quote k),
    byteLength_cons (by decide), byteLength_append (Utf8.wellFormed_stringify v),
    byteLength_stringifyMembers, List.map_cons, List.sum_cons]
  have hsize : v.size = byteLength (stringify v) := rfl
  dsimp only
  omega

end Json

namespace SubmittedIt.Protocol

section sizes

variable {Q : TextPlatform}

/-! ### Sizes of canonical texts -/

/-- The canonical text of the value has so many bytes. -/
def Sized (Q : TextPlatform) (v : JsValue) (n : Nat) : Prop := ∃ j, Canonical Q v j ∧ j.size = n

theorem sized_iff {v : JsValue} {n : Nat} :
    Sized Q v n ↔ ∃ text, canonicalize Q v = .ok text ∧ (utf8Bytes text).length = n := by
  constructor
  · rintro ⟨j, hj, hsize⟩
    exact ⟨_, canonicalize_eq_ok.mpr ⟨j, hj, rfl⟩, hsize⟩
  · rintro ⟨text, htext, hsize⟩
    obtain ⟨j, hj, rfl⟩ := canonicalize_eq_ok.mp htext
    exact ⟨j, hj, hsize⟩

/-- A value has one size. -/
theorem Sized.unique {v : JsValue} {m n : Nat} (hm : Sized Q v m) (hn : Sized Q v n) : m = n := by
  obtain ⟨text, htext, rfl⟩ := sized_iff.mp hm
  obtain ⟨text', htext', rfl⟩ := sized_iff.mp hn
  obtain rfl := Except.ok.inj (htext.symm.trans htext')
  rfl

theorem normalizeText_plain {text : Text} (h : text.all Json.isPlain = true) :
    normalizeText Q text = text := by
  have hascii : Utf8.isAscii text = true := by
    rw [Utf8.isAscii, List.all_eq_true]
    intro u hu
    have hplain := Json.isPlain_iff.mp (List.all_eq_true.mp h u hu)
    rw [decide_eq_true_eq, UInt16.lt_iff_toNat_lt]
    simp only [UInt16.reduceToNat]
    omega
  have hreturn : 13 ∉ text := fun hmem => absurd (List.all_eq_true.mp h 13 hmem) (by decide)
  exact normalizeText_ascii hascii hreturn

/-- A plain text is quoted as it is. -/
theorem sized_string (text : Text) (h : text.all Json.isPlain = true) :
    Sized Q (.string text) (text.length + 2) := by
  refine ⟨.string text, ?_, Json.byteLength_quote_plain h⟩
  show Json.string text = Json.string (normalizeText Q text)
  rw [normalizeText_plain h]

/-- The sizes of items, with a comma or a bracket after each. -/
inductive SizedItems (Q : TextPlatform) : List JsValue → Nat → Prop
  | nil : SizedItems Q [] 0
  | cons {item : JsValue} {items : List JsValue} {n total : Nat} :
      Sized Q item n → SizedItems Q items total → SizedItems Q (item :: items) (n + 1 + total)

/-- The sizes of properties, with a colon and a comma or a brace for each. -/
inductive SizedMembers (Q : TextPlatform) : List (Text × JsValue) → Nat → Prop
  | nil : SizedMembers Q [] 0
  | cons (key : Text) {item : JsValue} {members : List (Text × JsValue)} {n total : Nat} :
      key.all Json.isPlain = true → Sized Q item n → SizedMembers Q members total →
      SizedMembers Q ((key, item) :: members) (key.length + 4 + n + total)

theorem sized_array {items : List JsValue} {total : Nat} (hne : items ≠ [])
    (h : SizedItems Q items total) : Sized Q (.array items) (total + 1) := by
  have hvalues : ∃ values, CanonicalItems Q items values ∧ values.length = items.length ∧
      (values.map fun v => v.size + 1).sum = total := by
    clear hne
    induction h with
    | nil => exact ⟨[], rfl, rfl, rfl⟩
    | cons hitem _ ih =>
      obtain ⟨j, hj, rfl⟩ := hitem
      obtain ⟨values, hvalues, hlength, rfl⟩ := ih
      exact ⟨j :: values, ⟨j, values, rfl, hj, hvalues⟩, congrArg (· + 1) hlength, rfl⟩
  obtain ⟨values, hvalues, hlength, rfl⟩ := hvalues
  refine ⟨.array values, ⟨values, rfl, hvalues⟩, Json.size_array ?_⟩
  rintro rfl
  exact hne (List.length_eq_zero_iff.mp hlength.symm)

theorem Sized.ne_undefined {v : JsValue} {n : Nat} (h : Sized Q v n) : v ≠ .undefined := by
  rintro rfl
  obtain ⟨j, hj, -⟩ := h
  exact hj

/-- **Properties take the same room in every order.** -/
theorem sized_object {members : List (Text × JsValue)} {total : Nat} (hne : members ≠ [])
    (hkeys : (members.map (·.1)).Nodup) (h : SizedMembers Q members total) :
    Sized Q (.object members) (total + 1) := by
  have hvalues : ∃ values, CanonicalMembers Q members values ∧
      values.map (·.1) = members.map (·.1) ∧
      (values.map fun m => Json.byteLength (Json.quote m.1) + m.2.size + 2).sum = total := by
    clear hne hkeys
    induction h with
    | nil => exact ⟨[], rfl, rfl, rfl⟩
    | @cons key item members n total hkey hitem _ ih =>
      obtain ⟨values, hvalues, hnames, rfl⟩ := ih
      have hdefined := hitem.ne_undefined
      obtain ⟨j, hj, rfl⟩ := hitem
      refine ⟨(key, j) :: values, ?_, ?_, ?_⟩
      · refine (canonicalMembers_cons hdefined).mpr ⟨j, values, ?_, hj, hvalues⟩
        rw [normalizeText_plain hkey]
      · rw [List.map_cons, List.map_cons, hnames]
      · rw [List.map_cons, List.sum_cons, Json.byteLength_quote_plain hkey]
        dsimp only
        omega
  obtain ⟨values, hvalues, hnames, rfl⟩ := hvalues
  have hperm := (JsValue.perm_ownProperties (JsValue.sortBy (compareKeys Prod.fst) values)).trans
    (JsValue.perm_sortBy (compareKeys Prod.fst) values)
  refine ⟨_, ⟨values, _, hvalues, hnames ▸ hkeys, JsValue.perm_sortBy _ _,
    JsValue.sortBy_pairwise (compareKeys Prod.fst) values, rfl⟩, ?_⟩
  rw [Json.size_object, (hperm.map _).sum_eq]
  intro hnil
  rw [hnil] at hperm
  obtain rfl := List.nil_perm.mp hperm
  exact hne (List.map_eq_nil_iff.mp hnames.symm)

end sizes

end SubmittedIt.Protocol
