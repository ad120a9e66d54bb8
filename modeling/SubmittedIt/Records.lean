/-
SubmittedIt/Records.lean

Parsers of records and lists (packages/receipt-core, schema.ts).

A record is read by its keys only (`assertKeys`, `field`, `optionalField`), so
that the order of its properties is of no matter; what is written of a record
is `record`, the object of those properties that have a value.

The rules at the end take `Parses` from the fields to the record: what is
written of a record has the keys of the schema and gives every field back, and
records with one canonical form agree under every key.
-/
import SubmittedIt.Normalize

namespace SubmittedIt.Protocol

open JsValue (member hasOwn)

/-! ### What parsers read -/

/-- `typeof value === "undefined"`. -/
def isUndefined : JsValue → Bool
  | .undefined => true
  | _ => false

/-- Refuse what the condition says. -/
def refuseIf (condition : Prop) [Decidable condition] (code : String) (message path : Text) :
    Except ReceiptProtocolError Unit :=
  Transaction.revertIf condition ⟨code, message, path⟩

/-- `asRecord`: the properties of a plain object. -/
def asRecord (value : JsValue) (path : Text) :
    Except ReceiptProtocolError (List (Text × JsValue)) :=
  match value with
  | .object members => .ok members
  | _ => protocolError "EXPECTED_OBJECT" (ascii "must be a plain object.") path

/-- `assertKeys`. -/
def assertKeys (value : List (Text × JsValue)) (required optional : List String) (path : Text) :
    Except ReceiptProtocolError Unit :=
  match value.find? fun m => !((required ++ optional).map ascii).contains m.1 with
  | some m => protocolError "UNKNOWN_PROPERTY"
      (ascii "contains unknown property " ++ Json.quote m.1 ++ ascii ".") path
  | none =>
    match required.find? fun key => isUndefined (member (ascii key) value) with
    | some key => protocolError "MISSING_PROPERTY"
        (ascii "is missing required property " ++ Json.quote (ascii key) ++ ascii ".") path
    | none =>
      match optional.find? fun key =>
          hasOwn (ascii key) value && isUndefined (member (ascii key) value) with
      | some key => protocolError "UNDEFINED_PROPERTY"
          (Json.quote (ascii key) ++ ascii " must be omitted rather than undefined.") path
      | none => .ok ()

/-- `parseArray`. -/
def parseArray (value : JsValue) (path : Text) : Except ReceiptProtocolError (List JsValue) :=
  match value with
  | .array items => .ok items
  | _ => protocolError "EXPECTED_ARRAY" (ascii "must be an array.") path

/-- Parse the items of an array from an index on. -/
def parseItems {α : Type} (parse : JsValue → Text → Except ReceiptProtocolError α) :
    List JsValue → Text → Nat → Except ReceiptProtocolError (List α)
  | [], _, _ => .ok []
  | item :: rest, path, index => do
    let value ← parse item (path ++ ascii "[" ++ Json.decimal index ++ ascii "]")
    let values ← parseItems parse rest path (index + 1)
    return value :: values

/-- An array of what a parser parses. -/
def parseList {α : Type} (parse : JsValue → Text → Except ReceiptProtocolError α) (value : JsValue)
    (path : Text) : Except ReceiptProtocolError (List α) := do
  let items ← parseArray value path
  parseItems parse items path 0

/-- Texts with commas between them. -/
def joinTexts : List Text → Text
  | [] => []
  | [text] => text
  | text :: rest => text ++ ascii ", " ++ joinTexts rest

/-- `parseEnum`, of the values that have the texts. -/
def parseEnum {α : Type} (values : List α) (text : α → Text) (value : JsValue) (path : Text) :
    Except ReceiptProtocolError α :=
  let invalid :=
    protocolError "INVALID_ENUM_VALUE"
      (ascii "must be one of: " ++ joinTexts (values.map text) ++ ascii ".") path
  match value with
  | .string s =>
    match values.find? fun a => text a = s with
    | some a => .ok a
    | none => invalid
  | _ => invalid

/-- `parseBoolean`. -/
def parseBoolean (value : JsValue) (path : Text) : Except ReceiptProtocolError Bool :=
  match value with
  | .boolean b => .ok b
  | _ => protocolError "EXPECTED_BOOLEAN" (ascii "must be a boolean.") path

/-- `parseLiteralTrue`. -/
def parseLiteralTrue (value : JsValue) (path : Text) : Except ReceiptProtocolError Unit :=
  match value with
  | .boolean true => .ok ()
  | _ => protocolError "PRIVACY_INVARIANT" (ascii "must be true.") path

/-- The value of a key, parsed. -/
def field {α : Type} (parse : JsValue → Text → Except ReceiptProtocolError α) (key : String)
    (value : List (Text × JsValue)) (path : Text) : Except ReceiptProtocolError α :=
  parse (member (ascii key) value) (path ++ ascii "." ++ ascii key)

/-- The value of a key, parsed if there is one. -/
def optionalField {α : Type} (parse : JsValue → Text → Except ReceiptProtocolError α) (key : String)
    (value : List (Text × JsValue)) (path : Text) : Except ReceiptProtocolError (Option α) :=
  if hasOwn (ascii key) value then (field parse key value path).map some else .ok none

/-! ### What is written -/

/-- The properties that have a value. -/
def definedMembers (members : List (Text × JsValue)) : List (Text × JsValue) :=
  members.filter fun m => !isUndefined m.2

/-- The object of the properties that have a value. -/
def record (members : List (Text × JsValue)) : JsValue := .object (definedMembers members)

/-- An integer. -/
def writeNat (n : Nat) : JsValue := .number (.integer n)

/-- What there is, or nothing. -/
def writeOption {α : Type} (write : α → JsValue) : Option α → JsValue
  | none => .undefined
  | some x => write x

/-- An array. -/
def writeList {α : Type} (write : α → JsValue) (xs : List α) : JsValue := .array (xs.map write)

/-- The text of a value of an enumeration. -/
def writeEnum {α : Type} (text : α → Text) (x : α) : JsValue := .string (text x)

/-! ### Numbers, booleans and enumerations -/

theorem refuseIf_eq_ok {condition : Prop} [Decidable condition] {code : String}
    {message path : Text} {u : Unit} :
    refuseIf condition code message path = .ok u ↔ ¬condition :=
  Transaction.revertIf_eq_ok _ _ _

section rules

variable {Q : ReceiptPlatform}

theorem normalizeNonNegativeSafeInteger_eq_ok {v : JsValue} {p : Text} {n : Nat} :
    normalizeNonNegativeSafeInteger v p = .ok n ↔ ∃ number, v = .number number ∧
      isSafeInteger number = true ∧ safeInteger number = n := by
  unfold normalizeNonNegativeSafeInteger
  split
  · next number =>
    split
    · next hbad =>
      refine ⟨nofun, ?_⟩
      rintro ⟨_, hnumber, hsafe, hn⟩
      cases hnumber
      rcases hbad with hbad | hbad
      · rw [hsafe] at hbad
        cases hbad
      · omega
    · next hgood =>
      rw [not_or, Bool.not_eq_false, not_lt] at hgood
      constructor
      · intro h
        cases h
        exact ⟨number, rfl, hgood.1, (Int.toNat_of_nonneg hgood.2).symm⟩
      · rintro ⟨_, hnumber, -, hn⟩
        cases hnumber
        rw [hn, Int.toNat_natCast]
  · next hv =>
    refine ⟨nofun, ?_⟩
    rintro ⟨number, rfl, -⟩
    exact absurd rfl (hv number)

theorem isSafeInteger_of_eq_ok {v : JsValue} {p : Text} {n : Nat}
    (h : normalizeNonNegativeSafeInteger v p = .ok n) : isSafeInteger (.integer n) = true := by
  obtain ⟨number, -, hsafe, hn⟩ := normalizeNonNegativeSafeInteger_eq_ok.mp h
  rcases number with i | - | -
  · obtain rfl : i = n := hn
    exact hsafe
  · obtain rfl : 0 = n := Int.ofNat_inj.mp hn
    rfl
  · cases hsafe

/-- A number that was parsed is parsed again. -/
theorem normalizeNonNegativeSafeInteger_again {v : JsValue} {p : Text} {n : Nat}
    (h : normalizeNonNegativeSafeInteger v p = .ok n) (q : Text) :
    normalizeNonNegativeSafeInteger (writeNat n) q = .ok n :=
  normalizeNonNegativeSafeInteger_eq_ok.mpr ⟨_, rfl, isSafeInteger_of_eq_ok h, rfl⟩

theorem same_writeNat {m n : Nat} (h : Same Q.toTextPlatform (writeNat m) (writeNat n)) :
    m = n := by
  obtain ⟨number, hnumber, hsame⟩ := h
  rw [← JsValue.number.inj hnumber] at hsame
  exact Int.ofNat_inj.mp (JsNumber.integer.inj hsame)

theorem normalizeNonNegativeSafeInteger_pathless : Pathless normalizeNonNegativeSafeInteger :=
  fun _ _ _ h _ =>
    normalizeNonNegativeSafeInteger_eq_ok.mpr (normalizeNonNegativeSafeInteger_eq_ok.mp h)

theorem normalizeNonNegativeSafeInteger_parses :
    Parses Q normalizeNonNegativeSafeInteger writeNat where
  anywhere := normalizeNonNegativeSafeInteger_pathless
  again := normalizeNonNegativeSafeInteger_again
  canonical h := ⟨_, isSafeInteger_of_eq_ok h, rfl⟩
  distinct _ _ := same_writeNat

theorem normalizePositiveSafeInteger_eq_ok {v : JsValue} {p : Text} {n : Nat} :
    normalizePositiveSafeInteger v p = .ok n ↔
      normalizeNonNegativeSafeInteger v p = .ok n ∧ n ≠ 0 := by
  unfold normalizePositiveSafeInteger
  rw [Transaction.bind_eq_ok]
  constructor
  · rintro ⟨m, hm, h⟩
    split at h
    · cases h
    · next hne =>
      cases h
      exact ⟨hm, hne⟩
  · rintro ⟨hn, hne⟩
    exact ⟨n, hn, if_neg hne⟩

theorem normalizePositiveSafeInteger_pathless : Pathless normalizePositiveSafeInteger := by
  intro v p n h q
  obtain ⟨hn, hne⟩ := normalizePositiveSafeInteger_eq_ok.mp h
  exact normalizePositiveSafeInteger_eq_ok.mpr
    ⟨normalizeNonNegativeSafeInteger_pathless hn q, hne⟩

theorem normalizePositiveSafeInteger_parses : Parses Q normalizePositiveSafeInteger writeNat where
  anywhere := normalizePositiveSafeInteger_pathless
  again h q := by
    obtain ⟨hn, hne⟩ := normalizePositiveSafeInteger_eq_ok.mp h
    exact normalizePositiveSafeInteger_eq_ok.mpr ⟨normalizeNonNegativeSafeInteger_again hn q, hne⟩
  canonical h := ⟨_, isSafeInteger_of_eq_ok (normalizePositiveSafeInteger_eq_ok.mp h).1, rfl⟩
  distinct _ _ := same_writeNat

theorem parseBoolean_eq_ok {v : JsValue} {p : Text} {b : Bool} :
    parseBoolean v p = .ok b ↔ v = .boolean b := by
  unfold parseBoolean
  split
  · exact ⟨fun h => congrArg _ (Except.ok.inj h), fun h => congrArg _ (JsValue.boolean.inj h)⟩
  · next hv => exact ⟨nofun, fun h => absurd h (hv b)⟩

theorem parseBoolean_pathless : Pathless parseBoolean :=
  fun _ _ _ h _ => parseBoolean_eq_ok.mpr (parseBoolean_eq_ok.mp h)

theorem parseBoolean_parses : Parses Q parseBoolean .boolean where
  anywhere := parseBoolean_pathless
  again _ _ := rfl
  canonical _ := ⟨_, rfl⟩
  distinct _ _ h := (JsValue.boolean.inj h).symm

theorem parseLiteralTrue_pathless : Pathless parseLiteralTrue := by
  intro v p x h q
  unfold parseLiteralTrue at h ⊢
  split at h
  · rfl
  · cases h

theorem parseLiteralTrue_parses : Parses Q parseLiteralTrue fun _ => .boolean true where
  anywhere := parseLiteralTrue_pathless
  again _ _ := rfl
  canonical _ := ⟨_, rfl⟩
  distinct _ _ _ := rfl

theorem parseEnum_eq_ok {α : Type} {values : List α} {text : α → Text}
    (htext : Function.Injective text) {v : JsValue} {p : Text} {x : α} :
    parseEnum values text v p = .ok x ↔ v = .string (text x) ∧ x ∈ values := by
  unfold parseEnum
  dsimp only
  split
  · next s =>
    split
    · next a hfind =>
      have hs : text a = s := by simpa using List.find?_some hfind
      constructor
      · intro h
        cases h
        exact ⟨congrArg _ hs.symm, List.mem_of_find?_eq_some hfind⟩
      · rintro ⟨hv, -⟩
        rw [JsValue.string.inj hv] at hs
        rw [htext hs]
    · next hfind =>
      refine ⟨nofun, ?_⟩
      rintro ⟨hv, hx⟩
      have hne := List.find?_eq_none.mp hfind x hx
      rw [JsValue.string.inj hv] at hne
      exact absurd (decide_eq_true rfl) hne
  · next hv =>
    refine ⟨nofun, ?_⟩
    rintro ⟨hv', -⟩
    exact absurd hv' (hv _)

theorem parseEnum_parses {α : Type} (values : List α) {text : α → Text}
    (htext : Function.Injective text) (hvisible : ∀ x, isVisible (text x) = true) :
    Parses Q (parseEnum values text) (writeEnum text) where
  anywhere _ _ _ h _ := (parseEnum_eq_ok htext).mpr ((parseEnum_eq_ok htext).mp h)
  again h q := (parseEnum_eq_ok htext).mpr ⟨rfl, ((parseEnum_eq_ok htext).mp h).2⟩
  canonical _ := ⟨_, rfl⟩
  distinct _ _ h := by
    obtain ⟨t, ht, hsame⟩ := h
    rw [← JsValue.string.inj ht, normalizeText_visible (hvisible _),
      normalizeText_visible (hvisible _)] at hsame
    exact htext hsame

/-! ### Lists -/

/-- Items are parsed one by one. -/
theorem parseItems_eq_ok {α : Type} {parse : JsValue → Text → Except ReceiptProtocolError α}
    (hanywhere : Pathless parse) {items : List JsValue} {p : Text} {index : Nat} {xs : List α} :
    parseItems parse items p index = .ok xs ↔
      List.Forall₂ (fun item x => ∀ q, parse item q = .ok x) items xs := by
  induction items generalizing index xs with
  | nil =>
    rw [List.forall₂_nil_left_iff]
    exact ⟨fun h => (Except.ok.inj h).symm, fun h => congrArg _ h.symm⟩
  | cons item rest ih =>
    rw [List.forall₂_cons_left_iff]
    unfold parseItems
    simp only [Transaction.bind_eq_ok, ih]
    constructor
    · rintro ⟨x, hx, xs', hxs, h⟩
      exact ⟨x, xs', hanywhere hx, hxs, (Except.ok.inj h).symm⟩
    · rintro ⟨x, xs', hx, hxs, rfl⟩
      exact ⟨x, hx _, xs', hxs, rfl⟩

theorem parseList_eq_ok {α : Type} {parse : JsValue → Text → Except ReceiptProtocolError α}
    (hanywhere : Pathless parse) {v : JsValue} {p : Text} {xs : List α} :
    parseList parse v p = .ok xs ↔ ∃ items, v = .array items ∧
      List.Forall₂ (fun item x => ∀ q, parse item q = .ok x) items xs := by
  unfold parseList
  rw [Transaction.bind_eq_ok]
  simp only [parseItems_eq_ok hanywhere]
  constructor
  · rintro ⟨items, hitems, h⟩
    unfold parseArray at hitems
    split at hitems
    · cases hitems
      exact ⟨_, rfl, h⟩
    · cases hitems
  · rintro ⟨items, rfl, h⟩
    exact ⟨items, rfl, h⟩

/-- Lists whose items are told apart are told apart. -/
theorem distinct_list {α : Type} {write : α → JsValue} {xs ys : List α}
    (h : ∀ x ∈ xs, ∀ y ∈ ys, Same Q.toTextPlatform (write x) (write y) → x = y)
    (hsame : SameItems Q.toTextPlatform (xs.map write) (ys.map write)) : xs = ys := by
  induction xs generalizing ys with
  | nil => exact (List.map_eq_nil_iff.mp (show ys.map write = [] from hsame)).symm
  | cons x xs ih =>
    obtain ⟨w, rest, hmap, hfirst, hrest⟩ := hsame
    obtain ⟨y, ys', rfl, rfl, rfl⟩ := List.map_eq_cons_iff.mp hmap
    rw [h x List.mem_cons_self y List.mem_cons_self hfirst, ih (fun a ha b hb =>
      h a (List.mem_cons_of_mem _ ha) b (List.mem_cons_of_mem _ hb)) hrest]

theorem exists_of_forall₂ {α β : Type} {R : α → β → Prop} {l : List α} {l' : List β}
    (h : List.Forall₂ R l l') {b : β} (hb : b ∈ l') : ∃ a ∈ l, R a b := by
  induction h with
  | nil => cases hb
  | cons hfirst _ ih =>
    rcases List.mem_cons.mp hb with rfl | hb
    · exact ⟨_, List.mem_cons_self, hfirst⟩
    · obtain ⟨a, ha, hab⟩ := ih hb
      exact ⟨a, List.mem_cons_of_mem _ ha, hab⟩

/-- What was parsed of a list is parsed again, in any order. -/
theorem parseList_again {α : Type} {parse : JsValue → Text → Except ReceiptProtocolError α}
    {write : α → JsValue} (hparse : Parses Q parse write) {items : List JsValue} {xs ys : List α}
    (h : List.Forall₂ (fun item x => ∀ q, parse item q = .ok x) items xs) (hys : ys ⊆ xs)
    (q : Text) : parseList parse (writeList write ys) q = .ok ys := by
  refine (parseList_eq_ok hparse.anywhere).mpr ⟨_, rfl, ?_⟩
  rw [List.forall₂_map_left_iff, List.forall₂_same]
  intro y hy
  obtain ⟨item, -, hitem⟩ := exists_of_forall₂ h (hys hy)
  exact hparse.again (hitem q)

/-- Lists whose items have canonical forms have one. -/
theorem canonical_list {α : Type} {write : α → JsValue} {xs : List α}
    (h : ∀ x ∈ xs, ∃ j, Canonical Q.toTextPlatform (write x) j) :
    ∃ j, Canonical Q.toTextPlatform (writeList write xs) j := by
  have hitems : ∃ values, CanonicalItems Q.toTextPlatform (xs.map write) values := by
    induction xs with
    | nil => exact ⟨[], rfl⟩
    | cons x xs ih =>
      obtain ⟨⟨value, hvalue⟩, hrest⟩ := List.forall_mem_cons.mp h
      obtain ⟨values, hvalues⟩ := ih hrest
      exact ⟨value :: values, value, values, rfl, hvalue, hvalues⟩
  obtain ⟨values, hvalues⟩ := hitems
  exact ⟨.array values, values, rfl, hvalues⟩

/-- **Lists are parsed as their items are.** -/
theorem parseList_parses {α : Type} {parse : JsValue → Text → Except ReceiptProtocolError α}
    {write : α → JsValue} (hparse : Parses Q parse write) :
    Parses Q (parseList parse) (writeList write) where
  anywhere _ _ _ h _ :=
    (parseList_eq_ok hparse.anywhere).mpr ((parseList_eq_ok hparse.anywhere).mp h)
  again h q := by
    obtain ⟨items, -, hitems⟩ := (parseList_eq_ok hparse.anywhere).mp h
    exact parseList_again hparse hitems (List.Subset.refl _) q
  canonical h := by
    obtain ⟨items, -, hitems⟩ := (parseList_eq_ok hparse.anywhere).mp h
    refine canonical_list fun x hx => ?_
    obtain ⟨_, -, hx⟩ := exists_of_forall₂ hitems hx
    exact hparse.canonical (hx [])
  distinct hx hy hsame := by
    obtain ⟨items, -, hitems⟩ := (parseList_eq_ok hparse.anywhere).mp hx
    obtain ⟨items', -, hitems'⟩ := (parseList_eq_ok hparse.anywhere).mp hy
    obtain ⟨_, harray, hsame⟩ := hsame
    cases harray
    refine distinct_list (fun x hx y hy => ?_) hsame
    obtain ⟨_, -, hx⟩ := exists_of_forall₂ hitems hx
    obtain ⟨_, -, hy⟩ := exists_of_forall₂ hitems' hy
    exact hparse.distinct (hx []) (hy [])

/-! ### Records -/

/-- Different keys of visible characters. -/
def distinctKeys (members : List (Text × JsValue)) : Bool :=
  (members.map (·.1)).Nodup && members.all fun m => isVisible m.1

/-- The keys that are required are there, and no others than these and the
optional ones. -/
def fitsKeys (members : List (Text × JsValue)) (required optional : List String) : Bool :=
  distinctKeys members && members.all (fun m => ((required ++ optional).map ascii).contains m.1) &&
    required.all fun key => !isUndefined (member (ascii key) members)

theorem isUndefined_iff {v : JsValue} : isUndefined v = true ↔ v = .undefined := by
  rcases v with - | - | - | - | - | - | - | - <;> simp [isUndefined]

theorem mem_definedMembers {members : List (Text × JsValue)} {m : Text × JsValue} :
    m ∈ definedMembers members ↔ m ∈ members ∧ m.2 ≠ .undefined := by
  rw [definedMembers, List.mem_filter, Bool.not_eq_true', ← Bool.not_eq_true, isUndefined_iff]

theorem nodup_of_distinctKeys {members : List (Text × JsValue)} (h : distinctKeys members = true) :
    (members.map (·.1)).Nodup := by
  rw [distinctKeys, Bool.and_eq_true] at h
  exact of_decide_eq_true h.1

theorem member_eq_of_mem {members : List (Text × JsValue)} (h : (members.map (·.1)).Nodup)
    {m : Text × JsValue} (hm : m ∈ members) : member m.1 members = m.2 := by
  induction members with
  | nil => cases hm
  | cons first rest ih =>
    rw [List.map_cons, List.nodup_cons] at h
    unfold member
    rcases List.mem_cons.mp hm with rfl | hm
    · exact if_pos rfl
    · rw [if_neg, ih h.2 hm]
      exact fun heq => h.1 (heq ▸ List.mem_map_of_mem hm)

theorem mem_of_member {members : List (Text × JsValue)} {key : Text}
    (h : member key members ≠ .undefined) : (key, member key members) ∈ members := by
  induction members with
  | nil => exact absurd rfl h
  | cons first rest ih =>
    unfold member at h ⊢
    split_ifs at h ⊢ with hkey
    · rw [← hkey]
      exact List.mem_cons_self
    · exact List.mem_cons_of_mem _ (ih h)

/-- What is written under a key is there, if it has a value. -/
theorem member_definedMembers {members : List (Text × JsValue)} (h : distinctKeys members = true)
    (key : Text) : member key (definedMembers members) = member key members := by
  have hnodup := nodup_of_distinctKeys h
  have hdefined : ((definedMembers members).map (·.1)).Nodup :=
    hnodup.sublist (List.filter_sublist.map _)
  by_cases hkey : member key members = .undefined
  · rw [hkey]
    by_contra hne
    have hmem := (mem_definedMembers.mp (mem_of_member hne)).1
    exact hne ((member_eq_of_mem hnodup hmem).symm.trans hkey)
  · exact member_eq_of_mem hdefined (mem_definedMembers.mpr ⟨mem_of_member hkey, hkey⟩)

theorem hasOwn_definedMembers {members : List (Text × JsValue)} (h : distinctKeys members = true)
    (key : Text) :
    hasOwn key (definedMembers members) = !isUndefined (member key members) := by
  rw [Bool.eq_iff_iff, hasOwn, List.any_eq_true, Bool.not_eq_true', ← Bool.not_eq_true,
    isUndefined_iff]
  constructor
  · rintro ⟨m, hm, hkey⟩
    obtain ⟨hm, hdefined⟩ := mem_definedMembers.mp hm
    rw [← of_decide_eq_true hkey, member_eq_of_mem (nodup_of_distinctKeys h) hm]
    exact hdefined
  · intro hdefined
    exact ⟨(key, member key members), mem_definedMembers.mpr ⟨mem_of_member hdefined, hdefined⟩,
      decide_eq_true rfl⟩

theorem distinctKeys_of_fits {members : List (Text × JsValue)} {required optional : List String}
    (h : fitsKeys members required optional = true) : distinctKeys members = true := by
  rw [fitsKeys, Bool.and_eq_true, Bool.and_eq_true] at h
  exact h.1.1

/-- **What is checked of the keys of a record.** -/
theorem assertKeys_eq_ok {value : List (Text × JsValue)} {required optional : List String}
    {p : Text} {u : Unit} : assertKeys value required optional p = .ok u ↔
      (∀ m ∈ value, m.1 ∈ (required ++ optional).map ascii) ∧
      (∀ key ∈ required, member (ascii key) value ≠ .undefined) ∧
      ∀ key ∈ optional, hasOwn (ascii key) value = true → member (ascii key) value ≠ .undefined := by
  have hunknown : value.find? (fun m => !((required ++ optional).map ascii).contains m.1) = none ↔
      ∀ m ∈ value, m.1 ∈ (required ++ optional).map ascii := by
    simp only [List.find?_eq_none, Bool.not_eq_true', Bool.not_eq_false, List.contains_iff_mem]
  have hmissing : required.find? (fun key => isUndefined (member (ascii key) value)) = none ↔
      ∀ key ∈ required, member (ascii key) value ≠ .undefined := by
    simp only [List.find?_eq_none, isUndefined_iff, ne_eq]
  have hvoid : optional.find? (fun key => hasOwn (ascii key) value &&
      isUndefined (member (ascii key) value)) = none ↔ ∀ key ∈ optional,
      hasOwn (ascii key) value = true → member (ascii key) value ≠ .undefined := by
    simp only [List.find?_eq_none, Bool.and_eq_true, isUndefined_iff, not_and, ne_eq]
  rw [← hunknown, ← hmissing, ← hvoid]
  unfold assertKeys
  split
  · next hfind => exact ⟨nofun, fun h => absurd (hfind.symm.trans h.1) nofun⟩
  · next hfind =>
    split
    · next hfind' => exact ⟨nofun, fun h => absurd (hfind'.symm.trans h.2.1) nofun⟩
    · next hfind' =>
      split
      · next hfind'' => exact ⟨nofun, fun h => absurd (hfind''.symm.trans h.2.2) nofun⟩
      · next hfind'' => exact ⟨fun _ => ⟨hfind, hfind', hfind''⟩, fun _ => rfl⟩

/-- A record with the keys of the schema is accepted. -/
theorem assertKeys_fits {members : List (Text × JsValue)} {required optional : List String}
    (h : fitsKeys members required optional = true) (p : Text) :
    assertKeys (definedMembers members) required optional p = .ok () := by
  have hdistinct := distinctKeys_of_fits h
  rw [fitsKeys, Bool.and_eq_true, Bool.and_eq_true] at h
  obtain ⟨⟨-, hallowed⟩, hrequired⟩ := h
  refine assertKeys_eq_ok.mpr ⟨fun m hm => ?_, fun key hkey => ?_, fun key _ hown => ?_⟩
  · exact List.contains_iff_mem.mp (List.all_eq_true.mp hallowed m (mem_definedMembers.mp hm).1)
  · have hthere := List.all_eq_true.mp hrequired key hkey
    rw [Bool.not_eq_true', ← Bool.not_eq_true, isUndefined_iff] at hthere
    rwa [member_definedMembers hdistinct]
  · rw [hasOwn_definedMembers hdistinct, Bool.not_eq_true', ← Bool.not_eq_true,
      isUndefined_iff] at hown
    rwa [member_definedMembers hdistinct]

theorem assertKeys_anywhere {value : List (Text × JsValue)} {required optional : List String}
    {p : Text} {u : Unit} (h : assertKeys value required optional p = .ok u) (q : Text) :
    assertKeys value required optional q = .ok () :=
  assertKeys_eq_ok.mpr (assertKeys_eq_ok.mp h)

theorem asRecord_eq_ok {v : JsValue} {p : Text} {value : List (Text × JsValue)} :
    asRecord v p = .ok value ↔ v = .object value := by
  unfold asRecord
  split
  · exact ⟨fun h => congrArg _ (Except.ok.inj h), fun h => congrArg _ (JsValue.object.inj h)⟩
  · next hv => exact ⟨nofun, fun h => absurd h (hv value)⟩

theorem visible_of_mem {members : List (Text × JsValue)} (h : distinctKeys members = true)
    {m : Text × JsValue} (hm : m ∈ members) : normalizeText Q.toTextPlatform m.1 = m.1 := by
  rw [distinctKeys, Bool.and_eq_true] at h
  exact normalizeText_visible (List.all_eq_true.mp h.2 m hm)

/-- All values have canonical forms, where there are any. -/
def CanonicalAll (Q : ReceiptPlatform) : List (Text × JsValue) → Prop
  | [] => True
  | m :: rest =>
    (m.2 = .undefined ∨ ∃ j, Canonical Q.toTextPlatform m.2 j) ∧ CanonicalAll Q rest

/-- **Records have canonical forms where their values do.** -/
theorem canonical_record {members : List (Text × JsValue)} (hkeys : distinctKeys members = true)
    (h : CanonicalAll Q members) : ∃ j, Canonical Q.toTextPlatform (record members) j := by
  have hvalues : ∃ values, CanonicalMembers Q.toTextPlatform (definedMembers members) values ∧
      values.map (·.1) = (definedMembers members).map fun m =>
        normalizeText Q.toTextPlatform m.1 := by
    clear hkeys
    induction members with
    | nil => exact ⟨[], rfl, rfl⟩
    | cons m rest ih =>
      obtain ⟨key, item⟩ := m
      obtain ⟨values, hvalues, hnames⟩ := ih h.2
      by_cases hundefined : item = .undefined
      · subst hundefined
        exact ⟨values, hvalues, hnames⟩
      · have hdefined : definedMembers ((key, item) :: rest) =
            (key, item) :: definedMembers rest := by
          refine List.filter_cons_of_pos ?_
          rw [Bool.not_eq_true', ← Bool.not_eq_true, isUndefined_iff]
          exact hundefined
        obtain ⟨j, hj⟩ := h.1.resolve_left hundefined
        refine ⟨(normalizeText Q.toTextPlatform key, j) :: values, ?_, ?_⟩
        · rw [hdefined]
          exact (canonicalMembers_cons hundefined).mpr ⟨j, values, rfl, hj, hvalues⟩
        · rw [hdefined, List.map_cons, List.map_cons, hnames]
  obtain ⟨values, hvalues, hnames⟩ := hvalues
  have hsame : (definedMembers members).map (fun m => normalizeText Q.toTextPlatform m.1) =
      (definedMembers members).map (·.1) :=
    List.map_congr_left fun m hm => visible_of_mem hkeys (mem_definedMembers.mp hm).1
  have hnodup : (values.map (·.1)).Nodup := by
    rw [hnames, hsame]
    exact (nodup_of_distinctKeys hkeys).sublist (List.filter_sublist.map _)
  exact ⟨_, values, JsValue.sortBy (compareKeys Prod.fst) values, hvalues, hnodup,
    JsValue.perm_sortBy _ _, JsValue.sortBy_pairwise (compareKeys Prod.fst) values, rfl⟩

section fields

variable {α : Type} {parse : JsValue → Text → Except ReceiptProtocolError α} {write : α → JsValue}

theorem field_anywhere (hparse : Pathless parse) {key : String}
    {value : List (Text × JsValue)} {p : Text} {x : α} (h : field parse key value p = .ok x)
    (q : Text) : field parse key value q = .ok x :=
  hparse h _

theorem optionalField_anywhere (hparse : Pathless parse) {key : String}
    {value : List (Text × JsValue)} {p : Text} {x : Option α}
    (h : optionalField parse key value p = .ok x) (q : Text) :
    optionalField parse key value q = .ok x := by
  unfold optionalField at h ⊢
  split_ifs at h ⊢
  · obtain ⟨a, ha, h⟩ := map_eq_ok.mp h
    exact map_eq_ok.mpr ⟨a, field_anywhere hparse ha q, h⟩
  · exact h

theorem field_of_optionalField {key : String} {value : List (Text × JsValue)} {p : Text} {x : α}
    (h : optionalField parse key value p = .ok (some x)) : field parse key value p = .ok x := by
  unfold optionalField at h
  split at h
  · obtain ⟨a, ha, hx⟩ := map_eq_ok.mp h
    rw [ha, Option.some.inj hx]
  · cases h

/-- A field that was parsed is parsed again of what is written under its key. -/
theorem field_again (hparse : Parses Q parse write) {key : String} {value : List (Text × JsValue)}
    {p : Text} {x : α} (h : field parse key value p = .ok x) {members : List (Text × JsValue)}
    (hkeys : distinctKeys members = true) (hwritten : member (ascii key) members = write x)
    (q : Text) : field parse key (definedMembers members) q = .ok x := by
  unfold field
  rw [member_definedMembers hkeys, hwritten]
  exact hparse.again h _

theorem optionalField_again (hparse : Parses Q parse write) {key : String}
    {value : List (Text × JsValue)} {p : Text} {x : Option α}
    (h : optionalField parse key value p = .ok x) {members : List (Text × JsValue)}
    (hkeys : distinctKeys members = true)
    (hwritten : member (ascii key) members = writeOption write x)
    (hwrite : ∀ x, isUndefined (write x) = false) (q : Text) :
    optionalField parse key (definedMembers members) q = .ok x := by
  rcases x with - | x
  · unfold optionalField
    rw [hasOwn_definedMembers hkeys, hwritten]
    rfl
  · unfold optionalField
    rw [hasOwn_definedMembers hkeys, hwritten, writeOption, hwrite,
      field_again hparse (field_of_optionalField h) hkeys hwritten]
    rfl

theorem field_canonical (hparse : Parses Q parse write) {key : String}
    {value : List (Text × JsValue)} {p : Text} {x : α} (h : field parse key value p = .ok x) :
    write x = .undefined ∨ ∃ j, Canonical Q.toTextPlatform (write x) j :=
  .inr (hparse.canonical h)

theorem optionalField_canonical (hparse : Parses Q parse write) {key : String}
    {value : List (Text × JsValue)} {p : Text} {x : Option α}
    (h : optionalField parse key value p = .ok x) : writeOption write x = .undefined ∨
      ∃ j, Canonical Q.toTextPlatform (writeOption write x) j := by
  rcases x with - | x
  · exact .inl rfl
  · exact .inr (hparse.canonical (field_of_optionalField h))

/-- Optional fields are told apart. -/
theorem optionalField_distinct (hparse : Parses Q parse write) {key : String}
    {value value' : List (Text × JsValue)} {p q : Text} {x y : Option α}
    (hx : optionalField parse key value p = .ok x) (hy : optionalField parse key value' q = .ok y)
    (hwrite : ∀ x, isUndefined (write x) = false)
    (hsame : Same Q.toTextPlatform (writeOption write x) (writeOption write y)) : x = y := by
  have hnone : ∀ x, ¬ valueKind (write x) = valueKind .undefined := by
    intro x hkind
    have hx := hwrite x
    generalize write x = w at hkind hx
    cases w with
    | undefined => cases hx
    | _ => cases hkind
  rcases x with - | x <;> rcases y with - | y
  · rfl
  · exact absurd hsame.kind.symm (hnone y)
  · exact absurd hsame.kind (hnone x)
  · rw [hparse.distinct (field_of_optionalField hx) (field_of_optionalField hy) hsame]

end fields

theorem sameMembers_iff {members members' : List (Text × JsValue)} :
    SameMembers Q.toTextPlatform members members' ↔ ∀ m ∈ members, m.2 ≠ .undefined →
      ∃ n ∈ members', n.2 ≠ .undefined ∧
        normalizeText Q.toTextPlatform m.1 = normalizeText Q.toTextPlatform n.1 ∧
        Same Q.toTextPlatform m.2 n.2 := by
  induction members with
  | nil => exact ⟨fun _ m hm => absurd hm List.not_mem_nil, fun _ => trivial⟩
  | cons m rest ih => rw [SameMembers, ih, List.forall_mem_cons]

/-- **Records with one canonical form agree under every key.** -/
theorem same_member {members members' : List (Text × JsValue)}
    (hkeys : distinctKeys members = true) (hkeys' : distinctKeys members' = true)
    (h : Same Q.toTextPlatform (record members) (record members')) (key : Text) :
    Same Q.toTextPlatform (member key members) (member key members') := by
  obtain ⟨_, hobject, hfirst, hsecond⟩ := h
  cases hobject
  by_cases hdefined : member key members = .undefined
  · by_cases hdefined' : member key members' = .undefined
    · rw [hdefined, hdefined']
      rfl
    · -- a property of the second is one of the first
      have hmem := mem_of_member hdefined'
      obtain ⟨m, hm, hvalue, hname⟩ :=
        hsecond _ (mem_definedMembers.mpr ⟨hmem, hdefined'⟩) hdefined'
      have hm := (mem_definedMembers.mp hm).1
      rw [visible_of_mem hkeys hm, visible_of_mem hkeys' hmem] at hname
      have hm' := member_eq_of_mem (nodup_of_distinctKeys hkeys) hm
      rw [hname] at hm'
      exact absurd (hm'.symm.trans hdefined) hvalue
  · have hmem := mem_of_member hdefined
    obtain ⟨n, hn, -, hname, hsame⟩ :=
      sameMembers_iff.mp hfirst _ (mem_definedMembers.mpr ⟨hmem, hdefined⟩) hdefined
    have hn := (mem_definedMembers.mp hn).1
    rw [visible_of_mem hkeys hmem, visible_of_mem hkeys' hn] at hname
    have hn' := member_eq_of_mem (nodup_of_distinctKeys hkeys') hn
    rw [← hname] at hn'
    rw [hn']
    exact hsame

end rules

end SubmittedIt.Protocol
