/-
SubmittedIt/JsValue.lean

JavaScript values, and the values that JSON texts denote: library, independent
of the model.

`JsValue` is a value as messages, storage and JSON hand it over: arrays have no
holes, and an object is the list of its own properties in the order in which
they are enumerated.  That order is not the order of assignment: properties
that are array indices come first, in numeric order (`ownProperties`).

`JsValue.parse` is `JSON.parse`.  A number literal denotes the nearest double,
and of a double only is kept which integer it is, if it is one.

Main result: `parse_stringify`, the text of a value denotes that value.
-/
import SubmittedIt.Json

/-- A JavaScript number.  Integers beyond 2^53 stand for the doubles nearest to
them; `other` is any number that is no integer. -/
inductive JsNumber
  | integer (value : Int)
  | negativeZero
  | other
  deriving DecidableEq

/-- The opposite of a number. -/
def JsNumber.neg : JsNumber → JsNumber
  | .integer n => if n = 0 then .negativeZero else .integer (-n)
  | .negativeZero => .integer 0
  | .other => .other

/-- The values that are none of the plain ones: a function, a symbol or a big
integer, an object of another prototype, one with a symbol for a key or with a
property that is not enumerated, and, inside an object, that object again. -/
inductive JsOther
  | unsupported
  | nonPlain
  | symbolProperty
  | nonEnumerable
  | cyclic
  deriving DecidableEq

/-- A JavaScript value. -/
inductive JsValue
  | undefined
  | null
  | boolean (value : Bool)
  | number (value : JsNumber)
  | string (text : List UInt16)
  | array (items : List JsValue)
  | object (members : List (List UInt16 × JsValue))
  | other (kind : JsOther)

namespace JsValue

/-! ### Properties -/

/-- The number that decimal digits spell. -/
def digitsValue (digits : List UInt16) : Nat :=
  digits.foldl (fun n u => 10 * n + (u.toNat - 48)) 0

/-- The array index that a property name spells: a number below 2^32 - 1
without leading zeros. -/
def arrayIndex (key : List UInt16) : Option Nat :=
  if key ≠ [] ∧ key.all Json.isDigit ∧ (key.head? = some 48 → key = [48]) ∧
      digitsValue key < 2 ^ 32 - 1 then
    some (digitsValue key)
  else none

/-- Properties in the order of their enumeration, where they were assigned in
the order of the list. -/
def ownProperties {α : Type} (members : List (List UInt16 × α)) : List (List UInt16 × α) :=
  ((members.filter fun m => (arrayIndex m.1).isSome).insertionSort fun a b =>
    (arrayIndex a.1).getD 0 ≤ (arrayIndex b.1).getD 0) ++
    members.filter fun m => !(arrayIndex m.1).isSome

/-- Assign a property: a new one goes to the end. -/
def assign {α : Type} (key : List UInt16) (value : α) :
    List (List UInt16 × α) → List (List UInt16 × α)
  | [] => [(key, value)]
  | (k, v) :: rest => if k = key then (k, value) :: rest else (k, v) :: assign key value rest

/-- The object that assigning the properties one after the other makes. -/
def ofEntries {α : Type} (entries : List (List UInt16 × α)) : List (List UInt16 × α) :=
  ownProperties (entries.foldl (fun members entry => assign entry.1 entry.2 members) [])

/-- The property of an object under a key. -/
def member (key : List UInt16) : List (List UInt16 × JsValue) → JsValue
  | [] => undefined
  | (k, v) :: rest => if k = key then v else member key rest

/-- `Object.hasOwn`. -/
def hasOwn (key : List UInt16) (members : List (List UInt16 × JsValue)) : Bool :=
  members.any fun m => m.1 = key

mutual

/-- The value of JSON data. -/
def ofJson : Json → JsValue
  | .null => null
  | .boolean value => boolean value
  | .number value => number (.integer value)
  | .string text => string text
  | .array items => array (ofItems items)
  | .object members => object (ofMembers members)

def ofItems : List Json → List JsValue
  | [] => []
  | v :: rest => ofJson v :: ofItems rest

def ofMembers : List (List UInt16 × Json) → List (List UInt16 × JsValue)
  | [] => []
  | (k, v) :: rest => (k, ofJson v) :: ofMembers rest

end

theorem ofMembers_eq (members : List (List UInt16 × Json)) :
    ofMembers members = members.map fun m => (m.1, ofJson m.2) := by
  induction members with
  | nil => rfl
  | cons m rest ih => rw [ofMembers, ih, List.map_cons]

/-! ### Enumeration -/

theorem digitsValue_eq (digits : List UInt16) :
    digitsValue digits = Nat.ofDigits 10 (digits.reverse.map fun u => u.toNat - 48) := by
  induction digits using List.reverseRecOn with
  | nil => rfl
  | append_singleton digits u ih =>
    rw [digitsValue, List.foldl_append, List.reverse_append]
    show 10 * digitsValue digits + (u.toNat - 48) = Nat.ofDigits 10 (_ :: _)
    rw [ih, Nat.ofDigits_cons]
    exact Nat.add_comm _ _

theorem isDigit_iff {u : UInt16} : Json.isDigit u = true ↔ 48 ≤ u.toNat ∧ u.toNat ≤ 57 := by
  simp [Json.isDigit, UInt16.le_iff_toNat_le]

/-- Digits that do not begin with a zero are those of their number. -/
theorem digits_digitsValue {key : List UInt16} (hne : key ≠ []) (hdigits : key.all Json.isDigit)
    (hzero : key.head? ≠ some 48) :
    Nat.digits 10 (digitsValue key) = key.reverse.map fun u => u.toNat - 48 := by
  have hdigit : ∀ u ∈ key, 48 ≤ u.toNat ∧ u.toNat ≤ 57 := fun u hu =>
    isDigit_iff.mp (List.all_eq_true.mp hdigits u hu)
  rw [digitsValue_eq]
  apply Nat.digits_ofDigits 10 (by omega)
  · intro d hd
    obtain ⟨u, hu, rfl⟩ := List.mem_map.mp hd
    have := hdigit u (List.mem_reverse.mp hu)
    omega
  · intro hmap
    obtain ⟨u, rest, rfl⟩ := List.exists_cons_of_ne_nil hne
    have hu := hdigit u List.mem_cons_self
    have hlast : ((u :: rest).reverse.map fun u => u.toNat - 48).getLast hmap = u.toNat - 48 := by
      simp
    rw [hlast]
    intro h48
    refine hzero (congrArg some (UInt16.toNat_inj.mp ?_))
    show u.toNat = 48
    omega

/-- **An index has one name.** -/
theorem arrayIndex_injective {a b : List UInt16} {i : Nat} (ha : arrayIndex a = some i)
    (hb : arrayIndex b = some i) : a = b := by
  have hcases : ∀ {key : List UInt16}, arrayIndex key = some i → (key = [48] ∧ i = 0) ∨
      (key.all Json.isDigit ∧ key ≠ [] ∧ Nat.digits 10 i = key.reverse.map fun u => u.toNat - 48) := by
    intro key h
    rw [arrayIndex] at h
    split at h
    · next hkey =>
      obtain ⟨hne, hall, hlead, -⟩ := hkey
      obtain rfl := Option.some.inj h
      by_cases hzero : key.head? = some 48
      · exact .inl ⟨hlead hzero, by rw [hlead hzero]; rfl⟩
      · exact .inr ⟨hall, hne, digits_digitsValue hne hall hzero⟩
    · cases h
  have hzero : ∀ {key : List UInt16}, key ≠ [] →
      Nat.digits 10 0 ≠ key.reverse.map fun u => u.toNat - 48 := by
    intro key hne h
    rw [Nat.digits_zero] at h
    exact hne (List.reverse_eq_nil_iff.mp (List.map_eq_nil_iff.mp h.symm))
  rcases hcases ha with ⟨rfl, rfl⟩ | ⟨halla, hnea, hda⟩ <;>
    rcases hcases hb with ⟨rfl, hi⟩ | ⟨hallb, hneb, hdb⟩
  · rfl
  · exact absurd hdb (hzero hneb)
  · exact absurd hda (hi ▸ hzero hnea)
  · -- the digits are the same
    have hmap := hda.symm.trans hdb
    rw [List.map_reverse, List.map_reverse, List.reverse_inj] at hmap
    have hback : ∀ {key : List UInt16}, key.all Json.isDigit →
        (key.map fun u => u.toNat - 48).map (fun d => UInt16.ofNat (48 + d)) = key := by
      intro key hall
      rw [List.map_map]
      refine (List.map_congr_left fun u hu => ?_).trans (List.map_id key)
      have hu := isDigit_iff.mp (List.all_eq_true.mp hall u hu)
      show UInt16.ofNat (48 + (u.toNat - 48)) = u
      rw [Nat.add_sub_cancel' hu.1, UInt16.ofNat_toNat]
    rw [← hback halla, hmap, hback hallb]

section properties

variable {α β : Type}

/-- Properties in the order of enumeration: indices first, in numeric order. -/
def Enumerated (members : List (List UInt16 × α)) : Prop :=
  members.Pairwise fun a b => ∀ j, arrayIndex b.1 = some j → ∃ i, arrayIndex a.1 = some i ∧ i ≤ j

theorem ownProperties_enumerated (members : List (List UInt16 × α)) :
    Enumerated (ownProperties members) := by
  have hsorted := List.pairwise_insertionSort
    (fun a b : List UInt16 × α => (arrayIndex a.1).getD 0 ≤ (arrayIndex b.1).getD 0)
    (members.filter fun m => (arrayIndex m.1).isSome)
  have hindex : ∀ a ∈ (members.filter fun m => (arrayIndex m.1).isSome).insertionSort
      (fun a b => (arrayIndex a.1).getD 0 ≤ (arrayIndex b.1).getD 0),
      (arrayIndex a.1).isSome = true := by
    intro a ha
    exact (List.mem_filter.mp ((List.perm_insertionSort _ _).mem_iff.mp ha)).2
  refine List.pairwise_append.mpr ⟨?_, ?_, ?_⟩
  · refine hsorted.imp_of_mem ?_
    intro a b ha _ hle j hj
    obtain ⟨i, hi⟩ := Option.isSome_iff_exists.mp (hindex a ha)
    rw [hi, hj] at hle
    exact ⟨i, hi, hle⟩
  · refine List.pairwise_iff_forall_sublist.mpr ?_
    intro a b hab j hj
    have hb := (List.mem_filter.mp (hab.subset (List.mem_cons_of_mem a List.mem_cons_self))).2
    rw [hj] at hb
    cases hb
  · intro a ha b hb j hj
    have hnone := (List.mem_filter.mp hb).2
    rw [hj] at hnone
    cases hnone

theorem perm_ownProperties (members : List (List UInt16 × α)) :
    (ownProperties members).Perm members := by
  refine ((List.perm_insertionSort _ _).append_right _).trans ?_
  exact List.filter_append_perm _ members

/-- Properties that are in order stay as they are. -/
theorem ownProperties_eq {members : List (List UInt16 × α)} (h : Enumerated members) :
    ownProperties members = members := by
  induction members with
  | nil => rfl
  | cons m rest ih =>
    obtain ⟨hfirst, hrest⟩ := List.pairwise_cons.mp h
    have ih := ih hrest
    unfold ownProperties at ih ⊢
    rcases hm : arrayIndex m.1 with - | i
    · -- no index comes after a name that is none
      have hnone : ∀ b ∈ m :: rest, (arrayIndex b.1).isSome = false := by
        intro b hb
        rcases List.mem_cons.mp hb with rfl | hb
        · rw [hm]
          rfl
        · rcases hj : arrayIndex b.1 with - | j
          · rfl
          · obtain ⟨i, hi, -⟩ := hfirst b hb j hj
            rw [hm] at hi
            cases hi
      rw [List.filter_eq_nil_iff.mpr fun b hb => by rw [hnone b hb]; simp,
        List.filter_eq_self.mpr fun b hb => by rw [hnone b hb]; rfl]
      rfl
    · rw [List.filter_cons_of_pos (by rw [hm]; rfl), List.filter_cons_of_neg (by rw [hm]; simp),
        List.insertionSort_cons_of_forall_rel]
      · exact congrArg (m :: ·) ih
      · intro b hb
        obtain ⟨hb, hsome⟩ := List.mem_filter.mp hb
        obtain ⟨j, hj⟩ := Option.isSome_iff_exists.mp hsome
        obtain ⟨i', hi', hij⟩ := hfirst b hb j hj
        rw [hi', hj]
        exact hij

end properties

/-! ### Sorting -/

section sort

variable {α β : Type}

/-- `Array.prototype.sort` with a comparison, which is stable. -/
def sortBy (cmp : α → α → Ordering) (items : List α) : List α :=
  items.insertionSort fun a b => (cmp a b).isLE = true

theorem perm_sortBy (cmp : α → α → Ordering) (items : List α) : (sortBy cmp items).Perm items :=
  List.perm_insertionSort _ _

theorem sortBy_pairwise (cmp : α → α → Ordering) [Std.TransCmp cmp] (items : List α) :
    (sortBy cmp items).Pairwise fun a b => (cmp a b).isLE = true := by
  have hswap : ∀ a b, cmp b a = (cmp a b).swap := fun _ _ => Std.OrientedCmp.eq_swap
  have htotal : Std.Total fun a b => (cmp a b).isLE = true := by
    refine ⟨fun a b => ?_⟩
    rw [hswap a b]
    rcases cmp a b
    · exact .inl rfl
    · exact .inl rfl
    · exact .inr rfl
  have htrans : IsTrans α fun a b => (cmp a b).isLE = true :=
    ⟨fun _ _ _ hab hbc => Std.TransCmp.isLE_trans hab hbc⟩
  exact List.pairwise_insertionSort _ items

/-- Items that the comparison tells apart have one sorted order. -/
theorem eq_of_perm_of_sorted (cmp : α → α → Ordering) [Std.TransCmp cmp] {l l' : List α}
    (hl : l.Pairwise fun a b => (cmp a b).isLE = true)
    (hl' : l'.Pairwise fun a b => (cmp a b).isLE = true) (hperm : l.Perm l')
    (happart : ∀ a ∈ l, ∀ b ∈ l, cmp a b = .eq → a = b) : l = l' := by
  refine List.Perm.eq_of_pairwise (fun a b ha hb hab hba => ?_) hl hl' hperm
  have hswap : cmp b a = (cmp a b).swap := Std.OrientedCmp.eq_swap
  refine happart a ha b (hperm.mem_iff.mpr hb) ?_
  rw [hswap] at hba
  revert hab hba
  rcases cmp a b
  · exact nofun
  · exact fun _ _ => rfl
  · exact nofun

end sort

/-! ### JSON.parse -/

/-- Drop white space. -/
def skip : List UInt16 → List UInt16
  | [] => []
  | u :: rest => if u = 32 ∨ u = 9 ∨ u = 10 ∨ u = 13 then skip rest else u :: rest

/-- The value of a hexadecimal digit. -/
def hexDigitValue (u : UInt16) : Option Nat :=
  if 48 ≤ u ∧ u ≤ 57 then some (u.toNat - 48)
  else if 97 ≤ u ∧ u ≤ 102 then some (u.toNat - 87)
  else if 65 ≤ u ∧ u ≤ 70 then some (u.toNat - 55)
  else none

/-- The code unit that an escaped character stands for. -/
def simpleEscape (u : UInt16) : Option UInt16 :=
  if u = 34 ∨ u = 92 ∨ u = 47 then some u
  else if u = 98 then some 8
  else if u = 102 then some 12
  else if u = 110 then some 10
  else if u = 114 then some 13
  else if u = 116 then some 9
  else none

/-- A string literal after its opening quote, and what follows it. -/
def readString : List UInt16 → Option (List UInt16 × List UInt16)
  | [] => none
  | 34 :: rest => some ([], rest)
  | 92 :: 117 :: a :: b :: c :: d :: rest => do
    let a ← hexDigitValue a
    let b ← hexDigitValue b
    let c ← hexDigitValue c
    let d ← hexDigitValue d
    let (text, rest) ← readString rest
    some (UInt16.ofNat (a * 4096 + b * 256 + c * 16 + d) :: text, rest)
  | 92 :: u :: rest => do
    let u ← simpleEscape u
    let (text, rest) ← readString rest
    some (u :: text, rest)
  | u :: rest =>
    if u < 32 ∨ u = 92 then none
    else do
      let (text, rest) ← readString rest
      some (u :: text, rest)

/-- A fraction rounded to an integer, ties to even. -/
def roundHalfEven (n d : Nat) : Nat :=
  if 2 * (n % d) < d ∨ (2 * (n % d) = d ∧ n / d % 2 = 0) then n / d else n / d + 1

/-- The double nearest to a fraction. -/
def nearestDouble (n d : Nat) : JsNumber :=
  if n % d = 0 then .integer ↑(n / d)
  else if 2 * n < d then
    -- half of the least positive double
    if n * 2 ^ 1075 ≤ d then .integer 0 else .other
  else
    -- the places after the point that a double has there
    let places := if n < d then 53 else 52 - Nat.log2 (n / d)
    let scaled := roundHalfEven (n * 2 ^ places) d
    if scaled % 2 ^ places = 0 then .integer ↑(scaled / 2 ^ places) else .other

/-- The digits after a point, where there is one. -/
def readFraction : List UInt16 → Option (List UInt16 × List UInt16)
  | 46 :: rest =>
    if rest.takeWhile Json.isDigit = [] then none
    else some (rest.takeWhile Json.isDigit, rest.dropWhile Json.isDigit)
  | rest => some ([], rest)

/-- The digits of an exponent. -/
def readExponentDigits (negative : Bool) (text : List UInt16) : Option (Int × List UInt16) :=
  if text.takeWhile Json.isDigit = [] then none
  else
    let exponent : Int := digitsValue (text.takeWhile Json.isDigit)
    some (if negative then -exponent else exponent, text.dropWhile Json.isDigit)

/-- The exponent, where there is one. -/
def readExponent : List UInt16 → Option (Int × List UInt16)
  | [] => some (0, [])
  | u :: rest =>
    if u = 101 ∨ u = 69 then
      match rest with
      | 43 :: rest => readExponentDigits false rest
      | 45 :: rest => readExponentDigits true rest
      | rest => readExponentDigits false rest
    else some (0, u :: rest)

/-- A number literal without its sign. -/
def readUnsigned (text : List UInt16) : Option (JsNumber × List UInt16) :=
  let digits := text.takeWhile Json.isDigit
  if digits = [] ∨ (digits.head? = some 48 ∧ digits ≠ [48]) then none
  else do
    let (fraction, rest) ← readFraction (text.dropWhile Json.isDigit)
    let (exponent, rest) ← readExponent rest
    let scale := exponent - fraction.length
    some (nearestDouble (digitsValue (digits ++ fraction) * 10 ^ scale.toNat) (10 ^ (-scale).toNat),
      rest)

/-- A number literal. -/
def readNumber : List UInt16 → Option (JsNumber × List UInt16)
  | 45 :: rest => (readUnsigned rest).map fun r => (r.1.neg, r.2)
  | text => readUnsigned text

/-- A word that stands for a value. -/
def readWord (word : List UInt16) (value : JsValue) (text : List UInt16) :
    Option (JsValue × List UInt16) :=
  if text.take word.length = word then some (value, text.drop word.length) else none

mutual

/-- A value and what follows it. -/
def readValue : Nat → List UInt16 → Option (JsValue × List UInt16)
  | 0, _ => none
  | fuel + 1, text =>
    match skip text with
    | [] => none
    | u :: rest =>
      if u = 110 then readWord [117, 108, 108] null rest
      else if u = 116 then readWord [114, 117, 101] (boolean true) rest
      else if u = 102 then readWord [97, 108, 115, 101] (boolean false) rest
      else if u = 34 then (readString rest).map fun r => (string r.1, r.2)
      else if u = 91 then
        if (skip rest).head? = some 93 then some (array [], (skip rest).tail)
        else do
          let (v, rest) ← readValue fuel rest
          let (vs, rest) ← readItems fuel rest
          some (array (v :: vs), rest)
      else if u = 123 then
        if (skip rest).head? = some 125 then some (object [], (skip rest).tail)
        else do
          let (m, rest) ← readMember fuel rest
          let (ms, rest) ← readMembers fuel rest
          some (object (ofEntries (m :: ms)), rest)
      else (readNumber (u :: rest)).map fun r => (number r.1, r.2)

/-- The items after the first. -/
def readItems : Nat → List UInt16 → Option (List JsValue × List UInt16)
  | 0, _ => none
  | fuel + 1, text =>
    match skip text with
    | [] => none
    | u :: rest =>
      if u = 93 then some ([], rest)
      else if u = 44 then do
        let (v, rest) ← readValue fuel rest
        let (vs, rest) ← readItems fuel rest
        some (v :: vs, rest)
      else none

/-- A name and its value. -/
def readMember : Nat → List UInt16 → Option ((List UInt16 × JsValue) × List UInt16)
  | 0, _ => none
  | fuel + 1, text =>
    match skip text with
    | [] => none
    | u :: rest =>
      if u = 34 then do
        let (key, rest) ← readString rest
        if (skip rest).head? = some 58 then do
          let (v, rest) ← readValue fuel (skip rest).tail
          some ((key, v), rest)
        else none
      else none

/-- The members after the first. -/
def readMembers : Nat → List UInt16 → Option (List (List UInt16 × JsValue) × List UInt16)
  | 0, _ => none
  | fuel + 1, text =>
    match skip text with
    | [] => none
    | u :: rest =>
      if u = 125 then some ([], rest)
      else if u = 44 then do
        let (m, rest) ← readMember fuel rest
        let (ms, rest) ← readMembers fuel rest
        some (m :: ms, rest)
      else none

end

/-- `JSON.parse`; `none` where it throws. -/
def parse (text : List UInt16) : Option JsValue :=
  match readValue (text.length + 1) text with
  | some (value, rest) => if skip rest = [] then some value else none
  | none => none

/-! ### Reading texts back -/

theorem skip_cons {u : UInt16} (h : u ≠ 32 ∧ u ≠ 9 ∧ u ≠ 10 ∧ u ≠ 13) (rest : List UInt16) :
    skip (u :: rest) = u :: rest := by
  rw [skip, if_neg (by simp [h])]

theorem hexDigitValue_hexDigit {n : Nat} (h : n < 16) :
    hexDigitValue (Json.hexDigit n) = some n := by
  have hall : ∀ m < 16, hexDigitValue (Json.hexDigit m) = some m := by decide
  exact hall n h

theorem readString_literal {u : UInt16} (hquote : u ≠ 34) (hslash : u ≠ 92) (hcontrol : ¬ u < 32)
    (rest : List UInt16) :
    readString (u :: rest) = (readString rest).map fun r => (u :: r.1, r.2) := by
  rw [readString.eq_def]
  split
  · simp_all
  · simp_all
  · simp_all
  · simp_all
  · next heq =>
    cases heq
    rw [if_neg (by simp [hcontrol, hslash])]
    rcases readString rest with - | r <;> rfl

theorem readString_unicodeEscape (u : UInt16) (rest : List UInt16) :
    readString (Json.unicodeEscape u ++ rest) =
      (readString rest).map fun r => (u :: r.1, r.2) := by
  have hu : u.toNat < 65536 := u.toNat_lt
  simp only [Json.unicodeEscape, List.cons_append, List.nil_append, readString]
  rw [hexDigitValue_hexDigit (by omega), hexDigitValue_hexDigit (by omega),
    hexDigitValue_hexDigit (by omega), hexDigitValue_hexDigit (by omega)]
  have hrecombine : u.toNat / 4096 * 4096 + u.toNat / 256 % 16 * 256 + u.toNat / 16 % 16 * 16 +
      u.toNat % 16 = u.toNat := by omega
  show (do
    let r ← readString rest
    some (UInt16.ofNat _ :: r.1, r.2)) = _
  rw [hrecombine, UInt16.ofNat_toNat]
  rcases readString rest with - | r <;> rfl

theorem readString_escapeUnit (u : UInt16) (rest : List UInt16) :
    readString (Json.escapeUnit u ++ rest) =
      (readString rest).map fun r => (u :: r.1, r.2) := by
  have hsimple : ∀ a b, simpleEscape a = some b → a ≠ 117 →
      readString (92 :: a :: rest) = (readString rest).map fun r => (b :: r.1, r.2) := by
    intro a b hab ha
    rw [readString.eq_def]
    split
    · simp_all
    · simp_all
    · simp_all
    · next heq =>
      cases heq
      rw [hab]
      show (do
        let r ← readString rest
        some (b :: r.1, r.2)) = _
      rcases readString rest with - | r <;> rfl
    · next hother heq =>
      cases heq
      exact (hother a rest rfl rfl).elim
  unfold Json.escapeUnit
  split_ifs with h8 h9 h10 h12 h13 h34 h92 hcontrol
  · exact h8 ▸ hsimple 98 8 rfl (by decide)
  · exact h9 ▸ hsimple 116 9 rfl (by decide)
  · exact h10 ▸ hsimple 110 10 rfl (by decide)
  · exact h12 ▸ hsimple 102 12 rfl (by decide)
  · exact h13 ▸ hsimple 114 13 rfl (by decide)
  · exact h34 ▸ hsimple 34 34 rfl (by decide)
  · exact h92 ▸ hsimple 92 92 rfl (by decide)
  · exact readString_unicodeEscape u rest
  · exact readString_literal h34 h92 (fun h => hcontrol (.inl h)) rest

/-- **A quoted string can be read back.** -/
theorem readString_escape (text rest : List UInt16) :
    readString (Json.escape text ++ 34 :: rest) = some (text, rest) := by
  induction text using Json.escape.induct with
  | case1 => rfl
  | case2 u =>
    show readString (Json.escapeUnit u ++ 34 :: rest) = _
    rw [readString_escapeUnit]
    rfl
  | case3 u v text hpair ih =>
    have hsurrogate : ∀ w, Json.isHighSurrogate w = true ∨ Json.isLowSurrogate w = true →
        w ≠ 34 ∧ w ≠ 92 ∧ ¬ w < 32 := by
      intro w hw
      refine ⟨?_, ?_, ?_⟩
      · rintro rfl
        revert hw
        decide
      · rintro rfl
        revert hw
        decide
      · intro hlt
        simp only [Json.isHighSurrogate, Json.isLowSurrogate, Bool.and_eq_true,
          decide_eq_true_eq, UInt16.le_iff_toNat_le] at hw
        have := UInt16.lt_iff_toNat_lt.mp hlt
        simp only [UInt16.reduceToNat] at hw this
        omega
    obtain ⟨hu34, hu92, hu32⟩ := hsurrogate u (.inl hpair.1)
    obtain ⟨hv34, hv92, hv32⟩ := hsurrogate v (.inr hpair.2)
    rw [Json.escape, if_pos hpair]
    show readString (u :: v :: (Json.escape text ++ 34 :: rest)) = _
    rw [readString_literal hu34 hu92 hu32, readString_literal hv34 hv92 hv32, ih]
    rfl
  | case4 u v text hpair ih =>
    rw [Json.escape, if_neg hpair, List.append_assoc, readString_escapeUnit, ih]
    rfl

/-- What follows a value ends it. -/
def Ends (rest : List UInt16) : Prop := ∀ u ∈ rest.head?, u = 44 ∨ u = 93 ∨ u = 125

theorem Ends.stops {rest : List UInt16} (h : Ends rest) : Json.Stops rest := by
  intro u hu
  rcases h u hu with rfl | rfl | rfl <;> rfl

theorem digitsValue_decimal (n : Nat) : digitsValue (Json.decimal n) = n := by
  rw [digitsValue_eq, Json.ofDigits_decimal]

theorem decimal_head (n : Nat) (h : (Json.decimal n).head? = some 48) : Json.decimal n = [48] := by
  rcases Nat.eq_zero_or_pos n with rfl | hpos
  · rfl
  · exfalso
    -- the leading digit of a positive number is not zero
    have hne : Nat.digits 10 n ≠ [] := Nat.digits_ne_nil_iff_ne_zero.mpr hpos.ne'
    rw [Json.decimal, if_neg hpos.ne', List.head?_map, List.head?_reverse,
      List.getLast?_eq_getLast_of_ne_nil hne] at h
    have hdigit : ∀ d < 10, UInt16.ofNat (48 + d) = 48 → d = 0 := by decide
    exact Nat.getLast_digit_ne_zero 10 hpos.ne' (hdigit _
      (Nat.digits_lt_base (by omega) (List.getLast_mem hne)) (Option.some.inj h))

theorem readUnsigned_decimal (n : Nat) {rest : List UInt16} (h : Ends rest) :
    readUnsigned (Json.decimal n ++ rest) = some (.integer n, rest) := by
  have htake : (Json.decimal n ++ rest).takeWhile Json.isDigit = Json.decimal n := by
    rw [List.takeWhile_append_of_pos (Json.decimal_digits n)]
    rcases rest with - | ⟨u, rest⟩
    · rw [List.takeWhile_nil, List.append_nil]
    · rw [List.takeWhile_cons_of_neg (by rw [h.stops u rfl]; simp), List.append_nil]
  have hdrop : (Json.decimal n ++ rest).dropWhile Json.isDigit = rest := by
    rw [List.dropWhile_append_of_pos (Json.decimal_digits n)]
    rcases rest with - | ⟨u, rest⟩
    · rfl
    · rw [List.dropWhile_cons_of_neg (by rw [h.stops u rfl]; simp)]
  have hfraction : readFraction rest = some ([], rest) := by
    rcases rest with - | ⟨u, rest⟩
    · rfl
    · rcases h u rfl with rfl | rfl | rfl <;> rfl
  have hexponent : readExponent rest = some (0, rest) := by
    rcases rest with - | ⟨u, rest⟩
    · rfl
    · rcases h u rfl with rfl | rfl | rfl <;> rfl
  unfold readUnsigned
  rw [htake, hdrop, if_neg, hfraction]
  · show (readExponent rest).bind _ = _
    rw [hexponent]
    show some (nearestDouble (digitsValue (Json.decimal n ++ []) * 1) 1, rest) = _
    rw [List.append_nil, digitsValue_decimal, nearestDouble, if_pos (Nat.mod_one _), Nat.mul_one,
      Nat.div_one]
  · rintro (hnil | ⟨hhead, hne⟩)
    · exact Json.decimal_ne_nil n hnil
    · exact hne (decimal_head n hhead)

mutual

/-- The names of every object are different and in the order of enumeration. -/
def Proper : Json → Prop
  | .null | .boolean _ | .number _ | .string _ => True
  | .array items => ProperItems items
  | .object members => (members.map (·.1)).Nodup ∧ Enumerated members ∧ ProperMembers members

def ProperItems : List Json → Prop
  | [] => True
  | v :: rest => Proper v ∧ ProperItems rest

def ProperMembers : List (List UInt16 × Json) → Prop
  | [] => True
  | m :: rest => Proper m.2 ∧ ProperMembers rest

end

/-- Assigning new properties one after the other appends them. -/
theorem ofEntries_eq {α : Type} {members : List (List UInt16 × α)}
    (hnodup : (members.map (·.1)).Nodup) (hordered : Enumerated members) :
    ofEntries members = members := by
  have hassign : ∀ (key : List UInt16) (value : α) (given : List (List UInt16 × α)),
      key ∉ given.map (·.1) → assign key value given = given ++ [(key, value)] := by
    intro key value given
    induction given with
    | nil => exact fun _ => rfl
    | cons m rest ih =>
      intro hkey
      rw [List.map_cons, List.mem_cons, not_or] at hkey
      rw [assign, if_neg (Ne.symm hkey.1), ih hkey.2]
      rfl
  have hfold : ∀ (rest given : List (List UInt16 × α)), ((given ++ rest).map (·.1)).Nodup →
      rest.foldl (fun members entry => assign entry.1 entry.2 members) given = given ++ rest := by
    intro rest
    induction rest with
    | nil => exact fun given _ => (List.append_nil given).symm
    | cons m rest ih =>
      intro given hgiven
      have hm : m.1 ∉ given.map (·.1) := by
        rw [List.map_append, List.nodup_append] at hgiven
        exact fun h => hgiven.2.2 _ h _ List.mem_cons_self rfl
      rw [List.foldl_cons, hassign m.1 m.2 given hm, ih _ (by simpa using hgiven)]
      simp
  rw [ofEntries, hfold members [] hnodup, List.nil_append]
  exact ownProperties_eq hordered

theorem ofEntries_ofMembers {members : List (List UInt16 × Json)}
    (hnodup : (members.map (·.1)).Nodup) (hordered : Enumerated members) :
    ofEntries (ofMembers members) = ofMembers members := by
  rw [ofMembers_eq]
  apply ofEntries_eq
  · rw [List.map_map]
    exact hnodup
  · rw [Enumerated, List.pairwise_map]
    exact hordered

theorem ends_stringifyItems (items : List Json) (x : List UInt16) :
    Ends (Json.stringifyItems items ++ x) := by
  rcases items with - | ⟨v, rest⟩
  · rintro u ⟨⟩
    exact .inr (.inl rfl)
  · rintro u ⟨⟩
    exact .inl rfl

theorem ends_stringifyMembers (members : List (List UInt16 × Json)) (x : List UInt16) :
    Ends (Json.stringifyMembers members ++ x) := by
  rcases members with - | ⟨⟨k, v⟩, rest⟩
  · rintro u ⟨⟩
    exact .inr (.inr rfl)
  · rintro u ⟨⟩
    exact .inl rfl

/-- No text of a value begins with white space or ends one. -/
theorem stringify_head (v : Json) (x : List UInt16) : ∃ u rest, Json.stringify v ++ x = u :: rest ∧
    u ≠ 93 ∧ u ≠ 125 ∧ skip (u :: rest) = u :: rest := by
  obtain ⟨u, rest, hv, hlead⟩ := Json.stringify_lead v
  have hall : ∀ u : UInt16, u = 93 ∨ u = 125 ∨ u = 32 ∨ u = 9 ∨ u = 10 ∨ u = 13 →
      Json.lead u = 8 := by
    rintro u (rfl | rfl | rfl | rfl | rfl | rfl) <;> rfl
  have hkind : v.kind ≠ 8 := by
    rcases v with - | (- | -) | (n | n) | text | items | members <;> nofun
  have hne : Json.lead u ≠ 8 := hlead ▸ hkind
  refine ⟨u, rest ++ x, by rw [hv]; rfl, fun h => hne (hall u (by simp [h])),
    fun h => hne (hall u (by simp [h])), skip_cons ?_ _⟩
  exact ⟨fun h => hne (hall u (by simp [h])), fun h => hne (hall u (by simp [h])),
    fun h => hne (hall u (by simp [h])), fun h => hne (hall u (by simp [h]))⟩

/-- The literal of a number is read as one. -/
theorem readValue_number {fuel : Nat} {u : UInt16} {rest : List UInt16}
    (hdigit : Json.isDigit u = true ∨ u = 45) : readValue (fuel + 1) (u :: rest) =
      (readNumber (u :: rest)).map fun r => (number r.1, r.2) := by
  have hne : ∀ w : UInt16, Json.isDigit w = false → w ≠ 45 → u ≠ w := by
    rintro w hw hminus rfl
    rcases hdigit with h | h
    · rw [hw] at h
      cases h
    · exact hminus h
  rw [readValue, skip_cons ⟨hne 32 rfl (by decide), hne 9 rfl (by decide), hne 10 rfl (by decide),
    hne 13 rfl (by decide)⟩]
  simp only [hne 110 rfl (by decide), hne 116 rfl (by decide), hne 102 rfl (by decide),
    hne 34 rfl (by decide), hne 91 rfl (by decide), hne 123 rfl (by decide), if_false]

/-- A member is read as its value is. -/
theorem readMember_quote (key : List UInt16) {v : Json} {fuel : Nat} {rest : List UInt16}
    (hvalue : readValue fuel (Json.stringify v ++ rest) = some (ofJson v, rest)) :
    readMember (fuel + 1) (Json.quote key ++ 58 :: (Json.stringify v ++ rest)) =
      some ((key, ofJson v), rest) := by
  rw [Json.quote, List.cons_append, List.append_assoc]
  show (readString (Json.escape key ++ 34 :: 58 :: (Json.stringify v ++ rest))).bind (fun r =>
    if (skip r.2).head? = some 58 then
      (readValue fuel (skip r.2).tail).bind fun q => some ((r.1, q.1), q.2)
    else none) = _
  rw [readString_escape, Option.bind_some]
  show (readValue fuel (Json.stringify v ++ rest)).bind (fun q => some ((key, q.1), q.2)) = _
  rw [hvalue]
  rfl

mutual

/-- **The text of a value denotes the value**, whatever follows. -/
theorem readValue_stringify (v : Json) (fuel : Nat) {rest : List UInt16}
    (hfuel : (Json.stringify v).length ≤ fuel) (hrest : Ends rest) (hproper : Proper v) :
    readValue fuel (Json.stringify v ++ rest) = some (ofJson v, rest) := by
  rcases fuel with - | fuel
  · obtain ⟨u, tail, hv, -⟩ := Json.stringify_lead v
    rw [hv] at hfuel
    cases hfuel
  match v with
  | .null => rfl
  | .boolean true => rfl
  | .boolean false => rfl
  | .number (.ofNat n) =>
    obtain ⟨u, digits, hu⟩ := List.exists_cons_of_ne_nil (Json.decimal_ne_nil n)
    have hdigit := Json.decimal_digits n u (hu ▸ List.mem_cons_self)
    have hread := readUnsigned_decimal n hrest
    rw [Json.stringify, hu, List.cons_append, readValue_number (.inl hdigit), ← List.cons_append,
      ← hu]
    have hminus : readNumber (Json.decimal n ++ rest) = readUnsigned (Json.decimal n ++ rest) := by
      rw [hu, List.cons_append, readNumber]
      rintro _ heq
      rw [(List.cons.inj heq).1] at hdigit
      cases hdigit
    rw [hminus, hread]
    rfl
  | .number (.negSucc n) =>
    show readValue (fuel + 1) (45 :: (Json.decimal (n + 1) ++ rest)) = _
    rw [readValue_number (.inr rfl), readNumber, readUnsigned_decimal _ hrest]
    rfl
  | .string text =>
    show (readString (Json.escape text ++ [34] ++ rest)).map _ = _
    rw [List.append_assoc]
    exact congrArg _ (readString_escape text rest)
  | .array [] => rfl
  | .array (w :: items) =>
    simp only [Json.stringify, List.length_cons, List.length_append] at hfuel
    obtain ⟨hw, hitems⟩ := hproper
    obtain ⟨u, tail, htext, hclose, -, hskip⟩ :=
      stringify_head w (Json.stringifyItems items ++ rest)
    have hvalue := readValue_stringify w fuel (by omega)
      (ends_stringifyItems items rest) hw
    have hnext := readItems_stringify items fuel (by omega) hrest hitems
    rw [htext] at hvalue
    rw [Json.stringify, List.cons_append, List.append_assoc, htext]
    show (if (skip (u :: tail)).head? = some 93 then some (array [], (skip (u :: tail)).tail)
      else (readValue fuel (u :: tail)).bind fun r => (readItems fuel r.2).bind fun q =>
        some (array (r.1 :: q.1), q.2)) = _
    rw [hskip, if_neg (by simpa using hclose), hvalue, Option.bind_some, hnext]
    rfl
  | .object [] => rfl
  | .object ((k, w) :: members) =>
    simp only [Json.stringify, Json.quote, List.length_cons, List.length_append] at hfuel
    obtain ⟨hnodup, hordered, hmembers⟩ := hproper
    obtain ⟨fuel, rfl⟩ : ∃ n, fuel = n + 1 := ⟨fuel - 1, by omega⟩
    have hfirst := readMember_quote k (readValue_stringify w fuel (by omega)
      (ends_stringifyMembers members rest) hmembers.1)
    have hnext := readMembers_stringify members (fuel + 1) (by omega) hrest hmembers.2
    have hobject : ofEntries ((k, ofJson w) :: ofMembers members) = _ :=
      ofEntries_ofMembers hnodup hordered
    rw [Json.stringify, List.cons_append, List.append_assoc, List.cons_append, List.append_assoc]
    show (readMember (fuel + 1) (Json.quote k ++ 58 :: (Json.stringify w ++
      (Json.stringifyMembers members ++ rest)))).bind (fun r =>
        (readMembers (fuel + 1) r.2).bind fun q => some (object (ofEntries (r.1 :: q.1)), q.2)) = _
    rw [hfirst, Option.bind_some, hnext, Option.bind_some, hobject]
    rfl

theorem readItems_stringify (items : List Json) (fuel : Nat) {rest : List UInt16}
    (hfuel : (Json.stringifyItems items).length ≤ fuel) (hrest : Ends rest)
    (hproper : ProperItems items) :
    readItems fuel (Json.stringifyItems items ++ rest) = some (ofItems items, rest) := by
  rcases fuel with - | fuel
  · rcases items with - | ⟨v, items⟩ <;> cases hfuel
  match items with
  | [] => rfl
  | v :: items =>
    simp only [Json.stringifyItems, List.length_cons, List.length_append] at hfuel
    have hvalue := readValue_stringify v fuel (by omega)
      (ends_stringifyItems items rest) hproper.1
    have hnext := readItems_stringify items fuel (by omega) hrest hproper.2
    rw [Json.stringifyItems, List.cons_append, List.append_assoc]
    show (readValue fuel (Json.stringify v ++ (Json.stringifyItems items ++ rest))).bind (fun r =>
      (readItems fuel r.2).bind fun q => some (r.1 :: q.1, q.2)) = _
    rw [hvalue, Option.bind_some, hnext]
    rfl

theorem readMembers_stringify (members : List (List UInt16 × Json)) (fuel : Nat)
    {rest : List UInt16} (hfuel : (Json.stringifyMembers members).length ≤ fuel)
    (hrest : Ends rest) (hproper : ProperMembers members) :
    readMembers fuel (Json.stringifyMembers members ++ rest) = some (ofMembers members, rest) := by
  rcases fuel with - | fuel
  · rcases members with - | ⟨⟨k, v⟩, members⟩ <;> cases hfuel
  match members with
  | [] => rfl
  | (k, v) :: members =>
    simp only [Json.stringifyMembers, List.length_cons, List.length_append] at hfuel
    have hlength : 2 ≤ (Json.quote k).length := by
      simp only [Json.quote, List.length_cons, List.length_append]
      omega
    obtain ⟨fuel, rfl⟩ : ∃ n, fuel = n + 1 := ⟨fuel - 1, by omega⟩
    have hfirst := readMember_quote k (readValue_stringify v fuel (by omega)
      (ends_stringifyMembers members rest) hproper.1)
    have hnext := readMembers_stringify members (fuel + 1) (by omega) hrest hproper.2
    rw [Json.stringifyMembers, List.cons_append, List.append_assoc, List.cons_append,
      List.append_assoc]
    show (readMember (fuel + 1) (Json.quote k ++ 58 :: (Json.stringify v ++
      (Json.stringifyMembers members ++ rest)))).bind (fun r =>
        (readMembers (fuel + 1) r.2).bind fun q => some (r.1 :: q.1, q.2)) = _
    rw [hfirst, Option.bind_some, hnext]
    rfl

end

/-- **The text of a value denotes that value.** -/
theorem parse_stringify {v : Json} (h : Proper v) : parse (Json.stringify v) = some (ofJson v) := by
  have hread := readValue_stringify v ((Json.stringify v).length + 1) (Nat.le_succ _)
    (show Ends [] from nofun) h
  rw [List.append_nil] at hread
  rw [parse, hread]
  rfl

end JsValue
