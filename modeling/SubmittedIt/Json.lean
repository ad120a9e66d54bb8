/-
SubmittedIt/Json.lean

JSON values and their text: library, independent of the model.

An object is the list of its members in their order; `member` is what reading
a property finds.  `arrange less` puts the members of every object in the
order of `less`, as storage formats and canonical forms do.  `stringify` is the
text of a value without white space, where strings are sequences of UTF-16 code
units and the escapes are those of well-formed `JSON.stringify`.

Main results: `unescape_escape` (a quoted string can be read back),
`stringify_append_inj` (a text determines its value, and where it ends),
`stringify_injective`.
-/
import Mathlib

/-- A JSON value whose numbers are integers. -/
inductive Json
  | null
  | boolean (value : Bool)
  | number (value : Int)
  | string (text : List UInt16)
  | array (items : List Json)
  | object (members : List (List UInt16 × Json))

namespace Json

/-! ### Members -/

/-- The property of an object under a key. -/
def member (key : List UInt16) : List (List UInt16 × Json) → Option Json
  | [] => none
  | (k, v) :: rest => if k = key then some v else member key rest

/-- Set a property of an object whose keys are in order. -/
def insertMember (less : List UInt16 → List UInt16 → Bool) (key : List UInt16) (value : Json) :
    List (List UInt16 × Json) → List (List UInt16 × Json)
  | [] => [(key, value)]
  | (k, v) :: rest =>
    if k = key then (key, value) :: rest
    else if less key k then (key, value) :: (k, v) :: rest
    else (k, v) :: insertMember less key value rest

section arrange

variable (less : List UInt16 → List UInt16 → Bool)

mutual

/-- The value with the members of every object in order. -/
def arrange : Json → Json
  | null => null
  | boolean value => boolean value
  | number value => number value
  | string text => string text
  | array items => array (arrangeItems items)
  | object members => object (arrangeMembers members)

def arrangeItems : List Json → List Json
  | [] => []
  | v :: rest => arrange v :: arrangeItems rest

def arrangeMembers : List (List UInt16 × Json) → List (List UInt16 × Json)
  | [] => []
  | (k, v) :: rest => insertMember less k (arrange v) (arrangeMembers rest)

end

variable {less}

end arrange

/-! ### Text -/

/-- The decimal digits of a number. -/
def decimal (n : Nat) : List UInt16 :=
  if n = 0 then [48] else (Nat.digits 10 n).reverse.map fun d => UInt16.ofNat (48 + d)

def isDigit (u : UInt16) : Bool := 48 ≤ u && u ≤ 57

/-- The lower-case hexadecimal digit of a number below sixteen. -/
def hexDigit (n : Nat) : UInt16 :=
  if n < 10 then UInt16.ofNat (48 + n) else UInt16.ofNat (87 + n)

/-- `\uXXXX`. -/
def unicodeEscape (u : UInt16) : List UInt16 :=
  [92, 117, hexDigit (u.toNat / 4096), hexDigit (u.toNat / 256 % 16),
    hexDigit (u.toNat / 16 % 16), hexDigit (u.toNat % 16)]

def isHighSurrogate (u : UInt16) : Bool := 0xD800 ≤ u && u ≤ 0xDBFF

def isLowSurrogate (u : UInt16) : Bool := 0xDC00 ≤ u && u ≤ 0xDFFF

/-- A code unit that is half of no pair. -/
def escapeUnit (u : UInt16) : List UInt16 :=
  if u = 8 then [92, 98]
  else if u = 9 then [92, 116]
  else if u = 10 then [92, 110]
  else if u = 12 then [92, 102]
  else if u = 13 then [92, 114]
  else if u = 34 then [92, 34]
  else if u = 92 then [92, 92]
  else if u < 32 ∨ isHighSurrogate u ∨ isLowSurrogate u then unicodeEscape u
  else [u]

/-- The characters of a string between its quotes: surrogates in pairs stand
for themselves. -/
def escape : List UInt16 → List UInt16
  | [] => []
  | [u] => escapeUnit u
  | u :: v :: rest =>
    if isHighSurrogate u ∧ isLowSurrogate v then u :: v :: escape rest
    else escapeUnit u ++ escape (v :: rest)

def quote (text : List UInt16) : List UInt16 := 34 :: (escape text ++ [34])

mutual

/-- `JSON.stringify`. -/
def stringify : Json → List UInt16
  | null => [110, 117, 108, 108]
  | boolean true => [116, 114, 117, 101]
  | boolean false => [102, 97, 108, 115, 101]
  | number (.ofNat n) => decimal n
  | number (.negSucc n) => 45 :: decimal (n + 1)
  | string text => quote text
  | array [] => [91, 93]
  | array (v :: rest) => 91 :: (stringify v ++ stringifyItems rest)
  | object [] => [123, 125]
  | object ((k, v) :: rest) => 123 :: (quote k ++ 58 :: (stringify v ++ stringifyMembers rest))

/-- The items after the first, and the bracket. -/
def stringifyItems : List Json → List UInt16
  | [] => [93]
  | v :: rest => 44 :: (stringify v ++ stringifyItems rest)

/-- The members after the first, and the brace. -/
def stringifyMembers : List (List UInt16 × Json) → List UInt16
  | [] => [125]
  | (k, v) :: rest => 44 :: (quote k ++ 58 :: (stringify v ++ stringifyMembers rest))

end

/-! ### Reading strings back -/

/-- The value of a hexadecimal digit. -/
def hexValue (u : UInt16) : Nat := if u ≤ 57 then u.toNat - 48 else u.toNat - 87

/-- The code unit that an escaped letter stands for. -/
def namedEscape (u : UInt16) : UInt16 :=
  if u = 98 then 8 else if u = 116 then 9 else if u = 110 then 10
  else if u = 102 then 12 else if u = 114 then 13 else u

/-- Read up to the closing quote. -/
def unescape : List UInt16 → Option (List UInt16 × List UInt16)
  | [] => none
  | 34 :: rest => some ([], rest)
  | 92 :: 117 :: a :: b :: c :: d :: rest =>
    (unescape rest).map fun r =>
      (UInt16.ofNat (hexValue a * 4096 + hexValue b * 256 + hexValue c * 16 + hexValue d) :: r.1,
        r.2)
  | 92 :: u :: rest => (unescape rest).map fun r => (namedEscape u :: r.1, r.2)
  | u :: rest => (unescape rest).map fun r => (u :: r.1, r.2)

theorem hexValue_hexDigit {n : Nat} (h : n < 16) : hexValue (hexDigit n) = n := by
  have hall : ∀ m < 16, hexValue (hexDigit m) = m := by decide
  exact hall n h

theorem unescape_literal {u : UInt16} (hquote : u ≠ 34) (hslash : u ≠ 92)
    (rest : List UInt16) :
    unescape (u :: rest) = (unescape rest).map fun r => (u :: r.1, r.2) := by
  rw [unescape.eq_def]
  split <;> simp_all

theorem unescape_unicodeEscape (u : UInt16) (rest : List UInt16) :
    unescape (unicodeEscape u ++ rest) = (unescape rest).map fun r => (u :: r.1, r.2) := by
  have hu : u.toNat < 65536 := u.toNat_lt
  simp only [unicodeEscape, List.cons_append, List.nil_append, unescape]
  rw [hexValue_hexDigit (by omega), hexValue_hexDigit (by omega), hexValue_hexDigit (by omega),
    hexValue_hexDigit (by omega)]
  have hrecombine : u.toNat / 4096 * 4096 + u.toNat / 256 % 16 * 256 + u.toNat / 16 % 16 * 16 +
      u.toNat % 16 = u.toNat := by omega
  rw [hrecombine, UInt16.ofNat_toNat]

theorem unescape_escapeUnit (u : UInt16) (rest : List UInt16) :
    unescape (escapeUnit u ++ rest) = (unescape rest).map fun r => (u :: r.1, r.2) := by
  unfold escapeUnit
  split_ifs with h8 h9 h10 h12 h13 h34 h92 hcontrol
  · subst h8; rfl
  · subst h9; rfl
  · subst h10; rfl
  · subst h12; rfl
  · subst h13; rfl
  · subst h34; rfl
  · subst h92; rfl
  · exact unescape_unicodeEscape u rest
  · exact unescape_literal h34 h92 rest

/-- **A quoted string can be read back.** -/
theorem unescape_escape (text rest : List UInt16) :
    unescape (escape text ++ 34 :: rest) = some (text, rest) := by
  induction text using escape.induct with
  | case1 => rfl
  | case2 u =>
    show unescape (escapeUnit u ++ 34 :: rest) = _
    rw [unescape_escapeUnit]
    rfl
  | case3 u v text hpair ih =>
    have hu : u ≠ 34 ∧ u ≠ 92 := by
      constructor <;> rintro rfl <;> exact absurd hpair.1 (by decide)
    have hv : v ≠ 34 ∧ v ≠ 92 := by
      constructor <;> rintro rfl <;> exact absurd hpair.2 (by decide)
    rw [escape, if_pos hpair]
    show unescape (u :: v :: (escape text ++ 34 :: rest)) = _
    rw [unescape_literal hu.1 hu.2, unescape_literal hv.1 hv.2, ih]
    rfl
  | case4 u v text hpair ih =>
    rw [escape, if_neg hpair, List.append_assoc, unescape_escapeUnit, ih]
    rfl

theorem quote_append_inj {s t x y : List UInt16} (h : quote s ++ x = quote t ++ y) :
    s = t ∧ x = y := by
  have htail : escape s ++ 34 :: x = escape t ++ 34 :: y := by
    simpa [quote] using h
  have hread := congrArg unescape htail
  rw [unescape_escape, unescape_escape] at hread
  simpa using hread

/-! ### Reading numbers back -/

/-- What follows a value is no digit. -/
def Stops (rest : List UInt16) : Prop := ∀ u ∈ rest.head?, isDigit u = false

theorem decimal_digits (n : Nat) : ∀ u ∈ decimal n, isDigit u = true := by
  have hdigit : ∀ d < 10, isDigit (UInt16.ofNat (48 + d)) = true := by decide
  intro u hu
  unfold decimal at hu
  split at hu
  · obtain rfl := List.mem_singleton.mp hu
    rfl
  · obtain ⟨d, hd, rfl⟩ := List.mem_map.mp hu
    exact hdigit d (Nat.digits_lt_base (by omega) (List.mem_reverse.mp hd))

theorem decimal_ne_nil (n : Nat) : decimal n ≠ [] := by
  unfold decimal
  split
  · simp
  · next h => simpa [Nat.digits_eq_nil_iff_eq_zero] using h

/-- The number that decimal digits stand for. -/
theorem ofDigits_decimal (n : Nat) :
    Nat.ofDigits 10 ((decimal n).reverse.map fun u => u.toNat - 48) = n := by
  have hdigit : ∀ d < 10, (UInt16.ofNat (48 + d)).toNat - 48 = d := by decide
  unfold decimal
  split
  · next h =>
    subst h
    rfl
  · have hmap : (Nat.digits 10 n).map ((fun u : UInt16 => u.toNat - 48) ∘
        fun d => UInt16.ofNat (48 + d)) = Nat.digits 10 n := by
      conv_rhs => rw [← List.map_id (Nat.digits 10 n)]
      apply List.map_congr_left
      intro d hd
      exact hdigit d (Nat.digits_lt_base (by omega) hd)
    rw [← List.map_reverse, List.reverse_reverse, List.map_map, hmap, Nat.ofDigits_digits]

theorem decimal_injective : Function.Injective decimal := by
  intro m n h
  rw [← ofDigits_decimal m, ← ofDigits_decimal n, h]

theorem decimal_append_inj {m n : Nat} {x y : List UInt16} (hx : Stops x) (hy : Stops y)
    (h : decimal m ++ x = decimal n ++ y) : m = n ∧ x = y := by
  have htake : ∀ (n : Nat) (z : List UInt16), Stops z →
      (decimal n ++ z).takeWhile isDigit = decimal n := by
    intro n z hz
    rw [List.takeWhile_append_of_pos (decimal_digits n)]
    rcases z with - | ⟨u, z⟩
    · simp
    · rw [List.takeWhile_cons_of_neg (by simp [hz u rfl]), List.append_nil]
  have hdigits : decimal m = decimal n := by
    rw [← htake m x hx, h, htake n y hy]
  rw [hdigits] at h
  exact ⟨decimal_injective hdigits, List.append_cancel_left h⟩

/-! ### Reading values back -/

/-- What kind of value a text that starts so is of. -/
def lead (u : UInt16) : Nat :=
  if u = 110 then 0 else if u = 116 then 1 else if u = 102 then 2 else if u = 45 then 4
  else if u = 34 then 5 else if u = 91 then 6 else if u = 123 then 7
  else if isDigit u then 3 else 8

/-- The kind of a value. -/
def kind : Json → Nat
  | null => 0
  | boolean true => 1
  | boolean false => 2
  | number (.ofNat _) => 3
  | number (.negSucc _) => 4
  | string _ => 5
  | array _ => 6
  | object _ => 7

theorem lead_digit {u : UInt16} (h : isDigit u = true) : lead u = 3 := by
  have hne : u ≠ 110 ∧ u ≠ 116 ∧ u ≠ 102 ∧ u ≠ 45 ∧ u ≠ 34 ∧ u ≠ 91 ∧ u ≠ 123 := by
    refine ⟨?_, ?_, ?_, ?_, ?_, ?_, ?_⟩ <;> rintro rfl <;> exact absurd h (by decide)
  obtain ⟨h1, h2, h3, h4, h5, h6, h7⟩ := hne
  simp [lead, h, h1, h2, h3, h4, h5, h6, h7]

/-- A text begins as its value's kind does. -/
theorem stringify_lead (v : Json) : ∃ u rest, stringify v = u :: rest ∧ lead u = v.kind := by
  rcases v with - | (- | -) | (n | n) | text | (- | ⟨v, rest⟩) | (- | ⟨⟨k, v⟩, rest⟩)
  case number.ofNat =>
    rcases h : decimal n with - | ⟨u, rest⟩
    · exact absurd h (decimal_ne_nil n)
    · refine ⟨u, rest, by simp [stringify, h], ?_⟩
      exact lead_digit (decimal_digits n u (by rw [h]; exact List.mem_cons_self))
  all_goals exact ⟨_, _, rfl, rfl⟩

theorem kind_eq {a b : Json} {x y : List UInt16} (h : stringify a ++ x = stringify b ++ y) :
    a.kind = b.kind := by
  obtain ⟨u, rest, ha, hu⟩ := stringify_lead a
  obtain ⟨u', rest', hb, hu'⟩ := stringify_lead b
  rw [ha, hb] at h
  obtain rfl := (List.cons.inj h).1
  rw [← hu, hu']

theorem stringify_ne {a : Json} {u : UInt16} {x y : List UInt16} (hu : lead u = 8) :
    stringify a ++ x ≠ u :: y := by
  obtain ⟨u', rest, ha, hu'⟩ := stringify_lead a
  intro h
  rw [ha] at h
  obtain rfl := (List.cons.inj h).1
  rw [hu] at hu'
  rcases a with - | (- | -) | (n | n) | text | items | members <;> cases hu'

theorem stops_stringifyItems (items : List Json) (x : List UInt16) :
    Stops (stringifyItems items ++ x) := by
  rcases items with - | ⟨v, rest⟩ <;> rintro u ⟨⟩ <;> rfl

theorem stops_stringifyMembers (members : List (List UInt16 × Json)) (x : List UInt16) :
    Stops (stringifyMembers members ++ x) := by
  rcases members with - | ⟨⟨k, v⟩, rest⟩ <;> rintro u ⟨⟩ <;> rfl

mutual

/-- **A text determines its value**, and where it ends. -/
theorem stringify_append_inj (a b : Json) {x y : List UInt16} (hx : Stops x) (hy : Stops y)
    (h : stringify a ++ x = stringify b ++ y) : a = b ∧ x = y := by
  have hkind := kind_eq h
  match a, b, hkind with
  | null, null, _ => exact ⟨rfl, by simpa [stringify] using h⟩
  | boolean true, boolean true, _ => exact ⟨rfl, by simpa [stringify] using h⟩
  | boolean false, boolean false, _ => exact ⟨rfl, by simpa [stringify] using h⟩
  | number (.ofNat m), number (.ofNat n), _ =>
    obtain ⟨rfl, rfl⟩ := decimal_append_inj hx hy h
    exact ⟨rfl, rfl⟩
  | number (.negSucc m), number (.negSucc n), _ =>
    obtain ⟨hmn, rfl⟩ := decimal_append_inj hx hy (List.cons.inj h).2
    exact ⟨by rw [Nat.succ.inj hmn], rfl⟩
  | string s, string t, _ =>
    obtain ⟨rfl, rfl⟩ := quote_append_inj h
    exact ⟨rfl, rfl⟩
  | array [], array [], _ => exact ⟨rfl, by simpa [stringify] using h⟩
  | array [], array (v :: vs), _ =>
    simp only [stringify, List.cons_append, List.cons.injEq, true_and, List.append_assoc] at h
    exact absurd h.symm (stringify_ne rfl)
  | array (v :: vs), array [], _ =>
    simp only [stringify, List.cons_append, List.cons.injEq, true_and, List.append_assoc] at h
    exact absurd h (stringify_ne rfl)
  | array (v :: vs), array (w :: ws), _ =>
    simp only [stringify, List.cons_append, List.cons.injEq, true_and, List.append_assoc] at h
    obtain ⟨rfl, htail⟩ := stringify_append_inj v w (stops_stringifyItems _ _)
      (stops_stringifyItems _ _) h
    obtain ⟨rfl, rfl⟩ := stringifyItems_append_inj vs ws hx hy htail
    exact ⟨rfl, rfl⟩
  | object [], object [], _ => exact ⟨rfl, by simpa [stringify] using h⟩
  | object [], object ((k, v) :: ms), _ => simp [stringify, quote] at h
  | object ((k, v) :: ms), object [], _ => simp [stringify, quote] at h
  | object ((k, v) :: ms), object ((l, w) :: ns), _ =>
    simp only [stringify, List.cons_append, List.cons.injEq, true_and, List.append_assoc] at h
    obtain ⟨rfl, hvalue⟩ := quote_append_inj h
    obtain ⟨rfl, htail⟩ := stringify_append_inj v w (stops_stringifyMembers _ _)
      (stops_stringifyMembers _ _) (List.cons.inj hvalue).2
    obtain ⟨rfl, rfl⟩ := stringifyMembers_append_inj ms ns hx hy htail
    exact ⟨rfl, rfl⟩

theorem stringifyItems_append_inj (vs ws : List Json) {x y : List UInt16} (hx : Stops x)
    (hy : Stops y) (h : stringifyItems vs ++ x = stringifyItems ws ++ y) : vs = ws ∧ x = y := by
  match vs, ws with
  | [], [] => exact ⟨rfl, by simpa [stringifyItems] using h⟩
  | [], w :: ws => simp [stringifyItems] at h
  | v :: vs, [] => simp [stringifyItems] at h
  | v :: vs, w :: ws =>
    simp only [stringifyItems, List.cons_append, List.cons.injEq, true_and,
      List.append_assoc] at h
    obtain ⟨rfl, htail⟩ := stringify_append_inj v w (stops_stringifyItems _ _)
      (stops_stringifyItems _ _) h
    obtain ⟨rfl, rfl⟩ := stringifyItems_append_inj vs ws hx hy htail
    exact ⟨rfl, rfl⟩

theorem stringifyMembers_append_inj (ms ns : List (List UInt16 × Json)) {x y : List UInt16}
    (hx : Stops x) (hy : Stops y) (h : stringifyMembers ms ++ x = stringifyMembers ns ++ y) :
    ms = ns ∧ x = y := by
  match ms, ns with
  | [], [] => exact ⟨rfl, by simpa [stringifyMembers] using h⟩
  | [], (l, w) :: ns => simp [stringifyMembers] at h
  | (k, v) :: ms, [] => simp [stringifyMembers] at h
  | (k, v) :: ms, (l, w) :: ns =>
    simp only [stringifyMembers, List.cons_append, List.cons.injEq, true_and,
      List.append_assoc] at h
    obtain ⟨rfl, hvalue⟩ := quote_append_inj h
    obtain ⟨rfl, htail⟩ := stringify_append_inj v w (stops_stringifyMembers _ _)
      (stops_stringifyMembers _ _) (List.cons.inj hvalue).2
    obtain ⟨rfl, rfl⟩ := stringifyMembers_append_inj ms ns hx hy htail
    exact ⟨rfl, rfl⟩

end

theorem stringify_injective : Function.Injective stringify := by
  intro a b h
  have hstop : Stops [] := fun u hu => absurd hu (by simp)
  exact (stringify_append_inj a b hstop hstop (congrArg (· ++ []) h)).1

end Json
