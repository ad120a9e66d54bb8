/-
SubmittedIt/Normalize.lean

The leaves of protocol values (packages/receipt-core, normalize.ts).

A URL is what `new URL` makes of a text, which is the runtime's: its parts
that the protocol reads, and its text without the fragment.  Of it is used
that the text of an HTTP URL is printable ASCII and parses to the same URL
again, and that an origin is a URL of that origin.

`Parses f write` says of a parser `f` of values that `write` writes what all
parsers of the protocol have in common: a parsed value is parsed to itself, and
parsed values differ in their canonical forms.  `parses_of_normal` is the case
of the texts, which are parsed to normal texts.
-/
import SubmittedIt.CanonicalForms
import SubmittedIt.Calendar

namespace SubmittedIt.Protocol

/-! ### The runtime -/

/-- A URL, as far as it is read; `href` is its text without the fragment and
`bare` its text without query and fragment. -/
structure WebUrl where
  protocol : Text
  username : Text
  password : Text
  origin : Text
  pathname : Text
  bare : Text
  href : Text
  deriving DecidableEq

/-- `url.protocol` is that of the web. -/
def WebUrl.isHttp (url : WebUrl) : Bool :=
  url.protocol = ascii "http:" || url.protocol = ascii "https:"

/-- All characters are visible ASCII characters. -/
def isVisible (text : Text) : Bool := text.all fun u => 33 ≤ u && u ≤ 126

/-- The runtime: `toLowerCase` and `new URL` beside NFC. -/
structure ReceiptPlatform extends TextPlatform where
  toLowerCase : Text → Text
  url : Text → Option WebUrl
  url_visible : ∀ text parsed, url text = some parsed → parsed.isHttp = true →
    isVisible parsed.href = true ∧ isVisible parsed.origin = true
  url_href : ∀ text parsed, url text = some parsed → parsed.isHttp = true →
    url parsed.href = some parsed
  url_origin : ∀ text parsed, url text = some parsed → parsed.isHttp = true →
    ∃ root, url parsed.origin = some root ∧ root.protocol = parsed.protocol ∧ root.username = [] ∧
      root.password = [] ∧ root.origin = parsed.origin

/-! ### Characters -/

def isHexDigit (u : UInt16) : Bool :=
  Json.isDigit u || (97 ≤ u && u ≤ 102) || (65 ≤ u && u ≤ 70)

def isAlphanumeric (u : UInt16) : Bool :=
  Json.isDigit u || (97 ≤ u && u ≤ 122) || (65 ≤ u && u ≤ 90)

/-- The characters of `HTTP_METHOD_PATTERN`. -/
def isTokenUnit (u : UInt16) : Bool :=
  isAlphanumeric u || (ascii "!#$%&'*+.^_`|~-").contains u

/-- A lower-case ASCII letter for an upper-case one. -/
def lowerUnit (u : UInt16) : UInt16 := if 65 ≤ u ∧ u ≤ 90 then u + 32 else u

/-- An upper-case ASCII letter for a lower-case one. -/
def upperUnit (u : UInt16) : UInt16 := if 97 ≤ u ∧ u ≤ 122 then u - 32 else u

/-- White space and line terminators, as `trim` drops them. -/
def isWhiteSpace (u : UInt16) : Bool :=
  (9 ≤ u && u ≤ 13) || u = 32 || u = 160 || u = 0x1680 || (0x2000 ≤ u && u ≤ 0x200A) ||
    u = 0x2028 || u = 0x2029 || u = 0x202F || u = 0x205F || u = 0x3000 || u = 0xFEFF

/-- `text === text.trim()`. -/
def isTrimmed (text : Text) : Bool :=
  !(text.head?.any isWhiteSpace) && !(text.getLast?.any isWhiteSpace)

/-- `0x` and so many hexadecimal digits: `HASH_PATTERN` and `ADDRESS_PATTERN`. -/
def matchesHex (length : Nat) (text : Text) : Bool :=
  text.take 2 = ascii "0x" && (text.drop 2).length = length && (text.drop 2).all isHexDigit

/-- `0|[1-9]\d*`. -/
def isDecimal (text : Text) : Bool :=
  text ≠ [] && text.all Json.isDigit && (text.head? ≠ some 48 || text = [48])

/-! ### Texts -/

section normalize

variable (Q : ReceiptPlatform)

/-- `normalizeNonEmptyText`. -/
def normalizeNonEmptyText (value : JsValue) (path : Text) : Except ReceiptProtocolError Text :=
  match value with
  | .string text =>
    if normalizeText Q.toTextPlatform text = [] then
      protocolError "EMPTY_STRING" (ascii "must not be empty.") path
    else .ok (normalizeText Q.toTextPlatform text)
  | _ => protocolError "EXPECTED_STRING" (ascii "must be a string.") path

/-- `normalizeOptionalText`. -/
def normalizeOptionalText (value : JsValue) (path : Text) : Except ReceiptProtocolError Text :=
  match value with
  | .string text => .ok (normalizeText Q.toTextPlatform text)
  | _ => protocolError "EXPECTED_STRING" (ascii "must be a string.") path

/-- `normalizeSchemaVersion`. -/
def normalizeSchemaVersion (value : JsValue) (path : Text) : Except ReceiptProtocolError Text :=
  match value with
  | .string text =>
    let major := text.takeWhile (· ≠ 46)
    let minor := (text.dropWhile (· ≠ 46)).drop 1
    if (isDecimal major && isDecimal minor) = false then
      protocolError "INVALID_SCHEMA_VERSION" (ascii "must use canonical major.minor notation.") path
    else if major ≠ Json.decimal SUPPORTED_SCHEMA_MAJOR then
      -- the source writes the major as a number, which rounds it beyond 2^53
      protocolError "UNSUPPORTED_SCHEMA_MAJOR"
        (ascii "uses unsupported major version " ++ major ++ ascii "; only " ++
          Json.decimal SUPPORTED_SCHEMA_MAJOR ++ ascii ".x is accepted.") path
    else .ok text
  | _ => protocolError "INVALID_SCHEMA_VERSION" (ascii "must be a major.minor string.") path

/-- `normalizeHash`. -/
def normalizeHash (value : JsValue) (path : Text) : Except ReceiptProtocolError Text :=
  match value with
  | .string text =>
    if matchesHex 64 text then .ok (text.map lowerUnit)
    else protocolError "INVALID_HASH"
      (ascii "must be a 32-byte 0x-prefixed hexadecimal value.") path
  | _ =>
    protocolError "INVALID_HASH" (ascii "must be a 32-byte 0x-prefixed hexadecimal value.") path

/-- `normalizeAddress`. -/
def normalizeAddress (value : JsValue) (path : Text) : Except ReceiptProtocolError Text :=
  match value with
  | .string text =>
    if matchesHex 40 text then .ok (text.map lowerUnit)
    else protocolError "INVALID_ADDRESS"
      (ascii "must be a 20-byte 0x-prefixed hexadecimal value.") path
  | _ =>
    protocolError "INVALID_ADDRESS" (ascii "must be a 20-byte 0x-prefixed hexadecimal value.") path

/-- `parseHttpUrl`. -/
def parseHttpUrl (value : JsValue) (path : Text) : Except ReceiptProtocolError WebUrl :=
  match value with
  | .string text =>
    let normalized := normalizeText Q.toTextPlatform text
    if isTrimmed normalized = false then
      protocolError "INVALID_URL" (ascii "must not contain leading or trailing whitespace.") path
    else
      match Q.url normalized with
      | none => protocolError "INVALID_URL" (ascii "must be an absolute HTTP or HTTPS URL.") path
      | some url =>
        if url.isHttp = false then
          protocolError "INVALID_URL_SCHEME" (ascii "must use HTTP or HTTPS.") path
        else if url.username ≠ [] ∨ url.password ≠ [] then
          protocolError "URL_CREDENTIALS_FORBIDDEN"
            (ascii "must not contain embedded credentials.") path
        else .ok url
  | _ => protocolError "INVALID_URL" (ascii "must be an absolute HTTP or HTTPS URL.") path

/-- `normalizeOrigin`. -/
def normalizeOrigin (value : JsValue) (path : Text) : Except ReceiptProtocolError Text :=
  (parseHttpUrl Q value path).map (·.origin)

/-- `normalizeUrl`. -/
def normalizeUrl (value : JsValue) (path : Text) : Except ReceiptProtocolError Text :=
  (parseHttpUrl Q value path).map (·.href)

/-- `normalizeHttpMethod`. -/
def normalizeHttpMethod (value : JsValue) (path : Text) : Except ReceiptProtocolError Text :=
  match value with
  | .string text =>
    let normalized := normalizeText Q.toTextPlatform text
    if normalized ≠ [] ∧ normalized.all isTokenUnit then .ok (normalized.map upperUnit)
    else protocolError "INVALID_HTTP_METHOD" (ascii "contains invalid HTTP token characters.") path
  | _ => protocolError "INVALID_HTTP_METHOD" (ascii "must be an HTTP method string.") path

/-- `normalizeBase64Url`. -/
def normalizeBase64Url (value : JsValue) (path : Text) : Except ReceiptProtocolError Text :=
  match value with
  | .string text =>
    if text ≠ [] ∧ text.all fun u => isAlphanumeric u || u = 95 || u = 45 then .ok text
    else protocolError "INVALID_BASE64URL" (ascii "must be non-empty unpadded base64url text.") path
  | _ => protocolError "INVALID_BASE64URL" (ascii "must be non-empty unpadded base64url text.") path

/-- `normalizeDecimalString`. -/
def normalizeDecimalString (value : JsValue) (path : Text) : Except ReceiptProtocolError Text :=
  match value with
  | .string text =>
    if isDecimal text then .ok text
    else protocolError "INVALID_DECIMAL" (ascii "must be a canonical unsigned decimal string.") path
  | _ => protocolError "INVALID_DECIMAL" (ascii "must be a canonical unsigned decimal string.") path

/-! ### Numbers -/

/-- `normalizeNonNegativeSafeInteger`; `-0` is the number zero. -/
def normalizeNonNegativeSafeInteger (value : JsValue) (path : Text) :
    Except ReceiptProtocolError Nat :=
  match value with
  | .number number =>
    if isSafeInteger number = false ∨ safeInteger number < 0 then
      protocolError "INVALID_INTEGER" (ascii "must be a non-negative safe integer.") path
    else .ok (safeInteger number).toNat
  | _ => protocolError "INVALID_INTEGER" (ascii "must be a non-negative safe integer.") path

/-- `normalizePositiveSafeInteger`. -/
def normalizePositiveSafeInteger (value : JsValue) (path : Text) :
    Except ReceiptProtocolError Nat := do
  let normalized ← normalizeNonNegativeSafeInteger value path
  if normalized = 0 then
    protocolError "INVALID_INTEGER" (ascii "must be greater than zero.") path
  else return normalized

/-! ### Timestamps -/

/-- The matches of `RFC3339_PATTERN`; the zone is none for `Z`, else its sign
and its digits. -/
structure TimestampFields where
  year : Nat
  month : Nat
  day : Nat
  hour : Nat
  minute : Nat
  second : Nat
  millisecond : Nat
  zone : Option (Bool × Nat × Nat)
  deriving DecidableEq

/-- So many digits at a place. -/
def digitsAt (text : Text) (start length : Nat) : Option Nat :=
  let digits := (text.drop start).take length
  if digits.length = length ∧ digits.all Json.isDigit then some (JsValue.digitsValue digits)
  else none

/-- A character at a place. -/
def unitAt (text : Text) (index : Nat) (u : UInt16) : Option Unit :=
  if text[index]? = some u then some () else none

/-- The zone at the end of a timestamp. -/
def matchZone (text : Text) : Option (Option (Bool × Nat × Nat)) :=
  if text = [90] then some none
  else if text.length = 6 ∧ (text[0]? = some 43 ∨ text[0]? = some 45) then do
    let hour ← digitsAt text 1 2
    let _ ← unitAt text 3 58
    let minute ← digitsAt text 4 2
    some (some (text[0]? = some 43, hour, minute))
  else none

/-- The fraction of a second, in milliseconds. -/
def matchFraction (text : Text) : Option (Nat × Text) :=
  if text.head? = some 46 then
    let digits := text.tail.takeWhile Json.isDigit
    if 1 ≤ digits.length ∧ digits.length ≤ 3 then
      some (JsValue.digitsValue (digits ++ List.replicate (3 - digits.length) 48),
        text.tail.dropWhile Json.isDigit)
    else none
  else some (0, text)

/-- `RFC3339_PATTERN.exec`. -/
def matchTimestamp (text : Text) : Option TimestampFields := do
  let year ← digitsAt text 0 4
  let _ ← unitAt text 4 45
  let month ← digitsAt text 5 2
  let _ ← unitAt text 7 45
  let day ← digitsAt text 8 2
  let _ ← unitAt text 10 84
  let hour ← digitsAt text 11 2
  let _ ← unitAt text 13 58
  let minute ← digitsAt text 14 2
  let _ ← unitAt text 16 58
  let second ← digitsAt text 17 2
  let (millisecond, rest) ← matchFraction (text.drop 19)
  let zone ← matchZone rest
  some { year, month, day, hour, minute, second, millisecond, zone }

/-- The calendar date and the time exist. -/
def TimestampFields.valid (fields : TimestampFields) : Bool :=
  !(fields.year = 0 || fields.month < 1 || fields.month > 12 || fields.day < 1 ||
    fields.day > Calendar.daysInMonth fields.year fields.month || fields.hour > 23 ||
    fields.minute > 59 || fields.second > 59)

/-- The offset of a zone, in minutes. -/
def offsetMinutes : Option (Bool × Nat × Nat) → Int
  | none => 0
  | some (positive, hour, minute) => (hour * 60 + minute) * if positive then 1 else -1

/-- The instant in milliseconds since 1970. -/
def TimestampFields.instant (fields : TimestampFields) : Int :=
  Calendar.dayFromDate fields.year fields.month fields.day * 86400000 + fields.hour * 3600000 +
    fields.minute * 60000 + fields.second * 1000 + fields.millisecond -
    offsetMinutes fields.zone * 60000

/-- The instant with another year, before year 0 or beyond 9999. -/
def TimestampFields.instantIn (year : Int) (fields : TimestampFields) : Int :=
  Calendar.dayFromDate year fields.month fields.day * 86400000 + fields.hour * 3600000 +
    fields.minute * 60000 + fields.second * 1000 + fields.millisecond -
    offsetMinutes fields.zone * 60000

/-- The digit of a number below ten. -/
def digitUnit (d : Nat) : UInt16 := UInt16.ofNat (48 + d)

/-- The calendar date and the time of an instant, in UTC. -/
def fieldsAt (instant : Int) : TimestampFields :=
  let date := Calendar.dateFromDay (instant / 86400000)
  let time := (instant % 86400000).toNat
  { year := date.1.toNat, month := date.2.1, day := date.2.2, hour := time / 3600000,
    minute := time / 60000 % 60, second := time / 1000 % 60, millisecond := time % 1000,
    zone := none }

/-- The text of a date and a time in UTC. -/
def TimestampFields.text (fields : TimestampFields) : Text :=
  [digitUnit (fields.year / 1000), digitUnit (fields.year / 100 % 10),
    digitUnit (fields.year / 10 % 10), digitUnit (fields.year % 10), 45,
    digitUnit (fields.month / 10), digitUnit (fields.month % 10), 45,
    digitUnit (fields.day / 10), digitUnit (fields.day % 10), 84,
    digitUnit (fields.hour / 10), digitUnit (fields.hour % 10), 58,
    digitUnit (fields.minute / 10), digitUnit (fields.minute % 10), 58,
    digitUnit (fields.second / 10), digitUnit (fields.second % 10), 46,
    digitUnit (fields.millisecond / 100), digitUnit (fields.millisecond / 10 % 10),
    digitUnit (fields.millisecond % 10), 90]

/-- `toISOString`, in the years 0 to 9999. -/
def toISOString (instant : Int) : Text := (fieldsAt instant).text

/-- `normalizeTimestamp`; the instant of a four-digit year is always finite. -/
def normalizeTimestamp (value : JsValue) (path : Text) : Except ReceiptProtocolError Text :=
  match value with
  | .string text =>
    match matchTimestamp text with
    | none => protocolError "INVALID_TIMESTAMP"
        (ascii "must use RFC 3339 with a timezone and at most millisecond precision.") path
    | some fields =>
      if fields.valid = false then
        protocolError "INVALID_TIMESTAMP" (ascii "contains an invalid calendar or time value.") path
      else if fields.zone.any fun zone => zone.2.1 > 23 || zone.2.2 > 59 then
        protocolError "INVALID_TIMESTAMP" (ascii "contains an invalid UTC offset.") path
      else
        let year := (Calendar.dateFromDay (fields.instant / 86400000)).1
        if year < 1 ∨ year > 9999 then
          protocolError "INVALID_TIMESTAMP"
            (ascii "normalizes outside the supported four-digit year range.") path
        else .ok (toISOString fields.instant)
  | _ => protocolError "INVALID_TIMESTAMP" (ascii "must be an RFC 3339 timestamp.") path

/-! ### What the parsers have in common -/

/-- What `f` returns does not depend on the path. -/
def Pathless {α : Type} (f : JsValue → Text → Except ReceiptProtocolError α) : Prop :=
  ∀ ⦃v p x⦄, f v p = .ok x → ∀ q, f v q = .ok x

/-- What `f` returns does not depend on the path; it returns the same again of
what is written of it; and values that it returns have canonical forms, which
tell them apart. -/
structure Parses {α : Type} (f : JsValue → Text → Except ReceiptProtocolError α)
    (write : α → JsValue) : Prop where
  anywhere : Pathless f
  again : ∀ {v p x}, f v p = .ok x → ∀ q, f (write x) q = .ok x
  canonical : ∀ {v p x}, f v p = .ok x → ∃ j, Canonical Q.toTextPlatform (write x) j
  distinct : ∀ {v p w q x y}, f v p = .ok x → f w q = .ok y →
    Same Q.toTextPlatform (write x) (write y) → x = y

variable {Q}

/-- Normal texts are told apart. -/
theorem parses_of_normal {f : JsValue → Text → Except ReceiptProtocolError Text}
    (hanywhere : Pathless f)
    (hagain : ∀ {v p text}, f v p = .ok text → ∀ q, f (.string text) q = .ok text)
    (hnormal : ∀ {v p text}, f v p = .ok text → normalizeText Q.toTextPlatform text = text) :
    Parses Q f .string where
  anywhere := hanywhere
  again := hagain
  canonical _ := ⟨_, rfl⟩
  distinct hx hy hsame := by
    obtain ⟨t, ht, hnormalized⟩ := hsame
    rw [← JsValue.string.inj ht, hnormal hx, hnormal hy] at hnormalized
    exact hnormalized

theorem isVisible_iff {text : Text} :
    isVisible text = true ↔ ∀ u ∈ text, 33 ≤ u.toNat ∧ u.toNat ≤ 126 := by
  simp [isVisible, List.all_eq_true, UInt16.le_iff_toNat_le]

/-- **Visible texts are normal.** -/
theorem normalizeText_visible {text : Text} (h : isVisible text = true) :
    normalizeText Q.toTextPlatform text = text := by
  rw [isVisible_iff] at h
  apply normalizeText_ascii
  · refine List.all_eq_true.mpr fun u hu => decide_eq_true (UInt16.lt_iff_toNat_lt.mpr ?_)
    exact Nat.lt_of_le_of_lt (h u hu).2 (by decide)
  · exact fun hreturn => absurd (h 13 hreturn).1 (by decide)

/-- The texts that are parsed are normal. -/
theorem normalizeNonEmptyText_normal {v : JsValue} {p text : Text}
    (h : normalizeNonEmptyText Q v p = .ok text) :
    text ≠ [] ∧ normalizeText Q.toTextPlatform text = text := by
  unfold normalizeNonEmptyText at h
  split at h
  · split at h
    · cases h
    · next hne =>
      cases h
      exact ⟨hne, normalizeText_normalizeText _⟩
  · cases h

theorem normalizeOptionalText_normal {v : JsValue} {p text : Text}
    (h : normalizeOptionalText Q v p = .ok text) :
    normalizeText Q.toTextPlatform text = text := by
  unfold normalizeOptionalText at h
  split at h
  · cases h
    exact normalizeText_normalizeText _
  · cases h

theorem normalizeNonEmptyText_parses : Parses Q (normalizeNonEmptyText Q) .string := by
  have hanywhere : Pathless (normalizeNonEmptyText Q) := by
    intro v p text h q
    unfold normalizeNonEmptyText at h ⊢
    split at h
    · split_ifs at h ⊢
      · cases h
      · exact h
    · cases h
  refine parses_of_normal hanywhere (fun h q => ?_) fun h => (normalizeNonEmptyText_normal h).2
  obtain ⟨hne, hnormal⟩ := normalizeNonEmptyText_normal h
  rw [normalizeNonEmptyText, hnormal, if_neg hne]

theorem normalizeOptionalText_parses : Parses Q (normalizeOptionalText Q) .string := by
  have hanywhere : Pathless (normalizeOptionalText Q) := by
    intro v p text h q
    unfold normalizeOptionalText at h ⊢
    split at h
    · exact h
    · cases h
  refine parses_of_normal hanywhere (fun h q => ?_) normalizeOptionalText_normal
  rw [normalizeOptionalText, normalizeOptionalText_normal h]

/-! ### Hashes, methods and numerals -/

theorem isDigit_visible {u : UInt16} (h : Json.isDigit u = true) :
    33 ≤ u.toNat ∧ u.toNat ≤ 126 := by
  have := JsValue.isDigit_iff.mp h
  omega

theorem isHexDigit_iff {u : UInt16} : isHexDigit u = true ↔ (48 ≤ u.toNat ∧ u.toNat ≤ 57) ∨
    (97 ≤ u.toNat ∧ u.toNat ≤ 102) ∨ (65 ≤ u.toNat ∧ u.toNat ≤ 70) := by
  simp [isHexDigit, Json.isDigit, UInt16.le_iff_toNat_le, or_assoc]

theorem isAlphanumeric_iff {u : UInt16} : isAlphanumeric u = true ↔
    (48 ≤ u.toNat ∧ u.toNat ≤ 57) ∨ (97 ≤ u.toNat ∧ u.toNat ≤ 122) ∨
      (65 ≤ u.toNat ∧ u.toNat ≤ 90) := by
  simp [isAlphanumeric, Json.isDigit, UInt16.le_iff_toNat_le, or_assoc]

theorem toNat_lowerUnit (u : UInt16) :
    (lowerUnit u).toNat = if 65 ≤ u.toNat ∧ u.toNat ≤ 90 then u.toNat + 32 else u.toNat := by
  unfold lowerUnit
  by_cases h : 65 ≤ u.toNat ∧ u.toNat ≤ 90
  · have hu : 65 ≤ u ∧ u ≤ 90 := ⟨UInt16.le_iff_toNat_le.mpr h.1, UInt16.le_iff_toNat_le.mpr h.2⟩
    rw [if_pos h, if_pos hu, UInt16.toNat_add]
    exact Nat.mod_eq_of_lt (show u.toNat + 32 < 65536 by omega)
  · have hu : ¬(65 ≤ u ∧ u ≤ 90) := fun hu =>
      h ⟨UInt16.le_iff_toNat_le.mp hu.1, UInt16.le_iff_toNat_le.mp hu.2⟩
    rw [if_neg h, if_neg hu]

theorem toNat_upperUnit (u : UInt16) :
    (upperUnit u).toNat = if 97 ≤ u.toNat ∧ u.toNat ≤ 122 then u.toNat - 32 else u.toNat := by
  unfold upperUnit
  by_cases h : 97 ≤ u.toNat ∧ u.toNat ≤ 122
  · have hu : 97 ≤ u ∧ u ≤ 122 := ⟨UInt16.le_iff_toNat_le.mpr h.1, UInt16.le_iff_toNat_le.mpr h.2⟩
    rw [if_pos h, if_pos hu]
    exact UInt16.toNat_sub_of_le u 32 (UInt16.le_iff_toNat_le.mpr (show 32 ≤ u.toNat by omega))
  · have hu : ¬(97 ≤ u ∧ u ≤ 122) := fun hu =>
      h ⟨UInt16.le_iff_toNat_le.mp hu.1, UInt16.le_iff_toNat_le.mp hu.2⟩
    rw [if_neg h, if_neg hu]

theorem lowerUnit_lowerUnit (u : UInt16) : lowerUnit (lowerUnit u) = lowerUnit u := by
  apply UInt16.toNat_inj.mp
  rw [toNat_lowerUnit (lowerUnit u), toNat_lowerUnit u]
  split_ifs <;> omega

theorem upperUnit_upperUnit (u : UInt16) : upperUnit (upperUnit u) = upperUnit u := by
  apply UInt16.toNat_inj.mp
  rw [toNat_upperUnit (upperUnit u), toNat_upperUnit u]
  split_ifs <;> omega

theorem isHexDigit_lowerUnit {u : UInt16} (h : isHexDigit u = true) :
    isHexDigit (lowerUnit u) = true := by
  rw [isHexDigit_iff] at h ⊢
  rw [toNat_lowerUnit]
  split_ifs <;> omega

/-- A hexadecimal text in lower case is one too. -/
theorem matchesHex_lower {length : Nat} {text : Text} (h : matchesHex length text = true) :
    matchesHex length (text.map lowerUnit) = true ∧ isVisible (text.map lowerUnit) = true := by
  simp only [matchesHex, Bool.and_eq_true, decide_eq_true_eq] at h
  obtain ⟨⟨htake, hlength⟩, hdigits⟩ := h
  have hlower : ∀ u ∈ (text.drop 2).map lowerUnit, isHexDigit u = true := by
    intro u hu
    obtain ⟨w, hw, rfl⟩ := List.mem_map.mp hu
    exact isHexDigit_lowerUnit (List.all_eq_true.mp hdigits w hw)
  have hstart : (text.map lowerUnit).take 2 = ascii "0x" := by
    rw [← List.map_take, htake]
    rfl
  constructor
  · simp only [matchesHex, Bool.and_eq_true, decide_eq_true_eq]
    refine ⟨⟨hstart, ?_⟩, ?_⟩
    · rw [← List.map_drop, List.length_map, hlength]
    · rw [← List.map_drop]
      exact List.all_eq_true.mpr hlower
  · rw [← List.take_append_drop 2 (text.map lowerUnit), hstart, isVisible_iff]
    intro u hu
    rcases List.mem_append.mp hu with hu | hu
    · exact isVisible_iff.mp (show isVisible (ascii "0x") = true from rfl) u hu
    · rw [← List.map_drop] at hu
      have := isHexDigit_iff.mp (hlower u hu)
      omega

theorem map_lowerUnit_map (text : Text) :
    (text.map lowerUnit).map lowerUnit = text.map lowerUnit := by
  rw [List.map_map]
  exact List.map_congr_left fun u _ => lowerUnit_lowerUnit u

/-- What the parsers of hexadecimal texts return. -/
theorem normalizeHash_eq_ok {v : JsValue} {p text : Text} (h : normalizeHash v p = .ok text) :
    matchesHex 64 text = true ∧ isVisible text = true ∧ text.map lowerUnit = text := by
  unfold normalizeHash at h
  split at h
  · split at h
    · next hmatch =>
      cases h
      exact ⟨(matchesHex_lower hmatch).1, (matchesHex_lower hmatch).2, map_lowerUnit_map _⟩
    · cases h
  · cases h

theorem normalizeAddress_eq_ok {v : JsValue} {p text : Text}
    (h : normalizeAddress v p = .ok text) :
    matchesHex 40 text = true ∧ isVisible text = true ∧ text.map lowerUnit = text := by
  unfold normalizeAddress at h
  split at h
  · split at h
    · next hmatch =>
      cases h
      exact ⟨(matchesHex_lower hmatch).1, (matchesHex_lower hmatch).2, map_lowerUnit_map _⟩
    · cases h
  · cases h

theorem normalizeHash_pathless : Pathless normalizeHash := by
  intro v p text h q
  unfold normalizeHash at h ⊢
  split at h
  · split_ifs at h ⊢
    · exact h
    · cases h
  · cases h

theorem normalizeHash_parses : Parses Q normalizeHash .string := by
  refine parses_of_normal normalizeHash_pathless (fun h q => ?_) fun h =>
    normalizeText_visible (normalizeHash_eq_ok h).2.1
  obtain ⟨hmatch, -, hlower⟩ := normalizeHash_eq_ok h
  rw [normalizeHash, if_pos hmatch, hlower]

theorem normalizeAddress_pathless : Pathless normalizeAddress := by
  intro v p text h q
  unfold normalizeAddress at h ⊢
  split at h
  · split_ifs at h ⊢
    · exact h
    · cases h
  · cases h

theorem normalizeAddress_parses : Parses Q normalizeAddress .string := by
  refine parses_of_normal normalizeAddress_pathless (fun h q => ?_) fun h =>
    normalizeText_visible (normalizeAddress_eq_ok h).2.1
  obtain ⟨hmatch, -, hlower⟩ := normalizeAddress_eq_ok h
  rw [normalizeAddress, if_pos hmatch, hlower]

theorem isTokenUnit_visible {u : UInt16} (h : isTokenUnit u = true) :
    33 ≤ u.toNat ∧ u.toNat ≤ 126 := by
  rcases Bool.or_eq_true_iff.mp h with h | h
  · have := isAlphanumeric_iff.mp h
    omega
  · exact isVisible_iff.mp (show isVisible (ascii "!#$%&'*+.^_`|~-") = true from rfl) u
      (List.contains_iff_mem.mp h)

theorem isTokenUnit_upperUnit {u : UInt16} (h : isTokenUnit u = true) :
    isTokenUnit (upperUnit u) = true := by
  rw [isTokenUnit, Bool.or_eq_true_iff, isAlphanumeric_iff] at h ⊢
  rcases h with h | h
  · left
    rw [toNat_upperUnit]
    split_ifs <;> omega
  · by_cases hlower : 97 ≤ u ∧ u ≤ 122
    · left
      have h97 : 97 ≤ u.toNat := UInt16.le_iff_toNat_le.mp hlower.1
      have h122 : u.toNat ≤ 122 := UInt16.le_iff_toNat_le.mp hlower.2
      rw [toNat_upperUnit, if_pos ⟨h97, h122⟩]
      omega
    · right
      rwa [upperUnit, if_neg hlower]

theorem normalizeHttpMethod_parses : Parses Q (normalizeHttpMethod Q) .string := by
  have hcases : ∀ {v p text}, normalizeHttpMethod Q v p = .ok text →
      text ≠ [] ∧ text.all isTokenUnit = true ∧ text.map upperUnit = text ∧
        isVisible text = true := by
    intro v p text h
    unfold normalizeHttpMethod at h
    split at h
    · next method =>
      dsimp only at h
      split at h
      · next hmethod =>
        cases h
        have hall : ∀ u ∈ (normalizeText Q.toTextPlatform method).map upperUnit,
            isTokenUnit u = true := by
          intro u hu
          obtain ⟨w, hw, rfl⟩ := List.mem_map.mp hu
          exact isTokenUnit_upperUnit (List.all_eq_true.mp hmethod.2 w hw)
        refine ⟨fun hnil => hmethod.1 (List.map_eq_nil_iff.mp hnil), List.all_eq_true.mpr hall, ?_,
          isVisible_iff.mpr fun u hu => isTokenUnit_visible (hall u hu)⟩
        rw [List.map_map]
        exact List.map_congr_left fun u _ => upperUnit_upperUnit u
      · cases h
    · cases h
  have hanywhere : Pathless (normalizeHttpMethod Q) := by
    intro v p text h q
    unfold normalizeHttpMethod at h ⊢
    split at h
    · dsimp only at h ⊢
      split_ifs at h ⊢
      · exact h
      · cases h
    · cases h
  refine parses_of_normal hanywhere (fun h q => ?_) fun h =>
    normalizeText_visible (hcases h).2.2.2
  obtain ⟨hne, htoken, hupper, hvisible⟩ := hcases h
  rw [normalizeHttpMethod, normalizeText_visible hvisible, if_pos ⟨hne, htoken⟩, hupper]

theorem normalizeBase64Url_pathless : Pathless normalizeBase64Url := by
  intro v p text h q
  unfold normalizeBase64Url at h ⊢
  split at h
  · split_ifs at h ⊢
    · exact h
    · cases h
  · cases h

/-- The characters of base64url are visible. -/
theorem base64Url_visible {text : Text}
    (h : (text.all fun u => isAlphanumeric u || u = 95 || u = 45) = true) :
    isVisible text = true := by
  refine isVisible_iff.mpr fun u hu => ?_
  have hu := List.all_eq_true.mp h u hu
  rw [Bool.or_eq_true_iff, Bool.or_eq_true_iff, isAlphanumeric_iff] at hu
  rcases hu with (hu | hu) | hu
  · omega
  · rw [of_decide_eq_true hu]
    decide
  · rw [of_decide_eq_true hu]
    decide

theorem normalizeBase64Url_eq_ok {v : JsValue} {p text : Text} :
    normalizeBase64Url v p = .ok text ↔ v = .string text ∧ text ≠ [] ∧
      (text.all fun u => isAlphanumeric u || u = 95 || u = 45) = true := by
  constructor
  · intro h
    unfold normalizeBase64Url at h
    split at h
    · split at h
      · next hmatch =>
        cases h
        exact ⟨rfl, hmatch⟩
      · cases h
    · cases h
  · rintro ⟨rfl, hmatch⟩
    exact if_pos hmatch

theorem normalizeBase64Url_parses : Parses Q normalizeBase64Url .string :=
  parses_of_normal normalizeBase64Url_pathless
    (fun h _ => normalizeBase64Url_eq_ok.mpr ⟨rfl, (normalizeBase64Url_eq_ok.mp h).2⟩)
    fun h => normalizeText_visible (base64Url_visible (normalizeBase64Url_eq_ok.mp h).2.2)

theorem isDecimal_visible {text : Text} (h : isDecimal text = true) : isVisible text = true := by
  simp only [isDecimal, Bool.and_eq_true] at h
  exact isVisible_iff.mpr fun u hu => isDigit_visible (List.all_eq_true.mp h.1.2 u hu)

theorem normalizeDecimalString_pathless : Pathless normalizeDecimalString := by
  intro v p text h q
  unfold normalizeDecimalString at h ⊢
  split at h
  · split_ifs at h ⊢
    · exact h
    · cases h
  · cases h

theorem normalizeDecimalString_eq_ok {v : JsValue} {p text : Text} :
    normalizeDecimalString v p = .ok text ↔ v = .string text ∧ isDecimal text = true := by
  constructor
  · intro h
    unfold normalizeDecimalString at h
    split at h
    · split at h
      · next hdecimal =>
        cases h
        exact ⟨rfl, hdecimal⟩
      · cases h
    · cases h
  · rintro ⟨rfl, hdecimal⟩
    exact if_pos hdecimal

theorem normalizeDecimalString_parses : Parses Q normalizeDecimalString .string :=
  parses_of_normal normalizeDecimalString_pathless
    (fun h _ => normalizeDecimalString_eq_ok.mpr ⟨rfl, (normalizeDecimalString_eq_ok.mp h).2⟩)
    fun h => normalizeText_visible (isDecimal_visible (normalizeDecimalString_eq_ok.mp h).2)

theorem normalizeSchemaVersion_pathless : Pathless normalizeSchemaVersion := by
  intro v p text h q
  unfold normalizeSchemaVersion at h ⊢
  split at h
  · dsimp only at h ⊢
    split_ifs at h ⊢
    · cases h
    · cases h
    · exact h
  · cases h

/-- Schema versions are parsed as they are. -/
theorem normalizeSchemaVersion_eq_ok {v : JsValue} {p text : Text}
    (h : normalizeSchemaVersion v p = .ok text) : v = .string text ∧ isVisible text = true := by
  unfold normalizeSchemaVersion at h
  split at h
  · next version =>
    dsimp only at h
    split_ifs at h with hdecimal hmajor
    · cases h
    · cases h
    · obtain rfl := Except.ok.inj h
      rw [Bool.not_eq_false, Bool.and_eq_true] at hdecimal
      refine ⟨rfl, ?_⟩
      rw [← List.takeWhile_append_dropWhile (p := (· ≠ 46)) (l := version), isVisible_iff]
      intro u hu
      rcases List.mem_append.mp hu with hu | hu
      · exact isVisible_iff.mp (isDecimal_visible hdecimal.1) u hu
      · -- the point, and the digits after it
        rcases hdrop : version.dropWhile (· ≠ 46) with - | ⟨point, minor⟩
        · rw [hdrop] at hu
          cases hu
        · have hpoint := List.head?_dropWhile_not (fun u : UInt16 => decide (u ≠ 46)) version
          rw [hdrop] at hu hpoint
          have hpoint : point = 46 := by simpa using hpoint
          rcases List.mem_cons.mp hu with rfl | hu
          · rw [hpoint]
            decide
          · rw [hdrop] at hdecimal
            exact isVisible_iff.mp (isDecimal_visible hdecimal.2) u hu
  · cases h

theorem normalizeSchemaVersion_parses : Parses Q normalizeSchemaVersion .string := by
  refine parses_of_normal normalizeSchemaVersion_pathless (fun h q => ?_) fun h =>
    normalizeText_visible (normalizeSchemaVersion_eq_ok h).2
  obtain ⟨rfl, -⟩ := normalizeSchemaVersion_eq_ok h
  exact normalizeSchemaVersion_pathless h q

/-! ### URLs -/

theorem isWhiteSpace_visible {u : UInt16} (h : 33 ≤ u.toNat ∧ u.toNat ≤ 126) :
    isWhiteSpace u = false := by
  simp only [isWhiteSpace, UInt16.le_iff_toNat_le, ← UInt16.toNat_inj, Bool.or_eq_false_iff,
    Bool.and_eq_false_iff, decide_eq_false_iff_not, UInt16.reduceToNat]
  omega

theorem isTrimmed_visible {text : Text} (h : isVisible text = true) : isTrimmed text = true := by
  have hvisible := isVisible_iff.mp h
  have hwhite : ∀ u ∈ text, isWhiteSpace u = false := fun u hu =>
    isWhiteSpace_visible (hvisible u hu)
  rw [isTrimmed, Bool.and_eq_true, Bool.not_eq_true', Bool.not_eq_true', Option.any_eq_false,
    Option.any_eq_false]
  constructor
  · intro u hu
    exact Bool.not_eq_true _ ▸ hwhite u (List.mem_of_mem_head? hu)
  · intro u hu
    exact Bool.not_eq_true _ ▸ hwhite u (List.mem_of_mem_getLast? hu)

/-- A parsed URL is one of the web without credentials. -/
theorem parseHttpUrl_eq_ok {v : JsValue} {p : Text} {url : WebUrl}
    (h : parseHttpUrl Q v p = .ok url) : ∃ text, Q.url text = some url ∧ url.isHttp = true ∧
      url.username = [] ∧ url.password = [] := by
  unfold parseHttpUrl at h
  split at h
  · next text =>
    dsimp only at h
    split_ifs at h
    · cases h
    · split at h
      · cases h
      · next parsed hparsed =>
        split_ifs at h with hhttp hcredentials
        · cases h
        · cases h
        · obtain rfl := Except.ok.inj h
          rw [Bool.not_eq_false] at hhttp
          rw [not_or, not_not, not_not] at hcredentials
          exact ⟨_, hparsed, hhttp, hcredentials⟩
  · cases h

theorem parseHttpUrl_anywhere {v : JsValue} {p : Text} {url : WebUrl}
    (h : parseHttpUrl Q v p = .ok url) (q : Text) : parseHttpUrl Q v q = .ok url := by
  unfold parseHttpUrl at h ⊢
  split at h
  · dsimp only at h ⊢
    split_ifs at h ⊢
    · cases h
    · split at h
      · cases h
      · split_ifs at h ⊢
        · cases h
        · cases h
        · exact h
  · cases h

/-- Visible texts of URLs are parsed as they are. -/
theorem parseHttpUrl_visible {text : Text} {url : WebUrl} (hvisible : isVisible text = true)
    (hurl : Q.url text = some url) (hhttp : url.isHttp = true) (husername : url.username = [])
    (hpassword : url.password = []) (p : Text) : parseHttpUrl Q (.string text) p = .ok url := by
  rw [parseHttpUrl, normalizeText_visible hvisible,
    if_neg (by rw [isTrimmed_visible hvisible]; exact Bool.noConfusion), hurl]
  dsimp only
  rw [if_neg (by rw [hhttp]; exact Bool.noConfusion), if_neg]
  rintro (h | h)
  · exact h husername
  · exact h hpassword

theorem normalizeUrl_eq_ok {v : JsValue} {p text : Text} (h : normalizeUrl Q v p = .ok text) :
    isVisible text = true ∧
      ∃ url, url.href = text ∧ ∀ q, parseHttpUrl Q (.string text) q = .ok url := by
  rcases hurl : parseHttpUrl Q v p with e | url
  · rw [normalizeUrl, hurl] at h
    cases h
  · rw [normalizeUrl, hurl] at h
    obtain rfl := Except.ok.inj h
    obtain ⟨source, hsource, hhttp, husername, hpassword⟩ := parseHttpUrl_eq_ok hurl
    have hvisible := (Q.url_visible source url hsource hhttp).1
    exact ⟨hvisible, url, rfl, parseHttpUrl_visible hvisible (Q.url_href source url hsource hhttp)
      hhttp husername hpassword⟩

theorem normalizeUrl_parses : Parses Q (normalizeUrl Q) .string := by
  have hanywhere : Pathless (normalizeUrl Q) := by
    intro v p text h q
    obtain ⟨url, hurl, h⟩ := map_eq_ok.mp h
    exact map_eq_ok.mpr ⟨url, parseHttpUrl_anywhere hurl q, h⟩
  refine parses_of_normal hanywhere (fun h q => ?_) fun h =>
    normalizeText_visible (normalizeUrl_eq_ok h).1
  obtain ⟨-, url, hhref, hurl⟩ := normalizeUrl_eq_ok h
  rw [normalizeUrl, hurl q]
  exact congrArg Except.ok hhref

theorem normalizeOrigin_eq_ok {v : JsValue} {p text : Text}
    (h : normalizeOrigin Q v p = .ok text) : isVisible text = true ∧
      ∃ url, url.origin = text ∧ ∀ q, parseHttpUrl Q (.string text) q = .ok url := by
  rcases hurl : parseHttpUrl Q v p with e | url
  · rw [normalizeOrigin, hurl] at h
    cases h
  · rw [normalizeOrigin, hurl] at h
    obtain rfl := Except.ok.inj h
    obtain ⟨source, hsource, hhttp, -, -⟩ := parseHttpUrl_eq_ok hurl
    obtain ⟨root, hroot, hprotocol, husername, hpassword, horigin⟩ :=
      Q.url_origin source url hsource hhttp
    have hvisible := (Q.url_visible source url hsource hhttp).2
    have hrootHttp : root.isHttp = true := by
      rw [WebUrl.isHttp, hprotocol]
      exact hhttp
    exact ⟨hvisible, root, horigin,
      parseHttpUrl_visible hvisible hroot hrootHttp husername hpassword⟩

theorem normalizeOrigin_parses : Parses Q (normalizeOrigin Q) .string := by
  have hanywhere : Pathless (normalizeOrigin Q) := by
    intro v p text h q
    obtain ⟨url, hurl, h⟩ := map_eq_ok.mp h
    exact map_eq_ok.mpr ⟨url, parseHttpUrl_anywhere hurl q, h⟩
  refine parses_of_normal hanywhere (fun h q => ?_) fun h =>
    normalizeText_visible (normalizeOrigin_eq_ok h).1
  obtain ⟨-, url, horigin, hurl⟩ := normalizeOrigin_eq_ok h
  rw [normalizeOrigin, hurl q]
  exact congrArg Except.ok horigin

/-! ### Instants -/

theorem toNat_digitUnit {d : Nat} (h : d < 10) : (digitUnit d).toNat = 48 + d := by
  rw [digitUnit, UInt16.toNat_ofNat']
  exact Nat.mod_eq_of_lt (by omega)

theorem isDigit_digitUnit {d : Nat} (h : d < 10) : Json.isDigit (digitUnit d) = true := by
  rw [JsValue.isDigit_iff, toNat_digitUnit h]
  omega

theorem value_digitUnit {d : Nat} (h : d < 10) : (digitUnit d).toNat - 48 = d := by
  rw [toNat_digitUnit h]
  omega

/-- A date and a time whose numbers have their digits. -/
structure TimestampFields.Small (fields : TimestampFields) : Prop where
  year : fields.year < 10000
  month : fields.month < 100
  day : fields.day < 100
  hour : fields.hour < 100
  minute : fields.minute < 100
  second : fields.second < 100
  millisecond : fields.millisecond < 1000
  zone : fields.zone = none

/-- Two digits at a place. -/
theorem digitsAt_two {text : Text} {start n : Nat} (hn : n < 100)
    (h : (text.drop start).take 2 = [digitUnit (n / 10), digitUnit (n % 10)]) :
    digitsAt text start 2 = some n := by
  have hhigh : n / 10 < 10 := by omega
  have hlow : n % 10 < 10 := by omega
  have hvalue : JsValue.digitsValue [digitUnit (n / 10), digitUnit (n % 10)] = n := by
    show 10 * (10 * 0 + ((digitUnit (n / 10)).toNat - 48)) + ((digitUnit (n % 10)).toNat - 48) = n
    rw [value_digitUnit hhigh, value_digitUnit hlow]
    omega
  unfold digitsAt
  rw [h]
  dsimp only
  rw [hvalue, if_pos]
  refine ⟨rfl, ?_⟩
  simp [isDigit_digitUnit hhigh, isDigit_digitUnit hlow]

theorem digitsAt_year {text : Text} {n : Nat} (hn : n < 10000)
    (h : text.take 4 = [digitUnit (n / 1000), digitUnit (n / 100 % 10), digitUnit (n / 10 % 10),
      digitUnit (n % 10)]) : digitsAt text 0 4 = some n := by
  have hvalue : JsValue.digitsValue [digitUnit (n / 1000), digitUnit (n / 100 % 10),
      digitUnit (n / 10 % 10), digitUnit (n % 10)] = n := by
    show 10 * (10 * (10 * (10 * 0 + ((digitUnit (n / 1000)).toNat - 48)) +
      ((digitUnit (n / 100 % 10)).toNat - 48)) + ((digitUnit (n / 10 % 10)).toNat - 48)) +
      ((digitUnit (n % 10)).toNat - 48) = n
    rw [value_digitUnit (by omega), value_digitUnit (by omega), value_digitUnit (by omega),
      value_digitUnit (by omega)]
    omega
  unfold digitsAt
  rw [List.drop_zero, h]
  dsimp only
  rw [hvalue, if_pos]
  refine ⟨rfl, ?_⟩
  simp [isDigit_digitUnit (show n / 1000 < 10 by omega),
    isDigit_digitUnit (show n / 100 % 10 < 10 by omega),
    isDigit_digitUnit (show n / 10 % 10 < 10 by omega),
    isDigit_digitUnit (show n % 10 < 10 by omega)]

theorem matchFraction_text {n : Nat} (hn : n < 1000) :
    matchFraction [46, digitUnit (n / 100), digitUnit (n / 10 % 10), digitUnit (n % 10), 90] =
      some (n, [90]) := by
  have h1 := isDigit_digitUnit (show n / 100 < 10 by omega)
  have h2 := isDigit_digitUnit (show n / 10 % 10 < 10 by omega)
  have h3 := isDigit_digitUnit (show n % 10 < 10 by omega)
  have hz : Json.isDigit 90 = false := rfl
  have hvalue : JsValue.digitsValue [digitUnit (n / 100), digitUnit (n / 10 % 10),
      digitUnit (n % 10)] = n := by
    show 10 * (10 * (10 * 0 + ((digitUnit (n / 100)).toNat - 48)) +
      ((digitUnit (n / 10 % 10)).toNat - 48)) + ((digitUnit (n % 10)).toNat - 48) = n
    rw [value_digitUnit (by omega), value_digitUnit (by omega), value_digitUnit (by omega)]
    omega
  simp [matchFraction, List.takeWhile, List.dropWhile, h1, h2, h3, hz, hvalue]

/-- **The text of a date and a time is matched as that date and time.** -/
theorem matchTimestamp_text {fields : TimestampFields} (h : fields.Small) :
    matchTimestamp fields.text = some fields := by
  have hyear : digitsAt fields.text 0 4 = some fields.year := digitsAt_year h.year rfl
  have hmonth : digitsAt fields.text 5 2 = some fields.month := digitsAt_two h.month rfl
  have hday : digitsAt fields.text 8 2 = some fields.day := digitsAt_two h.day rfl
  have hhour : digitsAt fields.text 11 2 = some fields.hour := digitsAt_two h.hour rfl
  have hminute : digitsAt fields.text 14 2 = some fields.minute := digitsAt_two h.minute rfl
  have hsecond : digitsAt fields.text 17 2 = some fields.second := digitsAt_two h.second rfl
  have hfraction : matchFraction (fields.text.drop 19) = some (fields.millisecond, [90]) :=
    matchFraction_text h.millisecond
  have hzone : matchZone [90] = some none := rfl
  have hunits : unitAt fields.text 4 45 = some () ∧ unitAt fields.text 7 45 = some () ∧
      unitAt fields.text 10 84 = some () ∧ unitAt fields.text 13 58 = some () ∧
      unitAt fields.text 16 58 = some () := ⟨rfl, rfl, rfl, rfl, rfl⟩
  obtain ⟨hunit4, hunit7, hunit10, hunit13, hunit16⟩ := hunits
  simp only [matchTimestamp, hyear, hmonth, hday, hhour, hminute, hsecond, hfraction, hzone, hunit4,
    hunit7, hunit10, hunit13, hunit16, Option.bind_eq_bind, Option.bind_some]
  rw [← h.zone]

/-- The numbers of an instant have their digits, whatever is written for its
year. -/
theorem fieldsAt_small (instant : Int) {year : Nat} (hyear : year < 10000) :
    ({ fieldsAt instant with year := year } : TimestampFields).Small := by
  obtain ⟨-, hmonth, hmonth', hdate, hdate'⟩ :=
    Calendar.dayFromDate_dateFromDay (instant / 86400000)
  have hlength := Calendar.daysInMonth_le (Calendar.dateFromDay (instant / 86400000)).1
    (Calendar.dateFromDay (instant / 86400000)).2.1
  have htime : (instant % 86400000).toNat < 86400000 := by omega
  refine ⟨hyear, ?_, ?_, ?_, ?_, ?_, ?_, rfl⟩
  · show (Calendar.dateFromDay (instant / 86400000)).2.1 < 100
    omega
  · show (Calendar.dateFromDay (instant / 86400000)).2.2 < 100
    omega
  · show (instant % 86400000).toNat / 3600000 < 100
    omega
  · show (instant % 86400000).toNat / 60000 % 60 < 100
    omega
  · show (instant % 86400000).toNat / 1000 % 60 < 100
    omega
  · show (instant % 86400000).toNat % 1000 < 1000
    omega

/-- **The date and the time of an instant denote that instant.** -/
theorem fieldsAt_instantIn (instant : Int) :
    (fieldsAt instant).instantIn (Calendar.dateFromDay (instant / 86400000)).1 = instant := by
  have hday := (Calendar.dayFromDate_dateFromDay (instant / 86400000)).1
  show Calendar.dayFromDate _ (Calendar.dateFromDay (instant / 86400000)).2.1
      (Calendar.dateFromDay (instant / 86400000)).2.2 * 86400000 +
    (((instant % 86400000).toNat / 3600000 : Nat) : Int) * 3600000 +
    (((instant % 86400000).toNat / 60000 % 60 : Nat) : Int) * 60000 +
    (((instant % 86400000).toNat / 1000 % 60 : Nat) : Int) * 1000 +
    (((instant % 86400000).toNat % 1000 : Nat) : Int) - 0 * 60000 = instant
  rw [hday]
  omega

theorem fieldsAt_spec {instant : Int} (hfirst : 1 ≤ (Calendar.dateFromDay (instant / 86400000)).1)
    (hlast : (Calendar.dateFromDay (instant / 86400000)).1 ≤ 9999) :
    (fieldsAt instant).Small ∧ (fieldsAt instant).valid = true ∧
      (fieldsAt instant).instant = instant := by
  obtain ⟨-, hmonth, hmonth', hdate, hdate'⟩ :=
    Calendar.dayFromDate_dateFromDay (instant / 86400000)
  have hyear : (((fieldsAt instant).year : Nat) : Int) =
      (Calendar.dateFromDay (instant / 86400000)).1 := Int.toNat_of_nonneg (by omega)
  have htime : (instant % 86400000).toNat < 86400000 := by omega
  refine ⟨fieldsAt_small instant (show (fieldsAt instant).year < 10000 by omega), ?_, ?_⟩
  · rw [TimestampFields.valid, hyear]
    simp only [Bool.not_eq_true', Bool.or_eq_false_iff, decide_eq_false_iff_not]
    refine ⟨⟨⟨⟨⟨⟨⟨?_, ?_⟩, ?_⟩, ?_⟩, ?_⟩, ?_⟩, ?_⟩, ?_⟩
    · omega
    · exact not_lt.mpr hmonth
    · exact not_lt.mpr hmonth'
    · exact not_lt.mpr hdate
    · exact not_lt.mpr hdate'
    · show ¬ (instant % 86400000).toNat / 3600000 > 23
      omega
    · show ¬ (instant % 86400000).toNat / 60000 % 60 > 59
      omega
    · show ¬ (instant % 86400000).toNat / 1000 % 60 > 59
      omega
  · show (fieldsAt instant).instantIn ((fieldsAt instant).year : Nat) = instant
    rw [hyear]
    exact fieldsAt_instantIn instant

theorem normalizeTimestamp_pathless : Pathless normalizeTimestamp := by
  intro v p text h q
  unfold normalizeTimestamp at h ⊢
  split at h
  · split at h
    · cases h
    · dsimp only at h ⊢
      split_ifs at h ⊢
      · cases h
      · cases h
      · cases h
      · exact h
  · cases h

/-- **Timestamps are parsed to texts in UTC**, which are parsed to themselves. -/
theorem normalizeTimestamp_parses : Parses Q normalizeTimestamp .string := by
  have hcases : ∀ {v p text}, normalizeTimestamp v p = .ok text → ∃ instant,
      text = toISOString instant ∧ 1 ≤ (Calendar.dateFromDay (instant / 86400000)).1 ∧
      (Calendar.dateFromDay (instant / 86400000)).1 ≤ 9999 := by
    intro v p text h
    unfold normalizeTimestamp at h
    split at h
    · split at h
      · cases h
      · next fields _ =>
        dsimp only at h
        split_ifs at h with hvalid hoffset hyear
        · cases h
        · cases h
        · cases h
        · rw [not_or, not_lt, not_lt] at hyear
          exact ⟨fields.instant, (Except.ok.inj h).symm, hyear⟩
    · cases h
  refine parses_of_normal normalizeTimestamp_pathless (fun h q => ?_) fun h => ?_
  · obtain ⟨instant, rfl, hfirst, hlast⟩ := hcases h
    obtain ⟨hsmall, hvalid, hinstant⟩ := fieldsAt_spec hfirst hlast
    rw [normalizeTimestamp, toISOString, matchTimestamp_text hsmall]
    dsimp only
    rw [if_neg (by rw [hvalid]; exact Bool.noConfusion), hsmall.zone, hinstant, if_neg nofun,
      if_neg (by omega)]
    rfl
  · obtain ⟨instant, rfl, hfirst, hlast⟩ := hcases h
    obtain ⟨hsmall, -, -⟩ := fieldsAt_spec hfirst hlast
    have hdigit : ∀ {d : Nat}, d < 10 → 33 ≤ (digitUnit d).toNat ∧ (digitUnit d).toNat ≤ 126 :=
      fun hd => isDigit_visible (isDigit_digitUnit hd)
    refine normalizeText_visible (isVisible_iff.mpr fun u hu => ?_)
    obtain ⟨hyear, hmonth, hday, hhour, hminute, hsecond, hmillisecond, -⟩ := hsmall
    simp only [toISOString, TimestampFields.text, List.mem_cons, List.not_mem_nil, or_false] at hu
    rcases hu with hu | hu | hu | hu | hu | hu | hu | hu | hu | hu | hu | hu | hu | hu | hu | hu |
      hu | hu | hu | hu | hu | hu | hu | hu <;> subst hu <;>
      first | exact hdigit (by omega) | decide

end normalize

/-! ### A runtime for one site -/

def sampleSite : WebUrl where
  protocol := ascii "https:"
  username := []
  password := []
  origin := ascii "https://a.example"
  pathname := ascii "/"
  bare := ascii "https://a.example/"
  href := ascii "https://a.example/"

/-- A runtime that knows one site and ASCII texts. -/
def sampleReceiptPlatform : ReceiptPlatform where
  toTextPlatform := samplePlatform
  toLowerCase := fun text => text.map lowerUnit
  url := fun text =>
    if text = ascii "https://a.example" ∨ text = ascii "https://a.example/" then some sampleSite
    else none
  url_visible := by
    intro text parsed h _
    split at h
    · cases h
      exact ⟨rfl, rfl⟩
    · cases h
  url_href := by
    intro text parsed h _
    split at h
    · cases h
      exact if_pos (.inr rfl)
    · cases h
  url_origin := by
    intro text parsed h _
    split at h
    · cases h
      exact ⟨sampleSite, if_pos (.inl rfl), rfl, rfl, rfl, rfl⟩
    · cases h

end SubmittedIt.Protocol
