/-
SubmittedIt/Timestamps.lean

What timestamps denote (packages/receipt-core, normalize.ts).

`Written` is the grammar of `RFC3339_PATTERN`, given by the texts that are
written for a date, a time of day, a fraction of a second and a zone.  `Denotes`
adds the calendar: the date exists, the time of day exists, the offset is less
than a day, and so the text denotes an instant.

Main result: `normalizeTimestamp_correct` (the texts that denote an instant of
the years 1 to 9999 are accepted, are rewritten to a text of the same instant in
UTC, and have one such text for each instant).
-/
import SubmittedIt.Normalize

namespace SubmittedIt.Protocol

/-! ### Digits -/

/-- The last digits of a number, with leading zeros. -/
def paddedDigits : Nat → Nat → Text
  | 0, _ => []
  | length + 1, n => paddedDigits length (n / 10) ++ [digitUnit (n % 10)]

theorem digitsValue_snoc (digits : Text) (u : UInt16) :
    JsValue.digitsValue (digits ++ [u]) = 10 * JsValue.digitsValue digits + (u.toNat - 48) := by
  rw [JsValue.digitsValue, List.foldl_append]
  rfl

theorem paddedDigits_spec {length n : Nat} (h : n < 10 ^ length) :
    (paddedDigits length n).length = length ∧ (paddedDigits length n).all Json.isDigit = true ∧
      JsValue.digitsValue (paddedDigits length n) = n := by
  induction length generalizing n with
  | zero =>
    obtain rfl : n = 0 := by omega
    exact ⟨rfl, rfl, rfl⟩
  | succ length ih =>
    rw [pow_succ] at h
    obtain ⟨hlength, hall, hvalue⟩ := ih (n := n / 10) (by omega)
    have hlast : n % 10 < 10 := by omega
    refine ⟨?_, ?_, ?_⟩
    · rw [paddedDigits, List.length_append, hlength]
      rfl
    · rw [paddedDigits, List.all_append, hall]
      simp [isDigit_digitUnit hlast]
    · rw [paddedDigits, digitsValue_snoc, hvalue, value_digitUnit hlast]
      omega

/-- Digits are those of their value. -/
theorem eq_paddedDigits {digits : Text} (h : digits.all Json.isDigit = true) :
    JsValue.digitsValue digits < 10 ^ digits.length ∧
      digits = paddedDigits digits.length (JsValue.digitsValue digits) := by
  induction digits using List.reverseRecOn with
  | nil => exact ⟨Nat.one_pos, rfl⟩
  | append_singleton digits u ih =>
    rw [List.all_append, Bool.and_eq_true] at h
    obtain ⟨hbound, hdigits⟩ := ih h.1
    have hu : Json.isDigit u = true := by simpa using h.2
    rw [JsValue.isDigit_iff] at hu
    have hlast : (10 * JsValue.digitsValue digits + (u.toNat - 48)) / 10 =
        JsValue.digitsValue digits := by omega
    have hunit : digitUnit ((10 * JsValue.digitsValue digits + (u.toNat - 48)) % 10) = u := by
      apply UInt16.toNat_inj.mp
      rw [toNat_digitUnit (by omega)]
      omega
    rw [digitsValue_snoc, List.length_append]
    constructor
    · show _ < 10 ^ (digits.length + 1)
      rw [pow_succ]
      omega
    · show digits ++ [u] = paddedDigits (digits.length + 1) _
      rw [paddedDigits, hlast, ← hdigits, hunit]

/-- **Digits at a place, read from the rest of the text.** -/
theorem digitsAt_eq_some {text : Text} {start length n : Nat} :
    digitsAt text start length = some n ↔
      n < 10 ^ length ∧ text.drop start = paddedDigits length n ++ text.drop (start + length) := by
  unfold digitsAt
  constructor
  · intro h
    dsimp only at h
    split at h
    · next hdigits =>
      cases h
      obtain ⟨hbound, heq⟩ := eq_paddedDigits hdigits.2
      rw [hdigits.1] at hbound heq
      refine ⟨hbound, ?_⟩
      rw [← heq, ← List.drop_drop]
      exact (List.take_append_drop length (text.drop start)).symm
    · cases h
  · rintro ⟨hbound, htext⟩
    obtain ⟨hlength, hall, hvalue⟩ := paddedDigits_spec hbound
    have htake : (text.drop start).take length = paddedDigits length n := by
      rw [htext]
      exact List.take_left' hlength
    dsimp only
    rw [htake, if_pos ⟨hlength, hall⟩, hvalue]

theorem unitAt_eq_some {text : Text} {index : Nat} {u : UInt16} :
    unitAt text index u = some () ↔ text.drop index = u :: text.drop (index + 1) := by
  unfold unitAt
  constructor
  · intro h
    split at h
    · next hu =>
      obtain ⟨hlt, hu⟩ := List.getElem?_eq_some_iff.mp hu
      rw [List.drop_eq_getElem_cons hlt, hu]
    · cases h
  · intro h
    have hu := congrArg List.head? h
    rw [List.head?_drop] at hu
    exact if_pos hu

theorem digitsAt_of_drop {text rest : Text} {start length n : Nat} (hn : n < 10 ^ length)
    (h : text.drop start = paddedDigits length n ++ rest) :
    digitsAt text start length = some n ∧ text.drop (start + length) = rest := by
  have hrest : text.drop (start + length) = rest := by
    rw [← List.drop_drop, h]
    exact List.drop_left' (paddedDigits_spec hn).1
  exact ⟨digitsAt_eq_some.mpr ⟨hn, by rw [hrest, h]⟩, hrest⟩

theorem unitAt_of_drop {text rest : Text} {index : Nat} {u : UInt16}
    (h : text.drop index = u :: rest) :
    unitAt text index u = some () ∧ text.drop (index + 1) = rest := by
  have hrest : text.drop (index + 1) = rest := by
    rw [← List.drop_drop, h]
    rfl
  exact ⟨unitAt_eq_some.mpr (by rw [hrest, h]), hrest⟩

/-! ### The grammar -/

/-- The texts of a fraction of a second, in milliseconds. -/
inductive WrittenFraction : Text → Nat → Prop
  | none : WrittenFraction [] 0
  | digits {length n : Nat} (hpos : 1 ≤ length) (hle : length ≤ 3) (hn : n < 10 ^ length) :
      WrittenFraction (46 :: paddedDigits length n) (n * 10 ^ (3 - length))

/-- The texts of a zone: `Z`, or a sign, hours and minutes. -/
inductive WrittenZone : Text → Option (Bool × Nat × Nat) → Prop
  | utc : WrittenZone [90] none
  | offset {sign : UInt16} {hour minute : Nat} (hsign : sign = 43 ∨ sign = 45)
      (hhour : hour < 100) (hminute : minute < 100) :
      WrittenZone (sign :: (paddedDigits 2 hour ++ 58 :: paddedDigits 2 minute))
        (some (sign = 43, hour, minute))

/-- The texts of a date, a time of day and a zone. -/
structure Written (text : Text) (fields : TimestampFields) : Prop where
  year : fields.year < 10000
  month : fields.month < 100
  day : fields.day < 100
  hour : fields.hour < 100
  minute : fields.minute < 100
  second : fields.second < 100
  text : ∃ fraction zone, WrittenFraction fraction fields.millisecond ∧
    WrittenZone zone fields.zone ∧
    text = paddedDigits 4 fields.year ++ 45 :: (paddedDigits 2 fields.month ++
      45 :: (paddedDigits 2 fields.day ++ 84 :: (paddedDigits 2 fields.hour ++
      58 :: (paddedDigits 2 fields.minute ++ 58 :: (paddedDigits 2 fields.second ++
      (fraction ++ zone))))))

theorem matchZone_eq_some {text : Text} {zone : Option (Bool × Nat × Nat)} :
    matchZone text = some zone ↔ WrittenZone text zone := by
  unfold matchZone
  constructor
  · intro h
    split at h
    · next hutc =>
      cases h
      rw [hutc]
      exact .utc
    · split at h
      · next hoffset =>
        obtain ⟨hlength, hsign⟩ := hoffset
        simp only [Option.bind_eq_bind, Option.bind_eq_some_iff] at h
        obtain ⟨hour, hhour, _, hcolon, minute, hminute, h⟩ := h
        cases h
        obtain ⟨hhourBound, hhourText⟩ := digitsAt_eq_some.mp hhour
        obtain ⟨hminuteBound, hminuteText⟩ := digitsAt_eq_some.mp hminute
        have hcolonText := unitAt_eq_some.mp hcolon
        have hend : text.drop (4 + 2) = [] := List.drop_eq_nil_of_le (by omega)
        rw [hend, List.append_nil] at hminuteText
        obtain ⟨sign, rest, rfl⟩ := List.exists_cons_of_ne_nil
          (show text ≠ [] from fun hnil => by rw [hnil] at hlength; cases hlength)
        have hrest : rest = paddedDigits 2 hour ++ 58 :: paddedDigits 2 minute := by
          rw [← hminuteText, ← hcolonText]
          exact hhourText
        have hsign : sign = 43 ∨ sign = 45 := by
          rcases hsign with hsign | hsign
          · exact .inl (Option.some.inj hsign)
          · exact .inr (Option.some.inj hsign)
        rw [hrest]
        have hpositive : (sign :: (paddedDigits 2 hour ++ 58 :: paddedDigits 2 minute))[0]? =
            some 43 ↔ sign = 43 := ⟨fun h => Option.some.inj h, congrArg some⟩
        simp only [hpositive]
        exact .offset hsign hhourBound hminuteBound
      · cases h
  · intro h
    cases h with
    | utc => exact if_pos rfl
    | @offset sign hour minute hsign hhour hminute =>
      have hdrop : (sign :: (paddedDigits 2 hour ++ 58 :: paddedDigits 2 minute)).drop 1 =
          paddedDigits 2 hour ++ 58 :: paddedDigits 2 minute := rfl
      obtain ⟨hhour, hdrop⟩ := digitsAt_of_drop hhour hdrop
      obtain ⟨hcolon, hdrop⟩ := unitAt_of_drop hdrop
      have hlast : (sign :: (paddedDigits 2 hour ++ 58 :: paddedDigits 2 minute)).drop (1 + 2 + 1) =
          paddedDigits 2 minute ++ [] := by
        rw [hdrop, List.append_nil]
      obtain ⟨hminute, -⟩ := digitsAt_of_drop hminute hlast
      rw [if_neg (by simp [paddedDigits]), if_pos]
      · simp [hhour, hcolon, hminute]
      · refine ⟨rfl, ?_⟩
        rcases hsign with rfl | rfl
        · exact .inl rfl
        · exact .inr rfl

/-- What begins no fraction and continues no digits. -/
theorem WrittenZone.head {text : Text} {zone : Option (Bool × Nat × Nat)}
    (h : WrittenZone text zone) :
    ∃ u rest, text = u :: rest ∧ u ≠ 46 ∧ Json.isDigit u = false := by
  cases h with
  | utc => exact ⟨90, [], rfl, by decide, rfl⟩
  | offset hsign _ _ =>
    refine ⟨_, _, rfl, ?_⟩
    rcases hsign with rfl | rfl
    · exact ⟨by decide, rfl⟩
    · exact ⟨by decide, rfl⟩

theorem digitsValue_zeros (digits : Text) (n : Nat) :
    JsValue.digitsValue (digits ++ List.replicate n 48) = JsValue.digitsValue digits * 10 ^ n := by
  induction n with
  | zero => simp
  | succ n ih =>
    rw [List.replicate_succ', ← List.append_assoc, digitsValue_snoc, ih, pow_succ]
    show 10 * (JsValue.digitsValue digits * 10 ^ n) + 0 = _
    ring

theorem writtenFraction_of_match {text rest : Text} {millisecond : Nat}
    (h : matchFraction text = some (millisecond, rest)) :
    ∃ fraction, WrittenFraction fraction millisecond ∧ text = fraction ++ rest := by
  unfold matchFraction at h
  split at h
  · next hpoint =>
    dsimp only at h
    split at h
    · next hlength =>
      obtain ⟨hmillisecond, hrest⟩ := Prod.ext_iff.mp (Option.some.inj h)
      dsimp only at hmillisecond hrest
      obtain ⟨tail, rfl⟩ : ∃ tail, text = 46 :: tail := by
        rcases text with - | ⟨u, tail⟩
        · cases hpoint
        · exact ⟨tail, congrArg (· :: tail) (Option.some.inj hpoint)⟩
      rw [List.tail_cons] at hlength hmillisecond hrest
      have hall : (tail.takeWhile Json.isDigit).all Json.isDigit = true :=
        List.all_eq_true.mpr fun u hu => List.mem_takeWhile_imp hu
      obtain ⟨hbound, hdigits⟩ := eq_paddedDigits hall
      have hwritten := WrittenFraction.digits hlength.1 hlength.2 hbound
      rw [← hdigits, ← digitsValue_zeros] at hwritten
      refine ⟨46 :: tail.takeWhile Json.isDigit, ?_, ?_⟩
      · rw [← hmillisecond]
        exact hwritten
      · rw [← hrest]
        exact congrArg (46 :: ·) List.takeWhile_append_dropWhile.symm
    · cases h
  · obtain ⟨rfl, rfl⟩ := Prod.ext_iff.mp (Option.some.inj h)
    exact ⟨[], .none, rfl⟩

theorem matchFraction_written {fraction rest : Text} {millisecond : Nat} {u : UInt16}
    (h : WrittenFraction fraction millisecond) (hpoint : u ≠ 46)
    (hdigit : Json.isDigit u = false) :
    matchFraction (fraction ++ u :: rest) = some (millisecond, u :: rest) := by
  cases h with
  | none => exact if_neg fun hhead => hpoint (Option.some.inj hhead)
  | @digits length n hpos hle hn =>
    obtain ⟨hlength, hall, hvalue⟩ := paddedDigits_spec hn
    have hall := List.all_eq_true.mp hall
    have htake : (paddedDigits length n ++ u :: rest).takeWhile Json.isDigit =
        paddedDigits length n := by
      rw [List.takeWhile_append_of_pos hall, List.takeWhile_cons_of_neg (by simp [hdigit]),
        List.append_nil]
    have hdrop : (paddedDigits length n ++ u :: rest).dropWhile Json.isDigit = u :: rest := by
      rw [List.dropWhile_append_of_pos hall, List.dropWhile_cons_of_neg (by simp [hdigit])]
    show matchFraction (46 :: (paddedDigits length n ++ u :: rest)) = _
    rw [matchFraction, if_pos (show (46 :: _ : Text).head? = some 46 from rfl), List.tail_cons]
    dsimp only
    rw [htake, hdrop, hlength, if_pos ⟨hpos, hle⟩, digitsValue_zeros, hvalue]

/-- **`RFC3339_PATTERN` matches what is written of a date, a time and a zone.** -/
theorem matchTimestamp_eq_some {text : Text} {fields : TimestampFields} :
    matchTimestamp text = some fields ↔ Written text fields := by
  constructor
  · intro h
    simp only [matchTimestamp, Option.bind_eq_bind, Option.bind_eq_some_iff] at h
    obtain ⟨year, hyear, _, h4, month, hmonth, _, h7, day, hday, _, h10, hour, hhour, _, h13,
      minute, hminute, _, h16, second, hsecond, ⟨millisecond, rest⟩, hfraction, zone, hzone, h⟩ := h
    cases h
    obtain ⟨hyear, hyearText⟩ := digitsAt_eq_some.mp hyear
    obtain ⟨hmonth, hmonthText⟩ := digitsAt_eq_some.mp hmonth
    obtain ⟨hday, hdayText⟩ := digitsAt_eq_some.mp hday
    obtain ⟨hhour, hhourText⟩ := digitsAt_eq_some.mp hhour
    obtain ⟨hminute, hminuteText⟩ := digitsAt_eq_some.mp hminute
    obtain ⟨hsecond, hsecondText⟩ := digitsAt_eq_some.mp hsecond
    obtain ⟨fraction, hfraction, hrest⟩ := writtenFraction_of_match hfraction
    refine ⟨hyear, hmonth, hday, hhour, hminute, hsecond, fraction, rest, hfraction,
      matchZone_eq_some.mp hzone, ?_⟩
    rw [← hrest, ← hsecondText, ← unitAt_eq_some.mp h16, ← hminuteText, ← unitAt_eq_some.mp h13,
      ← hhourText, ← unitAt_eq_some.mp h10, ← hdayText, ← unitAt_eq_some.mp h7, ← hmonthText,
      ← unitAt_eq_some.mp h4, ← hyearText, List.drop_zero]
  · rintro ⟨hyear, hmonth, hday, hhour, hminute, hsecond, fraction, zoneText, hfraction, hzone,
      htext⟩
    obtain ⟨hyear, hdrop⟩ := digitsAt_of_drop hyear (show text.drop 0 = _ from htext)
    obtain ⟨h4, hdrop⟩ := unitAt_of_drop hdrop
    obtain ⟨hmonth, hdrop⟩ := digitsAt_of_drop hmonth hdrop
    obtain ⟨h7, hdrop⟩ := unitAt_of_drop hdrop
    obtain ⟨hday, hdrop⟩ := digitsAt_of_drop hday hdrop
    obtain ⟨h10, hdrop⟩ := unitAt_of_drop hdrop
    obtain ⟨hhour, hdrop⟩ := digitsAt_of_drop hhour hdrop
    obtain ⟨h13, hdrop⟩ := unitAt_of_drop hdrop
    obtain ⟨hminute, hdrop⟩ := digitsAt_of_drop hminute hdrop
    obtain ⟨h16, hdrop⟩ := unitAt_of_drop hdrop
    obtain ⟨hsecond, hdrop⟩ := digitsAt_of_drop hsecond hdrop
    obtain ⟨u, rest, rfl, hpoint, hdigit⟩ := hzone.head
    have hfraction : matchFraction (_ ++ u :: rest) = _ :=
      matchFraction_written hfraction hpoint hdigit
    rw [← hdrop] at hfraction
    have hzone := matchZone_eq_some.mpr hzone
    simp only [matchTimestamp, hyear, h4, hmonth, h7, hday, h10, hhour, h13, hminute, h16, hsecond,
      hfraction, hzone, Option.bind_eq_bind, Option.bind_some]

/-! ### The calendar -/

/-- A date of the calendar, a time of day, and an offset of less than a day. -/
structure TimestampFields.Exists (fields : TimestampFields) : Prop where
  year : fields.year ≠ 0
  date : Calendar.IsDate fields.year fields.month fields.day
  hour : fields.hour ≤ 23
  minute : fields.minute ≤ 59
  second : fields.second ≤ 59
  offset : ∀ zone ∈ fields.zone, zone.2.1 ≤ 23 ∧ zone.2.2 ≤ 59

/-- The text is that of an existing date and time at the instant. -/
def Denotes (text : Text) (instant : Int) : Prop :=
  ∃ fields, Written text fields ∧ fields.Exists ∧ fields.instant = instant

/-- The instant is not before the year 1, and is before the year 10000. -/
def InFourDigitYears (instant : Int) : Prop :=
  Calendar.dayFromDate 1 1 1 * 86400000 ≤ instant ∧
    instant < Calendar.dayFromDate 10000 1 1 * 86400000

theorem TimestampFields.exists_iff {fields : TimestampFields} :
    fields.Exists ↔ fields.valid = true ∧
      fields.zone.any (fun zone => zone.2.1 > 23 || zone.2.2 > 59) = false := by
  have hoffset : fields.zone.any (fun zone => zone.2.1 > 23 || zone.2.2 > 59) = false ↔
      ∀ zone ∈ fields.zone, zone.2.1 ≤ 23 ∧ zone.2.2 ≤ 59 := by
    rcases fields.zone with - | zone
    · simp
    · simp
  rw [hoffset, TimestampFields.valid]
  simp only [Bool.not_eq_true', Bool.or_eq_false_iff, decide_eq_false_iff_not, not_lt]
  constructor
  · rintro ⟨hyear, ⟨hmonth, hmonth', hday, hday'⟩, hhour, hminute, hsecond, hzone⟩
    exact ⟨⟨⟨⟨⟨⟨⟨⟨hyear, hmonth⟩, hmonth'⟩, hday⟩, hday'⟩, hhour⟩, hminute⟩, hsecond⟩, hzone⟩
  · rintro ⟨⟨⟨⟨⟨⟨⟨⟨hyear, hmonth⟩, hmonth'⟩, hday⟩, hday'⟩, hhour⟩, hminute⟩, hsecond⟩, hzone⟩
    exact ⟨hyear, ⟨hmonth, hmonth', hday, hday'⟩, hhour, hminute, hsecond, hzone⟩

/-- A text denotes one instant. -/
theorem Denotes.unique {text : Text} {instant instant' : Int} (h : Denotes text instant)
    (h' : Denotes text instant') : instant = instant' := by
  obtain ⟨fields, hfields, -, rfl⟩ := h
  obtain ⟨fields', hfields', -, rfl⟩ := h'
  rw [← matchTimestamp_eq_some] at hfields hfields'
  rw [Option.some.inj (hfields.symm.trans hfields')]

theorem inFourDigitYears_iff {instant : Int} :
    InFourDigitYears instant ↔ 1 ≤ (Calendar.dateFromDay (instant / 86400000)).1 ∧
      (Calendar.dateFromDay (instant / 86400000)).1 ≤ 9999 := by
  obtain ⟨hfirst, hnext⟩ := Calendar.yearFromDay_spec (instant / 86400000)
  show _ ↔ 1 ≤ Calendar.yearFromDay (instant / 86400000) ∧
    Calendar.yearFromDay (instant / 86400000) ≤ 9999
  generalize Calendar.yearFromDay (instant / 86400000) = year at hfirst hnext
  have hbounds : InFourDigitYears instant ↔ Calendar.dayFromYear 1 ≤ instant / 86400000 ∧
      instant / 86400000 < Calendar.dayFromYear 10000 := by
    have h1 : Calendar.dayFromDate 1 1 1 = Calendar.dayFromYear 1 := by decide
    have h2 : Calendar.dayFromDate 10000 1 1 = Calendar.dayFromYear 10000 := by decide
    rw [InFourDigitYears, h1, h2]
    omega
  rw [hbounds]
  constructor
  · rintro ⟨hlow, hhigh⟩
    constructor
    · by_contra hyear
      have := Calendar.dayFromYear_mono (show year + 1 ≤ 1 by omega)
      omega
    · by_contra hyear
      have := Calendar.dayFromYear_mono (show 10000 ≤ year by omega)
      omega
  · rintro ⟨hlow, hhigh⟩
    have h1 := Calendar.dayFromYear_mono hlow
    have h2 := Calendar.dayFromYear_mono (show year + 1 ≤ 10000 by omega)
    omega

/-- **The text of an instant denotes it.** -/
theorem denotes_toISOString {instant : Int} (h : InFourDigitYears instant) :
    Denotes (toISOString instant) instant := by
  obtain ⟨hfirst, hlast⟩ := inFourDigitYears_iff.mp h
  obtain ⟨hsmall, hvalid, hinstant⟩ := fieldsAt_spec hfirst hlast
  refine ⟨fieldsAt instant, matchTimestamp_eq_some.mp (matchTimestamp_text hsmall), ?_, hinstant⟩
  rw [TimestampFields.exists_iff]
  exact ⟨hvalid, by rw [hsmall.zone]; rfl⟩

/-! ### Normalization -/

/-- **What is accepted, and what it becomes.** -/
theorem normalizeTimestamp_eq_ok {value : JsValue} {path out : Text} :
    normalizeTimestamp value path = .ok out ↔ ∃ text instant, value = .string text ∧
      Denotes text instant ∧ InFourDigitYears instant ∧ out = toISOString instant := by
  constructor
  · intro h
    unfold normalizeTimestamp at h
    split at h
    · next text =>
      split at h
      · cases h
      · next fields hfields =>
        dsimp only at h
        split_ifs at h with hvalid hoffset hyear
        · cases h
        · cases h
        · cases h
        · rw [Bool.not_eq_false] at hvalid
          rw [Bool.not_eq_true] at hoffset
          rw [not_or, not_lt, not_lt] at hyear
          exact ⟨text, fields.instant, rfl, ⟨fields, matchTimestamp_eq_some.mp hfields,
            TimestampFields.exists_iff.mpr ⟨hvalid, hoffset⟩, rfl⟩,
            inFourDigitYears_iff.mpr hyear, (Except.ok.inj h).symm⟩
    · cases h
  · rintro ⟨text, instant, rfl, ⟨fields, hfields, hexists, rfl⟩, hyears, rfl⟩
    obtain ⟨hvalid, hoffset⟩ := TimestampFields.exists_iff.mp hexists
    obtain ⟨hfirst, hlast⟩ := inFourDigitYears_iff.mp hyears
    rw [normalizeTimestamp, matchTimestamp_eq_some.mpr hfields]
    dsimp only
    rw [if_neg (by rw [hvalid]; exact Bool.noConfusion),
      if_neg (by rw [hoffset]; exact Bool.noConfusion), if_neg (by omega)]

/-- **Timestamps are normalized by the instants that they denote.** -/
theorem normalizeTimestamp_correct (path : Text) :
    (∀ text instant instant', Denotes text instant → Denotes text instant' → instant = instant') ∧
      (∀ value, (∃ out, normalizeTimestamp value path = .ok out) ↔
        ∃ text instant, value = .string text ∧ Denotes text instant ∧ InFourDigitYears instant) ∧
      (∀ text out, normalizeTimestamp (.string text) path = .ok out →
        (∀ instant, Denotes out instant ↔ Denotes text instant) ∧
          normalizeTimestamp (.string out) path = .ok out) ∧
      ∀ text text' out out', normalizeTimestamp (.string text) path = .ok out →
        normalizeTimestamp (.string text') path = .ok out' →
        (out = out' ↔ ∃ instant, Denotes text instant ∧ Denotes text' instant) := by
  refine ⟨fun _ _ _ => Denotes.unique, fun value => ⟨?_, ?_⟩, fun text out h => ?_, ?_⟩
  · rintro ⟨out, h⟩
    obtain ⟨text, instant, hvalue, hdenotes, hyears, -⟩ := normalizeTimestamp_eq_ok.mp h
    exact ⟨text, instant, hvalue, hdenotes, hyears⟩
  · rintro ⟨text, instant, hvalue, hdenotes, hyears⟩
    exact ⟨_, normalizeTimestamp_eq_ok.mpr ⟨text, instant, hvalue, hdenotes, hyears, rfl⟩⟩
  · obtain ⟨_, instant, hvalue, hdenotes, hyears, rfl⟩ := normalizeTimestamp_eq_ok.mp h
    obtain rfl := JsValue.string.inj hvalue
    have hout := denotes_toISOString hyears
    refine ⟨fun other => ⟨fun hother => ?_, fun hother => ?_⟩, ?_⟩
    · rw [hother.unique hout]
      exact hdenotes
    · rw [hother.unique hdenotes]
      exact hout
    · exact normalizeTimestamp_eq_ok.mpr ⟨_, instant, rfl, hout, hyears, rfl⟩
  · intro text text' out out' h h'
    obtain ⟨_, instant, hvalue, hdenotes, hyears, rfl⟩ := normalizeTimestamp_eq_ok.mp h
    obtain ⟨_, instant', hvalue', hdenotes', hyears', rfl⟩ := normalizeTimestamp_eq_ok.mp h'
    obtain rfl := JsValue.string.inj hvalue
    obtain rfl := JsValue.string.inj hvalue'
    constructor
    · intro hsame
      have hout := denotes_toISOString hyears
      rw [hsame] at hout
      rw [hout.unique (denotes_toISOString hyears')] at hdenotes
      exact ⟨instant', hdenotes, hdenotes'⟩
    · rintro ⟨other, hother, hother'⟩
      rw [hdenotes.unique hother, hdenotes'.unique hother']

example : normalizeTimestamp (.string (ascii "2024-02-29T23:30:00.5-01:00")) [] =
    .ok (ascii "2024-03-01T00:30:00.500Z") := by decide +kernel

end SubmittedIt.Protocol
