/-
SubmittedIt/IsoTime.lean

`Date.parse` and `toISOString` (apps/extension/lib, storage-schema.ts).

A stored timestamp is a text that `toISOString` writes: `isoTime` is the
instant that it denotes.  The years 0 to 9999 have four digits, other years a
sign and six.

Main result: `isoTime_eq_some`.
-/
import SubmittedIt.Normalize

namespace SubmittedIt.Protocol

/-! ### Texts of instants -/

/-- The greatest distance of an instant from 1970, in milliseconds. -/
def MAX_TIME : Nat := 8640000000000000

/-- A number below a million in six digits. -/
def sixDigits (n : Nat) : Text :=
  [digitUnit (n / 100000), digitUnit (n / 10000 % 10), digitUnit (n / 1000 % 10),
    digitUnit (n / 100 % 10), digitUnit (n / 10 % 10), digitUnit (n % 10)]

/-- `new Date(instant).toISOString()`. -/
def isoText (instant : Int) : Text :=
  let year := (Calendar.dateFromDay (instant / 86400000)).1
  if 0 ≤ year ∧ year ≤ 9999 then toISOString instant
  else (if year < 0 then 45 else 43) :: (sixDigits year.natAbs ++ (toISOString instant).drop 4)

/-- The instant that the fields of a text denote. -/
def readInstant (text : Text) : Option Int :=
  if text.length = 24 then (matchTimestamp text).map (·.instant)
  else do
    let year ← digitsAt text 1 6
    let fields ← matchTimestamp (ascii "2000" ++ text.drop 7)
    some (fields.instantIn (if text.head? = some 45 then -year else year))

/-- `Date.parse(text)`, where `toISOString` gives the text back. -/
def isoTime (text : Text) : Option Int :=
  match readInstant text with
  | some instant =>
    if isoText instant = text ∧ instant.natAbs ≤ MAX_TIME then some instant else none
  | none => none

/-! ### Round trip -/

theorem digitsAt_six {text : Text} {start n : Nat} (hn : n < 1000000)
    (h : (text.drop start).take 6 = sixDigits n) : digitsAt text start 6 = some n := by
  have hvalue : JsValue.digitsValue (sixDigits n) = n := by
    show 10 * (10 * (10 * (10 * (10 * (10 * 0 + ((digitUnit (n / 100000)).toNat - 48)) +
      ((digitUnit (n / 10000 % 10)).toNat - 48)) + ((digitUnit (n / 1000 % 10)).toNat - 48)) +
      ((digitUnit (n / 100 % 10)).toNat - 48)) + ((digitUnit (n / 10 % 10)).toNat - 48)) +
      ((digitUnit (n % 10)).toNat - 48) = n
    rw [value_digitUnit (by omega), value_digitUnit (by omega), value_digitUnit (by omega),
      value_digitUnit (by omega), value_digitUnit (by omega), value_digitUnit (by omega)]
    omega
  unfold digitsAt
  rw [h]
  dsimp only
  rw [hvalue, if_pos]
  refine ⟨rfl, ?_⟩
  simp [sixDigits, isDigit_digitUnit (show n / 100000 < 10 by omega),
    isDigit_digitUnit (show n / 10000 % 10 < 10 by omega),
    isDigit_digitUnit (show n / 1000 % 10 < 10 by omega),
    isDigit_digitUnit (show n / 100 % 10 < 10 by omega),
    isDigit_digitUnit (show n / 10 % 10 < 10 by omega),
    isDigit_digitUnit (show n % 10 < 10 by omega)]

/-- The years of the instants have at most six digits. -/
theorem year_natAbs_lt {instant : Int} (h : instant.natAbs ≤ MAX_TIME) :
    (Calendar.dateFromDay (instant / 86400000)).1.natAbs < 1000000 := by
  obtain ⟨hfirst, hnext⟩ := Calendar.yearFromDay_spec (instant / 86400000)
  have htime : instant.natAbs ≤ 8640000000000000 := h
  show (Calendar.yearFromDay (instant / 86400000)).natAbs < 1000000
  generalize Calendar.yearFromDay (instant / 86400000) = year at hfirst hnext
  have hupper : ¬ 1000000 ≤ year := by
    intro hyear
    have hmono := Calendar.dayFromYear_mono hyear
    have hvalue : 100000000 < Calendar.dayFromYear 1000000 := by decide
    omega
  have hlower : ¬ year + 1 ≤ -999999 := by
    intro hyear
    have hmono := Calendar.dayFromYear_mono hyear
    have hvalue : Calendar.dayFromYear (-999999) < -100000000 := by decide
    omega
  omega

theorem readInstant_isoText {instant : Int} (h : instant.natAbs ≤ MAX_TIME) :
    readInstant (isoText instant) = some instant := by
  have hyear := year_natAbs_lt h
  have hinstant := fieldsAt_instantIn instant
  unfold isoText
  dsimp only
  split
  · next hfour =>
    have hnat : ((fieldsAt instant).year : Int) =
        (Calendar.dateFromDay (instant / 86400000)).1 := Int.toNat_of_nonneg hfour.1
    have hsmall := fieldsAt_small instant (show (fieldsAt instant).year < 10000 by omega)
    rw [readInstant, if_pos (show (toISOString instant).length = 24 from rfl), toISOString,
      matchTimestamp_text hsmall]
    show some ((fieldsAt instant).instantIn ((fieldsAt instant).year : Nat)) = some instant
    rw [hnat, hinstant]
  · next hsix =>
    generalize hdate : (Calendar.dateFromDay (instant / 86400000)).1 = year at hyear hinstant hsix
    have htext : ascii "2000" ++ (toISOString instant).drop 4 =
        ({ fieldsAt instant with year := 2000 } : TimestampFields).text := by
      have hdigits : ascii "2000" = [digitUnit (2000 / 1000), digitUnit (2000 / 100 % 10),
          digitUnit (2000 / 10 % 10), digitUnit (2000 % 10)] := by decide
      rw [hdigits]
      rfl
    have hmatch := matchTimestamp_text (fieldsAt_small instant (show 2000 < 10000 by decide))
    have hsign : (if (if year < 0 then (45 : UInt16) else 43) = 45 then -(year.natAbs : Int)
        else year.natAbs) = year := by
      by_cases hnegative : year < 0
      · rw [if_pos hnegative, if_pos rfl]
        omega
      · rw [if_neg hnegative, if_neg (by decide)]
        omega
    have hlength : ((if year < 0 then (45 : UInt16) else 43) ::
        (sixDigits year.natAbs ++ (toISOString instant).drop 4)).length ≠ 24 := by
      show 27 ≠ 24
      decide
    rw [readInstant, if_neg hlength, digitsAt_six hyear rfl]
    show (matchTimestamp (ascii "2000" ++ (toISOString instant).drop 4)).bind _ = _
    rw [htext, hmatch]
    simp only [Option.bind_some, List.head?_cons, Option.some.injEq, hsign]
    exact hinstant

/-- **The texts that denote instants** are those that `toISOString` writes. -/
theorem isoTime_eq_some {text : Text} {instant : Int} :
    isoTime text = some instant ↔ isoText instant = text ∧ instant.natAbs ≤ MAX_TIME := by
  constructor
  · intro h
    unfold isoTime at h
    split at h
    · split at h
      · next hfits =>
        cases h
        exact hfits
      · cases h
    · cases h
  · rintro ⟨rfl, hfits⟩
    rw [isoTime, readInstant_isoText hfits]
    exact if_pos ⟨rfl, hfits⟩

end SubmittedIt.Protocol
