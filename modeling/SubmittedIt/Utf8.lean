/-
SubmittedIt/Utf8.lean

UTF-8: library, independent of the model.

A text is a sequence of UTF-16 code units; `codePoints` joins its surrogate
pairs, and `encode` is the encoding of `TextEncoder`, in which a surrogate that
is half of no pair becomes U+FFFD.  A text without such halves is `WellFormed`.

`decode` fails on bytes that encode no text, as `TextDecoder` does where it is
told to.

Main results: `encode_injective` and `decode_encode` (on well-formed texts) and
`wellFormed_stringify` (the text of a JSON value is well formed, since
`JSON.stringify` escapes the halves).
-/
import SubmittedIt.Json

namespace Utf8

open Json

/-! ### Code points -/

/-- The code point of a surrogate pair. -/
def pairPoint (high low : UInt16) : Nat :=
  0x10000 + (high.toNat - 0xD800) * 0x400 + (low.toNat - 0xDC00)

/-- The code point of a code unit that is part of no pair. -/
def unitPoint (u : UInt16) : Nat :=
  if isHighSurrogate u ∨ isLowSurrogate u then 0xFFFD else u.toNat

/-- The code points of a text. -/
def codePoints : List UInt16 → List Nat
  | [] => []
  | [u] => [unitPoint u]
  | u :: v :: rest =>
    if isHighSurrogate u ∧ isLowSurrogate v then pairPoint u v :: codePoints rest
    else unitPoint u :: codePoints (v :: rest)

/-- No surrogate is half of no pair. -/
def WellFormed : List UInt16 → Prop
  | [] => True
  | [u] => isHighSurrogate u = false ∧ isLowSurrogate u = false
  | u :: v :: rest =>
    if isHighSurrogate u ∧ isLowSurrogate v then WellFormed rest
    else (isHighSurrogate u = false ∧ isLowSurrogate u = false) ∧ WellFormed (v :: rest)

/-! ### Bytes -/

/-- The bytes of a code point. -/
def encodePoint (c : Nat) : List UInt8 :=
  if c < 0x80 then [UInt8.ofNat c]
  else if c < 0x800 then [UInt8.ofNat (0xC0 + c / 0x40), UInt8.ofNat (0x80 + c % 0x40)]
  else if c < 0x10000 then
    [UInt8.ofNat (0xE0 + c / 0x1000), UInt8.ofNat (0x80 + c / 0x40 % 0x40),
      UInt8.ofNat (0x80 + c % 0x40)]
  else
    [UInt8.ofNat (0xF0 + c / 0x40000), UInt8.ofNat (0x80 + c / 0x1000 % 0x40),
      UInt8.ofNat (0x80 + c / 0x40 % 0x40), UInt8.ofNat (0x80 + c % 0x40)]

/-- `new TextEncoder().encode(text)`. -/
def encode (text : List UInt16) : List UInt8 := (codePoints text).flatMap encodePoint

/-- A code point that is no surrogate. -/
def isScalar (c : Nat) : Bool := c < 0xD800 || (0xE000 ≤ c && c < 0x110000)

/-- The code units of a code point. -/
def pointUnits (c : Nat) : List UInt16 :=
  if c < 0x10000 then [UInt16.ofNat c]
  else
    [UInt16.ofNat (0xD800 + (c - 0x10000) / 0x400), UInt16.ofNat (0xDC00 + (c - 0x10000) % 0x400)]

/-- How many bytes begin with a byte. -/
def leadLength (b : UInt8) : Nat :=
  if b < 0x80 then 1 else if b < 0xE0 then 2 else if b < 0xF0 then 3 else 4

/-- The code point that its bytes stand for. -/
def bytesPoint : List UInt8 → Nat
  | [a] => a.toNat
  | [a, b] => (a.toNat - 0xC0) * 0x40 + (b.toNat - 0x80)
  | [a, b, c] => (a.toNat - 0xE0) * 0x1000 + (b.toNat - 0x80) * 0x40 + (c.toNat - 0x80)
  | [a, b, c, d] =>
    (a.toNat - 0xF0) * 0x40000 + (b.toNat - 0x80) * 0x1000 + (c.toNat - 0x80) * 0x40 +
      (d.toNat - 0x80)
  | _ => 0

/-- The code points of bytes, of which there are at most so many: each has to be
encoded as it stands. -/
def decodePoints : Nat → List UInt8 → Option (List Nat)
  | _, [] => some []
  | 0, _ :: _ => none
  | fuel + 1, b :: rest =>
    let bytes := (b :: rest).take (leadLength b)
    let point := bytesPoint bytes
    if isScalar point ∧ encodePoint point = bytes then
      (decodePoints fuel ((b :: rest).drop (leadLength b))).map (point :: ·)
    else none

/-- UTF-8 decoding that fails on what is no UTF-8. -/
def decode (bytes : List UInt8) : Option (List UInt16) :=
  (decodePoints bytes.length bytes).map fun points => points.flatMap pointUnits

/-! ### What the bytes determine -/

theorem ofNat_inj_of_lt {m n : Nat} (hm : m < 256) (hn : n < 256)
    (h : UInt8.ofNat m = UInt8.ofNat n) : m = n := by
  have h' := congrArg UInt8.toNat h
  rwa [UInt8.toNat_ofNat', UInt8.toNat_ofNat', Nat.mod_eq_of_lt hm, Nat.mod_eq_of_lt hn] at h'

/-- The bytes of a code point, as numbers. -/
theorem encodePoint_cases {c : Nat} (hc : c < 0x110000) :
    (c < 0x80 ∧ encodePoint c = [c].map UInt8.ofNat) ∨
    (0x80 ≤ c ∧ c < 0x800 ∧ encodePoint c = [0xC0 + c / 0x40, 0x80 + c % 0x40].map UInt8.ofNat) ∨
    (0x800 ≤ c ∧ c < 0x10000 ∧ encodePoint c =
      [0xE0 + c / 0x1000, 0x80 + c / 0x40 % 0x40, 0x80 + c % 0x40].map UInt8.ofNat) ∨
    (0x10000 ≤ c ∧ c < 0x110000 ∧ encodePoint c = [0xF0 + c / 0x40000, 0x80 + c / 0x1000 % 0x40,
      0x80 + c / 0x40 % 0x40, 0x80 + c % 0x40].map UInt8.ofNat) := by
  unfold encodePoint
  split_ifs with h₁ h₂ h₃
  · exact .inl ⟨h₁, rfl⟩
  · exact .inr (.inl ⟨by omega, h₂, rfl⟩)
  · exact .inr (.inr (.inl ⟨by omega, h₃, rfl⟩))
  · exact .inr (.inr (.inr ⟨by omega, hc, rfl⟩))

/-- **The first bytes determine the code point**, and where its bytes end. -/
theorem encodePoint_append_inj {c d : Nat} (hc : c < 0x110000) (hd : d < 0x110000)
    {x y : List UInt8} (h : encodePoint c ++ x = encodePoint d ++ y) : c = d ∧ x = y := by
  -- equal bytes are equal numbers
  have hbyte : ∀ {m n : Nat} {x y : List UInt8}, m < 256 → n < 256 →
      UInt8.ofNat m :: x = UInt8.ofNat n :: y → m = n ∧ x = y := by
    intro m n x y hm hn h
    obtain ⟨hmn, hxy⟩ := List.cons.inj h
    exact ⟨ofNat_inj_of_lt hm hn hmn, hxy⟩
  rcases encodePoint_cases hc with ⟨h₁, hce⟩ | ⟨h₁, h₂, hce⟩ | ⟨h₁, h₂, hce⟩ | ⟨h₁, h₂, hce⟩ <;>
    rcases encodePoint_cases hd with ⟨h₃, hde⟩ | ⟨h₃, h₄, hde⟩ | ⟨h₃, h₄, hde⟩ | ⟨h₃, h₄, hde⟩ <;>
    rw [hce, hde] at h <;>
    obtain ⟨hlead, h⟩ := hbyte (by omega) (by omega) h
  · exact ⟨hlead, h⟩
  all_goals try (exfalso; omega)
  · obtain ⟨hnext, h⟩ := hbyte (by omega) (by omega) h
    exact ⟨by omega, h⟩
  · obtain ⟨hnext, h⟩ := hbyte (by omega) (by omega) h
    obtain ⟨hlast, h⟩ := hbyte (by omega) (by omega) h
    exact ⟨by omega, h⟩
  · obtain ⟨hnext, h⟩ := hbyte (by omega) (by omega) h
    obtain ⟨hthird, h⟩ := hbyte (by omega) (by omega) h
    obtain ⟨hlast, h⟩ := hbyte (by omega) (by omega) h
    exact ⟨by omega, h⟩

theorem encodePoint_ne_nil (c : Nat) : encodePoint c ≠ [] := by
  unfold encodePoint
  split_ifs <;> exact List.cons_ne_nil _ _

/-- Bytes determine the code points. -/
theorem flatMap_encodePoint_inj {cs ds : List Nat} (hcs : ∀ c ∈ cs, c < 0x110000)
    (hds : ∀ d ∈ ds, d < 0x110000) (h : cs.flatMap encodePoint = ds.flatMap encodePoint) :
    cs = ds := by
  induction cs generalizing ds with
  | nil =>
    rcases ds with - | ⟨d, ds⟩
    · rfl
    · rw [List.flatMap_nil, List.flatMap_cons] at h
      exact absurd (List.append_eq_nil_iff.mp h.symm).1 (encodePoint_ne_nil d)
  | cons c cs ih =>
    rcases ds with - | ⟨d, ds⟩
    · rw [List.flatMap_nil, List.flatMap_cons] at h
      exact absurd (List.append_eq_nil_iff.mp h).1 (encodePoint_ne_nil c)
    · rw [List.flatMap_cons, List.flatMap_cons] at h
      obtain ⟨rfl, hrest⟩ := encodePoint_append_inj (hcs c List.mem_cons_self)
        (hds d List.mem_cons_self) h
      rw [ih (fun e he => hcs e (List.mem_cons_of_mem c he))
        (fun e he => hds e (List.mem_cons_of_mem c he)) hrest]

/-! ### What the code points determine -/

theorem surrogate_bounds {u : UInt16} :
    (isHighSurrogate u = true ↔ 0xD800 ≤ u.toNat ∧ u.toNat ≤ 0xDBFF) ∧
      (isLowSurrogate u = true ↔ 0xDC00 ≤ u.toNat ∧ u.toNat ≤ 0xDFFF) := by
  constructor
  · simp [isHighSurrogate, UInt16.le_iff_toNat_le]
  · simp [isLowSurrogate, UInt16.le_iff_toNat_le]

theorem pairPoint_lt {u v : UInt16} (hu : isHighSurrogate u = true) (hv : isLowSurrogate v = true) :
    0x10000 ≤ pairPoint u v ∧ pairPoint u v < 0x110000 := by
  have hu := surrogate_bounds.1.mp hu
  have hv := surrogate_bounds.2.mp hv
  unfold pairPoint
  omega

theorem codePoints_lt (text : List UInt16) : ∀ c ∈ codePoints text, c < 0x110000 := by
  have hunit : ∀ u, unitPoint u < 0x110000 := by
    intro u
    unfold unitPoint
    have := u.toNat_lt
    split <;> omega
  induction text using codePoints.induct with
  | case1 => exact fun c hc => absurd hc List.not_mem_nil
  | case2 u =>
    intro c hc
    rw [codePoints, List.mem_singleton] at hc
    exact hc ▸ hunit u
  | case3 u v rest hpair ih =>
    intro c hc
    rw [codePoints, if_pos hpair] at hc
    rcases List.mem_cons.mp hc with hfirst | hc
    · exact hfirst ▸ (pairPoint_lt hpair.1 hpair.2).2
    · exact ih c hc
  | case4 u v rest hpair ih =>
    intro c hc
    rw [codePoints, if_neg hpair] at hc
    rcases List.mem_cons.mp hc with hfirst | hc
    · exact hfirst ▸ hunit u
    · exact ih c hc

theorem pairPoint_inj {u v u' v' : UInt16} (hu : isHighSurrogate u = true)
    (hv : isLowSurrogate v = true) (hu' : isHighSurrogate u' = true)
    (hv' : isLowSurrogate v' = true) (h : pairPoint u v = pairPoint u' v') : u = u' ∧ v = v' := by
  have hu := surrogate_bounds.1.mp hu
  have hv := surrogate_bounds.2.mp hv
  have hu' := surrogate_bounds.1.mp hu'
  have hv' := surrogate_bounds.2.mp hv'
  unfold pairPoint at h
  constructor
  · apply UInt16.toNat_inj.mp
    omega
  · apply UInt16.toNat_inj.mp
    omega

theorem unitPoint_of_plain {u : UInt16} (h : isHighSurrogate u = false ∧ isLowSurrogate u = false) :
    unitPoint u = u.toNat := by
  rw [unitPoint, if_neg (by simp [h])]

/-- A code unit of its own, or a pair. -/
theorem wellFormed_cases {text : List UInt16} (h : WellFormed text) :
    text = [] ∨
    (∃ u rest, text = u :: rest ∧ codePoints text = u.toNat :: codePoints rest ∧ WellFormed rest) ∨
    ∃ u v rest, text = u :: v :: rest ∧ isHighSurrogate u = true ∧ isLowSurrogate v = true ∧
      codePoints text = pairPoint u v :: codePoints rest ∧ WellFormed rest := by
  match text with
  | [] => exact .inl rfl
  | [u] => exact .inr (.inl ⟨u, [], rfl, congrArg (fun c => [c]) (unitPoint_of_plain h), trivial⟩)
  | u :: v :: rest =>
    right
    rw [WellFormed] at h
    rw [codePoints]
    split_ifs at h ⊢ with hpair
    · exact .inr ⟨u, v, rest, rfl, hpair.1, hpair.2, rfl, h⟩
    · exact .inl ⟨u, v :: rest, rfl, by rw [unitPoint_of_plain h.1], h.2⟩

/-- Code points determine a well-formed text. -/
theorem codePoints_injective {s t : List UInt16} (hs : WellFormed s) (ht : WellFormed t)
    (h : codePoints s = codePoints t) : s = t := by
  have hbig : ∀ {u v : UInt16}, isHighSurrogate u = true → isLowSurrogate v = true →
      ∀ w : UInt16, w.toNat ≠ pairPoint u v := by
    intro u v hu hv w
    have hle := (pairPoint_lt hu hv).1
    have hlt := w.toNat_lt
    omega
  induction hn : s.length using Nat.strong_induction_on generalizing s t with
  | _ n ih =>
    rcases wellFormed_cases hs with rfl | ⟨u, rest, rfl, hu, hrest⟩ | ⟨u, v, rest, rfl, hhigh, hlow,
      hu, hrest⟩ <;>
      rcases wellFormed_cases ht with rfl | ⟨u', rest', rfl, hu', hrest'⟩ | ⟨u', v', rest', rfl,
        hhigh', hlow', hu', hrest'⟩
    · rfl
    · rw [hu'] at h
      cases h
    · rw [hu'] at h
      cases h
    · rw [hu] at h
      cases h
    · rw [hu, hu'] at h
      obtain ⟨hsame, h⟩ := List.cons.inj h
      rw [UInt16.toNat_inj.mp hsame, ih rest.length (by rw [← hn]; simp) hrest hrest' h rfl]
    · rw [hu, hu'] at h
      exact absurd (List.cons.inj h).1 (hbig hhigh' hlow' u)
    · rw [hu] at h
      cases h
    · rw [hu, hu'] at h
      exact absurd (List.cons.inj h).1.symm (hbig hhigh hlow u')
    · rw [hu, hu'] at h
      obtain ⟨hsame, htail⟩ := List.cons.inj h
      obtain ⟨rfl, rfl⟩ := pairPoint_inj hhigh hlow hhigh' hlow' hsame
      rw [ih rest.length (by rw [← hn]; simp) hrest hrest' htail rfl]

/-- **Well-formed texts are determined by their bytes.** -/
theorem encode_injective {s t : List UInt16} (hs : WellFormed s) (ht : WellFormed t)
    (h : encode s = encode t) : s = t :=
  codePoints_injective hs ht (flatMap_encodePoint_inj (codePoints_lt s) (codePoints_lt t) h)

/-! ### Decoding -/

/-- The first byte of a code point tells how many there are, and all of them the
code point. -/
theorem encodePoint_lead {c : Nat} (hc : c < 0x110000) :
    ∃ b bytes, encodePoint c = b :: bytes ∧ leadLength b = (encodePoint c).length ∧
      bytesPoint (encodePoint c) = c := by
  have hsmall : ∀ {n : Nat}, n < 256 → (UInt8.ofNat n).toNat = n := by
    intro n hn
    rw [UInt8.toNat_ofNat', Nat.mod_eq_of_lt hn]
  rcases encodePoint_cases hc with ⟨h₁, he⟩ | ⟨h₁, h₂, he⟩ | ⟨h₁, h₂, he⟩ | ⟨h₁, h₂, he⟩ <;>
    rw [he] <;> refine ⟨_, _, rfl, ?_, ?_⟩
  · simp only [leadLength, UInt8.lt_iff_toNat_lt, UInt8.reduceToNat, hsmall (show c < 256 by omega)]
    rw [if_pos h₁]
    rfl
  · exact hsmall (by omega)
  · simp only [leadLength, UInt8.lt_iff_toNat_lt, UInt8.reduceToNat,
      hsmall (show 0xC0 + c / 0x40 < 256 by omega)]
    rw [if_neg (by omega), if_pos (by omega)]
    rfl
  · show ((UInt8.ofNat _).toNat - 0xC0) * 0x40 + ((UInt8.ofNat _).toNat - 0x80) = c
    rw [hsmall (show 0xC0 + c / 0x40 < 256 by omega), hsmall (show 0x80 + c % 0x40 < 256 by omega)]
    omega
  · simp only [leadLength, UInt8.lt_iff_toNat_lt, UInt8.reduceToNat,
      hsmall (show 0xE0 + c / 0x1000 < 256 by omega)]
    rw [if_neg (by omega), if_neg (by omega), if_pos (by omega)]
    rfl
  · show ((UInt8.ofNat _).toNat - 0xE0) * 0x1000 + ((UInt8.ofNat _).toNat - 0x80) * 0x40 +
      ((UInt8.ofNat _).toNat - 0x80) = c
    rw [hsmall (show 0xE0 + c / 0x1000 < 256 by omega),
      hsmall (show 0x80 + c / 0x40 % 0x40 < 256 by omega),
      hsmall (show 0x80 + c % 0x40 < 256 by omega)]
    omega
  · simp only [leadLength, UInt8.lt_iff_toNat_lt, UInt8.reduceToNat,
      hsmall (show 0xF0 + c / 0x40000 < 256 by omega)]
    rw [if_neg (by omega), if_neg (by omega), if_neg (by omega)]
    rfl
  · show ((UInt8.ofNat _).toNat - 0xF0) * 0x40000 + ((UInt8.ofNat _).toNat - 0x80) * 0x1000 +
      ((UInt8.ofNat _).toNat - 0x80) * 0x40 + ((UInt8.ofNat _).toNat - 0x80) = c
    rw [hsmall (show 0xF0 + c / 0x40000 < 256 by omega),
      hsmall (show 0x80 + c / 0x1000 % 0x40 < 256 by omega),
      hsmall (show 0x80 + c / 0x40 % 0x40 < 256 by omega),
      hsmall (show 0x80 + c % 0x40 < 256 by omega)]
    omega

/-- The code points are read back from their bytes. -/
theorem decodePoints_flatMap {points : List Nat} (hpoints : ∀ c ∈ points, isScalar c = true)
    {fuel : Nat} (hfuel : (points.flatMap encodePoint).length ≤ fuel) :
    decodePoints fuel (points.flatMap encodePoint) = some points := by
  induction points generalizing fuel with
  | nil =>
    rw [List.flatMap_nil]
    unfold decodePoints
    rfl
  | cons c rest ih =>
    obtain ⟨hc, hrest⟩ := List.forall_mem_cons.mp hpoints
    have hlt : c < 0x110000 := by
      simp only [isScalar, Bool.or_eq_true, Bool.and_eq_true, decide_eq_true_eq] at hc
      omega
    obtain ⟨b, bytes, hbytes, hlead, hpoint⟩ := encodePoint_lead hlt
    rw [List.flatMap_cons, List.length_append] at hfuel
    rw [List.flatMap_cons]
    rcases fuel with - | fuel
    · rw [hbytes] at hfuel
      exact absurd hfuel (by simp)
    · have htake : (encodePoint c ++ rest.flatMap encodePoint).take (leadLength b) =
          encodePoint c := by
        rw [hlead, List.take_left]
      have hdrop : (encodePoint c ++ rest.flatMap encodePoint).drop (leadLength b) =
          rest.flatMap encodePoint := by
        rw [hlead, List.drop_left]
      have hcons : encodePoint c ++ rest.flatMap encodePoint =
          b :: (bytes ++ rest.flatMap encodePoint) := by
        rw [hbytes]
        rfl
      have hpos : 0 < (encodePoint c).length := List.length_pos_iff.mpr (encodePoint_ne_nil c)
      rw [hcons] at htake hdrop ⊢
      rw [decodePoints, htake, hdrop, hpoint, if_pos ⟨hc, rfl⟩, ih hrest (by omega)]
      rfl

/-- The code points of a well-formed text are no surrogates and stand for it. -/
theorem codePoints_units {text : List UInt16} (h : WellFormed text) :
    (∀ c ∈ codePoints text, isScalar c = true) ∧ (codePoints text).flatMap pointUnits = text := by
  have hplain : ∀ {u : UInt16}, isHighSurrogate u = false ∧ isLowSurrogate u = false →
      isScalar (unitPoint u) = true ∧ pointUnits (unitPoint u) = [u] := by
    intro u hu
    have hbounds := @surrogate_bounds u
    have hlt := u.toNat_lt
    rw [unitPoint_of_plain hu]
    obtain ⟨hhigh, hlow⟩ := hu
    rw [← Bool.not_eq_true, hbounds.1] at hhigh
    rw [← Bool.not_eq_true, hbounds.2] at hlow
    constructor
    · simp only [isScalar, Bool.or_eq_true, Bool.and_eq_true, decide_eq_true_eq]
      omega
    · rw [pointUnits, if_pos (by omega), UInt16.ofNat_toNat]
  induction text using codePoints.induct with
  | case1 => exact ⟨fun c hc => absurd hc List.not_mem_nil, rfl⟩
  | case2 u =>
    obtain ⟨hscalar, hunits⟩ := hplain h
    refine ⟨fun c hc => ?_, ?_⟩
    · rw [codePoints, List.mem_singleton] at hc
      exact hc ▸ hscalar
    · rw [codePoints, List.flatMap_cons, List.flatMap_nil, hunits]
      rfl
  | case3 u v rest hpair ih =>
    rw [WellFormed, if_pos hpair] at h
    obtain ⟨hscalars, hunits⟩ := ih h
    have hrange := pairPoint_lt hpair.1 hpair.2
    have hhigh := surrogate_bounds.1.mp hpair.1
    have hlow := surrogate_bounds.2.mp hpair.2
    rw [codePoints, if_pos hpair]
    refine ⟨List.forall_mem_cons.mpr ⟨?_, hscalars⟩, ?_⟩
    · simp only [isScalar, Bool.or_eq_true, Bool.and_eq_true, decide_eq_true_eq]
      omega
    · have hfirst : 0xD800 + (pairPoint u v - 0x10000) / 0x400 = u.toNat := by
        unfold pairPoint
        omega
      have hsecond : 0xDC00 + (pairPoint u v - 0x10000) % 0x400 = v.toNat := by
        unfold pairPoint
        omega
      rw [List.flatMap_cons, hunits, pointUnits, if_neg (by omega), hfirst, hsecond,
        UInt16.ofNat_toNat, UInt16.ofNat_toNat]
      rfl
  | case4 u v rest hpair ih =>
    rw [WellFormed, if_neg hpair] at h
    obtain ⟨hscalar, hunits⟩ := hplain h.1
    obtain ⟨hscalars, hrest⟩ := ih h.2
    rw [codePoints, if_neg hpair]
    refine ⟨List.forall_mem_cons.mpr ⟨hscalar, hscalars⟩, ?_⟩
    rw [List.flatMap_cons, hunits, hrest]
    rfl

/-- **Well-formed texts are read back from their bytes.** -/
theorem decode_encode {text : List UInt16} (h : WellFormed text) :
    decode (encode text) = some text := by
  obtain ⟨hscalars, hunits⟩ := codePoints_units h
  rw [decode, encode, decodePoints_flatMap hscalars le_rfl]
  exact congrArg some hunits

/-- ASCII texts have a byte for each character. -/
theorem encode_ascii {text : List UInt16} (h : ∀ u ∈ text, u.toNat < 128) :
    encode text = text.map fun u => UInt8.ofNat u.toNat := by
  have hunit : ∀ u : UInt16, u.toNat < 128 →
      encodePoint (unitPoint u) = [UInt8.ofNat u.toNat] := by
    intro u hu
    have hbounds := @surrogate_bounds u
    have hplain : isHighSurrogate u = false ∧ isLowSurrogate u = false := by
      rw [← Bool.not_eq_true, ← Bool.not_eq_true, hbounds.1, hbounds.2]
      omega
    rw [unitPoint_of_plain hplain, encodePoint, if_pos (by omega)]
  induction text using codePoints.induct with
  | case1 => rfl
  | case2 u =>
    rw [encode, codePoints, List.flatMap_cons, hunit u (h u List.mem_cons_self)]
    rfl
  | case3 u v rest hpair ih =>
    have hhigh := surrogate_bounds.1.mp hpair.1
    have := h u List.mem_cons_self
    omega
  | case4 u v rest hpair ih =>
    obtain ⟨hu, hrest⟩ := List.forall_mem_cons.mp h
    rw [encode, codePoints, if_neg hpair, List.flatMap_cons, hunit u hu]
    exact congrArg (UInt8.ofNat u.toNat :: ·) (ih hrest)

/-! ### Texts of JSON values -/

theorem WellFormed.append {s t : List UInt16} (hs : WellFormed s) (ht : WellFormed t) :
    WellFormed (s ++ t) := by
  induction s using codePoints.induct with
  | case1 => exact ht
  | case2 u =>
    rcases t with - | ⟨v, t⟩
    · exact hs
    · show WellFormed (u :: v :: t)
      rw [WellFormed, if_neg (by simp [show isHighSurrogate u = false from hs.1])]
      exact ⟨hs, ht⟩
  | case3 u v rest hpair ih =>
    rw [WellFormed, if_pos hpair] at hs
    show WellFormed (u :: v :: (rest ++ t))
    rw [WellFormed, if_pos hpair]
    exact ih hs
  | case4 u v rest hpair ih =>
    rw [WellFormed, if_neg hpair] at hs
    show WellFormed (u :: v :: (rest ++ t))
    rw [WellFormed, if_neg hpair]
    exact ⟨hs.1, ih hs.2⟩

/-- All characters are ASCII. -/
def isAscii (text : List UInt16) : Bool := text.all fun u => u < 128

/-- A text without surrogates is well formed. -/
theorem wellFormed_of_plain {text : List UInt16}
    (h : ∀ u ∈ text, isHighSurrogate u = false ∧ isLowSurrogate u = false) : WellFormed text := by
  induction text with
  | nil => trivial
  | cons u text ih =>
    have hu := h u List.mem_cons_self
    exact WellFormed.append (s := [u]) hu (ih fun v hv => h v (List.mem_cons_of_mem u hv))

theorem wellFormed_of_ascii {text : List UInt16} (h : isAscii text = true) : WellFormed text := by
  refine wellFormed_of_plain fun u hu => ?_
  have hlt := UInt16.lt_iff_toNat_lt.mp (of_decide_eq_true (List.all_eq_true.mp h u hu))
  have hbounds := @surrogate_bounds u
  rw [← Bool.not_eq_true, ← Bool.not_eq_true, hbounds.1, hbounds.2]
  simp only [UInt16.reduceToNat] at hlt
  omega

theorem wellFormed_escapeUnit (u : UInt16) : WellFormed (escapeUnit u) := by
  unfold escapeUnit
  split_ifs with h8 h9 h10 h12 h13 h34 h92 hcontrol
  · exact wellFormed_of_ascii rfl
  · exact wellFormed_of_ascii rfl
  · exact wellFormed_of_ascii rfl
  · exact wellFormed_of_ascii rfl
  · exact wellFormed_of_ascii rfl
  · exact wellFormed_of_ascii rfl
  · exact wellFormed_of_ascii rfl
  · have hhex : ∀ n < 16, decide (hexDigit n < 128) = true := by decide
    have hu := u.toNat_lt
    apply wellFormed_of_ascii
    simp only [isAscii, unicodeEscape, List.all_cons, List.all_nil, Bool.and_true,
      Bool.and_eq_true]
    exact ⟨rfl, rfl, hhex _ (by omega), hhex _ (by omega), hhex _ (by omega), hhex _ (by omega)⟩
  · simp only [not_or, Bool.not_eq_true] at hcontrol
    exact hcontrol.2

theorem wellFormed_escape (text : List UInt16) : WellFormed (escape text) := by
  induction text using escape.induct with
  | case1 => trivial
  | case2 u => exact wellFormed_escapeUnit u
  | case3 u v rest hpair ih =>
    rw [escape, if_pos hpair, WellFormed, if_pos hpair]
    exact ih
  | case4 u v rest hpair ih =>
    rw [escape, if_neg hpair]
    exact (wellFormed_escapeUnit u).append ih

theorem WellFormed.cons {u : UInt16} (hu : decide (u < 128) = true) {text : List UInt16}
    (h : WellFormed text) : WellFormed (u :: text) :=
  (wellFormed_of_ascii (show isAscii [u] = true by rw [isAscii, List.all_cons, hu]; rfl)).append h

theorem wellFormed_quote (text : List UInt16) : WellFormed (quote text) :=
  ((wellFormed_escape text).append (wellFormed_of_ascii rfl)).cons rfl

theorem wellFormed_decimal (n : Nat) : WellFormed (decimal n) := by
  refine wellFormed_of_ascii (List.all_eq_true.mpr fun u hu => decide_eq_true ?_)
  have hdigit := decimal_digits n u hu
  simp only [isDigit, Bool.and_eq_true, decide_eq_true_eq] at hdigit
  have hle := UInt16.le_iff_toNat_le.mp hdigit.2
  exact UInt16.lt_iff_toNat_lt.mpr (Nat.lt_of_le_of_lt hle (by decide))

mutual

/-- **The text of a value is well formed.** -/
theorem wellFormed_stringify (v : Json) : WellFormed (stringify v) := by
  match v with
  | .null => exact wellFormed_of_ascii rfl
  | .boolean true => exact wellFormed_of_ascii rfl
  | .boolean false => exact wellFormed_of_ascii rfl
  | .number (.ofNat n) => exact wellFormed_decimal n
  | .number (.negSucc n) => exact (wellFormed_decimal (n + 1)).cons rfl
  | .string text => exact wellFormed_quote text
  | .array [] => exact wellFormed_of_ascii rfl
  | .array (v :: rest) =>
    exact ((wellFormed_stringify v).append (wellFormed_stringifyItems rest)).cons rfl
  | .object [] => exact wellFormed_of_ascii rfl
  | .object ((k, v) :: rest) =>
    refine WellFormed.cons rfl ((wellFormed_quote k).append (WellFormed.cons rfl ?_))
    exact (wellFormed_stringify v).append (wellFormed_stringifyMembers rest)

theorem wellFormed_stringifyItems (items : List Json) : WellFormed (stringifyItems items) := by
  match items with
  | [] => exact wellFormed_of_ascii rfl
  | v :: rest =>
    exact ((wellFormed_stringify v).append (wellFormed_stringifyItems rest)).cons rfl

theorem wellFormed_stringifyMembers (members : List (List UInt16 × Json)) :
    WellFormed (stringifyMembers members) := by
  match members with
  | [] => exact wellFormed_of_ascii rfl
  | (k, v) :: rest =>
    refine WellFormed.cons rfl ((wellFormed_quote k).append (WellFormed.cons rfl ?_))
    exact (wellFormed_stringify v).append (wellFormed_stringifyMembers rest)

end

end Utf8
