/-
SubmittedIt/TextSearch.lean

Searching UTF-16 texts for characters: library, independent of the model.

`characters` are what a string iterator gives: a surrogate pair, or a code unit.
`indexOf` searches by code units.  In a well-formed text the two agree on what a
character is: a pair is found only where the text has that pair, and nothing is
found inside of a pair.

`locate` searches for characters one after another, each behind the last.

Main result: `locate_eq_true` (searching for each where the last was first found
decides whether they are among the text's in their order).
-/
import SubmittedIt.Utf8

namespace Utf8

open Json

/-! ### Searching -/

/-- The characters of a text. -/
def characters : List UInt16 → List (List UInt16)
  | [] => []
  | [u] => [[u]]
  | u :: v :: rest =>
    if isHighSurrogate u ∧ isLowSurrogate v then [u, v] :: characters rest
    else [u] :: characters (v :: rest)

/-- `text.indexOf(pattern)`. -/
def indexOf (pattern : List UInt16) : List UInt16 → Option Nat
  | [] => if pattern = [] then some 0 else none
  | u :: rest =>
    if pattern.isPrefixOf (u :: rest) then some 0 else (indexOf pattern rest).map (· + 1)

/-- `text.indexOf(pattern, position)`. -/
def indexOfFrom (text pattern : List UInt16) (position : Nat) : Option Nat :=
  (indexOf pattern (text.drop position)).map (min position text.length + ·)

/-- Whether each of the characters is found behind the last, from a position on. -/
def locate (text : List UInt16) : List (List UInt16) → Nat → Bool
  | [], _ => true
  | character :: rest, position =>
    match indexOfFrom text character position with
    | none => false
    | some index => locate text rest (index + character.length)

/-! ### Well-formed texts -/

/-- A well-formed text is built of code units that are no surrogates, and of
pairs. -/
theorem wellFormed_induction {motive : ∀ text, WellFormed text → Prop} (nil : motive [] trivial)
    (unit : ∀ u rest (hrest : WellFormed rest) (h : WellFormed (u :: rest)),
      isHighSurrogate u = false → isLowSurrogate u = false → motive rest hrest →
      motive (u :: rest) h)
    (pair : ∀ u v rest (hrest : WellFormed rest) (h : WellFormed (u :: v :: rest)),
      isHighSurrogate u = true → isLowSurrogate v = true → motive rest hrest →
      motive (u :: v :: rest) h)
    (text : List UInt16) (h : WellFormed text) : motive text h := by
  induction text using codePoints.induct with
  | case1 => exact nil
  | case2 u => exact unit u [] trivial h h.1 h.2 nil
  | case3 u v rest hpair ih =>
    have hrest := h
    rw [WellFormed, if_pos hpair] at hrest
    exact pair u v rest hrest h hpair.1 hpair.2 (ih hrest)
  | case4 u v rest hpair ih =>
    have hrest := h
    rw [WellFormed, if_neg hpair] at hrest
    exact unit u (v :: rest) hrest.2 h hrest.1.1 hrest.1.2 (ih hrest.2)

theorem codePoints_unit {u : UInt16} (hhigh : isHighSurrogate u = false)
    (hlow : isLowSurrogate u = false) (rest : List UInt16) :
    codePoints (u :: rest) = u.toNat :: codePoints rest ∧
      (WellFormed (u :: rest) ↔ WellFormed rest) := by
  have hpoint := unitPoint_of_plain ⟨hhigh, hlow⟩
  rcases rest with - | ⟨v, rest⟩
  · exact ⟨congrArg (fun c => [c]) hpoint, fun _ => trivial, fun _ => ⟨hhigh, hlow⟩⟩
  · have hpair : ¬(isHighSurrogate u = true ∧ isLowSurrogate v = true) := by simp [hhigh]
    constructor
    · rw [codePoints, if_neg hpair, hpoint]
    · rw [WellFormed, if_neg hpair]
      exact ⟨And.right, fun h => ⟨⟨hhigh, hlow⟩, h⟩⟩

theorem codePoints_pair {u v : UInt16} (hhigh : isHighSurrogate u = true)
    (hlow : isLowSurrogate v = true) (rest : List UInt16) :
    codePoints (u :: v :: rest) = pairPoint u v :: codePoints rest ∧
      (WellFormed (u :: v :: rest) ↔ WellFormed rest) := by
  have hpair : isHighSurrogate u = true ∧ isLowSurrogate v = true := ⟨hhigh, hlow⟩
  constructor
  · rw [codePoints, if_pos hpair]
  · rw [WellFormed, if_pos hpair]

/-- Behind a well-formed text everything is as it would be at the start. -/
theorem codePoints_append {s : List UInt16} (hs : WellFormed s) (t : List UInt16) :
    codePoints (s ++ t) = codePoints s ++ codePoints t ∧ (WellFormed (s ++ t) ↔ WellFormed t) := by
  induction s, hs using wellFormed_induction with
  | nil => exact ⟨rfl, Iff.rfl⟩
  | unit u rest _ _ hhigh hlow ih =>
    obtain ⟨hpoints, hwell⟩ := codePoints_unit hhigh hlow (rest ++ t)
    rw [List.cons_append, hpoints, hwell, (codePoints_unit hhigh hlow rest).1, ih.1]
    exact ⟨rfl, ih.2⟩
  | pair u v rest _ _ hhigh hlow ih =>
    obtain ⟨hpoints, hwell⟩ := codePoints_pair hhigh hlow (rest ++ t)
    rw [List.cons_append, List.cons_append, hpoints, hwell, (codePoints_pair hhigh hlow rest).1,
      ih.1]
    exact ⟨rfl, ih.2⟩

/-- What a code point that is no surrogate is written as. -/
theorem pointUnits_cases {c : Nat} (h : isScalar c = true) :
    (∃ u, pointUnits c = [u] ∧ u.toNat = c ∧ isHighSurrogate u = false ∧
      isLowSurrogate u = false) ∨
    ∃ u v, pointUnits c = [u, v] ∧ pairPoint u v = c ∧ isHighSurrogate u = true ∧
      isLowSurrogate v = true := by
  simp only [isScalar, Bool.or_eq_true, Bool.and_eq_true, decide_eq_true_eq] at h
  unfold pointUnits
  split
  · next hsmall =>
    have hc : (UInt16.ofNat c).toNat = c := by
      rw [UInt16.toNat_ofNat']
      exact Nat.mod_eq_of_lt hsmall
    refine .inl ⟨UInt16.ofNat c, rfl, hc, ?_⟩
    rw [← Bool.not_eq_true, ← Bool.not_eq_true, surrogate_bounds.1, surrogate_bounds.2, hc]
    omega
  · next hbig =>
    have hfirst : (UInt16.ofNat (0xD800 + (c - 0x10000) / 0x400)).toNat =
        0xD800 + (c - 0x10000) / 0x400 := by
      rw [UInt16.toNat_ofNat']
      exact Nat.mod_eq_of_lt (by omega)
    have hsecond : (UInt16.ofNat (0xDC00 + (c - 0x10000) % 0x400)).toNat =
        0xDC00 + (c - 0x10000) % 0x400 := by
      rw [UInt16.toNat_ofNat']
      exact Nat.mod_eq_of_lt (by omega)
    refine .inr ⟨_, _, rfl, ?_, ?_, ?_⟩
    · unfold pairPoint
      omega
    · rw [surrogate_bounds.1, hfirst]
      omega
    · rw [surrogate_bounds.2, hsecond]
      omega

theorem pointUnits_spec {c : Nat} (h : isScalar c = true) :
    WellFormed (pointUnits c) ∧ codePoints (pointUnits c) = [c] := by
  rcases pointUnits_cases h with ⟨u, hunits, hc, hhigh, hlow⟩ | ⟨u, v, hunits, hc, hhigh, hlow⟩
  · obtain ⟨hpoints, hwell⟩ := codePoints_unit hhigh hlow []
    rw [hunits, hpoints, hc]
    exact ⟨hwell.mpr trivial, rfl⟩
  · obtain ⟨hpoints, hwell⟩ := codePoints_pair hhigh hlow []
    rw [hunits, hpoints, hc]
    exact ⟨hwell.mpr trivial, rfl⟩

/-- **The characters of a well-formed text are its code points.** -/
theorem characters_eq {text : List UInt16} (h : WellFormed text) :
    characters text = (codePoints text).map pointUnits := by
  have hcharacters : ∀ text : List UInt16, WellFormed text →
      (characters text).flatten = text ∧ characters text = (codePoints text).map pointUnits := by
    intro text h
    have hunits := (codePoints_units h).2
    induction text, h using wellFormed_induction with
    | nil => exact ⟨rfl, rfl⟩
    | unit u rest hrest h hhigh hlow ih =>
      have hfirst : characters (u :: rest) = [u] :: characters rest := by
        rcases rest with - | ⟨v, rest⟩
        · rfl
        · rw [characters, if_neg (by simp [hhigh])]
      have hpoint : pointUnits u.toNat = [u] := by
        rw [pointUnits, if_pos u.toNat_lt, UInt16.ofNat_toNat]
      obtain ⟨hflat, hmap⟩ := ih (codePoints_units hrest).2
      rw [hfirst, (codePoints_unit hhigh hlow rest).1, List.map_cons, hpoint, List.flatten_cons,
        hflat, hmap]
      exact ⟨rfl, rfl⟩
    | pair u v rest hrest h hhigh hlow ih =>
      have hpoint : pointUnits (pairPoint u v) = [u, v] := by
        have hpair := (codePoints_units ((codePoints_pair hhigh hlow []).2.mpr trivial)).2
        rw [(codePoints_pair hhigh hlow []).1, codePoints, List.flatMap_cons, List.flatMap_nil,
          List.append_nil] at hpair
        exact hpair
      obtain ⟨hflat, hmap⟩ := ih (codePoints_units hrest).2
      rw [characters, if_pos ⟨hhigh, hlow⟩, (codePoints_pair hhigh hlow rest).1, List.map_cons,
        hpoint, List.flatten_cons, hflat, hmap]
      exact ⟨rfl, rfl⟩
  exact (hcharacters text h).2

/-! ### What is found -/

/-- A character is found at the first place where the text has its code point,
or the text does not have it. -/
theorem indexOf_pointUnits {c : Nat} (hc : isScalar c = true) {text : List UInt16}
    (h : WellFormed text) :
    match indexOf (pointUnits c) text with
    | none => c ∉ codePoints text
    | some index => ∃ before after, text = before ++ (pointUnits c ++ after) ∧
        before.length = index ∧ WellFormed before ∧ WellFormed after ∧
        c ∉ codePoints before := by
  have hfirst : ∀ {text : List UInt16}, WellFormed text →
      (pointUnits c).isPrefixOf text = true →
      ∃ before after, text = before ++ (pointUnits c ++ after) ∧ before.length = 0 ∧
        WellFormed before ∧ WellFormed after ∧ c ∉ codePoints before := by
    intro text h hprefix
    obtain ⟨after, rfl⟩ := List.isPrefixOf_iff_prefix.mp hprefix
    exact ⟨[], after, rfl, rfl, trivial,
      (codePoints_append (pointUnits_spec hc).1 after).2.mp h, List.not_mem_nil⟩
  -- a code point is found at its units only
  have hsame : ∀ {s t : List UInt16}, WellFormed s → codePoints s = [c] →
      (pointUnits c).isPrefixOf (s ++ t) = false → False := by
    intro s t hs hpoints hprefix
    rw [codePoints_injective hs (pointUnits_spec hc).1
      (hpoints.trans (pointUnits_spec hc).2.symm)] at hprefix
    rw [List.isPrefixOf_iff_prefix.mpr (List.prefix_append _ _)] at hprefix
    cases hprefix
  induction text, h using wellFormed_induction with
  | nil =>
    have hne : pointUnits c ≠ [] := by
      rcases pointUnits_cases hc with ⟨u, hunits, -⟩ | ⟨u, v, hunits, -⟩
      · simp [hunits]
      · simp [hunits]
    rw [indexOf, if_neg hne]
    exact List.not_mem_nil
  | unit u rest hrest h hhigh hlow ih =>
    rw [indexOf]
    split_ifs with hprefix
    · exact hfirst h hprefix
    · have hunit := codePoints_unit hhigh hlow []
      rw [Bool.not_eq_true] at hprefix
      have hu : c ≠ u.toNat := fun hu =>
        hsame (t := rest) (hunit.2.mpr trivial) (by rw [hunit.1, hu, codePoints]) hprefix
      rcases hindex : indexOf (pointUnits c) rest with - | index
      · rw [hindex] at ih
        show c ∉ codePoints (u :: rest)
        rw [(codePoints_unit hhigh hlow rest).1, List.mem_cons, not_or]
        exact ⟨hu, ih⟩
      · rw [hindex] at ih
        obtain ⟨before, after, rfl, hlength, hbefore, hafter, habsent⟩ := ih
        obtain ⟨hpoints, hwell⟩ := codePoints_unit hhigh hlow before
        refine ⟨u :: before, after, rfl, congrArg (· + 1) hlength, hwell.mpr hbefore, hafter, ?_⟩
        rw [hpoints, List.mem_cons, not_or]
        exact ⟨hu, habsent⟩
  | pair u v rest hrest h hhigh hlow ih =>
    rw [indexOf]
    split_ifs with hprefix
    · exact hfirst h hprefix
    · have hpair := codePoints_pair hhigh hlow []
      rw [Bool.not_eq_true] at hprefix
      have hu : c ≠ pairPoint u v := fun hu =>
        hsame (t := rest) (hpair.2.mpr trivial) (by rw [hpair.1, hu, codePoints]) hprefix
      -- no character begins inside of the pair
      have hinside : (pointUnits c).isPrefixOf (v :: rest) = false := by
        rcases pointUnits_cases hc with ⟨w, hunits, -, -, hlow'⟩ | ⟨w, x, hunits, -, hhigh', -⟩
        · rw [hunits, List.isPrefixOf_cons_cons, Bool.and_eq_false_iff]
          refine .inl (beq_eq_false_iff_ne.mpr fun hwv => ?_)
          rw [hwv, hlow] at hlow'
          cases hlow'
        · rw [hunits, List.isPrefixOf_cons_cons, Bool.and_eq_false_iff]
          refine .inl (beq_eq_false_iff_ne.mpr fun hwv => ?_)
          rw [hwv, surrogate_bounds.1] at hhigh'
          rw [surrogate_bounds.2] at hlow
          omega
      rw [indexOf, if_neg (by rw [hinside]; exact Bool.noConfusion)]
      rcases hindex : indexOf (pointUnits c) rest with - | index
      · rw [hindex] at ih
        show c ∉ codePoints (u :: v :: rest)
        rw [(codePoints_pair hhigh hlow rest).1, List.mem_cons, not_or]
        exact ⟨hu, ih⟩
      · rw [hindex] at ih
        obtain ⟨before, after, rfl, hlength, hbefore, hafter, habsent⟩ := ih
        obtain ⟨hpoints, hwell⟩ := codePoints_pair hhigh hlow before
        refine ⟨u :: v :: before, after, rfl, congrArg (· + 2) hlength, hwell.mpr hbefore,
          hafter, ?_⟩
        rw [hpoints, List.mem_cons, not_or]
        exact ⟨hu, habsent⟩

/-- What is not in the first part is in the second. -/
theorem cons_sublist_append {α : Type} {a : α} {as before after : List α} (h : a ∉ before) :
    (a :: as).Sublist (before ++ a :: after) ↔ as.Sublist after := by
  induction before with
  | nil => exact List.cons_sublist_cons
  | cons b before ih =>
    rw [List.mem_cons, not_or] at h
    rw [List.cons_append, List.cons_sublist_cons', ih h.2]
    exact ⟨fun hor => hor.resolve_right fun hab => h.1 hab.1, .inl⟩

theorem locate_map {text : List UInt16} {points : List Nat} {position : Nat}
    (hpoints : ∀ c ∈ points, isScalar c = true) (hle : position ≤ text.length)
    (h : WellFormed (text.drop position)) :
    locate text (points.map pointUnits) position = true ↔
      points.Sublist (codePoints (text.drop position)) := by
  induction points generalizing position with
  | nil => exact ⟨fun _ => List.nil_sublist _, fun _ => rfl⟩
  | cons c points ih =>
    obtain ⟨hc, hpoints⟩ := List.forall_mem_cons.mp hpoints
    have hfound := indexOf_pointUnits hc h
    rw [List.map_cons, locate, indexOfFrom]
    rcases hindex : indexOf (pointUnits c) (text.drop position) with - | index
    · rw [hindex] at hfound
      exact ⟨nofun, fun hsub => absurd (hsub.subset List.mem_cons_self) hfound⟩
    · rw [hindex] at hfound
      obtain ⟨before, after, htext, hlength, hbefore, hafter, habsent⟩ := hfound
      have hlast := congrArg List.length htext
      simp only [List.length_drop, List.length_append] at hlast
      have hdrop : text.drop (position + index + (pointUnits c).length) = after := by
        rw [Nat.add_assoc, ← List.drop_drop, htext, ← List.append_assoc]
        exact List.drop_left' (by rw [List.length_append, hlength])
      have hspec := pointUnits_spec hc
      rw [Nat.min_eq_left hle, Option.map_some]
      show locate text _ (position + index + (pointUnits c).length) = true ↔ _
      rw [ih hpoints (by omega) (by rw [hdrop]; exact hafter), hdrop, htext,
        (codePoints_append hbefore _).1, (codePoints_append hspec.1 _).1, hspec.2]
      exact (cons_sublist_append habsent).symm

/-- **Searching for the characters of a text one after another** decides whether
its code points are among the other text's, in their order. -/
theorem locate_eq_true {source candidate : List UInt16} (hsource : WellFormed source)
    (hcandidate : WellFormed candidate) :
    locate source (characters candidate) 0 = true ↔
      (codePoints candidate).Sublist (codePoints source) := by
  rw [characters_eq hcandidate]
  exact locate_map (codePoints_units hcandidate).1 (Nat.zero_le _) hsource

end Utf8
