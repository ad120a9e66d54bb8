/-
SubmittedIt/WebTexts.lean

Origins, pages and snippets of the extension (apps/extension/lib, origin.ts,
capture.ts and site-confirmation.ts).

The extension's runtime is that of the receipts with the host of a URL.  Of it
is used that the text of a URL is ASCII without line ends, and that normal texts
are closed under substrings and joined by a space or ended by an ellipsis, as
the normal forms of Unicode are.

Main results: `inspectNormalizedOrigin_eq_ok` and
`siteConfirmationSnippet_normal`.
-/
import SubmittedIt.Restoring
import SubmittedIt.IsoTime

namespace SubmittedIt.Protocol

/-! ### The runtime -/

/-- The runtime of the extension: a URL has a host. -/
structure WebPlatform extends ReceiptPlatform where
  hostname : WebUrl → Text
  url_ascii : ∀ text parsed, url text = some parsed →
    Utf8.isAscii parsed.bare = true ∧ 13 ∉ parsed.bare
  nfc_take : ∀ text n, nfc text = text → nfc (text.take n) = text.take n
  nfc_drop : ∀ text n, nfc text = text → nfc (text.drop n) = text.drop n
  nfc_space : ∀ first second, nfc first = first → nfc second = second →
    nfc (first ++ 32 :: second) = first ++ 32 :: second
  nfc_ellipsis : ∀ text, nfc text = text → nfc (text ++ [0x2026]) = text ++ [0x2026]

section web

variable (W : WebPlatform)

/-! ### origin.ts -/

/-- `OriginIssueCode`. -/
inductive OriginIssueCode
  | malformedUrl
  | restrictedBrowserPage
  | restrictedExtensionPage
  | restrictedStorePage
  | unsupportedScheme
  deriving DecidableEq

/-- An `OriginInspection` that is not `ok`. -/
structure OriginIssue where
  code : OriginIssueCode
  message : String
  deriving DecidableEq

/-- `RESTRICTED_BROWSER_SCHEMES`. -/
def RESTRICTED_BROWSER_SCHEMES : List Text :=
  ["about:", "brave:", "chrome:", "edge:", "opera:", "vivaldi:"].map ascii

/-- `RESTRICTED_EXTENSION_SCHEMES`. -/
def RESTRICTED_EXTENSION_SCHEMES : List Text :=
  ["chrome-extension:", "moz-extension:"].map ascii

/-- `isRestrictedStorePage`. -/
def isRestrictedStorePage (url : WebUrl) : Bool :=
  let hostname := W.toLowerCase (W.hostname url)
  let path := W.toLowerCase url.pathname
  hostname = ascii "chromewebstore.google.com" ||
    (hostname = ascii "chrome.google.com" && (ascii "/webstore").isPrefixOf path) ||
    (hostname = ascii "microsoftedge.microsoft.com" && (ascii "/addons").isPrefixOf path)

/-- `inspectOrigin`, without the pattern, which is the origin with `/*`. -/
def inspectOrigin (value : JsValue) : Except OriginIssue Text :=
  let unreadable : OriginIssue :=
    ⟨.malformedUrl, "SubmittedIt could not read a valid URL for this tab."⟩
  match value with
  | .string text =>
    if text = [] ∨ text.length > 4096 then .error unreadable
    else
      match W.url text with
      | none => .error unreadable
      | some url =>
        if url.protocol ∈ RESTRICTED_BROWSER_SCHEMES then
          .error ⟨.restrictedBrowserPage,
            "Browser settings and internal pages cannot be enabled."⟩
        else if url.protocol ∈ RESTRICTED_EXTENSION_SCHEMES then
          .error ⟨.restrictedExtensionPage, "Browser extension pages cannot be enabled."⟩
        else if url.isHttp = false then
          .error ⟨.unsupportedScheme,
            "SubmittedIt can be enabled only on HTTP or HTTPS pages."⟩
        else if isRestrictedStorePage W url = true then
          .error ⟨.restrictedStorePage, "Browser extension stores do not allow page access."⟩
        else if url.origin = ascii "null" ∨ W.hostname url = [] ∨ url.username ≠ [] ∨
            url.password ≠ [] then
          .error ⟨.malformedUrl, "SubmittedIt could not normalize this page origin safely."⟩
        else .ok url.origin
  | _ => .error unreadable

/-- `inspectNormalizedOrigin`. -/
def inspectNormalizedOrigin (value : JsValue) : Except OriginIssue Text :=
  let invalid : OriginIssue := ⟨.malformedUrl, "The requested site origin is not canonical."⟩
  match value, inspectOrigin W value with
  | .string text, .ok origin => if origin = text then .ok origin else .error invalid
  | _, _ => .error invalid

/-! ### capture.ts -/

/-- `privacySafePageUrl`. -/
def privacySafePageUrl (value : Text) : Option Text := (W.url value).map (·.bare)

/-- `PAGE_PATH_HASH_DOMAIN`. -/
def PAGE_PATH_HASH_DOMAIN : Text := ascii "SUBMITTEDIT/LOCAL-PAGE-PATH/1"

/-- `hashPagePath`. -/
def hashPagePath (keccak256 : List UInt8 → HashHex) (origin pathname : Text) :
    Except ReceiptProtocolError Text := do
  let origin ← normalizeOrigin W.toReceiptPlatform (.string origin) (ascii "$.origin")
  let pathname ← normalizeOptionalText W.toReceiptPlatform (.string pathname) (ascii "$.pathname")
  hashCanonical W.toTextPlatform keccak256 PAGE_PATH_HASH_DOMAIN
    (record [(ascii "origin", .string origin), (ascii "pathname", .string pathname)])

/-! ### site-confirmation.ts -/

/-- `MAX_SITE_CONFIRMATION_SNIPPET_LENGTH`. -/
def MAX_SITE_CONFIRMATION_SNIPPET_LENGTH : Nat := 160

/-- `text.replace(/\s+/gu, " ")`, in a run of white space or not. -/
def collapseSpace : Bool → Text → Text
  | _, [] => []
  | inRun, u :: rest =>
    if isWhiteSpace u then if inRun then collapseSpace true rest else 32 :: collapseSpace true rest
    else u :: collapseSpace false rest

/-- `text.trimEnd()`. -/
def trimEnd (text : Text) : Text := text.rdropWhile isWhiteSpace

/-- `text.trim()`. -/
def trim (text : Text) : Text := trimEnd (text.dropWhile isWhiteSpace)

/-- `siteConfirmationSnippet`. -/
def siteConfirmationSnippet (message : Text) (reference : Option Text) : Text :=
  let source := trim (collapseSpace false (normalizeText W.toTextPlatform message))
  let fallback := match reference with
    | some text => trim (normalizeText W.toTextPlatform text)
    | none => []
  let value := if source ≠ [] then source else fallback
  if value.length ≤ MAX_SITE_CONFIRMATION_SNIPPET_LENGTH then value
  else trimEnd (value.take (MAX_SITE_CONFIRMATION_SNIPPET_LENGTH - 1)) ++ [0x2026]

end web

section laws

variable {W : WebPlatform}

/-! ### Origins and pages -/

/-- The origin of a page is the origin of an HTTP URL, and visible. -/
theorem inspectOrigin_eq_ok {value : JsValue} {origin : Text}
    (h : inspectOrigin W value = .ok origin) : ∃ text url, value = .string text ∧
      W.url text = some url ∧ url.isHttp = true ∧ url.origin = origin := by
  unfold inspectOrigin at h
  dsimp only at h
  split at h
  · next text =>
    split_ifs at h
    split at h
    · cases h
    · next url hurl =>
      split_ifs at h with hbrowser hextension hscheme hstore hnull
      exact ⟨text, url, rfl, hurl, Bool.not_eq_false _ ▸ hscheme, Except.ok.inj h⟩
  · cases h

theorem inspectNormalizedOrigin_eq_ok {value : JsValue} {origin : Text} :
    inspectNormalizedOrigin W value = .ok origin ↔
      value = .string origin ∧ inspectOrigin W value = .ok origin := by
  unfold inspectNormalizedOrigin
  dsimp only
  split
  · next text found hfound =>
    split
    · next hsame =>
      subst hsame
      constructor
      · intro h
        cases h
        exact ⟨rfl, hfound⟩
      · rintro ⟨hvalue, -⟩
        rw [JsValue.string.inj hvalue]
    · next hother =>
      refine ⟨nofun, ?_⟩
      rintro ⟨hvalue, horigin⟩
      rw [hfound] at horigin
      exact absurd ((Except.ok.inj horigin).trans (JsValue.string.inj hvalue).symm) hother
  · next hnone =>
    refine ⟨nofun, ?_⟩
    rintro ⟨rfl, horigin⟩
    exact absurd horigin (hnone origin origin rfl)

theorem inspectNormalizedOrigin_visible {value : JsValue} {origin : Text}
    (h : inspectNormalizedOrigin W value = .ok origin) : isVisible origin = true := by
  obtain ⟨-, horigin⟩ := inspectNormalizedOrigin_eq_ok.mp h
  obtain ⟨text, url, -, hurl, hhttp, rfl⟩ := inspectOrigin_eq_ok horigin
  exact (W.url_visible text url hurl hhttp).2

/-- The text of a page is normal. -/
theorem privacySafePageUrl_normal {value page : Text}
    (h : privacySafePageUrl W value = some page) :
    normalizeText W.toTextPlatform page = page := by
  obtain ⟨url, hurl, rfl⟩ := Option.map_eq_some_iff.mp h
  exact normalizeText_ascii (W.url_ascii value url hurl).1 (W.url_ascii value url hurl).2

/-! ### Snippets -/

/-- Normal texts are those in NFC without carriage returns. -/
theorem normalizeText_eq_iff {text : Text} :
    normalizeText W.toTextPlatform text = text ↔ 13 ∉ text ∧ W.nfc text = text := by
  constructor
  · intro h
    have hreturn : 13 ∉ text := h ▸ W.nfc_return _ (unixLines_return text)
    rw [normalizeText, unixLines_eq hreturn] at h
    exact ⟨hreturn, h⟩
  · rintro ⟨hreturn, hnfc⟩
    rw [normalizeText, unixLines_eq hreturn, hnfc]

theorem normal_take {text : Text} (h : normalizeText W.toTextPlatform text = text) (n : Nat) :
    normalizeText W.toTextPlatform (text.take n) = text.take n := by
  rw [normalizeText_eq_iff] at h ⊢
  exact ⟨fun hmem => h.1 (List.mem_of_mem_take hmem), W.nfc_take text n h.2⟩

theorem normal_drop {text : Text} (h : normalizeText W.toTextPlatform text = text) (n : Nat) :
    normalizeText W.toTextPlatform (text.drop n) = text.drop n := by
  rw [normalizeText_eq_iff] at h ⊢
  exact ⟨fun hmem => h.1 (List.mem_of_mem_drop hmem), W.nfc_drop text n h.2⟩

theorem trimEnd_normal {text : Text} (h : normalizeText W.toTextPlatform text = text) :
    normalizeText W.toTextPlatform (trimEnd text) = trimEnd text := by
  rw [trimEnd, List.prefix_iff_eq_take.mp (List.rdropWhile_prefix isWhiteSpace text)]
  exact normal_take h _

theorem trim_normal {text : Text} (h : normalizeText W.toTextPlatform text = text) :
    normalizeText W.toTextPlatform (trim text) = trim text := by
  apply trimEnd_normal
  rw [List.suffix_iff_eq_drop.mp (List.dropWhile_suffix isWhiteSpace)]
  exact normal_drop h _

/-- The text up to a run of white space stays as it is. -/
theorem collapseSpace_append {text : Text} (h : ∀ u ∈ text, isWhiteSpace u = false)
    (rest : Text) : collapseSpace false (text ++ rest) = text ++ collapseSpace false rest := by
  induction text with
  | nil => rfl
  | cons u text ih =>
    show (if isWhiteSpace u then _ else u :: collapseSpace false (text ++ rest)) = _
    rw [if_neg (by rw [h u List.mem_cons_self]; exact Bool.false_ne_true),
      ih fun v hv => h v (List.mem_cons_of_mem _ hv)]
    rfl

/-- A run of white space is dropped after its first character. -/
theorem collapseSpace_run (text : Text) :
    collapseSpace true text = collapseSpace false (text.dropWhile isWhiteSpace) := by
  induction text with
  | nil => rfl
  | cons u rest ih =>
    by_cases hspace : isWhiteSpace u = true
    · rw [List.dropWhile_cons_of_pos hspace, ← ih]
      show (if isWhiteSpace u then collapseSpace true rest else _) = _
      rw [if_pos hspace]
    · rw [List.dropWhile_cons_of_neg hspace]
      show (if isWhiteSpace u then _ else u :: collapseSpace false rest) =
        if isWhiteSpace u then _ else u :: collapseSpace false rest
      rw [if_neg hspace, if_neg hspace]

/-- **Texts stay normal** when their runs of white space become spaces. -/
theorem collapseSpace_normal {text : Text} (h : normalizeText W.toTextPlatform text = text) :
    normalizeText W.toTextPlatform (collapseSpace false text) = collapseSpace false text := by
  -- by the length: a word, a run of white space, and what comes after them
  induction hlength : text.length using Nat.strongRecOn generalizing text with
  | ind n ih =>
    have hword : ∀ u ∈ text.takeWhile (fun u => !isWhiteSpace u), isWhiteSpace u = false :=
      fun u hu => by simpa using List.mem_takeWhile_imp hu
    have hsplit := List.takeWhile_append_dropWhile (p := fun u => !isWhiteSpace u) (l := text)
    have hfirst : normalizeText W.toTextPlatform (text.takeWhile fun u => !isWhiteSpace u) =
        text.takeWhile fun u => !isWhiteSpace u := by
      rw [List.prefix_iff_eq_take.mp (List.takeWhile_prefix fun u => !isWhiteSpace u)]
      exact normal_take h _
    rcases hdrop : text.dropWhile (fun u => !isWhiteSpace u) with - | ⟨space, rest⟩
    · rw [hdrop, List.append_nil] at hsplit
      have hsame := collapseSpace_append (hsplit ▸ hword) []
      rw [List.append_nil] at hsame
      rw [hsame]
      show normalizeText W.toTextPlatform (text ++ []) = text ++ []
      rw [List.append_nil]
      exact h
    · have hspace : isWhiteSpace space = true := by
        have hhead := List.head?_dropWhile_not (fun u => !isWhiteSpace u) text
        rw [hdrop] at hhead
        simpa using hhead
      have hrest : normalizeText W.toTextPlatform (rest.dropWhile isWhiteSpace) =
          rest.dropWhile isWhiteSpace := by
        have hsuffix : rest.dropWhile isWhiteSpace <:+ text :=
          (List.dropWhile_suffix isWhiteSpace).trans ((List.suffix_cons space rest).trans
            (hdrop ▸ List.dropWhile_suffix fun u => !isWhiteSpace u))
        rw [List.suffix_iff_eq_drop.mp hsuffix]
        exact normal_drop h _
      have hshorter : (rest.dropWhile isWhiteSpace).length < n := by
        have hle := (List.dropWhile_suffix isWhiteSpace (l := rest)).length_le
        have htext := congrArg List.length hsplit
        rw [hdrop, List.length_append, List.length_cons] at htext
        omega
      have hcollapsed : collapseSpace false text = text.takeWhile (fun u => !isWhiteSpace u) ++
          32 :: collapseSpace false (rest.dropWhile isWhiteSpace) := by
        rw [← collapseSpace_run]
        conv => lhs; rw [← hsplit]
        rw [collapseSpace_append hword, hdrop]
        show _ ++ (if isWhiteSpace space then 32 :: collapseSpace true rest else _) = _
        rw [if_pos hspace]
      have hagain := ih _ hshorter hrest rfl
      rw [hcollapsed]
      rw [normalizeText_eq_iff] at hfirst hagain ⊢
      refine ⟨?_, W.nfc_space _ _ hfirst.2 hagain.2⟩
      rw [List.mem_append, List.mem_cons, not_or, not_or]
      exact ⟨hfirst.1, by decide, hagain.1⟩

/-- **Snippets are normal texts**, also where they are cut. -/
theorem siteConfirmationSnippet_normal (message : Text) (reference : Option Text) :
    normalizeText W.toTextPlatform (siteConfirmationSnippet W message reference) =
      siteConfirmationSnippet W message reference := by
  have hsource : normalizeText W.toTextPlatform
      (trim (collapseSpace false (normalizeText W.toTextPlatform message))) =
      trim (collapseSpace false (normalizeText W.toTextPlatform message)) :=
    trim_normal (collapseSpace_normal (normalizeText_normalizeText message))
  have hcut : ∀ {value : Text}, normalizeText W.toTextPlatform value = value →
      normalizeText W.toTextPlatform (if value.length ≤ MAX_SITE_CONFIRMATION_SNIPPET_LENGTH
        then value else trimEnd (value.take (MAX_SITE_CONFIRMATION_SNIPPET_LENGTH - 1)) ++
          [0x2026]) = if value.length ≤ MAX_SITE_CONFIRMATION_SNIPPET_LENGTH
        then value else trimEnd (value.take (MAX_SITE_CONFIRMATION_SNIPPET_LENGTH - 1)) ++
          [0x2026] := by
    intro value hvalue
    split
    · exact hvalue
    · have htrimmed :=
        trimEnd_normal (normal_take hvalue (MAX_SITE_CONFIRMATION_SNIPPET_LENGTH - 1))
      rw [normalizeText_eq_iff] at htrimmed ⊢
      refine ⟨?_, W.nfc_ellipsis _ htrimmed.2⟩
      rw [List.mem_append, List.mem_singleton, not_or]
      exact ⟨htrimmed.1, by decide⟩
  apply hcut
  split
  · exact hsource
  · split
    · exact trim_normal (normalizeText_normalizeText _)
    · exact normalizeText_ascii rfl List.not_mem_nil

end laws

end SubmittedIt.Protocol
