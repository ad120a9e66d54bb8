/-
SubmittedIt/Canonicalize.lean

Canonical texts (packages/receipt-core, canonicalize.ts and hash.ts).

Here values are what callers hand over, JavaScript values, and texts are their
code units.  What the runtime does with Unicode is `TextPlatform`.

`toCanonicalValue` sorts the entries of an object by their normalized keys and
assigns them in that order; `JSON.stringify` then enumerates the properties,
which is not the order of their assignment (`ownProperties`).

`Canonical v j` says that `j` is the canonical value of `v`;
`toCanonicalValue_eq_ok` is what later proofs use of the code.
-/
import SubmittedIt.JsValue
import SubmittedIt.Utf8
import SubmittedIt.ReceiptTypes

namespace SubmittedIt.Protocol

/-! ### Texts -/

/-- `String.prototype.normalize("NFC")`: it is idempotent, leaves ASCII as it
is and makes no carriage return. -/
structure TextPlatform where
  nfc : Text → Text
  nfc_nfc : ∀ text, nfc (nfc text) = nfc text
  nfc_ascii : ∀ text, Utf8.isAscii text = true → nfc text = text
  nfc_return : ∀ text, 13 ∉ text → 13 ∉ nfc text

/-- `value.replace(/\r\n?/g, "\n")`. -/
def unixLines : Text → Text
  | [] => []
  | 13 :: 10 :: rest => 10 :: unixLines rest
  | u :: rest => (if u = 13 then 10 else u) :: unixLines rest

/-- `normalizeText`. -/
def normalizeText (Q : TextPlatform) (value : Text) : Text := Q.nfc (unixLines value)

/-- `compareCanonicalText`: by UTF-16 code units. -/
def compareCanonicalText (first second : Text) : Ordering := compare first second

theorem unixLines_return (text : Text) : 13 ∉ unixLines text := by
  induction text using unixLines.induct with
  | case1 => exact List.not_mem_nil
  | case2 rest ih =>
    rw [unixLines, List.mem_cons, not_or]
    exact ⟨by decide, ih⟩
  | case3 u rest _ ih =>
    rw [unixLines, List.mem_cons, not_or]
    · refine ⟨?_, ih⟩
      split
      · decide
      · next h => exact Ne.symm h
    · assumption

theorem unixLines_eq {text : Text} (h : 13 ∉ text) : unixLines text = text := by
  induction text using unixLines.induct with
  | case1 => rfl
  | case2 rest ih => exact absurd List.mem_cons_self h
  | case3 u rest _ ih =>
    rw [List.mem_cons, not_or] at h
    rw [unixLines, if_neg (Ne.symm h.1), ih h.2]
    assumption

section canonicalize

variable {Q : TextPlatform}

/-- **Normal texts stay as they are.** -/
theorem normalizeText_normalizeText (text : Text) :
    normalizeText Q (normalizeText Q text) = normalizeText Q text := by
  have hreturn : 13 ∉ normalizeText Q text := Q.nfc_return _ (unixLines_return text)
  rw [normalizeText, unixLines_eq hreturn]
  exact Q.nfc_nfc _

theorem normalizeText_ascii {text : Text} (hascii : Utf8.isAscii text = true) (h : 13 ∉ text) :
    normalizeText Q text = text := by
  rw [normalizeText, unixLines_eq h, Q.nfc_ascii text hascii]

/-! ### Canonical values -/

/-- `ReceiptProtocolError`. -/
structure ReceiptProtocolError where
  code : String
  message : Text
  path : Text
  deriving DecidableEq

/-- `protocolError`. -/
def protocolError {α : Type} (code : String) (message path : Text) :
    Except ReceiptProtocolError α :=
  .error ⟨code, message, path⟩

/-- How `normalizeCanonicalValue` refuses a value that is not plain. -/
def refuseOther {α : Type} : JsOther → Text → Except ReceiptProtocolError α
  | .unsupported =>
    protocolError "UNSUPPORTED_CANONICAL_VALUE" (ascii "contains an unsupported value.")
  | .nonPlain => protocolError "NON_PLAIN_OBJECT" (ascii "must be a plain object.")
  | .symbolProperty =>
    protocolError "SYMBOL_PROPERTY" (ascii "must not contain symbol properties.")
  | .nonEnumerable => protocolError "NON_ENUMERABLE_PROPERTY"
    (ascii "must not contain non-enumerable properties.")
  | .cyclic => protocolError "CYCLIC_VALUE" (ascii "must not contain a cycle.")

/-- `Number.isSafeInteger`. -/
def isSafeInteger : JsNumber → Bool
  | .integer value => -(2 ^ 53 - 1) ≤ value && value ≤ 2 ^ 53 - 1
  | .negativeZero => true
  | .other => false

/-- The integer of a safe number. -/
def safeInteger : JsNumber → Int
  | .integer value => value
  | .negativeZero | .other => 0

/-- An entry of an object, with its value yet to be normalized; the value is
none where it is `undefined`. -/
structure Entry where
  normalizedKey : Text
  item : Option (Text → Except ReceiptProtocolError Json)

/-- Assign the entries of an object one after the other. -/
def assignEntries (path : Text) :
    List Entry → List (Text × Json) → Except ReceiptProtocolError (List (Text × Json))
  | [], result => .ok result
  | entry :: rest, result =>
    match entry.item with
    | none => assignEntries path rest result
    | some item =>
      if entry.normalizedKey ∈ result.map (·.1) then
        protocolError "NORMALIZED_KEY_COLLISION"
          (ascii "contains multiple keys that normalize to " ++ Json.quote entry.normalizedKey ++
            ascii ".") path
      else do
        let value ← item (path ++ ascii "." ++ entry.normalizedKey)
        assignEntries path rest (result ++ [(entry.normalizedKey, value)])

variable (Q)

mutual

/-- `normalizeCanonicalValue`. -/
def normalizeCanonicalValue : JsValue → Text → Except ReceiptProtocolError Json
  | .null, _ => .ok .null
  | .boolean value, _ => .ok (.boolean value)
  | .string value, _ => .ok (.string (normalizeText Q value))
  | .number value, path =>
    if isSafeInteger value then .ok (.number (safeInteger value))
    else protocolError "NON_CANONICAL_NUMBER"
      (ascii "must be a safe integer; protocol form values remain strings.") path
  | .array items, path => (normalizeItems items path 0).map .array
  | .object members, path =>
    let entries := JsValue.sortBy (fun first second : Entry =>
      compareCanonicalText first.normalizedKey second.normalizedKey) (normalizeEntries members)
    (assignEntries path entries []).map fun result => .object (JsValue.ownProperties result)
  | .undefined, path => refuseOther .unsupported path
  | .other kind, path => refuseOther kind path

/-- The items of an array from an index on. -/
def normalizeItems : List JsValue → Text → Nat → Except ReceiptProtocolError (List Json)
  | [], _, _ => .ok []
  | item :: rest, path, index =>
    let itemPath := path ++ ascii "[" ++ Json.decimal index ++ ascii "]"
    match item with
    | .undefined =>
      protocolError "UNDEFINED_ARRAY_VALUE" (ascii "must not be undefined.") itemPath
    | item => do
      let value ← normalizeCanonicalValue item itemPath
      let values ← normalizeItems rest path (index + 1)
      pure (value :: values)

/-- The entries of an object. -/
def normalizeEntries : List (Text × JsValue) → List Entry
  | [] => []
  | (key, .undefined) :: rest => ⟨normalizeText Q key, none⟩ :: normalizeEntries rest
  | (key, item) :: rest =>
    ⟨normalizeText Q key, some (normalizeCanonicalValue item)⟩ :: normalizeEntries rest

end

/-- `toCanonicalValue`. -/
def toCanonicalValue (value : JsValue) : Except ReceiptProtocolError Json :=
  normalizeCanonicalValue Q value (ascii "$")

/-- `canonicalize`. -/
def canonicalize (value : JsValue) : Except ReceiptProtocolError Text :=
  (toCanonicalValue Q value).map Json.stringify

/-! ### hash.ts -/

/-- `HASH_DOMAINS`. -/
inductive HashDomain
  | authoritySignature
  | chainAnchor
  | event
  | extensionSignature

/-- The domain's text. -/
def HashDomain.text : HashDomain → Text
  | .authoritySignature => ascii "SUBMITTEDIT/AUTHORITY-SIGNATURE/1"
  | .chainAnchor => ascii "SUBMITTEDIT/CHAIN-ANCHOR/1"
  | .event => ascii "SUBMITTEDIT/RECEIPT-EVENT/1"
  | .extensionSignature => ascii "SUBMITTEDIT/EXTENSION-SIGNATURE/1"

/-- `createDomainSeparatedPreimage`. -/
def createDomainSeparatedPreimage (domain : Text) (value : JsValue) :
    Except ReceiptProtocolError Text :=
  (canonicalize Q value).map fun text => domain ++ 0 :: text

/-- The text of a 32-byte word: `0x` and its digits in lower case. -/
def hashText (word : HashHex) : Text :=
  ascii "0x" ++ (List.range 64).map fun i => Json.hexDigit ((word >>> (4 * (63 - i))).toNat % 16)

/-- `hashCanonical`, with Keccak-256 on bytes. -/
def hashCanonical (keccak256 : List UInt8 → HashHex) (domain : Text) (value : JsValue) :
    Except ReceiptProtocolError Text := do
  let preimage ← createDomainSeparatedPreimage Q domain value
  return hashText (keccak256 (Utf8.encode preimage))

/-! ### What is canonical -/

mutual

/-- `j` is the canonical value of `v`. -/
def Canonical : JsValue → Json → Prop
  | .null, j => j = .null
  | .boolean value, j => j = .boolean value
  | .string value, j => j = .string (normalizeText Q value)
  | .number value, j => isSafeInteger value = true ∧ j = .number (safeInteger value)
  | .array items, j => ∃ values, j = .array values ∧ CanonicalItems items values
  | .object members, j => ∃ values sorted, CanonicalMembers members values ∧
      (values.map (·.1)).Nodup ∧ sorted.Perm values ∧
      sorted.Pairwise (fun a b => (compareCanonicalText a.1 b.1).isLE = true) ∧
      j = .object (JsValue.ownProperties sorted)
  | .undefined, _ | .other _, _ => False

def CanonicalItems : List JsValue → List Json → Prop
  | [], values => values = []
  | item :: rest, values => ∃ value values', values = value :: values' ∧ Canonical item value ∧
      CanonicalItems rest values'

/-- The properties that are not `undefined`, under their normalized keys. -/
def CanonicalMembers : List (Text × JsValue) → List (Text × Json) → Prop
  | [], values => values = []
  | (_, .undefined) :: rest, values => CanonicalMembers rest values
  | (key, item) :: rest, values => ∃ value values', values = (normalizeText Q key, value) :: values' ∧
      Canonical item value ∧ CanonicalMembers rest values'

end

variable {Q}

/-! ### What the code computes -/

theorem map_eq_ok {ε α β : Type} {x : Except ε α} {f : α → β} {b : β} :
    x.map f = .ok b ↔ ∃ a, x = .ok a ∧ f a = b := by
  rcases x with e | a <;> simp [Except.map]

instance : Std.TransCmp compareCanonicalText := inferInstanceAs (Std.TransCmp compare)

instance : Std.LawfulEqCmp compareCanonicalText := inferInstanceAs (Std.LawfulEqCmp compare)

/-- The comparison of keys. -/
def compareKeys {α : Type} (key : α → Text) (first second : α) : Ordering :=
  compareCanonicalText (key first) (key second)

instance {α : Type} (key : α → Text) : Std.TransCmp (compareKeys key) :=
  inferInstanceAs (Std.TransCmp (compareOn key))

theorem eq_of_compareCanonicalText {first second : Text}
    (h : compareCanonicalText first second = .eq) : first = second :=
  Std.LawfulEqCmp.eq_of_compare h

/-- The values under different keys, in the order of the keys. -/
theorem eq_of_sorted_keys {α : Type} {l l' : List (Text × α)} (hnodup : (l.map (·.1)).Nodup)
    (hl : l.Pairwise fun a b => (compareCanonicalText a.1 b.1).isLE = true)
    (hl' : l'.Pairwise fun a b => (compareCanonicalText a.1 b.1).isLE = true)
    (hperm : l.Perm l') : l = l' :=
  JsValue.eq_of_perm_of_sorted (compareKeys Prod.fst) hl hl' hperm fun _ ha _ hb hab =>
    List.inj_on_of_nodup_map hnodup ha hb (eq_of_compareCanonicalText hab)

namespace Entry

/-- The entry's value is that of the property, wherever it is normalized. -/
def Gives (entry : Entry) (property : Text × Json) : Prop :=
  entry.normalizedKey = property.1 ∧
    ∃ item, entry.item = some item ∧ ∀ path, item path = .ok property.2

/-- Where the entry has a value, it has the same everywhere. -/
def Uniform (entry : Entry) : Prop :=
  ∀ item, entry.item = some item → ∀ path path' j, item path = .ok j → item path' = .ok j

end Entry

theorem keys_of_gives {entries : List Entry} {values : List (Text × Json)}
    (h : List.Forall₂ Entry.Gives entries values) :
    entries.map (·.normalizedKey) = values.map (·.1) := by
  induction h with
  | nil => rfl
  | cons hfirst _ ih => exact congrArg₂ List.cons hfirst.1 ih

/-- **What assigning entries makes**: the properties that they give, if their
keys are new. -/
theorem assignEntries_eq_ok {path : Text} {entries : List Entry}
    (huniform : ∀ entry ∈ entries, entry.Uniform) {result out : List (Text × Json)}
    (hresult : (result.map (·.1)).Nodup) : assignEntries path entries result = .ok out ↔
      ∃ values, List.Forall₂ Entry.Gives (entries.filter (·.item.isSome)) values ∧
        ((result ++ values).map (·.1)).Nodup ∧ out = result ++ values := by
  induction entries generalizing result with
  | nil =>
    constructor
    · intro h
      cases h
      exact ⟨[], .nil, by rwa [List.append_nil], (List.append_nil _).symm⟩
    · rintro ⟨values, hvalues, -, rfl⟩
      cases hvalues
      rw [List.append_nil]
      rfl
  | cons entry rest ih =>
    have hrest := fun e he => huniform e (List.mem_cons_of_mem entry he)
    rw [assignEntries]
    rcases hitem : entry.item with - | item
    · rw [List.filter_cons_of_neg (by rw [hitem]; simp)]
      exact ih hrest hresult
    · rw [List.filter_cons_of_pos (by rw [hitem]; rfl)]
      have hnew : ∀ (value : Json) (values : List (Text × Json)),
          (result ++ [(entry.normalizedKey, value)]) ++ values =
            result ++ (entry.normalizedKey, value) :: values := by
        intro value values
        rw [List.append_assoc]
        rfl
      dsimp only
      split
      · next hmem =>
        constructor
        · exact nofun
        · rintro ⟨values, hvalues, hnodup, -⟩
          obtain ⟨⟨key, value⟩, values', hfirst, -, rfl⟩ := List.forall₂_cons_left_iff.mp hvalues
          rw [List.map_append, List.nodup_append] at hnodup
          exact absurd rfl (hnodup.2.2 _ hmem _ (hfirst.1 ▸ List.mem_cons_self))
      · next hmem =>
        have hextended : ∀ value : Json,
            ((result ++ [(entry.normalizedKey, value)]).map (·.1)).Nodup := by
          intro value
          rw [List.map_append]
          refine List.nodup_append.mpr ⟨hresult, List.nodup_singleton _, fun a ha b hb hab => ?_⟩
          have hkey : a = entry.normalizedKey := hab.trans (List.mem_singleton.mp hb)
          exact hmem (hkey ▸ ha)
        constructor
        · intro h
          obtain ⟨value, hvalue, h⟩ := Transaction.bind_eq_ok.mp h
          obtain ⟨values, hvalues, hnodup, rfl⟩ := (ih hrest (hextended value)).mp h
          rw [hnew] at hnodup ⊢
          refine ⟨_, .cons ⟨rfl, item, hitem, fun path' => ?_⟩ hvalues, hnodup, rfl⟩
          exact huniform entry List.mem_cons_self item hitem _ path' value hvalue
        · rintro ⟨values, hvalues, hnodup, rfl⟩
          obtain ⟨⟨key, value⟩, values', ⟨hkey, item', hitem', hvalue⟩, hvalues', rfl⟩ :=
            List.forall₂_cons_left_iff.mp hvalues
          obtain rfl : entry.normalizedKey = key := hkey
          rw [hitem, Option.some.injEq] at hitem'
          subst hitem'
          refine Transaction.bind_eq_ok.mpr ⟨value, hvalue _, (ih hrest (hextended value)).mpr ?_⟩
          rw [← hnew] at hnodup
          exact ⟨values', hvalues', hnodup, (hnew value values').symm⟩

/-- Entries that are sorted give sorted properties. -/
theorem sorted_of_gives {entries : List Entry} {values : List (Text × Json)}
    (h : List.Forall₂ Entry.Gives entries values)
    (hsorted : entries.Pairwise fun a b =>
      (compareCanonicalText a.normalizedKey b.normalizedKey).isLE = true) :
    values.Pairwise fun a b => (compareCanonicalText a.1 b.1).isLE = true := by
  have hkeys : (entries.map (·.normalizedKey)).Pairwise fun a b =>
      (compareCanonicalText a b).isLE = true := List.pairwise_map.mpr hsorted
  rw [keys_of_gives h] at hkeys
  exact List.pairwise_map.mp hkeys

/-- The entries in the order in which they are assigned. -/
def sortEntries (entries : List Entry) : List Entry :=
  JsValue.sortBy (compareKeys Entry.normalizedKey) entries

theorem sortEntries_filter (entries : List Entry) :
    ((sortEntries entries).filter (·.item.isSome)).Pairwise fun a b =>
      (compareCanonicalText a.normalizedKey b.normalizedKey).isLE = true :=
  (JsValue.sortBy_pairwise (compareKeys Entry.normalizedKey) entries).filter _

/-- **What an object normalizes to.** -/
theorem assign_sorted_eq_ok {path : Text} {entries : List Entry}
    (huniform : ∀ entry ∈ entries, entry.Uniform) {out : List (Text × Json)} :
    assignEntries path (sortEntries entries) [] = .ok out ↔
      ∃ values, List.Forall₂ Entry.Gives (entries.filter (·.item.isSome)) values ∧
        (values.map (·.1)).Nodup ∧ out.Perm values ∧
        out.Pairwise fun a b => (compareCanonicalText a.1 b.1).isLE = true := by
  have hperm : (sortEntries entries).Perm entries := JsValue.perm_sortBy _ entries
  rw [assignEntries_eq_ok (fun entry hentry => huniform entry (hperm.mem_iff.mp hentry))
    (show (([] : List (Text × Json)).map (·.1)).Nodup from List.nodup_nil)]
  constructor
  · rintro ⟨values, hvalues, hnodup, rfl⟩
    obtain ⟨given, hgiven, hsame⟩ := List.perm_comp_forall₂ (hperm.symm.filter _) hvalues
    exact ⟨given, hgiven, (hsame.map _).nodup_iff.mpr hnodup, hsame.symm,
      sorted_of_gives hvalues (sortEntries_filter entries)⟩
  · rintro ⟨values, hvalues, hnodup, hout, hsorted⟩
    obtain ⟨given, hgiven, hsame⟩ := List.perm_comp_forall₂ (hperm.filter _) hvalues
    have hgivenNodup : (given.map (·.1)).Nodup := (hsame.map _).nodup_iff.mpr hnodup
    -- there is one order of the keys
    have heq : given = out := eq_of_sorted_keys hgivenNodup
      (sorted_of_gives hgiven (sortEntries_filter entries)) hsorted (hsame.trans hout.symm)
    exact ⟨given, hgiven, hgivenNodup, heq.symm⟩

theorem normalizeItems_cons {item : JsValue} (h : item ≠ .undefined) (rest : List JsValue)
    (path : Text) (index : Nat) : normalizeItems Q (item :: rest) path index = (do
      let value ← normalizeCanonicalValue Q item
        (path ++ ascii "[" ++ Json.decimal index ++ ascii "]")
      let values ← normalizeItems Q rest path (index + 1)
      pure (value :: values)) := by
  rcases item with - | - | - | - | - | - | - | - <;> first | rfl | exact absurd rfl h

theorem normalizeEntries_cons {item : JsValue} (h : item ≠ .undefined) (key : Text)
    (rest : List (Text × JsValue)) : normalizeEntries Q ((key, item) :: rest) =
      ⟨normalizeText Q key, some (normalizeCanonicalValue Q item)⟩ :: normalizeEntries Q rest := by
  rcases item with - | - | - | - | - | - | - | - <;> first | rfl | exact absurd rfl h

theorem canonicalMembers_cons {item : JsValue} (h : item ≠ .undefined) {key : Text}
    {rest : List (Text × JsValue)} {values : List (Text × Json)} :
    CanonicalMembers Q ((key, item) :: rest) values ↔ ∃ value values',
      values = (normalizeText Q key, value) :: values' ∧ Canonical Q item value ∧
        CanonicalMembers Q rest values' := by
  rcases item with - | - | - | - | - | - | - | - <;> first | exact Iff.rfl | exact absurd rfl h

mutual

/-- **What the code computes is canonical**, and independent of the path. -/
theorem normalizeCanonicalValue_eq_ok (v : JsValue) (path : Text) (j : Json) :
    normalizeCanonicalValue Q v path = .ok j ↔ Canonical Q v j := by
  match v with
  | .null => exact ⟨fun h => (Except.ok.inj h).symm, fun h => congrArg _ (Eq.symm h)⟩
  | .boolean value => exact ⟨fun h => (Except.ok.inj h).symm, fun h => congrArg _ (Eq.symm h)⟩
  | .string value => exact ⟨fun h => (Except.ok.inj h).symm, fun h => congrArg _ (Eq.symm h)⟩
  | .number value =>
    rw [normalizeCanonicalValue, Canonical]
    split
    · next hsafe => exact ⟨fun h => ⟨hsafe, (Except.ok.inj h).symm⟩, fun h => congrArg _ h.2.symm⟩
    · next hsafe => exact ⟨nofun, fun h => absurd h.1 hsafe⟩
  | .array items =>
    rw [normalizeCanonicalValue, Canonical]
    constructor
    · intro h
      rcases hitems : normalizeItems Q items path 0 with e | values
      · rw [hitems] at h
        cases h
      · rw [hitems] at h
        exact ⟨values, (Except.ok.inj h).symm, (normalizeItems_eq_ok items path 0 values).mp hitems⟩
    · rintro ⟨values, rfl, hitems⟩
      rw [(normalizeItems_eq_ok items path 0 values).mpr hitems]
      rfl
  | .object members =>
    obtain ⟨huniform, hmembers⟩ := normalizeEntries_spec members
    show (assignEntries path (sortEntries (normalizeEntries Q members)) []).map _ = _ ↔ _
    rw [Canonical]
    constructor
    · intro h
      rcases hout : assignEntries path (sortEntries (normalizeEntries Q members)) [] with e | out
      · rw [hout] at h
        cases h
      · rw [hout] at h
        obtain ⟨values, hvalues, hnodup, hperm, hsorted⟩ :=
          (assign_sorted_eq_ok huniform).mp hout
        exact ⟨values, out, (hmembers values).mpr hvalues, hnodup, hperm, hsorted,
          (Except.ok.inj h).symm⟩
    · rintro ⟨values, out, hvalues, hnodup, hperm, hsorted, rfl⟩
      rw [(assign_sorted_eq_ok huniform).mpr ⟨values, (hmembers values).mp hvalues, hnodup, hperm,
        hsorted⟩]
      rfl
  | .undefined => exact ⟨nofun, nofun⟩
  | .other kind =>
    refine ⟨fun h => ?_, False.elim⟩
    cases kind
    all_goals cases h

theorem normalizeItems_eq_ok (items : List JsValue) (path : Text) (index : Nat)
    (values : List Json) :
    normalizeItems Q items path index = .ok values ↔ CanonicalItems Q items values := by
  match items with
  | [] => exact ⟨fun h => (Except.ok.inj h).symm, fun h => congrArg _ (Eq.symm h)⟩
  | item :: rest =>
    have hitem := normalizeCanonicalValue_eq_ok item
      (path ++ ascii "[" ++ Json.decimal index ++ ascii "]")
    have hrest := normalizeItems_eq_ok rest path (index + 1)
    rw [CanonicalItems]
    by_cases hundefined : item = .undefined
    · subst hundefined
      refine ⟨nofun, ?_⟩
      rintro ⟨value, values', -, hvalue, -⟩
      exact hvalue.elim
    · simp only [normalizeItems_cons hundefined, Transaction.bind_eq_ok, hitem, hrest]
      constructor
      · rintro ⟨value, hvalue, values', hvalues, h⟩
        exact ⟨value, values', (Except.ok.inj h).symm, hvalue, hvalues⟩
      · rintro ⟨value, values', rfl, hvalue, hvalues⟩
        exact ⟨value, hvalue, values', hvalues, rfl⟩

/-- The entries of an object give its properties. -/
theorem normalizeEntries_spec (members : List (Text × JsValue)) :
    (∀ entry ∈ normalizeEntries Q members, entry.Uniform) ∧ ∀ values,
      CanonicalMembers Q members values ↔
        List.Forall₂ Entry.Gives ((normalizeEntries Q members).filter (·.item.isSome)) values := by
  match members with
  | [] =>
    refine ⟨fun entry hentry => absurd hentry List.not_mem_nil, fun values => ?_⟩
    rw [CanonicalMembers]
    exact (List.forall₂_nil_left_iff).symm
  | (key, item) :: rest =>
    obtain ⟨huniform, hrest⟩ := normalizeEntries_spec rest
    have hitem := normalizeCanonicalValue_eq_ok item
    by_cases hundefined : item = .undefined
    · subst hundefined
      refine ⟨fun entry hentry => ?_, fun values => ?_⟩
      · rcases List.mem_cons.mp hentry with rfl | hentry
        · exact nofun
        · exact huniform entry hentry
      · exact hrest values
    · rw [normalizeEntries_cons hundefined]
      constructor
      · intro entry hentry
        rcases List.mem_cons.mp hentry with rfl | hentry
        · rintro _ ⟨⟩ path path' j h
          exact (hitem path' j).mpr ((hitem path j).mp h)
        · exact huniform entry hentry
      · intro values
        rw [canonicalMembers_cons hundefined, List.filter_cons_of_pos rfl,
          List.forall₂_cons_left_iff]
        constructor
        · rintro ⟨value, values', rfl, hvalue, hvalues⟩
          exact ⟨_, values', ⟨rfl, _, rfl, fun path => (hitem path value).mpr hvalue⟩,
            (hrest values').mp hvalues, rfl⟩
        · rintro ⟨⟨key', value⟩, values', ⟨rfl, _, ⟨⟩, hvalue⟩, hvalues, rfl⟩
          exact ⟨value, values', rfl, (hitem [] value).mp (hvalue []), (hrest values').mpr hvalues⟩

end

end canonicalize

end SubmittedIt.Protocol
