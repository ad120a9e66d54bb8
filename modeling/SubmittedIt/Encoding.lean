/-
SubmittedIt/Encoding.lean

Texts and bytes of the extension (apps/extension/lib, encoding.ts).

`btoa` and `atob` are the standard codec, padded, of binary strings: texts whose
characters are bytes, given as the list of these.  base64url is written from
chunks, and read by way of `atob`; an unpadded text is accepted if it is what its
bytes are written as.  An error of the extension is a message, or what the receipt
protocol throws.

Main results: `base64UrlToBytes_eq_ok`, `base64Url_codec` and
`utf8Text_utf8Bytes`.
-/
import SubmittedIt.RelayBlobs
import SubmittedIt.Normalize
import Mathlib.Data.List.DropRight

namespace SubmittedIt.Protocol

open Relay (sextet sextetText decodeSextets encodeBase64Url isBase64Url base64UrlBytes)

/-- What the extension throws; `operation` is a rejection by Web Crypto. -/
inductive ExtensionError
  | message (text : String)
  | protocol (error : ReceiptProtocolError)
  | operation
  deriving DecidableEq

/-- What the receipt protocol throws is thrown on. -/
def rethrow {α : Type} : Except ReceiptProtocolError α → Except ExtensionError α
  | .ok x => .ok x
  | .error e => .error (.protocol e)

/-- Throw where the condition holds. -/
def throwIf (condition : Prop) [Decidable condition] (text : String) : Except ExtensionError Unit :=
  if condition then .error (.message text) else .ok ()

/-- Throw where there is no value. -/
def orThrow {α : Type} (error : ExtensionError) : Option α → Except ExtensionError α
  | some x => .ok x
  | none => .error error

/-! ### base64 -/

/-- The sextets of bytes. -/
def sextets : List UInt8 → List Nat
  | x :: y :: z :: rest =>
    x.toNat / 4 :: (x.toNat % 4 * 16 + y.toNat / 16) :: (y.toNat % 16 * 4 + z.toNat / 64) ::
      z.toNat % 64 :: sextets rest
  | [x, y] => [x.toNat / 4, x.toNat % 4 * 16 + y.toNat / 16, y.toNat % 16 * 4]
  | [x] => [x.toNat / 4, x.toNat % 4 * 16]
  | [] => []

/-- A digit of base64: the last two are not those of base64url. -/
def base64Digit (n : Nat) : UInt16 := if n = 62 then 43 else if n = 63 then 47 else sextetText n

/-- The sextet of a digit of base64. -/
def base64Value (u : UInt16) : Option Nat :=
  if u = 43 then some 62 else if u = 47 then some 63 else if u = 45 ∨ u = 95 then none else sextet u

/-- `btoa`. -/
def btoa (binary : List UInt8) : Text :=
  (sextets binary).map base64Digit ++ List.replicate ((3 - binary.length % 3) % 3) 61

/-- One equals sign less, if there is one at the end. -/
def dropPadding (data : Text) : Text := if data.getLast? = some 61 then data.dropLast else data

/-- `atob`: white space is skipped, padding may be left out, and the bits after
the last byte are not looked at. -/
def atob (data : Text) : Option (List UInt8) :=
  let data := data.filter fun u => u ∉ [9, 10, 12, 13, 32]
  let digits := if data.length % 4 = 0 then dropPadding (dropPadding data) else data
  if digits.length % 4 ≠ 1 ∧ (digits.all fun u => (base64Value u).isSome) = true then
    some (decodeSextets (digits.filterMap base64Value))
  else none

/-! ### Texts and bytes -/

/-- `text.replaceAll(search, replacement)`, of single characters. -/
def replaceAll (search replacement : UInt16) (text : Text) : Text :=
  text.map fun u => if u = search then replacement else u

/-- `text.padEnd(length, fill)`. -/
def padEnd (length : Nat) (fill : UInt16) (text : Text) : Text :=
  text ++ List.replicate (length - text.length) fill

/-- The loop of `bytesToBase64Url`, which appends a chunk at a time. -/
def binaryString (bytes : List UInt8) : (fuel offset : Nat) → List UInt8 → List UInt8
  | 0, _, binary => binary
  | fuel + 1, offset, binary =>
    if offset < bytes.length then
      binaryString bytes fuel (offset + 0x8000) (binary ++ (bytes.drop offset).take 0x8000)
    else binary

/-- `bytesToBase64Url`. -/
def bytesToBase64Url (bytes : List UInt8) : Text :=
  let binary := binaryString bytes bytes.length 0 []
  (replaceAll 47 95 (replaceAll 43 45 (btoa binary))).rdropWhile (· = 61)

/-- `base64UrlToBytes`. -/
def base64UrlToBytes (value : Text) (path : String) : Except ExtensionError (List UInt8) := do
  throwIf (isBase64Url value = false ∨ value.length % 4 = 1)
    (path ++ " must be unpadded base64url.")
  let padded := padEnd ((value.length + 3) / 4 * 4) 61 (replaceAll 95 47 (replaceAll 45 43 value))
  let bytes ← orThrow (.message (path ++ " must be unpadded base64url.")) (atob padded)
  throwIf (bytesToBase64Url bytes ≠ value)
    (path ++ " must use canonical unpadded base64url.")
  return bytes

/-- `utf8Bytes`. -/
def utf8Bytes (value : Text) : List UInt8 := Utf8.encode value

/-- `utf8Text`: a byte order mark at the start is dropped. -/
def utf8Text (value : List UInt8) : Option Text :=
  (Utf8.decode value).map fun text => if text.head? = some 0xFEFF then text.tail else text

/-! ### Errors -/

theorem rethrow_eq_ok {α : Type} {x : Except ReceiptProtocolError α} {a : α} :
    rethrow x = .ok a ↔ x = .ok a := by
  rcases x with e | b
  · exact ⟨nofun, nofun⟩
  · exact ⟨fun h => congrArg _ (Except.ok.inj h), fun h => congrArg _ (Except.ok.inj h)⟩

theorem throwIf_eq_ok {condition : Prop} [Decidable condition] {text : String} {u : Unit} :
    throwIf condition text = .ok u ↔ ¬condition := by
  unfold throwIf
  split
  · next h => exact ⟨nofun, fun h' => absurd h h'⟩
  · next h => exact ⟨fun _ => h, fun _ => rfl⟩

theorem orThrow_eq_ok {α : Type} {error : ExtensionError} {x : Option α} {a : α} :
    orThrow error x = .ok a ↔ x = some a := by
  rcases x with - | b
  · exact ⟨nofun, nofun⟩
  · exact ⟨fun h => congrArg _ (Except.ok.inj h), fun h => congrArg _ (Option.some.inj h)⟩

/-! ### base64url -/

theorem sextet_sextetText {n : Nat} (h : n < 64) : sextet (sextetText n) = some n := by
  have hall : ∀ m < 64, sextet (sextetText m) = some m := by decide
  exact hall n h

theorem sextets_lt (bytes : List UInt8) : ∀ n ∈ sextets bytes, n < 64 := by
  induction bytes using sextets.induct with
  | case1 x y z rest ih =>
    have hx := x.toNat_lt
    have hy := y.toNat_lt
    have hz := z.toNat_lt
    rw [sextets]
    refine List.forall_mem_cons.mpr ⟨by omega, List.forall_mem_cons.mpr ⟨by omega, ?_⟩⟩
    exact List.forall_mem_cons.mpr ⟨by omega, List.forall_mem_cons.mpr ⟨by omega, ih⟩⟩
  | case2 x y =>
    have hx := x.toNat_lt
    have hy := y.toNat_lt
    rw [sextets]
    simp only [List.forall_mem_cons]
    exact ⟨by omega, by omega, by omega, fun n hn => absurd hn List.not_mem_nil⟩
  | case3 x =>
    have hx := x.toNat_lt
    rw [sextets]
    simp only [List.forall_mem_cons]
    exact ⟨by omega, by omega, fun n hn => absurd hn List.not_mem_nil⟩
  | case4 => exact fun n hn => absurd hn List.not_mem_nil

theorem encodeBase64Url_eq (bytes : List UInt8) :
    encodeBase64Url bytes = (sextets bytes).map sextetText := by
  induction bytes using sextets.induct with
  | case1 x y z rest ih =>
    rw [encodeBase64Url, sextets, ih]
    rfl
  | case2 x y => rfl
  | case3 x => rfl
  | case4 => rfl

/-- The sextets of bytes are those bytes. -/
theorem decodeSextets_sextets (bytes : List UInt8) : decodeSextets (sextets bytes) = bytes := by
  have hbyte : ∀ (x : UInt8) (n : Nat), n = x.toNat → UInt8.ofNat n = x := by
    rintro x n rfl
    exact UInt8.ofNat_toNat
  induction bytes using sextets.induct with
  | case1 x y z rest ih =>
    have hx := x.toNat_lt
    have hy := y.toNat_lt
    have hz := z.toNat_lt
    rw [sextets, decodeSextets, ih, hbyte x _ (by omega), hbyte y _ (by omega),
      hbyte z _ (by omega)]
  | case2 x y =>
    have hx := x.toNat_lt
    have hy := y.toNat_lt
    rw [sextets, decodeSextets, hbyte x _ (by omega), hbyte y _ (by omega)]
  | case3 x =>
    have hx := x.toNat_lt
    rw [sextets, decodeSextets, hbyte x _ (by omega)]
  | case4 => rfl

theorem filterMap_sextetText {items : List Nat} (hitems : ∀ n ∈ items, n < 64) :
    (items.map sextetText).filterMap sextet = items := by
  induction items with
  | nil => rfl
  | cons n rest ih =>
    obtain ⟨hn, hrest⟩ := List.forall_mem_cons.mp hitems
    rw [List.map_cons, List.filterMap_cons_some (sextet_sextetText hn), ih hrest]

theorem base64UrlBytes_encode (bytes : List UInt8) :
    base64UrlBytes (encodeBase64Url bytes) = bytes := by
  rw [encodeBase64Url_eq, base64UrlBytes, filterMap_sextetText (sextets_lt bytes),
    decodeSextets_sextets]

/-- Three bytes have four characters, and the rest as many as it needs. -/
theorem length_encodeBase64Url (bytes : List UInt8) :
    (encodeBase64Url bytes).length = (4 * bytes.length + 2) / 3 := by
  induction bytes using sextets.induct with
  | case1 x y z rest ih =>
    rw [encodeBase64Url]
    simp only [List.length_cons, ih]
    omega
  | case2 x y => simp [encodeBase64Url]
  | case3 x => simp [encodeBase64Url]
  | case4 => rfl

theorem isBase64Url_encode {bytes : List UInt8} (h : bytes ≠ []) :
    isBase64Url (encodeBase64Url bytes) = true := by
  have hne : encodeBase64Url bytes ≠ [] := by
    intro hnil
    have hlength := length_encodeBase64Url bytes
    have hpos := List.length_pos_iff.mpr h
    rw [hnil, List.length_nil] at hlength
    omega
  rw [isBase64Url, Bool.and_eq_true, decide_eq_true_eq, List.all_eq_true]
  refine ⟨hne, fun u hu => ?_⟩
  rw [encodeBase64Url_eq] at hu
  obtain ⟨n, hn, rfl⟩ := List.mem_map.mp hu
  rw [sextet_sextetText (sextets_lt bytes n hn)]
  rfl

/-! ### base64url by way of base64 -/

/-- **The chunks are the bytes**: each step takes at least one. -/
theorem binaryString_eq (bytes : List UInt8) {fuel : Nat} :
    ∀ {offset : Nat} (binary : List UInt8), bytes.length ≤ offset + fuel →
      binaryString bytes fuel offset binary = binary ++ bytes.drop offset := by
  induction fuel with
  | zero =>
    intro offset binary h
    rw [binaryString, List.drop_of_length_le (by omega), List.append_nil]
  | succ fuel ih =>
    intro offset binary h
    rw [binaryString]
    split
    · have hchunk := List.take_append_drop 0x8000 (bytes.drop offset)
      rw [List.drop_drop] at hchunk
      rw [ih _ (by omega), List.append_assoc, hchunk]
    · next hend => rw [List.drop_of_length_le (Nat.le_of_not_lt hend), List.append_nil]

theorem replaceAll_append (u v : UInt16) (first second : Text) :
    replaceAll u v (first ++ second) = replaceAll u v first ++ replaceAll u v second :=
  List.map_append

theorem replaceAll_padding {u v : UInt16} (h : u ≠ 61) (k : Nat) :
    replaceAll u v (List.replicate k 61) = List.replicate k 61 := by
  rw [replaceAll, List.map_replicate, if_neg h.symm]

/-- The digits of base64 are replaced by those of base64url. -/
theorem replaceAll_base64Digit {items : List Nat} (h : ∀ n ∈ items, n < 64) :
    replaceAll 47 95 (replaceAll 43 45 (items.map base64Digit)) = items.map sextetText := by
  have hall : ∀ n < 64, replaceAll 47 95 (replaceAll 43 45 [base64Digit n]) = [sextetText n] := by
    decide
  rw [replaceAll, replaceAll, List.map_map, List.map_map]
  exact List.map_congr_left fun n hn => List.singleton_inj.mp (hall n (h n hn))

/-- Padding is stripped. -/
theorem rdropWhile_padding (text : Text) (k : Nat) :
    (text ++ List.replicate k 61).rdropWhile (· = 61) = text.rdropWhile (· = 61) := by
  induction k with
  | zero => rw [List.replicate_zero, List.append_nil]
  | succ k ih =>
    rw [List.replicate_succ', ← List.append_assoc, List.rdropWhile_concat_pos _ _ _ (by decide), ih]

theorem sextetText_ne {n : Nat} (h : n < 64) : sextetText n ≠ 61 := by
  have hall : ∀ m < 64, sextetText m ≠ 61 := by decide
  exact hall n h

/-- **The extension writes base64url as the relay does.** -/
theorem bytesToBase64Url_eq (bytes : List UInt8) :
    bytesToBase64Url bytes = encodeBase64Url bytes := by
  have hbinary : binaryString bytes bytes.length 0 [] = bytes :=
    binaryString_eq bytes [] (Nat.le_add_left _ _)
  rw [bytesToBase64Url, hbinary, btoa, replaceAll_append, replaceAll_append,
    replaceAll_base64Digit (sextets_lt bytes), replaceAll_padding (by decide),
    replaceAll_padding (by decide), rdropWhile_padding, encodeBase64Url_eq]
  rw [List.rdropWhile_eq_self_iff]
  intro hne hlast
  obtain ⟨n, hn, hdigit⟩ := List.mem_map.mp (List.getLast_mem hne)
  rw [← hdigit] at hlast
  exact sextetText_ne (sextets_lt bytes n hn) (of_decide_eq_true hlast)

theorem base64UrlBytes_bytesToBase64Url (bytes : List UInt8) :
    base64UrlBytes (bytesToBase64Url bytes) = bytes := by
  rw [bytesToBase64Url_eq, base64UrlBytes_encode]

theorem isBase64Url_bytesToBase64Url {bytes : List UInt8} (h : bytes ≠ []) :
    isBase64Url (bytesToBase64Url bytes) = true := by
  rw [bytesToBase64Url_eq]
  exact isBase64Url_encode h

/-- A character that stands for a sextet is the text of it. -/
theorem sextet_eq_some {u : UInt16} {n : Nat} (h : sextet u = some n) :
    n < 64 ∧ sextetText n = u := by
  have htext : ∀ {m : Nat}, m = u.toNat → UInt16.ofNat m = u := by
    rintro m rfl
    exact UInt16.ofNat_toNat
  simp only [sextet, UInt16.le_iff_toNat_le, UInt16.reduceToNat] at h
  split_ifs at h with h1 h2 h3 h4 h5
  · obtain rfl := Option.some.inj h
    refine ⟨by omega, ?_⟩
    rw [sextetText, if_pos (by omega)]
    exact htext (by omega)
  · obtain rfl := Option.some.inj h
    refine ⟨by omega, ?_⟩
    rw [sextetText, if_neg (by omega), if_pos (by omega)]
    exact htext (by omega)
  · obtain rfl := Option.some.inj h
    refine ⟨by omega, ?_⟩
    rw [sextetText, if_neg (by omega), if_neg (by omega), if_pos (by omega)]
    exact htext (by omega)
  · obtain rfl := Option.some.inj h
    exact ⟨by decide, h4.symm⟩
  · obtain rfl := Option.some.inj h
    exact ⟨by decide, h5.symm⟩

/-- A base64url text is the text of its sextets. -/
theorem exists_sextets {value : Text} (h : (value.all fun u => (sextet u).isSome) = true) :
    ∃ items : List Nat, (∀ n ∈ items, n < 64) ∧ value = items.map sextetText ∧
      value.filterMap sextet = items := by
  induction value with
  | nil => exact ⟨[], fun n hn => absurd hn List.not_mem_nil, rfl, rfl⟩
  | cons u rest ih =>
    rw [List.all_cons, Bool.and_eq_true] at h
    obtain ⟨n, hn⟩ := Option.isSome_iff_exists.mp h.1
    obtain ⟨hlt, htext⟩ := sextet_eq_some hn
    obtain ⟨items, hitems, hrest, hfilter⟩ := ih h.2
    refine ⟨n :: items, List.forall_mem_cons.mpr ⟨hlt, hitems⟩, ?_, ?_⟩
    · rw [List.map_cons, htext, ← hrest]
    · rw [List.filterMap_cons_some hn, hfilter]

/-- A digit is neither padding nor white space. -/
theorem base64Value_base64Digit {n : Nat} (h : n < 64) :
    base64Value (base64Digit n) = some n ∧ base64Digit n ≠ 61 ∧
      base64Digit n ∉ [9, 10, 12, 13, 32] := by
  have hall : ∀ m < 64, base64Value (base64Digit m) = some m ∧ base64Digit m ≠ 61 ∧
      base64Digit m ∉ [9, 10, 12, 13, 32] := by
    decide
  exact hall n h

theorem dropPadding_concat (text : Text) : dropPadding (text ++ [61]) = text := by
  rw [dropPadding, List.getLast?_concat, if_pos rfl, List.dropLast_concat]

/-- Padding up to the next multiple of four is dropped again. -/
theorem dropPadding_digits {items : List Nat} (hitems : ∀ n ∈ items, n < 64) {k : Nat}
    (hk : k ≤ 2) :
    dropPadding (dropPadding (items.map base64Digit ++ List.replicate k 61)) =
      items.map base64Digit := by
  have hnone : dropPadding (items.map base64Digit) = items.map base64Digit := by
    rw [dropPadding, if_neg]
    intro hlast
    obtain ⟨n, hn, hdigit⟩ := List.mem_map.mp (List.mem_of_getLast? hlast)
    exact (base64Value_base64Digit (hitems n hn)).2.1 hdigit
  rcases k with - | - | - | k
  · rw [List.replicate_zero, List.append_nil, hnone, hnone]
  · rw [List.replicate_one, dropPadding_concat, hnone]
  · have htwo : items.map base64Digit ++ List.replicate 2 61 =
        (items.map base64Digit ++ [61]) ++ [61] := by
      rw [List.append_assoc]
      rfl
    rw [htwo, dropPadding_concat, dropPadding_concat]
  · omega

/-- **`atob` reads the sextets of a padded text.** -/
theorem atob_padded {items : List Nat} (hitems : ∀ n ∈ items, n < 64) (h : items.length % 4 ≠ 1) :
    atob (padEnd ((items.length + 3) / 4 * 4) 61 (items.map base64Digit)) =
      some (decodeSextets items) := by
  have hvalues : (items.map base64Digit).filterMap base64Value = items := by
    have hsome : ∀ n ∈ items, (base64Value ∘ base64Digit) n = some n := fun n hn =>
      (base64Value_base64Digit (hitems n hn)).1
    rw [List.filterMap_map, List.filterMap_congr hsome, List.filterMap_some]
  have hall : ((items.map base64Digit).all fun u => (base64Value u).isSome) = true := by
    rw [List.all_map, List.all_eq_true]
    intro n hn
    show (base64Value (base64Digit n)).isSome = true
    rw [(base64Value_base64Digit (hitems n hn)).1]
    rfl
  obtain ⟨k, hk⟩ : ∃ k, k = (items.length + 3) / 4 * 4 - (items.map base64Digit).length := ⟨_, rfl⟩
  have hspace : (items.map base64Digit ++ List.replicate k 61).filter
      (fun u => u ∉ [9, 10, 12, 13, 32]) = items.map base64Digit ++ List.replicate k 61 := by
    rw [List.filter_eq_self]
    intro u hu
    rw [decide_eq_true_eq]
    rcases List.mem_append.mp hu with hu | hu
    · obtain ⟨n, hn, rfl⟩ := List.mem_map.mp hu
      exact (base64Value_base64Digit (hitems n hn)).2.2
    · rw [List.eq_of_mem_replicate hu]
      decide
  rw [List.length_map] at hk
  have hlength : (items.map base64Digit ++ List.replicate k 61).length % 4 = 0 := by
    rw [List.length_append, List.length_map, List.length_replicate]
    omega
  have hdigits : dropPadding (dropPadding (items.map base64Digit ++ List.replicate k 61)) =
      items.map base64Digit := dropPadding_digits hitems (by omega)
  simp only [atob, padEnd, List.length_map, ← hk, hspace, hlength, hdigits, if_true, hall, hvalues]
  rw [if_pos ⟨h, trivial⟩]

/-- **The texts that are accepted are those of bytes.** -/
theorem base64UrlToBytes_eq_ok {value : Text} {path : String} {bytes : List UInt8} :
    base64UrlToBytes value path = .ok bytes ↔ bytes ≠ [] ∧ value = bytesToBase64Url bytes := by
  have hback : ∀ {items : List Nat}, (∀ n ∈ items, n < 64) →
      replaceAll 95 47 (replaceAll 45 43 (items.map sextetText)) = items.map base64Digit := by
    have hall : ∀ n < 64, replaceAll 95 47 (replaceAll 45 43 [sextetText n]) = [base64Digit n] := by
      decide
    intro items hitems
    rw [replaceAll, replaceAll, List.map_map, List.map_map]
    exact List.map_congr_left fun n hn => List.singleton_inj.mp (hall n (hitems n hn))
  simp only [base64UrlToBytes, Transaction.bind_eq_ok, throwIf_eq_ok, orThrow_eq_ok, not_or,
    Bool.not_eq_false, not_not]
  constructor
  · rintro ⟨_, ⟨hpattern, -⟩, found, -, _, hcanonical, h⟩
    obtain rfl := Except.ok.inj h
    refine ⟨?_, hcanonical.symm⟩
    intro hnil
    rw [hnil] at hcanonical
    rw [← hcanonical] at hpattern
    cases hpattern
  · rintro ⟨hne, rfl⟩
    have hlength : (sextets bytes).length = (4 * bytes.length + 2) / 3 := by
      rw [← length_encodeBase64Url, encodeBase64Url_eq, List.length_map]
    have hatob := atob_padded (sextets_lt bytes) (by omega)
    rw [← hback (sextets_lt bytes), decodeSextets_sextets] at hatob
    rw [bytesToBase64Url_eq]
    refine ⟨(), ⟨isBase64Url_encode hne, ?_⟩, bytes, ?_, (), ?_, rfl⟩
    · rw [length_encodeBase64Url]
      omega
    · rw [encodeBase64Url_eq, List.length_map]
      exact hatob
    · exact bytesToBase64Url_eq bytes

/-- Bytes are read back from their text. -/
theorem base64UrlToBytes_bytesToBase64Url {bytes : List UInt8} (h : bytes ≠ []) (path : String) :
    base64UrlToBytes (bytesToBase64Url bytes) path = .ok bytes :=
  base64UrlToBytes_eq_ok.mpr ⟨h, rfl⟩

theorem bytesToBase64Url_injective : Function.Injective bytesToBase64Url := by
  intro first second h
  rw [← base64UrlBytes_bytesToBase64Url first, ← base64UrlBytes_bytesToBase64Url second]
  exact congrArg base64UrlBytes h

/-! ### Canonical texts -/

/-- The bits after the last byte of sextets, which decoding drops. -/
def trailingBits : List Nat → Nat
  | _ :: _ :: _ :: _ :: rest => trailingBits rest
  | [_, _, c] => c % 4
  | [_, b] => b % 16
  | _ => 0

/-- A canonical text: it is of digits, as many as bytes can have, and its trailing
bits are zero. -/
structure CanonicalBase64Url (text : Text) : Prop where
  nonempty : text ≠ []
  alphabet : ∀ u ∈ text, (sextet u).isSome = true
  length : text.length % 4 ≠ 1
  trailing : trailingBits (text.filterMap sextet) = 0

theorem trailingBits_sextets (bytes : List UInt8) : trailingBits (sextets bytes) = 0 := by
  induction bytes using sextets.induct with
  | case1 x y z rest ih => rw [sextets, trailingBits, ih]
  | case2 x y =>
    show y.toNat % 16 * 4 % 4 = 0
    omega
  | case3 x =>
    show x.toNat % 4 * 16 % 16 = 0
    omega
  | case4 => rfl

/-- **Sextets without trailing bits are those of their bytes.** -/
theorem sextets_decodeSextets {items : List Nat} (hitems : ∀ n ∈ items, n < 64)
    (hlength : items.length % 4 ≠ 1) (htrailing : trailingBits items = 0) :
    sextets (decodeSextets items) = items := by
  have hbyte : ∀ {n : Nat}, n < 256 → (UInt8.ofNat n).toNat = n := by
    intro n hn
    rw [UInt8.toNat_ofNat', Nat.mod_eq_of_lt hn]
  induction items using Relay.decodeSextets.induct with
  | case1 a b c d rest ih =>
    simp only [List.forall_mem_cons] at hitems
    obtain ⟨ha, hb, hc, hd, hrest⟩ := hitems
    simp only [List.length_cons] at hlength
    have hrest := ih hrest (by omega) htrailing
    rw [decodeSextets, sextets, hrest, hbyte (by omega), hbyte (by omega), hbyte (by omega)]
    refine List.cons_eq_cons.mpr ⟨by omega, List.cons_eq_cons.mpr ⟨by omega, ?_⟩⟩
    exact List.cons_eq_cons.mpr ⟨by omega, List.cons_eq_cons.mpr ⟨by omega, rfl⟩⟩
  | case2 a b c =>
    simp only [List.forall_mem_cons] at hitems
    obtain ⟨ha, hb, hc, -⟩ := hitems
    have hbits : c % 4 = 0 := htrailing
    rw [decodeSextets, sextets, hbyte (by omega), hbyte (by omega)]
    refine List.cons_eq_cons.mpr ⟨by omega, List.cons_eq_cons.mpr ⟨by omega, ?_⟩⟩
    exact List.cons_eq_cons.mpr ⟨by omega, rfl⟩
  | case3 a b =>
    simp only [List.forall_mem_cons] at hitems
    obtain ⟨ha, hb, -⟩ := hitems
    have hbits : b % 16 = 0 := htrailing
    rw [decodeSextets, sextets, hbyte (by omega)]
    exact List.cons_eq_cons.mpr ⟨by omega, List.cons_eq_cons.mpr ⟨by omega, rfl⟩⟩
  | case4 items hfour hthree htwo =>
    rcases items with - | ⟨a, - | ⟨b, - | ⟨c, - | ⟨d, rest⟩⟩⟩⟩
    · rfl
    · exact absurd rfl hlength
    · exact absurd rfl (htwo a b)
    · exact absurd rfl (hthree a b c)
    · exact absurd rfl (hfour a b c d rest)

/-- The canonical texts are those of bytes. -/
theorem canonicalBase64Url_iff {text : Text} :
    CanonicalBase64Url text ↔ ∃ bytes ≠ [], text = bytesToBase64Url bytes := by
  constructor
  · rintro ⟨hne, halphabet, hlength, htrailing⟩
    obtain ⟨items, hitems, htext, hfilter⟩ := exists_sextets (List.all_eq_true.mpr halphabet)
    have hcount : items.length % 4 ≠ 1 := by
      rwa [htext, List.length_map] at hlength
    have hback := sextets_decodeSextets hitems hcount (hfilter ▸ htrailing)
    refine ⟨decodeSextets items, ?_, ?_⟩
    · intro hnil
      rw [hnil] at hback
      exact hne (htext.trans (congrArg (List.map sextetText) hback.symm))
    · rw [bytesToBase64Url_eq, encodeBase64Url_eq, hback, ← htext]
  · rintro ⟨bytes, hne, rfl⟩
    have hpattern := isBase64Url_encode hne
    rw [isBase64Url, Bool.and_eq_true, decide_eq_true_eq, List.all_eq_true] at hpattern
    rw [bytesToBase64Url_eq]
    refine ⟨hpattern.1, hpattern.2, ?_, ?_⟩
    · rw [length_encodeBase64Url]
      omega
    · rw [encodeBase64Url_eq, filterMap_sextetText (sextets_lt bytes), trailingBits_sextets]

/-- **The base64url codec**: what is written is read back, what is read is
canonical, and no other text is accepted. -/
theorem base64Url_codec :
    (∀ bytes ≠ [], ∀ path, base64UrlToBytes (bytesToBase64Url bytes) path = .ok bytes) ∧
    (∀ text path bytes, base64UrlToBytes text path = .ok bytes → bytesToBase64Url bytes = text) ∧
    (∀ text, CanonicalBase64Url text ↔ ∃ bytes ≠ [], text = bytesToBase64Url bytes) ∧
    ∀ text path, ¬CanonicalBase64Url text → ∃ error, base64UrlToBytes text path = .error error := by
  refine ⟨fun bytes hne path => base64UrlToBytes_bytesToBase64Url hne path,
    fun text path bytes h => (base64UrlToBytes_eq_ok.mp h).2.symm,
    fun text => canonicalBase64Url_iff, ?_⟩
  intro text path hcanonical
  cases hread : base64UrlToBytes text path with
  | error e => exact ⟨e, rfl⟩
  | ok bytes =>
    obtain ⟨hne, htext⟩ := base64UrlToBytes_eq_ok.mp hread
    exact absurd (canonicalBase64Url_iff.mpr ⟨bytes, hne, htext⟩) hcanonical

theorem base64Url_codec_bytes : base64UrlToBytes (ascii "__8") "value" = .ok [255, 255] ∧
    ∃ error, base64UrlToBytes (ascii "__9") "value" = .error error := by
  obtain ⟨hback, -, -, hrejected⟩ := base64Url_codec
  refine ⟨hback [255, 255] (by decide) "value", hrejected (ascii "__9") "value" ?_⟩
  intro h
  exact absurd h.trailing (by decide)

/-! ### Visible texts -/

theorem sextetText_visible {n : Nat} (h : n < 64) : isVisible [sextetText n] = true := by
  have hall : ∀ m < 64, isVisible [sextetText m] = true := by decide
  exact hall n h

theorem bytesToBase64Url_visible (bytes : List UInt8) :
    isVisible (bytesToBase64Url bytes) = true := by
  rw [isVisible_iff]
  intro u hu
  rw [bytesToBase64Url_eq, encodeBase64Url_eq] at hu
  obtain ⟨n, hn, rfl⟩ := List.mem_map.mp hu
  exact isVisible_iff.mp (sextetText_visible (sextets_lt bytes n hn)) _ List.mem_cons_self

/-! ### UTF-8 -/

/-- **Well-formed texts are read back** unless they start with a byte order
mark. -/
theorem utf8Text_utf8Bytes {text : Text} (h : Utf8.WellFormed text)
    (hmark : text.head? ≠ some 0xFEFF) : utf8Text (utf8Bytes text) = some text := by
  rw [utf8Text, utf8Bytes, Utf8.decode_encode h, Option.map_some, if_neg hmark]

end SubmittedIt.Protocol
