/-
SubmittedIt/JsonValues.lean

The values that JSON texts denote: library, independent of the model.

`IsJson` says that a JavaScript value is made of what JSON has, and that no
object has a name twice.

Main result: `isJson_of_parse`.
-/
import SubmittedIt.JsValue

namespace JsValue

/-! ### Values -/

mutual

/-- A JSON value: no object has a name twice. -/
def IsJson : JsValue → Prop
  | .undefined | .other _ => False
  | .null | .boolean _ | .number _ | .string _ => True
  | .array items => ItemsJson items
  | .object members => (members.map (·.1)).Nodup ∧ MembersJson members

def ItemsJson : List JsValue → Prop
  | [] => True
  | v :: rest => IsJson v ∧ ItemsJson rest

def MembersJson : List (List UInt16 × JsValue) → Prop
  | [] => True
  | m :: rest => IsJson m.2 ∧ MembersJson rest

end

theorem membersJson_iff {members : List (List UInt16 × JsValue)} :
    MembersJson members ↔ ∀ m ∈ members, IsJson m.2 := by
  induction members with
  | nil => exact ⟨fun _ _ h => absurd h List.not_mem_nil, fun _ => trivial⟩
  | cons m rest ih =>
    rw [MembersJson, ih, List.forall_mem_cons]

/-- Assigning a property keeps the names different. -/
theorem assign_spec {α : Type} {key : List UInt16} {value : α}
    {members : List (List UInt16 × α)} (h : (members.map (·.1)).Nodup) :
    ((assign key value members).map (·.1)).Nodup ∧
      (∀ name, name ∈ (assign key value members).map (·.1) →
        name = key ∨ name ∈ members.map (·.1)) ∧
      ∀ m ∈ assign key value members, m.2 = value ∨ m ∈ members := by
  induction members with
  | nil => simp [assign]
  | cons first rest ih =>
    obtain ⟨k, v⟩ := first
    rw [List.map_cons, List.nodup_cons] at h
    obtain ⟨hnodup, hnames, hvalues⟩ := ih h.2
    unfold assign
    split
    · next hkey =>
      refine ⟨?_, ?_, ?_⟩
      · exact List.nodup_cons.mpr h
      · exact fun name hname => .inr hname
      · intro m hm
        rcases List.mem_cons.mp hm with rfl | hm
        · exact .inl rfl
        · exact .inr (List.mem_cons_of_mem _ hm)
    · next hkey =>
      refine ⟨?_, ?_, ?_⟩
      · rw [List.map_cons, List.nodup_cons]
        refine ⟨fun hk => ?_, hnodup⟩
        rcases hnames k hk with hk | hk
        · exact hkey hk
        · exact h.1 hk
      · intro name hname
        rw [List.map_cons, List.mem_cons] at hname ⊢
        rcases hname with hname | hname
        · exact .inr (.inl hname)
        · exact (hnames name hname).imp_right .inr
      · intro m hm
        rcases List.mem_cons.mp hm with rfl | hm
        · exact .inr List.mem_cons_self
        · exact (hvalues m hm).imp_right (List.mem_cons_of_mem _)

/-- The object of entries has their values, under different names. -/
theorem ofEntries_spec {α : Type} (entries : List (List UInt16 × α)) :
    ((ofEntries entries).map (·.1)).Nodup ∧
      ∀ m ∈ ofEntries entries, ∃ entry ∈ entries, entry.2 = m.2 := by
  have hfold : ∀ (entries members : List (List UInt16 × α)), (members.map (·.1)).Nodup →
      ((entries.foldl (fun members entry => assign entry.1 entry.2 members) members).map
        (·.1)).Nodup ∧
      ∀ m ∈ entries.foldl (fun members entry => assign entry.1 entry.2 members) members,
        m ∈ members ∨ ∃ entry ∈ entries, entry.2 = m.2 := by
    intro entries
    induction entries with
    | nil => exact fun members h => ⟨h, fun m hm => .inl hm⟩
    | cons entry rest ih =>
      intro members h
      have hassign := @assign_spec α entry.1 entry.2 members h
      obtain ⟨hnodup, -, hvalues⟩ := hassign
      obtain ⟨hnodup', hvalues'⟩ := ih _ hnodup
      refine ⟨hnodup', fun m hm => ?_⟩
      rcases hvalues' m hm with hm | ⟨e, he, hem⟩
      · rcases hvalues m hm with hm | hm
        · exact .inr ⟨entry, List.mem_cons_self, hm.symm⟩
        · exact .inl hm
      · exact .inr ⟨e, List.mem_cons_of_mem _ he, hem⟩
  obtain ⟨hnodup, hvalues⟩ := hfold entries [] List.nodup_nil
  have hperm := perm_ownProperties
    (entries.foldl (fun members entry => assign entry.1 entry.2 members) [])
  constructor
  · exact (hperm.map (·.1)).nodup_iff.mpr hnodup
  · intro m hm
    rcases hvalues m (hperm.mem_iff.mp hm) with hm | hm
    · cases hm
    · exact hm

/-! ### JSON.parse -/

theorem isJson_readWord {word : List UInt16} {value v : JsValue} {text rest : List UInt16}
    (hvalue : IsJson value) (h : readWord word value text = some (v, rest)) : IsJson v := by
  unfold readWord at h
  split at h
  · cases h
    exact hvalue
  · cases h

/-- What is read is a JSON value, by the steps that are left. -/
theorem isJson_of_read (fuel : Nat) :
    (∀ text v rest, readValue fuel text = some (v, rest) → IsJson v) ∧
      (∀ text vs rest, readItems fuel text = some (vs, rest) → ItemsJson vs) ∧
      (∀ text m rest, readMember fuel text = some (m, rest) → IsJson m.2) ∧
      ∀ text ms rest, readMembers fuel text = some (ms, rest) → MembersJson ms := by
  induction fuel with
  | zero => exact ⟨nofun, nofun, nofun, nofun⟩
  | succ fuel ih =>
    obtain ⟨ihValue, ihItems, ihMember, ihMembers⟩ := ih
    refine ⟨fun text v rest h => ?_, fun text vs rest h => ?_, fun text m rest h => ?_,
      fun text ms rest h => ?_⟩
    · rw [readValue] at h
      split at h
      · cases h
      · simp only [Option.bind_eq_bind] at h
        split_ifs at h
        · exact isJson_readWord (show IsJson .null from trivial) h
        · exact isJson_readWord (show IsJson (.boolean true) from trivial) h
        · exact isJson_readWord (show IsJson (.boolean false) from trivial) h
        · obtain ⟨r, -, h⟩ := Option.map_eq_some_iff.mp h
          cases h
          exact trivial
        · cases h
          exact trivial
        · obtain ⟨⟨w, _⟩, hw, h⟩ := Option.bind_eq_some_iff.mp h
          obtain ⟨⟨ws, _⟩, hws, h⟩ := Option.bind_eq_some_iff.mp h
          cases h
          exact ⟨ihValue _ _ _ hw, ihItems _ _ _ hws⟩
        · cases h
          exact ⟨List.nodup_nil, trivial⟩
        · obtain ⟨⟨m, _⟩, hm, h⟩ := Option.bind_eq_some_iff.mp h
          obtain ⟨⟨ms, _⟩, hms, h⟩ := Option.bind_eq_some_iff.mp h
          cases h
          obtain ⟨hnodup, hvalues⟩ := ofEntries_spec (m :: ms)
          have hentries : MembersJson (m :: ms) := ⟨ihMember _ _ _ hm, ihMembers _ _ _ hms⟩
          refine ⟨hnodup, membersJson_iff.mpr fun n hn => ?_⟩
          obtain ⟨entry, hentry, hvalue⟩ := hvalues n hn
          exact hvalue ▸ membersJson_iff.mp hentries entry hentry
        · obtain ⟨r, -, h⟩ := Option.map_eq_some_iff.mp h
          cases h
          exact trivial
    · rw [readItems] at h
      split at h
      · cases h
      · simp only [Option.bind_eq_bind] at h
        split_ifs at h
        · cases h
          exact trivial
        · obtain ⟨⟨w, _⟩, hw, h⟩ := Option.bind_eq_some_iff.mp h
          obtain ⟨⟨ws, _⟩, hws, h⟩ := Option.bind_eq_some_iff.mp h
          cases h
          exact ⟨ihValue _ _ _ hw, ihItems _ _ _ hws⟩
    · rw [readMember] at h
      split at h
      · cases h
      · simp only [Option.bind_eq_bind] at h
        split_ifs at h
        obtain ⟨⟨key, _⟩, -, h⟩ := Option.bind_eq_some_iff.mp h
        dsimp only at h
        split_ifs at h
        obtain ⟨⟨w, _⟩, hw, h⟩ := Option.bind_eq_some_iff.mp h
        cases h
        exact ihValue _ _ _ hw
    · rw [readMembers] at h
      split at h
      · cases h
      · simp only [Option.bind_eq_bind] at h
        split_ifs at h
        · cases h
          exact trivial
        · obtain ⟨⟨m, _⟩, hm, h⟩ := Option.bind_eq_some_iff.mp h
          obtain ⟨⟨ms, _⟩, hms, h⟩ := Option.bind_eq_some_iff.mp h
          cases h
          exact ⟨ihMember _ _ _ hm, ihMembers _ _ _ hms⟩

/-- **A text denotes a JSON value.** -/
theorem isJson_of_parse {text : List UInt16} {v : JsValue} (h : parse text = some v) :
    IsJson v := by
  unfold parse at h
  split at h
  · next value rest hread =>
    split at h
    · cases h
      exact (isJson_of_read _).1 _ _ _ hread
    · cases h
  · cases h

end JsValue
