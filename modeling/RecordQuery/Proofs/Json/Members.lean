import RecordQuery.Json.Decode
import RecordQuery.Proofs.Outcome

/-!
# Members of an object and what they are decoded to

An object is changed by putting a value under a key and by removing a key; a member under a key
that is not touched stays as it was. A structure is decoded from an object by setting one entry for
each member, so what an entry is after all of them depends on what stands under its name: nothing
and `null` leave it unset, and anything else has to be the encoding of its value.

## Main statements

* `Fields.lookup_editAll_of_ne`: a run of changes and a key that none of them touches.
* `Fields.lookup_editAll_of_spares`: changes that spare the known keys leave what stands there, keys
  that may be missing apart.
* `Decoder.Inverts`: decoders that accept encodings and nothing else.
* `Decoder.optional_eq_ok_iff`, `Decoder.entryOf_lookup_cons_iff`: an entry of a structure, for one
  member and for one more of them.
* `Decoder.foldlM_pairs_eq_ok_iff`: a structure after all of them.
-/

namespace RecordQuery

/-! ## Changes of an object -/

namespace Fields

/-- A change of one member. -/
inductive Edit where
  | put (key : String) (value : Json)
  | remove (key : String)

def Edit.key : Edit → String
  | .put key _ => key
  | .remove key => key

/-- The members after a change. -/
def edit (fields : Fields) : Edit → Fields
  | .put key value => fields.insert key value
  | .remove key => fields.erase key

def editAll (fields : Fields) (edits : List Edit) : Fields := edits.foldl edit fields

theorem lookup_edit_of_ne (fields : Fields) {e : Edit} {key : String} (h : key ≠ e.key) :
    (fields.edit e).lookup key = fields.lookup key := by
  cases e with
  | put changed value => exact Members.lookup_insert_of_ne fields value h
  | remove changed => exact Members.lookup_erase_of_ne fields h

theorem lookup_editAll_of_ne (fields : Fields) {edits : List Edit} {key : String}
    (h : ∀ e ∈ edits, key ≠ e.key) : (fields.editAll edits).lookup key = fields.lookup key := by
  induction edits generalizing fields with
  | nil => rfl
  | cons e rest ih =>
    have hrest := ih (fields.edit e) fun later hlater => h later (List.mem_cons_of_mem _ hlater)
    exact hrest.trans (lookup_edit_of_ne fields (h e List.mem_cons_self))

/-- A single member stands under none of the names that are not its key. -/
theorem lookup_singleton_of_notMem {names : List String} {key : String} (h : key ∉ names)
    (json : Json) : ∀ name ∈ names, List.lookup name [(key, json)] = none := by
  intro name hname
  have hne : (name == key) = false := beq_eq_false_iff_ne.mpr fun heq => h (heq ▸ hname)
  rw [List.lookup_cons, hne, List.lookup_nil]

/-! ## Changes that spare the known keys -/

/-- A change that puts a value under a key that is not known, or removes such a key or one that may
be missing. -/
def Edit.Spares (known : List String) (mayMiss : String → Prop) : Edit → Prop
  | .put key _ => key ∉ known
  | .remove key => key ∈ known → mayMiss key

section Spares

variable {known : List String} {mayMiss : String → Prop} {key : String}

theorem lookup_edit_of_spares (fields : Fields) {e : Edit} (h : e.Spares known mayMiss)
    (hkey : key ∈ known) :
    (fields.edit e).lookup key = fields.lookup key
      ∨ mayMiss key ∧ (fields.edit e).lookup key = none := by
  by_cases hsame : key = e.key
  · cases e with
    | put changed value =>
      obtain rfl : key = changed := hsame
      exact absurd hkey h
    | remove changed =>
      obtain rfl : key = changed := hsame
      exact .inr ⟨h hkey, Members.lookup_erase_self fields key⟩
  · exact .inl (lookup_edit_of_ne fields hsame)

theorem lookup_editAll_of_spares (fields : Fields) {edits : List Edit}
    (h : ∀ e ∈ edits, e.Spares known mayMiss) (hkey : key ∈ known) :
    (fields.editAll edits).lookup key = fields.lookup key
      ∨ mayMiss key ∧ (fields.editAll edits).lookup key = none := by
  induction edits generalizing fields with
  | nil => exact .inl rfl
  | cons e rest ih =>
    have hfirst := lookup_edit_of_spares fields (h e List.mem_cons_self) hkey
    have hlater := ih (fields.edit e) fun later hmem => h later (List.mem_cons_of_mem _ hmem)
    show ((fields.edit e).editAll rest).lookup key = fields.lookup key
      ∨ mayMiss key ∧ ((fields.edit e).editAll rest).lookup key = none
    rcases hlater with hkept | hdropped
    · -- What the first change leaves there is what stands there at the end.
      rwa [hkept]
    · exact .inr hdropped

/-- A key that has to be there keeps its value. -/
theorem lookup_editAll_eq_of_spares (fields : Fields) {edits : List Edit}
    (h : ∀ e ∈ edits, e.Spares known mayMiss) (hkey : key ∈ known) (hmust : ¬ mayMiss key) :
    (fields.editAll edits).lookup key = fields.lookup key :=
  (lookup_editAll_of_spares fields h hkey).resolve_right fun hmiss => hmust hmiss.1

end Spares

end Fields

/-- The value after changes of its members; a value that is no object has none to change. -/
def Json.editAll (json : Json) (edits : List Fields.Edit) : Json :=
  match json with
  | .object fields => .object (Fields.editAll fields edits)
  | other => other

/-! ## Entries of a structure -/

namespace Decoder

/-- The decoder accepts the encodings of values and nothing else. -/
def Inverts (decode : Decoder α) (encode : α → Json) : Prop :=
  ∀ json a, decode json = .ok a ↔ json = encode a

theorem inverts_flag : Inverts flag Json.bool := by
  intro json b
  cases json <;> simp [flag]

theorem inverts_text : Inverts text Json.string := by
  intro json s
  cases json <;> simp [text]

/-- Only an integer is read, and only one within the bound. -/
theorem unsigned_eq_ok_iff {bound n : Nat} {expected : String} {json : Json} :
    unsigned bound expected json = .ok n
      ↔ n < bound ∧ ∃ range, json = .number (.int n range) := by
  constructor
  · intro h
    cases json with
    | number number =>
      cases number with
      | float x finite => cases h
      | int m range =>
        rw [unsigned] at h
        split at h
        · rename_i hm
          obtain rfl : m.toNat = n := Except.ok.inj h
          have hback : (m.toNat : Int) = m := Int.toNat_of_nonneg hm.1
          refine ⟨by omega, hback ▸ range, ?_⟩
          simp only [hback]
        · cases h
    | _ => cases h
  · rintro ⟨hbound, range, rfl⟩
    have hn : (0 : Int) ≤ n ∧ (n : Int) < bound := by omega
    simp only [unsigned, hn, and_self, ↓reduceIte, Int.toNat_natCast]

theorem number_eq_ofUInt64 {n : Nat} (h : n < UInt64.size)
    (range : -0x8000000000000000 ≤ (n : Int) ∧ (n : Int) < 0x10000000000000000) :
    Json.number (.int n range) = Json.ofUInt64 (UInt64.ofNat n) := by
  have hback : (UInt64.ofNat n).toNat = n := UInt64.toNat_ofNat_of_lt' h
  simp only [Json.ofUInt64, hback]

theorem inverts_word64 : Inverts word64 Json.ofUInt64 := by
  intro json n
  refine ⟨fun h => ?_, fun h => h ▸ word64_ofUInt64 n⟩
  obtain ⟨value, hvalue, rfl⟩ := map_eq_ok_iff.mp h
  obtain ⟨hlt, range, rfl⟩ := unsigned_eq_ok_iff.mp hvalue
  exact number_eq_ofUInt64 hlt range

theorem inverts_word32 : Inverts word32 Json.ofUInt32 := by
  intro json n
  refine ⟨fun h => ?_, fun h => h ▸ word32_ofUInt32 n⟩
  obtain ⟨value, hvalue, rfl⟩ := map_eq_ok_iff.mp h
  obtain ⟨hlt, range, rfl⟩ := unsigned_eq_ok_iff.mp hvalue
  have hback : (UInt32.ofNat value).toUInt64.toNat = value := by
    rw [UInt32.toNat_toUInt64, UInt32.toNat_ofNat_of_lt' hlt]
  simp only [Json.ofUInt32, Json.ofUInt64, hback]

theorem item_eq_ok_iff {shape : String} {items : List Json} {index : Nat} {decode : Decoder α}
    {a : α} : item shape items index decode = .ok a
      ↔ ∃ json, items[index]? = some json ∧ decode json = .ok a := by
  rw [item]
  cases items[index]? <;> simp

/-- What a JSON value says about an optional value: `null` that there is none, and anything else
that it is the one encoded there. -/
inductive Holds (encode : α → Json) : Json → Option α → Prop
  | null : Holds encode .null none
  | value (a : α) : Holds encode (encode a) (some a)

/-- An entry of a structure, from what stands under its name. It is left at `unset` if nothing
does. -/
def Entry (encode : α → Json) (unset : Option α) : Option Json → Option α → Prop
  | none, value => value = unset
  | some json, value => Holds encode json value

variable {encode : α → Json} {unset value : Option α} {found : Option Json}

theorem optional_eq_ok_iff {decode : Decoder α} (hinverts : Inverts decode encode)
    (hnull : ∀ a, encode a ≠ .null) (json : Json) :
    optional decode json = .ok value ↔ Holds encode json value := by
  constructor
  · intro h
    rw [optional.eq_def] at h
    split at h
    · obtain rfl : none = value := Except.ok.inj h
      exact .null
    · obtain ⟨a, hread, rfl⟩ := map_eq_ok_iff.mp h
      rw [(hinverts json a).mp hread]
      exact .value a
  · intro h
    cases h with
    | null => rfl
    | value a => exact optional_ofOption (fun a => (hinverts _ a).mpr rfl) hnull (some a)

/-- An entry of any kind: `holds` says what a JSON value under its name says about it. -/
def EntryOf (holds : Json → β → Prop) (unset : β) : Option Json → β → Prop
  | none, value => value = unset
  | some json, value => holds json value

/-- One more member in front of others that do not stand under its key. -/
theorem entryOf_lookup_cons_iff {holds : Json → β → Prop} {unset value : β} {key : String}
    {json : Json} {rest : List (String × Json)} (h : rest.lookup key = none) (name : String) :
    EntryOf holds unset (((key, json) :: rest).lookup name) value
      ↔ ∃ between, EntryOf holds unset ([(key, json)].lookup name) between
        ∧ EntryOf holds between (rest.lookup name) value := by
  by_cases hname : name = key
  · -- It sets the entry, and the others leave it.
    subst hname
    simp only [List.lookup_cons_self, h, EntryOf]
    exact ⟨fun hset => ⟨value, hset, rfl⟩, fun ⟨_, hset, heq⟩ => heq ▸ hset⟩
  · have hne : (name == key) = false := by simpa using hname
    simp only [List.lookup_cons, hne, List.lookup_nil, EntryOf]
    exact ⟨fun hset => ⟨unset, rfl, hset⟩, fun ⟨_, heq, hset⟩ => heq ▸ hset⟩

theorem entry_eq_entryOf (encode : α → Json) : Entry encode = EntryOf (Holds encode) := by
  funext unset found value
  cases found <;> rfl

theorem entry_lookup_cons_iff {key : String} {json : Json} {rest : List (String × Json)}
    (h : rest.lookup key = none) (name : String) :
    Entry encode unset (((key, json) :: rest).lookup name) value
      ↔ ∃ between, Entry encode unset ([(key, json)].lookup name) between
        ∧ Entry encode between (rest.lookup name) value := by
  rw [entry_eq_entryOf]
  exact entryOf_lookup_cons_iff h name

/-- A structure that is filled by one member after the other. `sets` says what pairs under distinct
keys make of its entries: none change nothing, one does what a step does, and one more in front of
others under other keys is set first. -/
theorem foldlM_pairs_eq_ok_iff {σ : Type} {step : σ → String × Json → Except DecodeError σ}
    {sets : List (String × Json) → σ → σ → Prop}
    (hnil : ∀ start last, sets [] start last ↔ last = start)
    (hstep : ∀ start last key json,
      step start (key, json) = .ok last ↔ sets [(key, json)] start last)
    (hcons : ∀ {key : String} {json : Json} {rest : List (String × Json)},
      rest.lookup key = none → ∀ start last, sets ((key, json) :: rest) start last
        ↔ ∃ between, sets [(key, json)] start between ∧ sets rest between last)
    (fields : Fields) (start last : σ) :
    fields.pairs.foldlM step start = .ok last ↔ sets fields.pairs start last := by
  have h := fields.ascending_pairs
  generalize fields.pairs = pairs at h ⊢
  induction pairs generalizing start with
  | nil =>
    rw [hnil]
    exact ⟨fun heq => (Except.ok.inj heq).symm, fun heq => heq ▸ rfl⟩
  | cons member rest ih =>
    obtain ⟨key, json⟩ := member
    have hkey := Members.lookup_eq_none_of_ascending_cons h
    have hrest := (Members.ascending_cons_iff.mp h).2
    rw [List.foldlM_cons, bind_eq_ok_iff, hcons hkey]
    simp only [hstep, fun between => ih between hrest]

/-- What is written for an optional value, or nothing for one that is not set, makes the entry that
value. -/
theorem entry_of_lookup (hfound : found = some (Json.ofOption encode value) ∨
    value = none ∧ found = none) : Entry encode none found value := by
  rcases hfound with rfl | ⟨rfl, rfl⟩
  · cases value with
    | none => exact .null
    | some a => exact .value a
  · rfl

end Decoder

end RecordQuery
