import RecordQuery.Proofs.Records.Creation

/-!
# Writes by the key that a record was assigned

A record that was created comes back with its key, and later writes find the record by it. On the
way the key is a scalar: it is read off the answer, given to a deletion or asked for by a query, and
written into the body of the write. Texts, booleans and numbers come out of this as they went in,
but for the integers above all signed words: there the key is a double-precision number close by.

## Main statements

* `Row.id?_of_firstKey`: the key that is read off a record.
* `Scalar.toJson_ofJson_eq_iff`: which values are sent as they came.
* `run_insertRecord_of_reply`: the creation of a record is one call.
* `Scalar.sentAs_toJson`: what the writes by a key send.
* `writes_by_assigned_key`: all together.
-/

namespace RecordQuery

/-- The value is the first one that is not null under the names of a primary key. -/
def Row.FirstKey (row : Row) (value : Json) : Prop :=
  value ≠ .null ∧ ∃ before name after, ["Id", "id", "_id"] = before ++ name :: after
    ∧ row.get? name = some value
    ∧ ∀ other ∈ before, row.get? other = none ∨ row.get? other = some .null

theorem Row.id?_of_firstKey {row : Row} {value : Json} (h : row.FirstKey value) :
    row.id? = some (Scalar.ofJson value) := by
  obtain ⟨hnull, before, name, after, hnames, hget, hbefore⟩ := h
  have hskipped : ((before.filterMap row.get?).find? fun value => !value.isNull) = none := by
    rw [List.find?_eq_none]
    intro passed hpassed
    obtain ⟨other, hother, hvalue⟩ := List.mem_filterMap.mp hpassed
    rcases hbefore other hother with hmissing | hothernull
    · rw [hmissing] at hvalue
      cases hvalue
    · rw [hothernull] at hvalue
      cases hvalue
      decide
  have hfound : (!value.isNull) = true := by
    cases value <;> first | rfl | exact absurd rfl hnull
  show ((["Id", "id", "_id"].filterMap row.get?).find? fun value => !value.isNull).map _ = _
  rw [hnames, List.filterMap_append, List.find?_append, hskipped, Option.none_or,
    List.filterMap_cons, hget]
  simp only [List.find?_cons, hfound, Option.map_some]

namespace Json

/-- A value that can be the key of a record: a number, a boolean or a text that is not empty. -/
inductive IsKey : Json → Prop
  | number (n : Json.Number) : IsKey (.number n)
  | bool (b : Bool) : IsKey (.bool b)
  | text {s : String} (h : s ≠ "") : IsKey (.string s)

/-- An integer above all signed words. -/
def ExceedsSigned : Json → Prop
  | .number (.int n _) => 0x8000000000000000 ≤ n
  | _ => False

/-- An answer begins with a record if it is the record or an array with the record in front. -/
inductive BeginsWith (record : Row) : Json → Prop
  | itself : BeginsWith record record.toJson
  | inFront (rest : List Json) : BeginsWith record (.array (record.toJson :: rest))

theorem firstOrSelf_of_beginsWith {record : Row} {response : Json}
    (h : response.BeginsWith record) : response.firstOrSelf = record.toJson := by
  cases h <;> rfl

end Json

namespace Scalar

/-! ## The scalar of a key -/

variable {value : Json}

theorem isBlank_ofJson (h : value.IsKey) : (ofJson value).isBlank = false := by
  cases h with
  | number n =>
    cases n with
    | int n range =>
      rw [ofJson, ofNumber]
      split <;> rfl
    | float x finite => rfl
  | bool b => rfl
  | text h => simpa [ofJson, isBlank] using h

/-- A key is sent as it came iff a scalar has room for it. -/
theorem toJson_ofJson_eq_iff (h : value.IsKey) :
    (ofJson value).toJson = value ↔ ¬ value.ExceedsSigned := by
  cases h with
  | number n =>
    cases n with
    | int n range =>
      show _ ↔ ¬ 0x8000000000000000 ≤ n
      by_cases hwide : 0x8000000000000000 ≤ n
      · obtain ⟨x, finite, hfloat, -⟩ := toJson_ofNumber_of_wide range hwide
        refine iff_of_false ?_ (not_not_intro hwide)
        rw [ofJson, hfloat]
        intro hsame
        cases hsame
      · exact iff_of_true (toJson_ofNumber_of_signed range (Int.not_le.mp hwide)) hwide
    | float x finite => exact iff_of_true (toJson_ofNumber_float finite) id
  | bool b => exact iff_of_true rfl id
  | text h => exact iff_of_true rfl id

/-! ## What the writes by a key send -/

/-- Every write by a key has a value for it under `Id`. A deletion by the key sends nothing else. An
update on a query for the key, with no other key asked for in front, sends its fields and the value
in place of whatever they have there. -/
structure SentAs (key : Scalar) (sent : Json) : Prop where
  delete (q : Query) {σ : Type} (respond : Responder σ) (state : σ) :
    ((q.delete (some key)).run respond state).calls
      = [.delete q.table (.array [.object (.ofPairs [("Id", sent)])])]
  update (table : String) {before : List QueryStep}
    (hbefore : ((QueryDraft.ofTable table).run before).build.key? = none)
    (after : List QueryStep) (fields : Row) {σ : Type} (respond : Responder σ) (state : σ) :
    let q := ((QueryDraft.ofTable table).run (before ++ .condition (.whereId key) :: after)).build
    ∃ written : Row, ((q.update fields).run respond state).calls
        = [.update table (.array [written.toJson])]
      ∧ written.KeyedAs fields sent

theorem sentAs_toJson {key : Scalar} (hkey : key.isBlank = false) : key.SentAs key.toJson where
  delete q σ respond state := by
    rw [Query.calls_delete, Query.deletionKey?_of_given q hkey]
    rfl
  update table before hbefore after fields σ respond state := by
    intro q
    have hsettled : q.key? = some key := Query.key?_build_run_whereId table hbefore hkey after
    have htable : q.table = table := QueryDraft.table_run (QueryDraft.ofTable table) _
    refine ⟨fields.insert primaryKey key.toJson, ?_, Row.keyedAs_insert fields key.toJson⟩
    rw [Query.calls_update, hsettled, htable]
    rfl

end Scalar

/-! ## The creation and the writes behind it -/

section Creation

variable {σ : Type} (respond : Responder σ) (state : σ) (table : String) (row : Row)
variable {response : Json}

/-- A record is created by one call, and its key is that of the first record of the answer. -/
theorem run_insertRecord_of_reply
    (hreply : (respond state (.create table (.array [row.toJson]))).1 = .ok response) :
    (insertRecord table row).run respond state
      = ⟨.ok ((Row.ofJson? response.firstOrSelf).bind Row.id?),
          [.create table (.array [row.toJson])],
          (respond state (.create table (.array [row.toJson]))).2⟩ := by
  have hempty : (NewRecords.one row).isEmpty = false := rfl
  rw [run_insertRecord, run_createRecords respond state table hempty]
  show Run.mk (((respond state (.create table (.array [row.toJson]))).1.map Json.firstOrSelf).map _)
    _ _ = _
  rw [hreply]
  rfl

/-- A record is created, and the answer begins with a record whose first key is a number, a boolean
or a text that is not empty. Then the caller gets a key, and all writes by it send one value under
`Id`. This is the value from the answer unless that is an integer above all signed words, for which
there is only a double-precision number close by. -/
theorem writes_by_assigned_key {record : Row} {value : Json}
    (hreply : (respond state (.create table (.array [row.toJson]))).1 = .ok response)
    (hresponse : response.BeginsWith record) (hfirst : record.FirstKey value)
    (hkey : value.IsKey) :
    ∃ (key : Scalar) (sent : Json),
      ((insertRecord table row).run respond state).result = .ok (some key)
      ∧ key.SentAs sent
      ∧ (sent = value ↔ ¬ value.ExceedsSigned)
      ∧ ∀ n range, value = .number (.int n range) → 0x8000000000000000 ≤ n →
          ∃ x finite, sent = .number (.float x finite) ∧ x.IsNear n := by
  refine ⟨Scalar.ofJson value, (Scalar.ofJson value).toJson, ?_,
    Scalar.sentAs_toJson (Scalar.isBlank_ofJson hkey), Scalar.toJson_ofJson_eq_iff hkey, ?_⟩
  · rw [run_insertRecord_of_reply respond state table row hreply,
      Json.firstOrSelf_of_beginsWith hresponse, Row.ofJson?_toJson, Option.bind_some,
      Row.id?_of_firstKey hfirst]
  · rintro n range rfl hwide
    exact Scalar.toJson_ofNumber_of_wide range hwide

end Creation

/-- The largest key of a signed word, behind a null and in front of another key. -/
theorem writes_by_assigned_key_largest :
    let largest : Json := .number (.int 9223372036854775807 (by decide))
    let record : Row := ⟨.ofPairs [("Id", .null), ("_id", .string "other"), ("id", largest)]⟩
    let respond : Responder Unit := fun state _ => (.ok (.array [record.toJson, .null]), state)
    let key : Scalar := .int 9223372036854775807
    record.FirstKey largest ∧ largest.IsKey
      ∧ ((insertRecord "leads" .empty).run respond ()).result = .ok (some key)
      ∧ key.SentAs largest := by
  intro largest record respond key
  have hfirst : record.FirstKey largest := by
    refine ⟨nofun, ["Id"], "id", ["_id"], rfl, rfl, ?_⟩
    intro other hother
    exact .inr (List.mem_singleton.mp hother ▸ rfl)
  have hkey : largest.IsKey := .number _
  have hsigned : ¬ largest.ExceedsSigned :=
    show ¬ (0x8000000000000000 : Int) ≤ 9223372036854775807 by decide
  obtain ⟨found, sent, hresult, hsent, hsame, -⟩ :=
    writes_by_assigned_key respond () "leads" .empty rfl (.inFront [.null]) hfirst hkey
  obtain rfl : key = found := Option.some.inj (Except.ok.inj hresult)
  exact ⟨hfirst, hkey, hresult, hsame.mpr hsigned ▸ hsent⟩

/-- The key `2 ^ 63 + 1` takes all bits of an unsigned word. A deletion is sent with `2 ^ 63`. -/
theorem writes_by_wide_key_miss :
    let wide : Json := .number (.int 9223372036854775809 (by decide))
    let record : Row := ⟨.ofPairs [("Id", wide)]⟩
    let respond : Responder Unit := fun state _ => (.ok (.array [record.toJson]), state)
    record.FirstKey wide ∧ wide.IsKey
      ∧ ∃ (key : Scalar) (sent : Json),
        ((insertRecord "leads" .empty).run respond ()).result = .ok (some key)
        ∧ ((({ table := "leads" } : Query).delete (some key)).run respond ()).calls
          = [.delete "leads" (.array [.object (.ofPairs [("Id", sent)])])]
        ∧ sent ≠ wide := by
  intro wide record respond
  have hfirst : record.FirstKey wide := ⟨nofun, [], "Id", ["id", "_id"], rfl, rfl, nofun⟩
  have hkey : Scalar.ofJson wide = .float ⟨0x43E0000000000000⟩ := by decide +kernel
  refine ⟨hfirst, .number _, .float ⟨0x43E0000000000000⟩,
    .number (.float ⟨0x43E0000000000000⟩ (by decide)), ?_, rfl, ?_⟩
  · show Except.ok (some (Scalar.ofJson wide)) = _
    rw [hkey]
  · show _ ≠ Json.number (.int _ _)
    nofun

end RecordQuery
