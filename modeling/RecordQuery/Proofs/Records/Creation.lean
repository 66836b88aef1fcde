import RecordQuery.Proofs.Records.WriteByKey

/-!
# Creating records

Records that are to be created are sent in one array, whether the caller has one of them or several,
and nothing is sent if there are none. The reply is what the caller of several gets. The caller of one
gets the first item of it, if it is an array that has one: so against a remote side that sends back
what it is sent, everybody gets back what they gave.

## Main statements

* `Listing.rowsOfResponse_body`: the records are read back from the body they are sent in.
* `createRecords_eq_ask`: a creation is one call, unless there is nothing to create.
* `run_createRecords`, `run_insertRecords`, `run_insertRecord`: the runs of creations.
* `records_created`: all together, with what the two kinds of insertion make of it.
-/

namespace RecordQuery

/-! ## The body and the answer -/

/-- Rows in an array are read back one by one, whatever their columns are called: only an object is
looked into for a list. -/
theorem Listing.rowsOfResponse_body (records : NewRecords) :
    rowsOfResponse records.body = records.rows := by
  show (records.rows.map Row.toJson).filterMap Row.ofJson? = records.rows
  rw [List.filterMap_map]
  have hread : Row.ofJson? ∘ Row.toJson = some := funext Row.ofJson?_toJson
  rw [hread, List.filterMap_some]

/-- What the caller gets for a reply to the creation. -/
def NewRecords.answer (records : NewRecords) (reply : Reply) : Reply :=
  reply.map fun response => if records.isOne then response.firstOrSelf else response

theorem NewRecords.answer_many (rows : List Row) (reply : Reply) :
    (many rows).answer reply = reply := by
  cases reply <;> rfl

theorem createRecords_eq_ask (table : String) {records : NewRecords} (h : records.isEmpty = false) :
    createRecords table records
      = .ask (.create table records.body) fun reply => .finish (records.answer reply) := by
  unfold createRecords
  rw [if_neg (by simp [h])]
  exact Operation.request_bind_pure _ _

/-! ## What becomes of new records -/

/-- A remote side that answers a creation by what it was sent. -/
def Responder.Echoes {σ : Type} (respond : Responder σ) : Prop :=
  ∀ state table payload, (respond state (.create table payload)).1 = .ok payload

section Creation

variable {σ : Type} (respond : Responder σ) (state : σ) (table : String)

theorem run_createRecords {records : NewRecords} (h : records.isEmpty = false) :
    (createRecords table records).run respond state
      = ⟨records.answer (respond state (.create table records.body)).1,
          [.create table records.body], (respond state (.create table records.body)).2⟩ := by
  rw [createRecords_eq_ask table h]
  rfl

theorem run_createRecords_none :
    (createRecords table (.many [])).run respond state = ⟨.ok (.array []), [], state⟩ := rfl

theorem run_insertRecords (records : NewRecords) :
    (insertRecords table records).run respond state
      = ⟨((createRecords table records).run respond state).result.map fun _ => true,
          ((createRecords table records).run respond state).calls,
          ((createRecords table records).run respond state).state⟩ := by
  unfold insertRecords
  exact Operation.run_bind_pure respond state _ _

theorem run_insertRecord (row : Row) :
    (insertRecord table row).run respond state
      = ⟨((createRecords table (.one row)).run respond state).result.map fun created =>
            (Row.ofJson? created).bind Row.id?,
          ((createRecords table (.one row)).run respond state).calls,
          ((createRecords table (.one row)).run respond state).state⟩ := by
  unfold insertRecord
  exact Operation.run_bind_pure respond state _ _

variable {respond}

theorem createRecords_one_of_echoes (h : respond.Echoes) (row : Row) :
    ((createRecords table (.one row)).run respond state).result = .ok row.toJson := by
  rw [run_createRecords respond state table rfl, h]
  rfl

theorem createRecords_many_of_echoes (h : respond.Echoes) (rows : List Row) :
    ((createRecords table (.many rows)).run respond state).result
      = .ok (NewRecords.body (.many rows)) := by
  cases rows with
  | nil => rfl
  | cons row rest =>
    rw [run_createRecords respond state table rfl, h]
    rfl

variable (respond)

/-- Nothing is sent if there are no records to create. Otherwise they are sent in one array, from
which they are read back in their order. One record comes back as the first item of the reply,
several as the reply. An insertion makes the same call and succeeds iff the creation does, and an
insertion of one record gives the key of what was created, if that is an object. -/
theorem records_created (records : NewRecords) :
    let created := (createRecords table records).run respond state
    let inserted := (insertRecords table records).run respond state
    (records = .many [] → created = ⟨.ok (.array []), [], state⟩)
    ∧ (records ≠ .many [] → ∃ (items : List Json) (result : Reply),
        let call := Call.create table (.array items)
        created = ⟨result, [call], (respond state call).2⟩
        ∧ Listing.rowsOfResponse (.array items) = records.rows ∧ items.length = records.size
        ∧ (∀ row, records = .one row → Reply.Unwraps (respond state call).1 result)
        ∧ ∀ rows, records = .many rows → result = (respond state call).1)
    ∧ (respond.Echoes →
        (∀ row, records = .one row → created.result = .ok row.toJson)
        ∧ ∀ rows, records = .many rows → ∃ items,
          created.result = .ok (.array items) ∧ Listing.rowsOfResponse (.array items) = rows)
    ∧ (inserted.calls = created.calls ∧ inserted.state = created.state
        ∧ (inserted.result = .ok true ↔ ∃ json, created.result = .ok json)
        ∧ ∀ e, inserted.result = .error e ↔ created.result = .error e)
    ∧ ∀ row, records = .one row →
        let keyed := (insertRecord table row).run respond state
        keyed.calls = created.calls ∧ keyed.state = created.state
        ∧ (∀ fields, created.result = .ok (.object fields) → keyed.result = .ok (Row.id? ⟨fields⟩))
        ∧ (∀ json, created.result = .ok json → (∀ fields, json ≠ .object fields) →
            keyed.result = .ok none)
        ∧ ∀ e, created.result = .error e → keyed.result = .error e := by
  intro created inserted
  have hinserted : inserted = ⟨created.result.map fun _ => true, created.calls, created.state⟩ :=
    run_insertRecords respond state table records
  refine ⟨?_, ?_, ?_, ⟨?_, ?_, ?_, ?_⟩, ?_⟩
  · rintro rfl
    exact run_createRecords_none respond state table
  · intro hsome
    have hempty : records.isEmpty = false := by
      rw [← Bool.not_eq_true, NewRecords.isEmpty_iff]
      exact hsome
    -- The body does not depend on whether one record was given or several; the answer does.
    refine ⟨records.rows.map Row.toJson, _, run_createRecords respond state table hempty,
      Listing.rowsOfResponse_body records, List.length_map _, ?_, ?_⟩
    · rintro row rfl
      exact Reply.unwraps_map_firstOrSelf _
    · rintro rows rfl
      exact NewRecords.answer_many rows _
  · intro hechoes
    refine ⟨?_, ?_⟩
    · rintro row rfl
      exact createRecords_one_of_echoes state table hechoes row
    · rintro rows rfl
      exact ⟨rows.map Row.toJson, createRecords_many_of_echoes state table hechoes rows,
        Listing.rowsOfResponse_body (.many rows)⟩
  · rw [hinserted]
  · rw [hinserted]
  · rw [hinserted]
    cases created.result <;> simp [Except.map]
  · intro e
    rw [hinserted]
    cases created.result <;> simp [Except.map]
  · rintro row rfl keyed
    have hkeyed : keyed = ⟨created.result.map fun json => (Row.ofJson? json).bind Row.id?,
        created.calls, created.state⟩ :=
      run_insertRecord respond state table row
    refine ⟨congrArg Run.calls hkeyed, congrArg Run.state hkeyed, ?_, ?_, ?_⟩
    · intro fields hobject
      rw [hkeyed, hobject]
      rfl
    · intro json hjson hother
      rw [hkeyed, hjson]
      cases json with
      | object fields => exact absurd rfl (hother fields)
      | _ => rfl
    · intro e herror
      rw [hkeyed, herror]
      rfl

end Creation

/-- A column called `list` is a column like any other, also in a record that comes back. -/
theorem records_created_echoed :
    let respond : Responder Unit := fun state call =>
      match call with
      | .create _ payload => (.ok payload, state)
      | _ => (.ok .null, state)
    let fields : Fields :=
      .ofPairs [("Id", .null), ("_id", .string "a"), ("list", .array [.object .empty])]
    let records := NewRecords.one ⟨fields⟩
    records ≠ .many [] ∧ respond.Echoes
      ∧ ((createRecords "leads" records).run respond ()).result = .ok (.object fields)
      ∧ ((insertRecords "leads" records).run respond ()).result = .ok true
      ∧ ((insertRecord "leads" ⟨fields⟩).run respond ()).result = .ok (some (.text "a")) := by
  intro respond fields records
  have hechoes : respond.Echoes := fun _ _ _ => rfl
  obtain ⟨-, -, hback, ⟨-, -, hinserted, -⟩, hone⟩ := records_created respond () "leads" records
  obtain ⟨-, -, hkey, -, -⟩ := hone ⟨fields⟩ rfl
  have hcreated := (hback hechoes).1 ⟨fields⟩ rfl
  exact ⟨nofun, hechoes, hcreated, hinserted.mpr ⟨_, hcreated⟩, hkey fields hcreated⟩

end RecordQuery
