import RecordQuery.Proofs.Records.Pagination
import RecordQuery.Proofs.Records.WriteByKey

/-!
# Why operations fail

An operation fails because a call that it made failed, or because it was to write a record without
a key. What a call answers does not matter otherwise: every answer is worked up to a value. All
operations make one call, but for a page whose size is not known, which takes two, for a write
without a key, and for the creation of no records.

## Main statements

* `Operation.settled_of_asks`: what an operation of one call comes to.
* `Operation.settled_of_joint`: what two of them come to that do not wait for each other.
* `Invocation.settled_of_runs`: the failures and the number of calls of all operations.
-/

namespace RecordQuery

namespace Operation

variable {α β : Type}

/-- An operation of one call, the answer to which it works up whatever it is. -/
def Asks (op : Operation α) : Prop := ∃ call f, op = .ask call fun reply => .finish (reply.map f)

theorem asks_request_bind (call : Call) (f : Json → α) : (do return f (← request call)).Asks :=
  ⟨call, f, request_bind_pure call f⟩

theorem asks_request (call : Call) : (request call).Asks := by
  refine ⟨call, id, ?_⟩
  rw [request]
  congr 1
  funext reply
  cases reply <;> rfl

theorem Asks.bind_pure {op : Operation α} (h : op.Asks) (f : α → β) :
    (op >>= fun a => pure (f a)).Asks := by
  obtain ⟨call, g, rfl⟩ := h
  refine ⟨call, f ∘ g, ?_⟩
  show Operation.ask call _ = _
  congr 1
  funext reply
  cases reply <;> rfl

/-- A way that an operation may go: its calls with their replies, and its result, in a run against
some remote side. -/
def Yields (op : Operation α) (calls : List (Call × Option Reply)) (result : Except Failure α) :
    Prop :=
  ∃ (σ : Type) (respond : Responder σ) (state : σ),
    calls = op.exchanges respond state ∧ result = (op.run respond state).result

/-- What an operation may come to, given whether it lacks a key, whether it has nothing to do, and
how many calls it makes at most. -/
structure Settled (keyless idle : Prop) (limit : Nat) (calls : List (Call × Option Reply))
    (result : Except Failure α) : Prop where
  /-- It fails for want of a key or because a call failed, and for no other reason. -/
  failed_iff : (∃ e, result = .error e) ↔ keyless ∨ ∃ call e, (call, some (.error e)) ∈ calls
  /-- The failure is that of a call as it came, or for want of a key an invalid operation. -/
  failure : ∀ e, result = .error e → (∃ call, (call, some (.error e)) ∈ calls)
    ∨ keyless ∧ ∃ reason, e = .invalidOperation reason
  length_le : calls.length ≤ limit
  /-- There is no call only for want of a key or of something to do. -/
  silent_iff : calls = [] ↔ keyless ∨ idle

section Settled

variable {keyless idle : Prop} {limit : Nat} {calls : List (Call × Option Reply)}

theorem Settled.ok (a : α) (hcalls : ∀ call e, (call, some (.error e)) ∉ calls)
    (hkeyless : ¬ keyless) (hlimit : calls.length ≤ limit) (hidle : calls = [] ↔ idle) :
    Settled keyless idle limit calls (.ok a : Except Failure α) where
  failed_iff := by simp [hcalls, hkeyless]
  failure _ he := by cases he
  length_le := hlimit
  silent_iff := by simp [hidle, hkeyless]

theorem Settled.failed {call : Call} {e : Failure} (hmem : (call, some (.error e)) ∈ calls)
    (hkeyless : ¬ keyless) (hidle : ¬ idle) (hlimit : calls.length ≤ limit) :
    Settled keyless idle limit calls (.error e : Except Failure α) where
  failed_iff := iff_of_true ⟨e, rfl⟩ (.inr ⟨call, e, hmem⟩)
  failure _ he := .inl ⟨call, Except.error.inj he ▸ hmem⟩
  length_le := hlimit
  silent_iff := by simp [List.ne_nil_of_mem hmem, hkeyless, hidle]

theorem settled_of_fail {reason : String} {result : Except Failure α} (hkeyless : keyless)
    (h : (fail (.invalidOperation reason) : Operation α).Yields calls result) :
    Settled keyless idle limit calls result := by
  obtain ⟨σ, respond, state, rfl, rfl⟩ := h
  exact {
    failed_iff := iff_of_true ⟨_, rfl⟩ (.inl hkeyless)
    failure := fun e he => .inr ⟨hkeyless, reason, (Except.error.inj he).symm⟩
    length_le := Nat.zero_le _
    silent_iff := iff_of_true rfl (.inl hkeyless) }

theorem settled_of_pure {a : α} {result : Except Failure α} (hkeyless : ¬ keyless) (hidle : idle)
    (h : (pure a : Operation α).Yields calls result) :
    Settled keyless idle limit calls result := by
  obtain ⟨σ, respond, state, rfl, rfl⟩ := h
  exact .ok a (fun _ _ => List.not_mem_nil) hkeyless (Nat.zero_le _) (iff_of_true rfl hidle)

theorem settled_of_asks {op : Operation α} {result : Except Failure α} (hasks : op.Asks)
    (hkeyless : ¬ keyless) (hidle : ¬ idle) (h : op.Yields calls result) :
    Settled keyless idle 1 calls result := by
  obtain ⟨call, f, rfl⟩ := hasks
  obtain ⟨σ, respond, state, rfl, rfl⟩ := h
  -- The one call and its result are both told by the reply.
  show Settled keyless idle 1 [(call, some (respond state call).1)] ((respond state call).1.map f)
  cases (respond state call).1 with
  | error e => exact .failed List.mem_cons_self hkeyless hidle (Nat.le_refl _)
  | ok json => exact .ok (f json) (by simp) hkeyless (Nat.le_refl _) (by simp [hidle])

/-- Two operations of one call each that are carried out jointly. -/
theorem settled_of_joint {γ : Type} {left : Operation α} {right : Operation β}
    {read : Except Failure (α × β)} (hleft : left.Asks) (hright : right.Asks)
    (hkeyless : ¬ keyless) (hidle : ¬ idle) (h : left.Joint right calls read) (f : α × β → γ) :
    Settled keyless idle 2 calls (read.map f) := by
  obtain ⟨first, g, rfl⟩ := hleft
  obtain ⟨second, k, rfl⟩ := hright
  rcases settledAsks_of_joint h with ⟨a, b, hcalls, rfl⟩ | ⟨call, e, hmem, rfl, hcalls⟩
  · have hlength : calls.length = 2 := hcalls.length_eq
    refine .ok (f (g a, k b)) (fun call e hmem => ?_) hkeyless (Nat.le_of_eq hlength) ?_
    · simpa using hcalls.mem_iff.mp hmem
    · exact iff_of_false (fun hnil => by simp [hnil] at hlength) hidle
  · have hlimit : (calls.map Prod.fst).length ≤ 2 := hcalls.length_le
    rw [List.length_map] at hlimit
    exact .failed hmem hkeyless hidle hlimit

end Settled

end Operation

/-! ## The operations -/

theorem asks_createRecords (table : String) {records : NewRecords} (h : records ≠ .many []) :
    (createRecords table records).Asks := by
  rw [createRecords, if_neg (mt NewRecords.isEmpty_iff.mp h)]
  exact Operation.asks_request_bind _ _

theorem Query.asks_get (compile : FilterCompiler) (q : Query) : (q.get compile).Asks :=
  Operation.asks_request_bind _ _

theorem Query.asks_count (compile : FilterCompiler) (q : Query) : (q.count compile).Asks :=
  Operation.asks_request_bind _ fun json => (PageInfo.ofResponse json).total

/-- An operation as its caller asks for it. -/
inductive Invocation : Type → Type
  | get (q : Query) : Invocation Listing
  | first (q : Query) : Invocation (Option Row)
  | find (table : String) (id : Scalar) : Invocation (Option Row)
  | count (q : Query) : Invocation UInt64
  | paginate (q : Query) (perPage page : UInt64) : Invocation (Page Row)
  | paginateWithTotal (q : Query) (perPage page : UInt64) (total : Option UInt64) :
      Invocation (Page Row)
  | create (table : String) (records : NewRecords) : Invocation Json
  | insert (table : String) (records : NewRecords) : Invocation Bool
  | insertRecord (table : String) (row : Row) : Invocation (Option Scalar)
  | update (q : Query) (fields : Row) : Invocation Json
  | delete (q : Query) (id : Option Scalar) : Invocation Json

namespace Invocation

variable {α : Type}

def operation (compile : FilterCompiler) : Invocation α → Operation α
  | .get q => q.get compile
  | .first q => q.first compile
  | .find table id => findRecord table id
  | .count q => q.count compile
  | .paginate q perPage page => q.paginate compile perPage page
  | .paginateWithTotal q perPage page total => q.paginateWithTotal compile perPage page total
  | .create table records => createRecords table records
  | .insert table records => insertRecords table records
  | .insertRecord table row => RecordQuery.insertRecord table row
  | .update q fields => q.update fields
  | .delete q id => q.delete id

/-- A record is to be written, and there is no key to find it by. -/
def Keyless : Invocation α → Prop
  | .update q _ => q.key? = none
  | .delete q id => ∀ key, ¬ q.Targets id key
  | _ => False

/-- No record at all is to be created. -/
def CreatesNothing : Invocation α → Prop
  | .create _ records => records = .many []
  | .insert _ records => records = .many []
  | _ => False

/-- How many calls an operation makes at most. -/
def callLimit : Invocation α → Nat
  | .paginate .. => 2
  | .paginateWithTotal _ _ _ none => 2
  | _ => 1

/-- A way that an operation may go. A page and the size of the whole result are asked for at the
same time, all other operations do one thing after the other. -/
def Runs (compile : FilterCompiler) : Invocation α → List (Call × Option Reply) →
    Except Failure α → Prop
  | .paginate q perPage page => q.PaginatesJointly compile perPage page
  | .paginateWithTotal q perPage page none => q.PaginatesJointly compile perPage page
  | i => (i.operation compile).Yields

/-- Whatever an operation does against some remote side is a way that it may go. -/
theorem runs_run (compile : FilterCompiler) (i : Invocation α) {σ : Type} (respond : Responder σ)
    (state : σ) : i.Runs compile ((i.operation compile).exchanges respond state)
      ((i.operation compile).run respond state).result := by
  have hyields : (i.operation compile).Yields _ _ := ⟨σ, respond, state, rfl, rfl⟩
  cases i with
  | paginate q perPage page => exact q.paginatesJointly_run compile perPage page respond state
  | paginateWithTotal q perPage page total =>
    cases total with
    | none => exact q.paginatesJointly_run compile perPage page respond state
    | some total => exact hyields
  | _ => exact hyields

theorem settled_of_paginatesJointly {keyless idle : Prop} {compile : FilterCompiler} {q : Query}
    {perPage page : UInt64} {calls : List (Call × Option Reply)}
    {result : Except Failure (Page Row)} (hkeyless : ¬ keyless) (hidle : ¬ idle)
    (h : q.PaginatesJointly compile perPage page calls result) :
    Operation.Settled keyless idle 2 calls result := by
  obtain ⟨read, hjoint, rfl⟩ := h
  exact Operation.settled_of_joint (q.asks_count compile) (Query.asks_get compile _) hkeyless hidle
    hjoint _

/-- An operation fails iff a call that it made failed or there is no key to write by, and the
failure is that of a call, or for want of a key one of an invalid operation. The number of calls is
limited, and there is none only for want of a key or of records to create. -/
theorem settled_of_runs (compile : FilterCompiler) (i : Invocation α) :
    (∀ {σ : Type} (respond : Responder σ) (state : σ),
      i.Runs compile ((i.operation compile).exchanges respond state)
        ((i.operation compile).run respond state).result)
    ∧ ∀ calls result, i.Runs compile calls result →
        Operation.Settled i.Keyless i.CreatesNothing i.callLimit calls result := by
  refine ⟨i.runs_run compile, fun calls result h => ?_⟩
  cases i with
  | get q => exact Operation.settled_of_asks (q.asks_get compile) id id h
  | first q =>
    have hasks := (Query.asks_get compile (q.withWindow (some 1) q.offset)).bind_pure
      fun listing => listing.rows.head?
    exact Operation.settled_of_asks hasks id id h
  | find table key => exact Operation.settled_of_asks (Operation.asks_request_bind _ _) id id h
  | count q => exact Operation.settled_of_asks (q.asks_count compile) id id h
  | paginate q perPage page => exact settled_of_paginatesJointly id id h
  | paginateWithTotal q perPage page total =>
    cases total with
    | none => exact settled_of_paginatesJointly id id h
    | some total =>
      exact Operation.settled_of_asks
        ⟨_, _, q.paginateWithTotal_some_eq_ask compile perPage page total⟩ id id h
  | create table records =>
    by_cases hempty : records = .many []
    · subst hempty
      exact Operation.settled_of_pure (a := Json.array []) id rfl h
    · exact Operation.settled_of_asks (asks_createRecords table hempty) id hempty h
  | insert table records =>
    by_cases hempty : records = .many []
    · subst hempty
      exact Operation.settled_of_pure (a := true) id rfl h
    · have hasks := (asks_createRecords table hempty).bind_pure fun _ => true
      exact Operation.settled_of_asks hasks id hempty h
  | insertRecord table row =>
    have hone : NewRecords.one row ≠ .many [] := by simp
    have hasks := (asks_createRecords table hone).bind_pure
      fun created => (Row.ofJson? created).bind Row.id?
    exact Operation.settled_of_asks hasks id id h
  | update q fields =>
    cases hkey : q.key? with
    | none =>
      have hfail : (q.update fields).Yields calls result := h
      rw [Query.update_eq_fail fields hkey] at hfail
      exact Operation.settled_of_fail hkey hfail
    | some key =>
      have hkeyless : q.key? ≠ none := by simp [hkey]
      exact Operation.settled_of_asks ⟨_, _, Query.update_eq_ask fields hkey⟩ hkeyless id h
  | delete q id' =>
    cases hkey : q.deletionKey? id' with
    | none =>
      have hkeyless (key : Scalar) : ¬ q.Targets id' key := fun htargets => by
        rw [Query.deletionKey?_eq_some_iff.mpr htargets] at hkey
        cases hkey
      have hfail : (q.delete id').Yields calls result := h
      rw [Query.delete_eq_fail hkey] at hfail
      exact Operation.settled_of_fail hkeyless hfail
    | some key =>
      have hasks : (q.delete id').Asks := Query.delete_eq_request hkey ▸ Operation.asks_request _
      have htargets : ¬ ∀ key, ¬ q.Targets id' key := fun hkeyless =>
        hkeyless key (Query.deletionKey?_eq_some_iff.mp hkey)
      exact Operation.settled_of_asks hasks htargets id h

end Invocation

end RecordQuery
