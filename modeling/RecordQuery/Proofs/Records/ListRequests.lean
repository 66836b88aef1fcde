import RecordQuery.Proofs.Records.Failures

/-!
# What list requests look like

Records are listed by five operations, and the parameters of their requests come about in three ways:
from the query as it is, from the query with another window, and for a count from the filter alone.
Whatever the query and however its filter is written, all of these requests keep to the same form.

## Main statements

* `Operation.AsksOnly.bind`: the calls of a dialogue are those of its parts.
* `Operation.AsksOnly.of_mem_joint`: the calls of two dialogues at once are calls of either.
* `Query.wellFormed_parameters`, `Query.wellFormed_probe`: the parameters that requests start from.
* `Invocation.wellFormed_of_runs`: the list requests of all operations.
-/

namespace RecordQuery

/-! ## The calls of a dialogue -/

namespace Operation

variable {α β σ : Type} {allowed : Call → Prop}

/-- All calls that a dialogue may make are allowed, whatever the replies. -/
def AsksOnly (allowed : Call → Prop) : Operation α → Prop
  | .finish _ => True
  | .ask call next => allowed call ∧ ∀ reply, (next reply).AsksOnly allowed

theorem asksOnly_request {call : Call} (h : allowed call) : (request call).AsksOnly allowed :=
  ⟨h, fun _ => trivial⟩

theorem AsksOnly.bind {op : Operation α} {f : α → Operation β} (hop : op.AsksOnly allowed)
    (hf : ∀ a, (f a).AsksOnly allowed) : (op >>= f).AsksOnly allowed := by
  induction op with
  | finish result =>
    cases result with
    | error e => trivial
    | ok a => exact hf a
  | ask call next ih => exact ⟨hop.1, fun reply => ih reply (hop.2 reply)⟩

theorem AsksOnly.of_mem_exchanges {op : Operation α} (hop : op.AsksOnly allowed)
    (respond : Responder σ) (state : σ) :
    ∀ exchange ∈ op.exchanges respond state, allowed exchange.1 := by
  induction op generalizing state with
  | finish result => simp [exchanges]
  | ask call next ih =>
    intro exchange hmem
    rcases List.mem_cons.mp hmem with rfl | hmem
    · exact hop.1
    · exact ih _ (hop.2 _) _ exchange hmem

theorem AsksOnly.of_mem_yields {op : Operation α} {calls : List (Call × Option Reply)}
    {result : Except Failure α} (hop : op.AsksOnly allowed) (h : op.Yields calls result) :
    ∀ exchange ∈ calls, allowed exchange.1 := by
  obtain ⟨σ, respond, state, rfl, -⟩ := h
  exact hop.of_mem_exchanges respond state

theorem AsksOnly.of_mem_givenUp {op : Operation α} {calls : List (Call × Option Reply)}
    (hop : op.AsksOnly allowed) (h : op.GivenUp calls) :
    ∀ exchange ∈ calls, allowed exchange.1 := by
  cases h with
  | silent => simp
  | unanswered call next => simpa using hop.1

/-- Every event of two dialogues that are carried out jointly is a call of one of them. -/
theorem AsksOnly.of_mem_joint {left : Operation α} {right : Operation β}
    {calls : List (Call × Option Reply)} {result : Except Failure (α × β)}
    (h : left.Joint right calls result) (hleft : left.AsksOnly allowed)
    (hright : right.AsksOnly allowed) : ∀ exchange ∈ calls, allowed exchange.1 := by
  induction h with
  | both a b => simp
  | leftFailed e hgivenUp => exact hright.of_mem_givenUp hgivenUp
  | rightFailed e hgivenUp => exact hleft.of_mem_givenUp hgivenUp
  | @askLeft _ _ _ reply _ _ _ ih =>
    intro exchange hmem
    rcases List.mem_cons.mp hmem with rfl | hmem
    · exact hleft.1
    · exact ih (hleft.2 reply) hright exchange hmem
  | @askRight _ _ _ reply _ _ _ ih =>
    intro exchange hmem
    rcases List.mem_cons.mp hmem with rfl | hmem
    · exact hright.1
    · exact ih hleft (hright.2 reply) exchange hmem

end Operation

/-! ## The parameters of a request -/

/-- A call lists a table, with parameters of a certain kind. -/
def Call.Lists (table : String) (kind : Parameters → Prop) (call : Call) : Prop :=
  ∃ parameters, call = .list table parameters ∧ kind parameters

/-- The parameters of a list request for a query have no limit of zero and no filter text but a written
one, and name no order if the query has none. -/
structure Parameters.WellFormed (compile : FilterCompiler) (q : Query) (p : Parameters) : Prop where
  limit : ∀ n, p.limit = some n → 1 ≤ n
  /-- The filter is what was written for the query, and left out if that is nothing or empty. -/
  filter : ∀ text, p.filter = some text ↔ compile q.filter = some text ∧ text ≠ ""
  sort : q.sorts.keys = [] → p.sort = none

theorem Parameters.filter_not_isEmpty_eq_some_iff {written : Option String} {text : String} :
    (written.filter fun text => !text.isEmpty) = some text ↔ written = some text ∧ text ≠ "" := by
  rw [Option.filter_eq_some_iff]
  simp

namespace Query

variable {allowed : Call → Prop} (compile : FilterCompiler) (q : Query)

theorem wellFormed_parameters : (q.parameters compile).WellFormed compile q where
  limit n h := by
    have hpositive : 0 < n := by simpa using (Option.filter_eq_some_iff.mp h).2
    exact UInt64.le_iff_toNat_le.mpr (UInt64.lt_iff_toNat_lt.mp hpositive)
  filter _ := Parameters.filter_not_isEmpty_eq_some_iff
  sort := SortOrder.param?_eq_none_iff.mpr

/-- The window is no matter: it takes the place of one that the query has. -/
theorem wellFormed_parameters_withWindow (limit offset : Option UInt64) :
    ((q.withWindow limit offset).parameters compile).WellFormed compile q :=
  have h := wellFormed_parameters compile (q.withWindow limit offset)
  ⟨h.limit, h.filter, h.sort⟩

theorem wellFormed_probe : (q.probe compile).WellFormed compile q where
  limit n h := by
    obtain rfl := Option.some.inj h
    decide
  filter _ := Parameters.filter_not_isEmpty_eq_some_iff
  sort _ := rfl

/-! ## The operations that list records -/

theorem asksOnly_get (h : allowed (.list q.table (q.parameters compile))) :
    (q.get compile).AsksOnly allowed :=
  (Operation.asksOnly_request h).bind fun _ => trivial

theorem asksOnly_first
    (h : allowed (.list q.table ((q.withWindow (some 1) q.offset).parameters compile))) :
    (q.first compile).AsksOnly allowed :=
  (asksOnly_get compile (q.withWindow (some 1) q.offset) h).bind fun _ => trivial

theorem asksOnly_count (h : allowed (.list q.table (q.probe compile))) :
    (q.count compile).AsksOnly allowed :=
  (Operation.asksOnly_request h).bind fun _ => trivial

variable (perPage page : UInt64)

theorem asksOnly_paginateWithTotal_some (total : UInt64)
    (h : allowed (.list q.table ((q.pageWindow perPage page).parameters compile))) :
    (q.paginateWithTotal compile perPage page (some total)).AsksOnly allowed :=
  paginateWithTotal_some_eq_ask compile q perPage page total ▸ ⟨h, fun _ => trivial⟩

variable {compile q perPage page}

theorem allowed_of_paginatesJointly {calls : List (Call × Option Reply)}
    {result : Except Failure (Page Row)}
    (hprobe : allowed (.list q.table (q.probe compile)))
    (hdata : allowed (.list q.table ((q.pageWindow perPage page).parameters compile)))
    (h : q.PaginatesJointly compile perPage page calls result) :
    ∀ exchange ∈ calls, allowed exchange.1 := by
  obtain ⟨read, hjoint, -⟩ := h
  exact Operation.AsksOnly.of_mem_joint hjoint (asksOnly_count compile q hprobe)
    (asksOnly_get compile (q.pageWindow perPage page) hdata)

theorem exists_of_yields_first {calls : List (Call × Option Reply)}
    {result : Except Failure (Option Row)} (h : (q.first compile).Yields calls result) :
    ∃ reply, calls
      = [(.list q.table ((q.withWindow (some 1) q.offset).parameters compile), some reply)] := by
  obtain ⟨σ, respond, state, rfl, -⟩ := h
  rw [first, Operation.exchanges_bind_pure, get, Operation.exchanges_bind_pure]
  exact ⟨_, rfl⟩

end Query

namespace Invocation

variable {α : Type}

/-- The query of an operation that lists records. -/
def listed? : Invocation α → Option Query
  | .get q => some q
  | .first q => some q
  | .count q => some q
  | .paginate q _ _ => some q
  | .paginateWithTotal q _ _ _ => some q
  | _ => none

/-- The operation is one that makes a page of a query. -/
def MakesPage (q : Query) (perPage page : UInt64) (i : Invocation (Page Row)) : Prop :=
  i = .paginate q perPage page ∨ ∃ total, i = .paginateWithTotal q perPage page total

theorem allowed_of_runs {allowed : Call → Prop} {compile : FilterCompiler} {q : Query}
    {perPage page : UInt64} {i : Invocation (Page Row)} {calls : List (Call × Option Reply)}
    {result : Except Failure (Page Row)} (hi : i.MakesPage q perPage page)
    (hprobe : allowed (.list q.table (q.probe compile)))
    (hdata : allowed (.list q.table ((q.pageWindow perPage page).parameters compile)))
    (h : i.Runs compile calls result) : ∀ exchange ∈ calls, allowed exchange.1 := by
  rcases hi with rfl | ⟨total, rfl⟩
  · exact Query.allowed_of_paginatesJointly hprobe hdata h
  · cases total with
    | none => exact Query.allowed_of_paginatesJointly hprobe hdata h
    | some total =>
      exact (q.asksOnly_paginateWithTotal_some compile perPage page total hdata).of_mem_yields h

/-- Every request of an operation that lists records is for the table of the query, with well-formed
parameters. For the first record the limit is one and the offset that of the query, a count depends on
the table and the filter alone, and the requests for a page have both a limit and an offset. -/
theorem wellFormed_of_runs (compile : FilterCompiler) :
    (∀ {α : Type} (i : Invocation α) (q : Query), i.listed? = some q →
      (∀ {σ : Type} (respond : Responder σ) (state : σ),
        i.Runs compile ((i.operation compile).exchanges respond state)
          ((i.operation compile).run respond state).result)
      ∧ ∀ calls result, i.Runs compile calls result → ∀ exchange ∈ calls,
        exchange.1.Lists q.table fun parameters => parameters.WellFormed compile q)
    ∧ (∀ (q : Query) calls result, (Invocation.first q).Runs compile calls result →
        ∃ (parameters : Parameters) (reply : Reply),
          calls = [(.list q.table parameters, some reply)]
          ∧ parameters.limit = some 1 ∧ parameters.offset = q.offset)
    ∧ (∀ q q' : Query, q.table = q'.table → q.filter = q'.filter →
        q.count compile = q'.count compile)
    ∧ ∀ (q : Query) (perPage page : UInt64) (i : Invocation (Page Row)), i.MakesPage q perPage page →
        ∀ calls result, i.Runs compile calls result → ∀ exchange ∈ calls,
          exchange.1.Lists q.table fun parameters =>
            parameters.limit.isSome ∧ parameters.offset.isSome := by
  refine ⟨?_, ?_, ?_, ?_⟩
  · intro α i q hlisted
    refine ⟨i.runs_run compile, fun calls result h => ?_⟩
    -- The calls that the operations start from, each for the query or for a window of it.
    have hquery := Query.wellFormed_parameters compile q
    have hwindow := Query.wellFormed_parameters_withWindow compile q
    have hprobe := Query.wellFormed_probe compile q
    cases i with
    | get q =>
      obtain rfl := Option.some.inj hlisted
      exact (q.asksOnly_get compile ⟨_, rfl, hquery⟩).of_mem_yields h
    | first q =>
      obtain rfl := Option.some.inj hlisted
      exact (q.asksOnly_first compile ⟨_, rfl, hwindow _ _⟩).of_mem_yields h
    | count q =>
      obtain rfl := Option.some.inj hlisted
      exact (q.asksOnly_count compile ⟨_, rfl, hprobe⟩).of_mem_yields h
    | paginate q perPage page =>
      obtain rfl := Option.some.inj hlisted
      exact allowed_of_runs (.inl rfl) ⟨_, rfl, hprobe⟩ ⟨_, rfl, hwindow _ _⟩ h
    | paginateWithTotal q perPage page total =>
      obtain rfl := Option.some.inj hlisted
      exact allowed_of_runs (.inr ⟨total, rfl⟩) ⟨_, rfl, hprobe⟩ ⟨_, rfl, hwindow _ _⟩ h
    | _ => cases hlisted
  · intro q calls result h
    obtain ⟨reply, hcalls⟩ := Query.exists_of_yields_first h
    exact ⟨_, reply, hcalls, rfl, rfl⟩
  · intro q q' htable hfilter
    rw [Query.count, Query.count, Query.probe, Query.probe, htable, hfilter]
  · intro q perPage page i hi calls result h
    refine allowed_of_runs hi ⟨_, rfl, rfl, rfl⟩ ⟨_, rfl, ?_, ?_⟩ h
    · rw [Query.parameters_pageWindow, Option.isSome_some]
    · rw [Query.parameters_pageWindow, Option.isSome_some]

end Invocation

end RecordQuery
