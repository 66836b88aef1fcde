import RecordQuery.Proofs.Page.Metadata
import RecordQuery.Proofs.Page.Numbers
import RecordQuery.Proofs.Records.Jointly
import RecordQuery.Records.Operations

/-!
# What a page is made of

A page takes two requests, one for the size of the whole result and one for the rows of the page.
They do not wait for each other, so nothing here depends on their order. The size is read off the
reply to the first, the rows off the reply to the second, and a failure of either leaves no page.

## Main statements

* `PageInfo.tells_total`: the size that a response tells, zero if it tells none.
* `Query.paginatesJointly_run`: what `Query.paginate` does is one way to make a page.
* `Query.paginate_pairs`: the two requests, and the result, of all ways.
-/

namespace RecordQuery

namespace PageInfo

/-- A response reports a size of the whole result: it tells metadata with the size in it. -/
def Reports (response : Json) (total : UInt64) : Prop :=
  ∃ info, Told response info ∧ info.totalRows = some total

/-- The size of the whole result according to a response: zero if it reports none. -/
def Tells (response : Json) (total : UInt64) : Prop :=
  Reports response total ∨ (total = 0 ∧ ∀ n, ¬ Reports response n)

theorem total_ofResponse_of_reports {response : Json} {total : UInt64}
    (h : Reports response total) : (ofResponse response).total = total := by
  obtain ⟨info, htold, htotal⟩ := h
  rw [ofResponse_of_told htold, PageInfo.total, htotal, Option.getD_some]

theorem tells_total (response : Json) : Tells response (ofResponse response).total := by
  by_cases hreports : ∃ n, Reports response n
  · obtain ⟨n, hn⟩ := hreports
    rw [total_ofResponse_of_reports hn]
    exact .inl hn
  · refine .inr ⟨?_, fun n hn => hreports ⟨n, hn⟩⟩
    by_cases htold : ∃ info, Told response info
    · -- The metadata has no size in it.
      obtain ⟨info, hinfo⟩ := htold
      rw [ofResponse_of_told hinfo, PageInfo.total]
      cases htotal : info.totalRows with
      | none => rfl
      | some n => exact absurd ⟨n, info, hinfo, htotal⟩ hreports
    · rw [ofResponse_of_forall_not_told fun info hinfo => htold ⟨info, hinfo⟩]
      rfl

end PageInfo

namespace Query

variable (compile : FilterCompiler) (q : Query) (perPage page : UInt64)

/-- The query for the rows of a page. -/
def pageWindow : Query :=
  q.withWindow (some (PageRequest.of page perPage).limit)
    (some (PageRequest.of page perPage).offset)

/-- A way to make a page: the size is counted and the rows are listed, in any order. -/
def PaginatesJointly (calls : List (Call × Option Reply)) (result : Except Failure (Page Row)) :
    Prop :=
  ∃ read, (q.count compile).Joint ((q.pageWindow perPage page).get compile) calls read
    ∧ result = read.map fun (total, listing) =>
        Page.answering (PageRequest.of page perPage) listing.rows total

theorem parameters_pageWindow :
    (q.pageWindow perPage page).parameters compile
      = { limit := some (PageRequest.of page perPage).limit
          offset := some (PageRequest.of page perPage).offset
          sort := q.sorts.param?
          filter := (compile q.filter).filter fun text => !text.isEmpty } := by
  have hpositive : 0 < (PageRequest.of page perPage).limit := by
    rw [UInt64.lt_iff_toNat_lt, PageRequest.toNat_limit_of]
    exact Nat.lt_of_lt_of_le Nat.one_pos (Nat.le_max_right _ _)
  -- A limit of zero would be left out of the request; that of a page is not zero.
  have hlimit : (some (PageRequest.of page perPage).limit).filter (fun n => decide (0 < n))
      = some (PageRequest.of page perPage).limit := by
    rw [Option.filter_some, if_pos (decide_eq_true hpositive)]
  show Parameters.mk _ _ _ _ = _
  rw [← hlimit]
  rfl

theorem paginate_eq_both :
    q.paginate compile perPage page
      = (q.count compile).both ((q.pageWindow perPage page).get compile) >>= fun (total, listing) =>
          pure (Page.answering (PageRequest.of page perPage) listing.rows total) := by
  -- Both sides ask for the size first, and nothing else is asked for if that fails.
  show Operation.ask _ _ = Operation.ask _ _
  congr 1
  funext counted
  cases counted with
  | error e => rfl
  | ok counted =>
    show Operation.ask _ _ = Operation.ask _ _
    congr 1
    funext listed
    cases listed <;> rfl

theorem paginateWithTotal_some_eq_ask (total : UInt64) :
    q.paginateWithTotal compile perPage page (some total)
      = .ask (.list q.table ((q.pageWindow perPage page).parameters compile)) fun reply =>
          .finish (reply.map fun listed =>
            Page.answering (PageRequest.of page perPage) (Listing.rowsOfResponse listed)
              total) := by
  show Operation.ask _ _ = Operation.ask _ _
  congr 1
  funext listed
  cases listed <;> rfl

/-- Counting first and listing then is one way to make a page. -/
theorem paginatesJointly_run {σ : Type} (respond : Responder σ) (state : σ) :
    q.PaginatesJointly compile perPage page
      ((q.paginate compile perPage page).exchanges respond state)
      ((q.paginate compile perPage page).run respond state).result := by
  rw [paginate_eq_both, Operation.exchanges_bind_pure, Operation.run_bind_pure]
  exact ⟨_, Operation.joint_of_run_both _ _ respond state, rfl⟩

/-- A page takes two requests about one table with one filter, in any order: for the first row alone
and in no order, and for the rows of the page in the order of the query. Its items are those of the
second reply and its total is that which the first one tells. If a request fails, the result is the
failure of one that was made. A page of a known total takes the second request only. None of this
depends on the part of the result that the query itself asks for. -/
theorem paginate_pairs :
    ∃ (filter : Option String) (limit offset : UInt64),
      let probe := Call.list q.table { limit := some 1, offset := some 0, sort := none, filter }
      let data := Call.list q.table
        { limit := some limit, offset := some offset, sort := q.sorts.param?, filter }
      let pageOf (listed : Json) (total : UInt64) : Page Row :=
        { items := Listing.rowsOfResponse listed, total, perPage := limit, current := max page 1 }
      filter = (compile q.filter).filter (fun text => !text.isEmpty)
      ∧ limit.toNat = max perPage.toNat 1
      ∧ offset.toNat = min ((max page.toNat 1 - 1) * max perPage.toNat 1) (UInt64.size - 1)
      ∧ (∀ {σ : Type} (respond : Responder σ) (state : σ),
          q.PaginatesJointly compile perPage page
            ((q.paginate compile perPage page).exchanges respond state)
            ((q.paginate compile perPage page).run respond state).result)
      ∧ (∀ calls result, q.PaginatesJointly compile perPage page calls result →
          (∃ counted listed total,
            calls.Perm [(probe, some (.ok counted)), (data, some (.ok listed))]
              ∧ PageInfo.Tells counted total ∧ result = .ok (pageOf listed total))
          ∨ ∃ call e, (call, some (.error e)) ∈ calls ∧ result = .error e
              ∧ (calls.map Prod.fst).Subperm [probe, data])
      ∧ (∀ {σ : Type} (respond : Responder σ) (state : σ) (total : UInt64),
          (q.paginateWithTotal compile perPage page (some total)).run respond state
            = ⟨(respond state data).1.map (pageOf · total), [data], (respond state data).2⟩)
      ∧ ∀ total limit offset,
          (q.withWindow limit offset).paginateWithTotal compile perPage page total
            = q.paginateWithTotal compile perPage page total := by
  refine ⟨(compile q.filter).filter (fun text => !text.isEmpty),
    (PageRequest.of page perPage).limit, (PageRequest.of page perPage).offset, ?_⟩
  intro probe data pageOf
  have hcount : q.count compile
      = .ask probe fun reply => .finish (reply.map fun json => (PageInfo.ofResponse json).total) :=
    Operation.request_bind_pure probe fun json => (PageInfo.ofResponse json).total
  have hlist : (q.pageWindow perPage page).get compile
      = .ask data fun reply => .finish (reply.map Listing.ofResponse) := by
    rw [show data = .list q.table ((q.pageWindow perPage page).parameters compile) by
      rw [parameters_pageWindow]]
    exact Operation.request_bind_pure _ Listing.ofResponse
  refine ⟨rfl, PageRequest.toNat_limit_of page perPage, PageRequest.toNat_offset_of page perPage,
    paginatesJointly_run compile q perPage page, ?_, ?_, fun _ _ _ => rfl⟩
  · -- Two dialogues of one call each are settled alike whichever call is made first.
    rintro calls result ⟨read, hjoint, rfl⟩
    rw [hcount, hlist] at hjoint
    rcases Operation.settledAsks_of_joint hjoint with
      ⟨counted, listed, hcalls, rfl⟩ | ⟨call, e, hmem, rfl, hcalls⟩
    · exact .inl ⟨counted, listed, _, hcalls, PageInfo.tells_total counted, rfl⟩
    · exact .inr ⟨call, e, hmem, rfl, hcalls⟩
  · intro σ respond state total
    rw [paginateWithTotal_some_eq_ask, parameters_pageWindow]
    rfl

end Query

end RecordQuery
