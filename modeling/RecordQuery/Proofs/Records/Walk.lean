import RecordQuery.Proofs.Records.Pagination

/-!
# Walking the pages of a result

A remote side that holds some rows answers a list request with those that the request asks for, and
with the number of all. Who reads one page after the other for as long as a page has more behind it
reads every row once, in order.

## Main statements

* `Query.result_paginate_of_holds`: a page is the part of the rows that its number stands for.
* `Query.Walk.unique`: a walk goes one way only.
* `Query.exists_walk_from`: a walk from any page on reads what is left of the rows.
* `Query.walk_reads_all`: a walk from the first page on, with the number of its pages.
-/

namespace RecordQuery

/-- The rows that a list request asks for: those from its offset on, up to its limit. -/
def Parameters.window (p : Parameters) (rows : List Row) : List Row :=
  let rest := rows.drop (p.offset.getD 0).toNat
  match p.limit with
  | some limit => rest.take limit.toNat
  | none => rest

/-- A remote side holds a list of rows: in every state it answers every list request with the rows
asked for and with the number of all. -/
def Responder.Holds {σ : Type} (respond : Responder σ) (rows : List Row) : Prop :=
  ∀ state table p, ∃ response, (respond state (.list table p)).1 = .ok response
    ∧ response.member? "list" = some (.array ((p.window rows).map Row.toJson))
    ∧ PageInfo.Reports response (UInt64.ofNat rows.length)

/-- A remote side that holds some rows and answers nothing but list requests. -/
def Responder.ofRows (rows : List Row) : Responder Unit
  | state, .list _ p =>
    (.ok (.object (.ofPairs [("list", .array ((p.window rows).map Row.toJson)),
      ("pageInfo", .object (.ofPairs [("totalRows", .ofUInt64 (UInt64.ofNat rows.length))]))])),
      state)
  | state, _ => (.error (.remote 405 ""), state)

theorem Responder.holds_ofRows (rows : List Row) : (Responder.ofRows rows).Holds rows := by
  intro state table p
  refine ⟨_, rfl, rfl, { totalRows := some (UInt64.ofNat rows.length) }, ⟨_, rfl, ?_⟩, rfl⟩
  exact .object ⟨.value (UInt64.ofNat rows.length), rfl, rfl, rfl, rfl⟩

theorem Listing.rowsOfResponse_of_member {response : Json} {rows : List Row}
    (h : response.member? "list" = some (.array (rows.map Row.toJson))) :
    rowsOfResponse response = rows := by
  rw [rowsOfResponse, h, Option.getD_some, Row.allOfJson, List.filterMap_map]
  exact List.filterMap_some

namespace Query

variable {σ : Type}

section Page

variable (compile : FilterCompiler) (q : Query) (perPage page : UInt64)

theorem paginate_eq_bind :
    q.paginate compile perPage page
      = q.count compile >>= fun total => q.paginateWithTotal compile perPage page (some total) :=
  rfl

theorem window_pageWindow (rows : List Row) :
    ((q.pageWindow perPage page).parameters compile).window rows
      = (rows.drop (PageRequest.of page perPage).offset.toNat).take
          (PageRequest.of page perPage).limit.toNat := by
  rw [parameters_pageWindow]
  rfl

/-- A page of rows that are held by a remote side. -/
def pageOf (rows : List Row) : Page Row :=
  Page.answering (PageRequest.of page perPage)
    ((rows.drop (PageRequest.of page perPage).offset.toNat).take
      (PageRequest.of page perPage).limit.toNat)
    (UInt64.ofNat rows.length)

theorem result_paginate_of_holds {respond : Responder σ} {rows : List Row} (h : respond.Holds rows)
    (state : σ) :
    ((q.paginate compile perPage page).run respond state).result
      = .ok (pageOf perPage page rows) := by
  obtain ⟨counted, hcounted, -, htotal⟩ := h state q.table (q.probe compile)
  obtain ⟨listed, hlisted, hrows, -⟩ := h (respond state (.list q.table (q.probe compile))).2
    q.table ((q.pageWindow perPage page).parameters compile)
  have hcount : (q.count compile).run respond state
      = ⟨.ok (UInt64.ofNat rows.length), [.list q.table (q.probe compile)],
          (respond state (.list q.table (q.probe compile))).2⟩ := by
    rw [count]
    simp only [Operation.run_bind, Operation.run_request, Run.andThen, hcounted,
      Operation.run_pure, PageInfo.total_ofResponse_of_reports htotal, List.append_nil]
  rw [paginate_eq_bind, Operation.run_bind, Run.andThen, hcount]
  simp only [paginateWithTotal_some_eq_ask, Operation.run, hlisted, Except.map,
    Listing.rowsOfResponse_of_member hrows, window_pageWindow]
  rfl

end Page

/-! ## One page of the rows -/

section Numbers

variable {perPage page : UInt64} {rows : List Row}

theorem toNat_last_pageOf (hrows : rows.length < UInt64.size) :
    (pageOf perPage page rows).last.toNat = pageCount rows.length (max perPage.toNat 1) := by
  have hperPage : (pageOf perPage page rows).perPage.toNat = max perPage.toNat 1 :=
    PageRequest.toNat_perPage_of page perPage
  have htotal : (pageOf perPage page rows).total.toNat = rows.length :=
    UInt64.toNat_ofNat_of_lt' hrows
  rw [Page.toNat_last (by rw [hperPage]; omega), hperPage, htotal]

theorem hasMore_pageOf_iff (hrows : rows.length < UInt64.size) (hpage : 1 ≤ page.toNat) :
    (pageOf perPage page rows).hasMore = true
      ↔ page.toNat < pageCount rows.length (max perPage.toNat 1) := by
  have hcurrent : (pageOf perPage page rows).current.toNat = page.toNat := by
    rw [show (pageOf perPage page rows).current = (PageRequest.of page perPage).page from rfl,
      PageRequest.toNat_page_of]
    omega
  rw [Page.hasMore_iff, toNat_last_pageOf hrows, hcurrent]

theorem items_pageOf (hrows : rows.length < UInt64.size) (hpage : 1 ≤ page.toNat)
    (hlast : page.toNat ≤ pageCount rows.length (max perPage.toNat 1)) :
    (pageOf perPage page rows).items
      = (rows.drop ((page.toNat - 1) * max perPage.toNat 1)).take (max perPage.toNat 1) := by
  have hmax : max page.toNat 1 = page.toNat := by omega
  -- The rows in front of a page that exists are held, so that its offset fits into a word.
  have hbefore : (page.toNat - 1) * max perPage.toNat 1 ≤ rows.length :=
    mul_le_of_lt_pageCount (by omega)
  show (rows.drop (PageRequest.of page perPage).offset.toNat).take
    (PageRequest.of page perPage).limit.toNat = _
  rw [PageRequest.toNat_offset_of, PageRequest.toNat_limit_of, hmax, Nat.min_eq_left (by omega)]

end Numbers

/-! ## All pages -/

/-- The pages that are read from a state and a page on, one after the other for as long as the page
just read has more behind it. -/
inductive Walk (respond : Responder σ) (compile : FilterCompiler) (q : Query) (perPage : UInt64) :
    σ → UInt64 → List (Page Row) → Prop
  | last {state : σ} {number : UInt64} {page : Page Row}
      (hpage : ((q.paginate compile perPage number).run respond state).result = .ok page)
      (hlast : page.hasMore = false) : Walk respond compile q perPage state number [page]
  | more {state : σ} {number : UInt64} {page : Page Row} {pages : List (Page Row)}
      (hpage : ((q.paginate compile perPage number).run respond state).result = .ok page)
      (hmore : page.hasMore = true)
      (hrest : Walk respond compile q perPage
        ((q.paginate compile perPage number).run respond state).state (number + 1) pages) :
      Walk respond compile q perPage state number (page :: pages)

variable {respond : Responder σ} {compile : FilterCompiler} {q : Query} {perPage : UInt64}

theorem Walk.unique {state : σ} {number : UInt64} {pages pages' : List (Page Row)}
    (h : Walk respond compile q perPage state number pages)
    (h' : Walk respond compile q perPage state number pages') : pages = pages' := by
  induction h generalizing pages' with
  | last hpage hlast =>
    cases h' with
    | last hpage' _ => rw [Except.ok.inj (hpage.symm.trans hpage')]
    | more hpage' hmore' =>
      obtain rfl := Except.ok.inj (hpage.symm.trans hpage')
      exact absurd (hlast.symm.trans hmore') (by decide)
  | more hpage hmore _ ih =>
    cases h' with
    | last hpage' hlast' =>
      obtain rfl := Except.ok.inj (hpage.symm.trans hpage')
      exact absurd (hlast'.symm.trans hmore) (by decide)
    | more hpage' _ hrest' => rw [Except.ok.inj (hpage.symm.trans hpage'), ih hrest']

section Held

variable {rows : List Row} {number : UInt64}

theorem walk_last_of_holds (hrows : rows.length < UInt64.size) (hholds : respond.Holds rows)
    (hnumber : 1 ≤ number.toNat)
    (hlast : pageCount rows.length (max perPage.toNat 1) ≤ number.toNat) (state : σ) :
    Walk respond compile q perPage state number [pageOf perPage number rows] := by
  refine .last (result_paginate_of_holds compile q perPage number hholds state) ?_
  rw [← Bool.not_eq_true, hasMore_pageOf_iff hrows hnumber]
  omega

theorem walk_more_of_holds {state : σ} {pages : List (Page Row)} (hrows : rows.length < UInt64.size)
    (hholds : respond.Holds rows) (hnumber : 1 ≤ number.toNat)
    (hmore : number.toNat < pageCount rows.length (max perPage.toNat 1))
    (hrest : Walk respond compile q perPage
      ((q.paginate compile perPage number).run respond state).state (number + 1) pages) :
    Walk respond compile q perPage state number (pageOf perPage number rows :: pages) :=
  .more (result_paginate_of_holds compile q perPage number hholds state)
    ((hasMore_pageOf_iff hrows hnumber).mpr hmore) hrest

theorem toNat_next_of_lt (hrows : rows.length < UInt64.size)
    (hmore : number.toNat < pageCount rows.length (max perPage.toNat 1)) :
    (number + 1).toNat = number.toNat + 1 := by
  -- The last page has a number, too, and this is not it.
  have hbound := (pageOf perPage number rows).last.toNat_lt
  rw [toNat_last_pageOf hrows] at hbound
  rw [UInt64.toNat_add, show (1 : UInt64).toNat = 1 from rfl]
  exact Nat.mod_eq_of_lt (by omega)

theorem exists_walk_from (hrows : rows.length < UInt64.size) (hholds : respond.Holds rows)
    (hnumber : 1 ≤ number.toNat)
    (hlast : number.toNat ≤ pageCount rows.length (max perPage.toNat 1)) (state : σ) :
    ∃ pages, Walk respond compile q perPage state number pages
      ∧ number.toNat + pages.length = pageCount rows.length (max perPage.toNat 1) + 1
      ∧ pages.flatMap Page.items = rows.drop ((number.toNat - 1) * max perPage.toNat 1) := by
  -- Induction on the pages behind this one: each page takes its part off the front of what is left.
  induction hleft : pageCount rows.length (max perPage.toNat 1) - number.toNat
    generalizing number state with
  | zero =>
    -- The last page has room for all that is left.
    have hitems := items_pageOf hrows hnumber hlast
    have hfits : rows.length - (number.toNat - 1) * max perPage.toNat 1 ≤ max perPage.toNat 1 := by
      have hroom := le_pageCount_mul rows.length (show 0 < max perPage.toNat 1 by omega)
      have hsplit : pageCount rows.length (max perPage.toNat 1) = number.toNat - 1 + 1 := by omega
      rw [hsplit, Nat.succ_mul] at hroom
      omega
    refine ⟨_, walk_last_of_holds hrows hholds hnumber (by omega) state, ?_, ?_⟩
    · rw [List.length_singleton]
      omega
    · rw [List.flatMap_singleton, hitems, List.take_of_length_le]
      rwa [List.length_drop]
  | succ left ih =>
    have hmore : number.toNat < pageCount rows.length (max perPage.toNat 1) := by omega
    have hitems := items_pageOf hrows hnumber hlast
    have hnext := toNat_next_of_lt hrows hmore
    have hnextLast : (number + 1).toNat ≤ pageCount rows.length (max perPage.toNat 1) := by omega
    obtain ⟨pages, hrest, hlength, hread⟩ := ih (by omega) hnextLast
      ((q.paginate compile perPage number).run respond state).state (by omega)
    refine ⟨_, walk_more_of_holds hrows hholds hnumber hmore hrest, ?_, ?_⟩
    · rw [List.length_cons]
      omega
    · have hoffset : (number + 1).toNat - 1 = number.toNat - 1 + 1 := by omega
      rw [List.flatMap_cons, hitems, hread, hoffset, Nat.succ_mul, ← List.drop_drop,
        List.take_append_drop]

end Held

/-- Of rows that a remote side holds, no more than words of 64 bits can count, the pages are read
from the first one on, as many as the rows fill, the last one perhaps in part; there is no other
walk. Together they are the rows: each of them once, in order. -/
theorem walk_reads_all {rows : List Row} (hrows : rows.length < UInt64.size)
    (hholds : respond.Holds rows) (state : σ) :
    ∃ pages, (∀ walked, Walk respond compile q perPage state 1 walked ↔ walked = pages)
      ∧ pages.length = max ((rows.length + max perPage.toNat 1 - 1) / max perPage.toNat 1) 1
      ∧ pages.flatMap Page.items = rows := by
  have hfirst : (1 : UInt64).toNat = 1 := rfl
  have hlast : (1 : UInt64).toNat ≤ pageCount rows.length (max perPage.toNat 1) :=
    pageCount_pos _ _
  obtain ⟨pages, hwalk, hlength, hread⟩ :=
    exists_walk_from hrows hholds (Nat.le_of_eq hfirst.symm) hlast state
  refine ⟨pages, fun walked => ⟨fun h => h.unique hwalk, fun h => h ▸ hwalk⟩, ?_, ?_⟩
  · rw [hfirst, pageCount] at hlength
    omega
  · rw [hread, hfirst, Nat.sub_self, Nat.zero_mul, List.drop_zero]

/-- Five rows make three pages of two. -/
theorem walk_reads_five :
    let rows : List Row := (List.range 5).map fun i => ⟨.ofPairs [("Id", .ofUInt64 (UInt64.ofNat i))]⟩
    rows.length < UInt64.size ∧ (Responder.ofRows rows).Holds rows
      ∧ ∃ pages, (∀ walked,
            Walk (Responder.ofRows rows) whereClause? { table := "leads" } 2 () 1 walked
              ↔ walked = pages)
          ∧ pages.length = 3 ∧ pages.flatMap Page.items = rows :=
  ⟨by decide, Responder.holds_ofRows _, walk_reads_all (by decide) (Responder.holds_ofRows _) ()⟩

end Query

end RecordQuery
