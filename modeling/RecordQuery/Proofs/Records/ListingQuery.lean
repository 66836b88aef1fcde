import RecordQuery.Proofs.Records.ReadBack

/-!
# The query of a listing

The URL of a listing is that of the records of its table with a query behind it. The numbers and
the sort order come first, in form encoding. The text of the filter comes behind them, for which the
whole query is set anew; what is in form encoding holds plain characters alone, so that it is not
encoded a second time. Of the filter nothing is encoded but what may not stand in a query.

## Main statements

* `Config.withParameters_eq_query`: parameters change nothing but the query.
* `Config.isSome_query_withParameters`: when there is a query.
* `Config.query_withParameters_of_filter`: the query with a filter in it.
* `Url.queryText_around`: plain characters stand in a query as they are.
* `Config.listUrl_eq_recordsUrl_query`: all together, for every accepted configuration.
-/

namespace RecordQuery

open Url

/-! ## The parameters in form encoding -/

namespace Parameters

theorem names_pairs (p : Parameters) :
    (p.pairs.map Prod.fst).Sublist ["limit", "offset", "sort"] := by
  obtain ⟨limit, offset, sort, _⟩ := p
  cases limit <;> cases offset <;> cases sort <;> simp [pairs]

theorem isEmpty_eq (p : Parameters) : p.isEmpty = (p.pairs.isEmpty && p.filter.isNone) := by
  obtain ⟨limit, offset, sort, filter⟩ := p
  cases limit <;> cases offset <;> cases sort <;> rfl

end Parameters

/-- A pair has an equals sign at least. -/
theorem Url.appendPair_ne_empty (query : String) (pair : String × String) :
    appendPair query pair ≠ "" := by
  intro h
  have hpair : (String.ofList (formPair pair)).toList = [] := by
    rw [(String.append_eq_empty_iff.mp h).2]
    rfl
  rw [String.toList_ofList] at hpair
  simp [formPair] at hpair

theorem Url.foldl_appendPair_ne_empty {pairs : List (String × String)} (h : pairs ≠ [])
    (query : String) : pairs.foldl appendPair query ≠ "" := by
  obtain ⟨front, last, rfl⟩ : ∃ front last, pairs = front ++ [last] :=
    ⟨pairs.dropLast, pairs.getLast h, (List.dropLast_append_getLast h).symm⟩
  rw [List.foldl_append]
  exact appendPair_ne_empty _ last

/-- A stretch of plain characters stands in a query as it is, whatever is around it. -/
theorem Url.queryText_around (front back : String) {piece : String}
    (h : ∀ ch ∈ piece.toList, IsPlain ch) :
    queryText (front ++ piece ++ back) = queryText front ++ piece ++ queryText back := by
  rw [queryText_append, queryText_append, queryText_eq_self_iff.mpr h]

namespace Config

variable {names : NameMapping} {c : Config} {url : Url}

/-! ## Nothing but the query changes -/

theorem withPairs_eq_query (url : Url) (pairs : List (String × String)) :
    withPairs url pairs = { url with query := (withPairs url pairs).query } := by
  unfold withPairs
  split <;> rfl

theorem withFilter_eq_query (url : Url) (filter : String) :
    withFilter url filter = { url with query := (withFilter url filter).query } := by
  unfold withFilter
  split
  · split <;> rfl
  · rfl

theorem withParameters_eq_query (url : Url) (p : Parameters) :
    withParameters url p = { url with query := (withParameters url p).query } := by
  have hpairs := withPairs_eq_query url p.pairs
  rw [withParameters_eq]
  cases p.filter with
  | none => exact hpairs
  | some filter =>
    show withFilter (withPairs url p.pairs) filter
      = { url with query := (withFilter (withPairs url p.pairs) filter).query }
    rw [withFilter_eq_query, hpairs]

/-! ## The two parts of the query -/

theorem withParameters_filter_none (url : Url) (p : Parameters) :
    withParameters url { p with filter := none } = withPairs url p.pairs := by
  rw [withParameters_eq]
  rfl

theorem query_withPairs_of_none (h : url.query = none) (pairs : List (String × String)) :
    (pairs = [] ∧ (withPairs url pairs).query = none)
      ∨ ∃ part, (withPairs url pairs).query = some part ∧ part ≠ "" := by
  cases pairs with
  | nil => exact .inl ⟨rfl, h⟩
  | cons pair rest =>
    refine .inr ⟨(pair :: rest).foldl appendPair (url.query.getD ""), rfl, ?_⟩
    exact foldl_appendPair_ne_empty (List.cons_ne_nil pair rest) _

/-- The text of a filter comes behind the pairs, parted from them by `&` if there are any. -/
theorem query_withParameters_of_filter (h : url.query = none) {p : Parameters} {text : String}
    (hfilter : p.filter = some text) :
    ((withPairs url p.pairs).query = none
        ∧ (withParameters url p).query = some ("where=" ++ queryText text))
      ∨ ∃ part, (withPairs url p.pairs).query = some part ∧ part ≠ ""
        ∧ (withParameters url p).query = some (part ++ "&where=" ++ queryText text) := by
  -- The name of the filter is plain, so it may be encoded with the text and apart from it.
  have hname : queryText "where=" = "where=" := by decide +kernel
  have hquery : (withParameters url p).query
      = some (separated ((withPairs url p.pairs).query.getD "") ++ ("where=" ++ queryText text)) := by
    rw [withParameters_eq, hfilter, ← hname, ← queryText_append]
    exact query_withFilter (isForm_query_withPairs h p.pairs) text
  rcases query_withPairs_of_none h p.pairs with ⟨-, hnone⟩ | ⟨part, hpart, hne⟩
  · refine .inl ⟨hnone, ?_⟩
    rw [hquery, hnone]
    show some ("" ++ ("where=" ++ queryText text)) = _
    rw [String.empty_append]
  · refine .inr ⟨part, hpart, hne, ?_⟩
    have hseparated : separated part = part ++ "&" :=
      if_neg (mt String.isEmpty_iff.mp hne)
    have hmark : "&where=" = "&" ++ "where=" := rfl
    rw [hquery, hpart, Option.getD_some, hseparated, hmark]
    simp only [String.append_assoc]

theorem isSome_query_withParameters (h : url.query = none) (p : Parameters) :
    (withParameters url p).query.isSome = !p.isEmpty := by
  rw [Parameters.isEmpty_eq]
  cases hfilter : p.filter with
  | none =>
    rw [withParameters_eq, hfilter]
    show (withPairs url p.pairs).query.isSome = !(p.pairs.isEmpty && true)
    rcases query_withPairs_of_none h p.pairs with ⟨hpairs, hnone⟩ | ⟨part, hpart, -⟩
    · rw [hnone, hpairs]
      rfl
    · have hpairs : p.pairs ≠ [] := by
        intro hnil
        rw [hnil] at hpart
        exact absurd (h.symm.trans hpart) (by simp)
      rw [hpart]
      simp [hpairs]
  | some text =>
    rw [Bool.and_comm]
    rcases query_withParameters_of_filter h hfilter with ⟨-, hquery⟩ | ⟨part, -, -, hquery⟩
    · rw [hquery]
      rfl
    · rw [hquery]
      rfl

/-- Without a query and a fragment the text of a URL ends where its query would stand. -/
theorem text_eq_append_query (hquery : url.query = none) (hfragment : url.fragment = none)
    (query : Option String) :
    ({ url with query } : Url).text = url.text ++ marked "?" query := by
  unfold Url.text target
  rw [hquery, hfragment]
  show url.originText ++ (url.path.text ++ marked "?" query) ++ ""
    = url.originText ++ (url.path.text ++ "") ++ "" ++ marked "?" query
  simp only [String.append_empty, String.append_assoc]

/-- In an accepted configuration whose address has no query and no fragment the URL of a listing is
that of the records with a query, if any parameter is set. Without a filter the pairs are read back
from it. A filter leaves what they are written as, and adds its own text behind it, as it would stand
in a query alone. That text is unchanged iff all its characters are plain, and no plain character is
ever changed. -/
theorem listUrl_eq_recordsUrl_query (h : c.validate names = .ok ()) :
    ∃ base, c.base names = .ok base ∧ (base.query = none → base.fragment = none →
      ∀ table p, ∃ records list bare,
        c.recordsUrl names table = .ok records ∧ c.listUrl names table p = .ok list
        ∧ c.listUrl names table { p with filter := none } = .ok bare
        ∧ list = { records with query := list.query }
        ∧ list.text = records.text ++ marked "?" list.query
        ∧ list.query.isSome = !p.isEmpty
        ∧ bare.readQuery = p.pairs.map bytesOfPair
        ∧ (p.pairs.map Prod.fst).Sublist ["limit", "offset", "sort"]
        ∧ (p.filter = none → list = bare)
        ∧ ∀ text, p.filter = some text →
          ((bare.query = none ∧ list.query = some ("where=" ++ queryText text))
            ∨ ∃ part, bare.query = some part ∧ part ≠ ""
              ∧ list.query = some (part ++ "&where=" ++ queryText text))
          ∧ (records.setQuery text).query = some (queryText text)
          ∧ (queryText text = text ↔ ∀ ch ∈ text.toList, IsPlain ch)
          ∧ ∀ front piece back, text = front ++ piece ++ back → (∀ ch ∈ piece.toList, IsPlain ch) →
            queryText text = queryText front ++ piece ++ queryText back) := by
  obtain ⟨-, base, -, hbase, -⟩ := base_of_validate h
  refine ⟨base, hbase, fun hquery hfragment table p => ?_⟩
  let records := base.extendPath ["api", "v2", "tables", table, "records"]
  have hrecords : records.query = none := hquery
  have hlist := withParameters_eq_query records p
  have hbare := withParameters_filter_none records p
  refine ⟨records, withParameters records p, withParameters records { p with filter := none },
    tablesUrl_eq hbase [table, "records"], listUrl_eq hbase table p, listUrl_eq hbase table _, hlist,
    ?_, isSome_query_withParameters hrecords p, ?_, p.names_pairs, ?_, ?_⟩
  · have htext := text_eq_append_query hrecords hfragment (withParameters records p).query
    rw [← hlist] at htext
    exact htext
  · have hread := readQuery_withParameters hrecords { p with filter := none }
    exact hread.trans (List.append_nil _)
  · intro hnone
    rw [hbare, withParameters_eq, hnone]
    rfl
  · rintro text hsome
    rw [hbare]
    refine ⟨query_withParameters_of_filter hrecords hsome, query_setQuery records text,
      queryText_eq_self_iff, ?_⟩
    rintro front piece back rfl hpiece
    exact queryText_around front back hpiece

/-- A sort order with marks of a form in it, and a filter with a space and an escape. -/
theorem listUrl_eq_recordsUrl_query_marks :
    let c := Config.of "https://noco.example.com/nc/" "token"
    let p : Parameters :=
      { limit := some 25, sort := some "-a&b=1 %2C,é", filter := some "(a b,like,%41%)~or(c,eq,+&é)" }
    c.validate .ascii = .ok () ∧ ∃ records list, c.recordsUrl .ascii "leads" = .ok records
      ∧ c.listUrl .ascii "leads" p = .ok list
      ∧ list = { records with query := list.query }
      ∧ list.query = some ("limit=25&sort=-a%26b%3D1+%252C%2C%C3%A9"
        ++ "&where=" ++ "(a%20b,like,%41%)~or(c,eq,+&%C3%A9)") := by
  intro c p
  have hvalid : c.validate .ascii = .ok () := by decide +kernel
  have hparts : (c.base .ascii).map (fun base => (base.query, base.fragment)) = .ok (none, none) := by
    decide +kernel
  obtain ⟨base, hbase, hurls⟩ := listUrl_eq_recordsUrl_query hvalid
  rw [hbase] at hparts
  obtain ⟨hquery, hfragment⟩ := Prod.mk.inj (Except.ok.inj hparts)
  obtain ⟨records, list, bare, hrecords, hlist, hbare, hsame, -, -, -, -, -, hfilter⟩ :=
    hurls hquery hfragment "leads" p
  have hpart : (c.listUrl .ascii "leads" { p with filter := none }).map (·.query)
      = .ok (some "limit=25&sort=-a%26b%3D1+%252C%2C%C3%A9") := by decide +kernel
  have htext : queryText "(a b,like,%41%)~or(c,eq,+&é)" = "(a%20b,like,%41%)~or(c,eq,+&%C3%A9)" := by
    decide +kernel
  rw [hbare] at hpart
  refine ⟨hvalid, records, list, hrecords, hlist, hsame, ?_⟩
  -- The filter comes behind the other parameters, which are not encoded again.
  rcases (hfilter _ rfl).1 with ⟨hnone, -⟩ | ⟨part, hsome, -, hwhole⟩
  · rw [Except.map, hnone] at hpart
    exact absurd (Except.ok.inj hpart) (by simp)
  · rw [Except.map, hsome] at hpart
    rw [hwhole, htext, Option.some.inj (Except.ok.inj hpart)]

end Config

end RecordQuery
