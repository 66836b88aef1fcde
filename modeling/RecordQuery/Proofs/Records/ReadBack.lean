import RecordQuery.Proofs.Records.Addresses
import RecordQuery.Proofs.Url.FormReading

/-!
# What a server reads in the query of a listing

The parameters in form encoding are read back, each under its name and in their order, whatever the
filter is. The text of the filter comes behind them as it is, so a form reads it back iff there is
nothing in it that a form takes for its own.

## Main statements

* `Config.readQuery_withParameters`: what is read, for any parameters.
* `Config.readQuery_of_validate`: the same for every accepted configuration, and which filters are
  read back.
-/

namespace RecordQuery

open Url

/-- A query that holds pairs in form encoding and nothing else. -/
def IsForm (query : String) : Prop := ∀ c ∈ query.toList, c ∈ queryChars

theorem isForm_appendPair {query : String} (h : IsForm query) (pair : String × String) :
    IsForm (appendPair query pair) := by
  have hpair : ∀ c ∈ formPair pair, c ∈ queryChars := by
    intro c hc
    rw [formPair, List.mem_append, List.mem_cons] at hc
    rcases hc with hname | rfl | hvalue
    · exact .tail _ (.tail _ (mem_formChars_of_mem_formEncode hname))
    · exact .head _
    · exact .tail _ (.tail _ (mem_formChars_of_mem_formEncode hvalue))
  intro c hc
  rw [appendPair, String.toList_append, String.toList_ofList, List.mem_append] at hc
  rcases hc with hfront | hc
  · split at hfront
    · exact h c hfront
    · rw [String.toList_append, List.mem_append] at hfront
      rcases hfront with hquery | hand
      · exact h c hquery
      · obtain rfl : c = '&' := by simpa using hand
        exact .tail _ (.head _)
  · exact hpair c hc

theorem isForm_foldl_appendPair {query : String} (h : IsForm query)
    (pairs : List (String × String)) : IsForm (pairs.foldl appendPair query) := by
  induction pairs generalizing query with
  | nil => exact h
  | cons pair pairs ih => exact ih (isForm_appendPair h pair)

namespace Config

variable {names : NameMapping} {c : Config}

/-- What stands in a query in form encoding is not touched by a filter that comes behind it. -/
theorem query_withFilter {url : Url} (h : IsForm (url.query.getD "")) (filter : String) :
    (withFilter url filter).query
      = some (separated (url.query.getD "") ++ queryText ("where=" ++ filter)) := by
  have halone : (url.setQuery ("where=" ++ filter)).query
      = some ("" ++ queryText ("where=" ++ filter)) := by
    rw [String.empty_append]
    rfl
  unfold withFilter separated
  cases hquery : url.query with
  | none => exact halone
  | some query =>
    rw [hquery, Option.getD_some] at h
    have hself : queryText query = query :=
      queryText_eq_self_iff.mpr fun c hc => plain_of_mem_queryChars (h c hc)
    have hand : queryText "&where=" = "&" ++ queryText "where=" := by decide +kernel
    simp only [Option.getD_some]
    split
    · rename_i hempty
      rw [String.isEmpty_iff.mp hempty]
      exact halone
    · rw [query_setQuery]
      simp only [queryText_append, hself, hand, String.append_assoc]

/-- The filter is read as it would be in a query of its own, behind what is read already. -/
theorem readQuery_withFilter {url : Url} (h : IsForm (url.query.getD "")) (filter : String) :
    (withFilter url filter).readQuery
      = url.readQuery ++ readForm (utf8Bytes (stripped ("where=" ++ filter).toList)) := by
  unfold readQuery
  rw [query_withFilter h, Option.getD_some, readForm_separated, readForm_queryText]

theorem query_withPairs (url : Url) (pairs : List (String × String)) :
    (withPairs url pairs).query.getD "" = pairs.foldl appendPair (url.query.getD "") := by
  cases pairs <;> rfl

theorem isForm_query_withPairs {url : Url} (h : url.query = none) (pairs : List (String × String)) :
    IsForm ((withPairs url pairs).query.getD "") := by
  rw [query_withPairs, h]
  exact isForm_foldl_appendPair (fun c hc => by simp at hc) pairs

/-- The pairs are read back in order, and behind them what is read for the filter. -/
theorem readQuery_withParameters {url : Url} (h : url.query = none) (p : Parameters) :
    (withParameters url p).readQuery = p.pairs.map bytesOfPair ++ p.filter.elim []
      fun text => readForm (utf8Bytes (stripped ("where=" ++ text).toList)) := by
  have hpairs : (withPairs url p.pairs).readQuery = p.pairs.map bytesOfPair := by
    rw [readQuery, query_withPairs, h, readForm_foldl_appendPair]
    rfl
  rw [withParameters_eq]
  cases p.filter with
  | none => exact hpairs.trans (List.append_nil _).symm
  | some text =>
    have hform := isForm_query_withPairs h p.pairs
    exact (readQuery_withFilter hform text).trans (congrArg (· ++ _) hpairs)

theorem readsVerbatim_where : ReadsVerbatim "where".toList := by decide +kernel

theorem readForm_filter (text : String) :
    (readForm (utf8Bytes (stripped ("where=" ++ text).toList)) = [bytesOfPair ("where", text)]
        ↔ ReadsVerbatim text.toList)
      ∧ ∃ rest, readForm (utf8Bytes (stripped ("where=" ++ text).toList))
          = (textBytes "where",
              formDecode (utf8Bytes ((stripped text.toList).takeWhile (· != '&')))) :: rest
        ∧ ('&' ∉ text.toList → rest = []) := by
  have htext : stripped ("where=" ++ text).toList
      = "where".toList ++ '=' :: stripped text.toList := by
    rw [String.toList_append, stripped_append]
    rfl
  rw [htext]
  refine ⟨readForm_value_eq_iff readsVerbatim_where (by decide) text.toList, ?_⟩
  obtain ⟨rest, hread, hrest⟩ :=
    readForm_value readsVerbatim_where (by decide) (stripped text.toList)
  exact ⟨rest, hread, fun hand => hrest fun hmem => hand (List.mem_filter.mp hmem).1⟩

/-- What is read in the listings of an accepted configuration whose address has no query: the pairs
in their order, and for a filter its text up to the first `&`, decoded, under the name `where`. This
is the filter iff a form reads its text as it is. More than that is read only of a filter with an
`&`. -/
theorem readQuery_of_validate (h : c.validate names = .ok ()) :
    ∃ base, c.base names = .ok base ∧ (base.query = none → ∀ table p, ∃ list more,
      c.listUrl names table p = .ok list
      ∧ list.readQuery = p.pairs.map bytesOfPair ++ more
      ∧ (p.filter = none → more = [])
      ∧ ∀ text, p.filter = some text →
        (more = [bytesOfPair ("where", text)] ↔ ReadsVerbatim text.toList)
        ∧ ∃ rest, more = (textBytes "where",
            formDecode (utf8Bytes ((stripped text.toList).takeWhile (· != '&')))) :: rest
          ∧ ('&' ∉ text.toList → rest = [])) := by
  obtain ⟨-, base, -, hbase, -⟩ := base_of_validate h
  refine ⟨base, hbase, fun hquery table p => ?_⟩
  have hrecords : (base.extendPath ["api", "v2", "tables", table, "records"]).query = none := hquery
  refine ⟨_, _, listUrl_eq hbase table p, readQuery_withParameters hrecords p, ?_, ?_⟩
  · intro hnone
    rw [hnone]
    rfl
  · intro text hsome
    rw [hsome]
    exact readForm_filter text

/-- A percent sign that is no part of an escape is read back. -/
theorem readQuery_of_like_filter :
    let c := Config.of "https://noco.example.com" "token"
    let p : Parameters := { limit := some 25, filter := some "(Name,like,%Ann%)" }
    c.validate .ascii = .ok () ∧ ∃ list, c.listUrl .ascii "leads" p = .ok list
      ∧ list.readQuery
        = [bytesOfPair ("limit", "25"), bytesOfPair ("where", "(Name,like,%Ann%)")] := by
  have hvalid : (Config.of "https://noco.example.com" "token").validate .ascii = .ok () := by
    decide +kernel
  obtain ⟨base, hbase, hurls⟩ := readQuery_of_validate hvalid
  have hquery : ((Config.of "https://noco.example.com" "token").base .ascii).map (·.query) = .ok none := by
    decide +kernel
  rw [hbase] at hquery
  obtain ⟨list, more, hlist, hread, -, hfilter⟩ := hurls (Except.ok.inj hquery) "leads"
    { limit := some 25, filter := some "(Name,like,%Ann%)" }
  have hverbatim : ReadsVerbatim "(Name,like,%Ann%)".toList := by decide +kernel
  rw [(hfilter _ rfl).1.mpr hverbatim] at hread
  exact ⟨hvalid, list, hlist, hread⟩

/-- An `&` in a filter ends it, and what comes behind is read as a pair of its own. -/
theorem readQuery_of_and_in_filter :
    let c := Config.of "https://noco.example.com" "token"
    let p : Parameters := { filter := some "(a,eq,b&c)" }
    c.validate .ascii = .ok () ∧ ∃ base list, c.base .ascii = .ok base ∧ base.query = none
      ∧ c.listUrl .ascii "leads" p = .ok list
      ∧ list.readQuery = [bytesOfPair ("where", "(a,eq,b"), bytesOfPair ("c)", "")]
      ∧ list.readQuery ≠ p.pairs.map bytesOfPair ++ [bytesOfPair ("where", "(a,eq,b&c)")] := by
  have hvalid : (Config.of "https://noco.example.com" "token").validate .ascii = .ok () := by
    decide +kernel
  have hquery : ((Config.of "https://noco.example.com" "token").base .ascii).map (·.query) = .ok none := by
    decide +kernel
  have hread : ((Config.of "https://noco.example.com" "token").listUrl .ascii "leads"
      { filter := some "(a,eq,b&c)" }).map readQuery
      = .ok [bytesOfPair ("where", "(a,eq,b"), bytesOfPair ("c)", "")] := by decide +kernel
  obtain ⟨-, base, -, hbase, -⟩ := base_of_validate hvalid
  rw [hbase] at hquery
  rw [listUrl_eq hbase] at hread
  have hpairs := Except.ok.inj hread
  refine ⟨hvalid, base, _, hbase, Except.ok.inj hquery, listUrl_eq hbase _ _, hpairs, ?_⟩
  rw [hpairs]
  decide +kernel

end Config

end RecordQuery
