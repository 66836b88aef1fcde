import RecordQuery.Proofs.Url.Clipping
import RecordQuery.Proofs.Url.Segments
import RecordQuery.Records.Endpoint

/-!
# Where the URLs of a configuration lead

A configuration that was accepted makes URLs for every table, key and parameters, all of them on the
server that its address names. They lead to the records of the table and to the record with the key,
as long as the texts of table and key can be segments of a path.

## Main statements

* `Config.urls_of_validate`: URLs can always be made, and for no other server.
* `Config.leadsTo_iff`: when the URLs of a table and of a record lead there.
-/

namespace RecordQuery

namespace Url

theorem sameServer_extendPath (url : Url) (segments : List String) :
    (url.extendPath segments).SameServer url :=
  ⟨rfl, rfl, rfl, rfl⟩

/-- The path of a URL is that of another one with the given texts behind it, each of them one
segment; an empty segment at the end gives way to them. -/
def LeadsTo (url base : Url) (texts : List String) : Prop :=
  url.path.decoded = base.path.stem.map decodeSegment ++ texts.map textBytes

end Url

namespace Config

open Url

variable {names : NameMapping} {c : Config}

theorem parse_of_validate (h : c.validate names = .ok ()) :
    ∃ given, Url.parse names c.apiUrl = .ok (.web given) := by
  rw [validate] at h
  split at h
  · cases h
  · split at h
    · cases h
    · rename_i url hparse
      split at h
      · rename_i hscheme
        cases parsesAs_of_parse hparse with
        | @web _ _ given => exact ⟨given, hparse⟩
        | other hnone =>
          -- Every scheme that is accepted is one of web URLs.
          simp only [isSupportedScheme, Parsed.scheme, Bool.or_eq_true, beq_iff_eq] at hscheme
          rcases hscheme with rfl | rfl <;> cases hnone
      · cases h

/-- The address of an accepted configuration is still a web URL without the slashes at its end. -/
theorem base_of_validate (h : c.validate names = .ok ()) :
    ∃ given base, Url.parse names c.apiUrl = .ok (.web given) ∧ c.base names = .ok base
      ∧ base.SameServer given := by
  obtain ⟨given, hgiven⟩ := parse_of_validate h
  obtain ⟨base, hbase, hsame⟩ := parse_clipped hgiven
  have hclipped : Url.parse names c.baseUrl = .ok (.web base) := hbase
  exact ⟨given, base, hgiven, by rw [Config.base, hclipped], hsame⟩

theorem tablesUrl_eq {base : Url} (h : c.base names = .ok base) (segments : List String) :
    c.tablesUrl names segments = .ok (base.extendPath (["api", "v2", "tables"] ++ segments)) := by
  rw [tablesUrl, h]
  rfl

theorem listUrl_eq {base : Url} (h : c.base names = .ok base) (table : String) (p : Parameters) :
    c.listUrl names table p = .ok (withParameters
      (base.extendPath ["api", "v2", "tables", table, "records"]) p) := by
  rw [listUrl, recordsUrl, tablesUrl_eq h]
  rfl

/-- A URL with the parameters of a list request that are in form encoding. -/
def withPairs (url : Url) (pairs : List (String × String)) : Url :=
  if pairs.isEmpty then url else url.appendPairs pairs

theorem withParameters_eq (url : Url) (p : Parameters) :
    withParameters url p
      = p.filter.elim (withPairs url p.pairs) (withFilter (withPairs url p.pairs)) := by
  rw [withParameters]
  cases p.filter <;> rfl

theorem sameServer_withFilter (url : Url) (filter : String) :
    (withFilter url filter).SameServer url := by
  rw [withFilter]
  split
  · split <;> exact ⟨rfl, rfl, rfl, rfl⟩
  · exact ⟨rfl, rfl, rfl, rfl⟩

theorem sameServer_withPairs (url : Url) (pairs : List (String × String)) :
    (withPairs url pairs).SameServer url := by
  rw [withPairs]
  split <;> exact ⟨rfl, rfl, rfl, rfl⟩

theorem sameServer_withParameters (url : Url) (p : Parameters) :
    (withParameters url p).SameServer url := by
  have hpairs := sameServer_withPairs url p.pairs
  rw [withParameters_eq]
  cases p.filter with
  | none => exact hpairs
  | some filter => exact (sameServer_withFilter _ filter).trans hpairs

/-- An accepted configuration makes the URL of every table, record and listing, each on the server
of its address and reached by the same user in the same way. -/
theorem urls_of_validate (h : c.validate names = .ok ()) :
    ∃ given, Url.parse names c.apiUrl = .ok (.web given)
      ∧ ∀ table id p, ∃ records record list,
        c.recordsUrl names table = .ok records ∧ c.recordUrl names table id = .ok record
        ∧ c.listUrl names table p = .ok list
        ∧ records.SameServer given ∧ record.SameServer given ∧ list.SameServer given := by
  obtain ⟨given, base, hgiven, hbase, hsame⟩ := base_of_validate h
  refine ⟨given, hgiven, fun table id p => ⟨_, _, _, tablesUrl_eq hbase _, tablesUrl_eq hbase _,
    listUrl_eq hbase table p, ?_, ?_, ?_⟩⟩
  · exact (sameServer_extendPath ..).trans hsame
  · exact (sameServer_extendPath ..).trans hsame
  · exact (sameServer_withParameters ..).trans ((sameServer_extendPath ..).trans hsame)

/-- A host with a letter outside ASCII, which is mapped, and a margin behind the path. -/
theorem urls_of_validate_margins :
    let names := NameMapping.ascii.insert "bücher.example" "xn--bcher-kva.example"
      (by decide +kernel)
    let c := Config.of " http://user@bücher.example:81/nc\\ //" "token"
    c.validate names = .ok () ∧ ∃ given, Url.parse names c.apiUrl = .ok (.web given)
      ∧ ∀ table id p, ∃ records record list,
        c.recordsUrl names table = .ok records ∧ c.recordUrl names table id = .ok record
        ∧ c.listUrl names table p = .ok list
        ∧ records.SameServer given ∧ record.SameServer given ∧ list.SameServer given := by
  intro names c
  have hvalid : c.validate names = .ok () := by decide +kernel
  exact ⟨hvalid, urls_of_validate hvalid⟩

/-! ## Paths -/

/-- The path that the tables of a deployment are in. -/
def tablesPath (base : Url) : Path := ["api", "v2", "tables"].foldl Path.push base.path.popIfEmpty

theorem tablesPath_ne_root (base : Url) : tablesPath base ≠ Path.root :=
  Path.push_ne_root (s := "tables") (by decide) (by decide)

theorem path_extendPath (base : Url) (texts : List String) :
    (base.extendPath (["api", "v2", "tables"] ++ texts)).path
      = texts.foldl Path.push (tablesPath base) :=
  List.foldl_append

theorem leadsTo_extendPath_iff (base : Url) (texts : List String) :
    (base.extendPath (["api", "v2", "tables"] ++ texts)).LeadsTo base
        (["api", "v2", "tables"] ++ texts)
      ↔ base.path.segments ≠ ["", ""] ∧ ∀ s ∈ texts, NamesSegment s := by
  have hfixed : NamesSegment "v2" ∧ NamesSegment "tables" := by decide
  have hapi : NamesSegment "api" := by decide
  have hextend := base.path.decoded_extend_iff hapi (by decide) ("v2" :: "tables" :: texts)
  simp only [List.forall_mem_cons, hfixed.1, hfixed.2, true_and] at hextend
  exact hextend

/-- A listing has one segment less than a record. -/
theorem decoded_recordPath_ne (base : Url) {table id : String} (htable : NamesSegment table)
    (hid : NamesSegment id) (table' : String) :
    (base.extendPath (["api", "v2", "tables"] ++ [table, "records", id])).path.decoded
      ≠ (base.extendPath (["api", "v2", "tables"] ++ [table', "records"])).path.decoded := by
  intro h
  -- The path of a record has three segments behind that of the tables, a listing two at most.
  have hrecords : NamesSegment "records" := by decide
  have hrecord := (Path.decoded_foldl_push_iff (tablesPath_ne_root base)
    [table, "records", id]).mpr (by simp [htable, hid, hrecords])
  have hle := Path.length_foldl_push_le (tablesPath base) [table', "records"]
  rw [path_extendPath, path_extendPath, hrecord] at h
  have hlength := congrArg List.length h
  rw [List.length_append, List.length_map, Path.length_decoded, Path.length_decoded] at hlength
  simp only [List.length_cons, List.length_nil] at hlength hle
  omega

theorem eq_of_decoded_recordPath_eq (base : Url) {table id table' id' : String}
    (htable : NamesSegment table) (hid : NamesSegment id) (htable' : NamesSegment table')
    (hid' : NamesSegment id')
    (h : (base.extendPath (["api", "v2", "tables"] ++ [table, "records", id])).path.decoded
      = (base.extendPath (["api", "v2", "tables"] ++ [table', "records", id'])).path.decoded) :
    table = table' ∧ id = id' := by
  have hrecords : NamesSegment "records" := by decide
  rw [path_extendPath, path_extendPath] at h
  have htexts := Path.eq_of_decoded_foldl_push_eq (tablesPath_ne_root base)
    (by simp [htable, hid, hrecords]) (by simp [htable', hid', hrecords]) h
  simpa using htexts

/-- The URLs of a table and of a record lead there iff the texts of table and key can be segments
and nothing in front of them is replaced. Texts that can be segments are told apart by their URLs,
and the URL of a record is none of a listing. -/
theorem leadsTo_iff (h : c.validate names = .ok ()) :
    ∃ base, c.base names = .ok base ∧ ∀ table id, ∃ records record,
      c.recordsUrl names table = .ok records ∧ c.recordUrl names table id = .ok record
      ∧ (records.LeadsTo base ["api", "v2", "tables", table, "records"]
        ↔ base.path.segments ≠ ["", ""] ∧ NamesSegment table)
      ∧ (record.LeadsTo base ["api", "v2", "tables", table, "records", id.display]
        ↔ base.path.segments ≠ ["", ""] ∧ NamesSegment table ∧ NamesSegment id.display)
      ∧ (NamesSegment table → NamesSegment id.display → ∀ table' url,
        (c.recordsUrl names table' = .ok url → record.path.decoded ≠ url.path.decoded)
        ∧ ∀ id', NamesSegment table' → NamesSegment id'.display →
          c.recordUrl names table' id' = .ok url → record.path.decoded = url.path.decoded →
          table = table' ∧ id.display = id'.display) := by
  obtain ⟨-, base, -, hbase, -⟩ := base_of_validate h
  have hrecords : NamesSegment "records" := by decide
  refine ⟨base, hbase, fun table id => ⟨_, _, tablesUrl_eq hbase _, tablesUrl_eq hbase _, ?_, ?_,
    fun htable hid table' url => ⟨fun hurl => ?_, fun id' htable' hid' hurl heq => ?_⟩⟩⟩
  · simpa [hrecords] using leadsTo_extendPath_iff base [table, "records"]
  · simpa [hrecords] using leadsTo_extendPath_iff base [table, "records", id.display]
  · rw [recordsUrl, tablesUrl_eq hbase] at hurl
    exact Except.ok.inj hurl ▸ decoded_recordPath_ne base htable hid table'
  · rw [recordUrl, tablesUrl_eq hbase] at hurl
    rw [← Except.ok.inj hurl] at heq
    exact eq_of_decoded_recordPath_eq base htable hid htable' hid' heq

theorem leadsTo_of_slash_and_percent :
    let c := Config.of "https://noco.example.com/nc/" "token"
    c.validate .ascii = .ok () ∧ ∃ base record, c.base .ascii = .ok base
      ∧ c.recordUrl .ascii "a/b" (.text "50%") = .ok record
      ∧ record.LeadsTo base ["api", "v2", "tables", "a/b", "records", "50%"] := by
  have hvalid : (Config.of "https://noco.example.com/nc/" "token").validate .ascii = .ok () := by
    decide +kernel
  obtain ⟨base, hbase, hurls⟩ := leadsTo_iff hvalid
  obtain ⟨-, record, -, hrecord, -, hleads, -⟩ := hurls "a/b" (.text "50%")
  have hsegments : ((Config.of "https://noco.example.com/nc/" "token").base .ascii).map
      (·.path.segments) = .ok ["nc"] := by decide +kernel
  rw [hbase] at hsegments
  have hne : base.path.segments ≠ ["", ""] := by
    have hself : base.path.segments = ["nc"] := Except.ok.inj hsegments
    simp [hself]
  exact ⟨hvalid, base, record, hbase, hrecord, hleads.mpr ⟨hne, by decide, by decide⟩⟩

/-- The URL of a record whose key is a dot is the one of its table. -/
theorem recordUrl_of_dot :
    let c := Config.of "https://noco.example.com" "token"
    c.validate .ascii = .ok ()
      ∧ c.recordUrl .ascii "leads" (.text ".") = c.recordsUrl .ascii "leads"
      ∧ ∃ base record, c.base .ascii = .ok base
        ∧ c.recordUrl .ascii "leads" (.text ".") = .ok record
        ∧ ¬ record.LeadsTo base ["api", "v2", "tables", "leads", "records", "."] := by
  have hvalid : (Config.of "https://noco.example.com" "token").validate .ascii = .ok () := by
    decide +kernel
  obtain ⟨-, base, -, hbase, -⟩ := base_of_validate hvalid
  refine ⟨hvalid, by decide +kernel, base, _, hbase, tablesUrl_eq hbase _, fun hleads => ?_⟩
  have hnames := ((leadsTo_extendPath_iff base ["leads", "records", "."]).mp hleads).2
  exact absurd (hnames "." (by simp)) (by decide)

end Config

end RecordQuery
