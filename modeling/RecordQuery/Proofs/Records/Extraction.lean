import RecordQuery.Proofs.Page.Metadata
import RecordQuery.Records.Listing

/-!
# What is taken from a response

A response is read twice: for its rows, and for what it tells about the whole result. The rows come
from the value under `list`, or from the response if it is no object with such a key, and from no
deeper level. The metadata comes from the value under `pageInfo`. Neither reading sees what the
other one looks at, so a response may be changed under one key without a change of the other part.

## Main statements

* `Row.map_toJson_allOfJson_array`: the rows of an array are its objects.
* `Listing.rowsOfResponse_of_lookup`, `Listing.rowsOfResponse_of_no_list`: where the rows come from.
* `Listing.rows_editAll`, `Listing.pageInfo_editAll`: what a run of changes leaves alone.
* `Listing.parts_of_response`: all together, with the metadata.
-/

namespace RecordQuery

open Fields (Edit)

namespace Row

theorem allOfJson_of_isLeaf {json : Json} (h : json.isLeaf = true) : allOfJson json = [] := by
  cases json with
  | array items => cases h
  | object fields => cases h
  | _ => rfl

/-- The rows of an array are its objects, in their order and with all that they hold. -/
theorem map_toJson_allOfJson_array (items : List Json) :
    (allOfJson (.array items)).map toJson = items.filter Json.isObject := by
  induction items with
  | nil => rfl
  | cons item rest ih =>
    have hrest : (rest.filterMap ofJson?).map toJson = rest.filter Json.isObject := ih
    cases item with
    | object fields =>
      show toJson ⟨fields⟩ :: (rest.filterMap ofJson?).map toJson = _
      rw [hrest]
      rfl
    | _ => exact hrest

theorem length_allOfJson_array_iff (items : List Json) :
    (allOfJson (.array items)).length = items.length ↔ ∀ item ∈ items, item.isObject = true := by
  rw [← List.length_map (f := toJson), map_toJson_allOfJson_array]
  exact List.length_filter_eq_length_iff

end Row

namespace Listing

/-! ## The rows -/

theorem rowsOfResponse_of_lookup {fields : Fields} {list : Json}
    (h : fields.lookup "list" = some list) :
    rowsOfResponse (.object fields) = Row.allOfJson list := by
  rw [rowsOfResponse, Json.member?, h, Option.getD_some]

/-- An object without a list is itself the row. -/
theorem rowsOfResponse_of_no_list {fields : Fields} (h : fields.lookup "list" = none) :
    rowsOfResponse (.object fields) = [⟨fields⟩] := by
  rw [rowsOfResponse, Json.member?, h, Option.getD_none, Row.allOfJson]

theorem rowsOfResponse_of_not_isObject {response : Json} (h : response.isObject = false) :
    rowsOfResponse response = Row.allOfJson response := by
  cases response with
  | object fields => cases h
  | _ => rfl

/-! ## Changes of a response -/

theorem rows_editAll {fields : Fields} {list : Json} (h : fields.lookup "list" = some list)
    {edits : List Edit} (hedits : ∀ e ∈ edits, "list" ≠ e.key) :
    (ofResponse (.object (fields.editAll edits))).rows = (ofResponse (.object fields)).rows := by
  have hafter := (Fields.lookup_editAll_of_ne fields hedits).trans h
  show rowsOfResponse _ = rowsOfResponse _
  rw [rowsOfResponse_of_lookup hafter, rowsOfResponse_of_lookup h]

theorem pageInfo_editAll (fields : Fields) {edits : List Edit}
    (hedits : ∀ e ∈ edits, "pageInfo" ≠ e.key) :
    (ofResponse (.object (fields.editAll edits))).pageInfo
      = (ofResponse (.object fields)).pageInfo := by
  have hafter := Fields.lookup_editAll_of_ne fields hedits
  show PageInfo.ofResponse _ = PageInfo.ofResponse _
  rw [PageInfo.ofResponse, PageInfo.ofResponse, Json.member?, Json.member?, hafter]

/-- The rows of an object with an array under `list` are those of the array alone: its objects, in
their order and unchanged, and all items iff each is an object. An object under `list` is the only
row, and so is an object without a list, whatever either holds; a value without parts has no rows.
Changes under keys other than `pageInfo` leave the metadata alone, and changes under keys other than
`list` the rows that come from there. The metadata is what the value under `pageInfo`
spells entry by entry, and empty if it does not spell all of it or if there is no such value. -/
theorem parts_of_response :
    (∀ (fields : Fields) (items : List Json), fields.lookup "list" = some (.array items) →
        rowsOfResponse (.object fields) = rowsOfResponse (.array items))
    ∧ (∀ items : List Json,
        (rowsOfResponse (.array items)).map Row.toJson = items.filter Json.isObject
        ∧ ((rowsOfResponse (.array items)).length = items.length
          ↔ ∀ item ∈ items, item.isObject = true))
    ∧ (∀ fields row : Fields, fields.lookup "list" = some (.object row) →
        rowsOfResponse (.object fields) = [⟨row⟩])
    ∧ (∀ fields : Fields, fields.lookup "list" = none →
        rowsOfResponse (.object fields) = [⟨fields⟩])
    ∧ (∀ json : Json, json.isLeaf = true → rowsOfResponse json = []
        ∧ ∀ fields : Fields, fields.lookup "list" = some json → rowsOfResponse (.object fields) = [])
    ∧ (∀ (fields : Fields) (edits : List Edit), (∀ e ∈ edits, e.key ≠ "pageInfo") →
        (ofResponse (.object (fields.editAll edits))).pageInfo
          = (ofResponse (.object fields)).pageInfo)
    ∧ (∀ (fields : Fields) (edits : List Edit), fields.lookup "list" ≠ none →
        (∀ e ∈ edits, e.key ≠ "list") →
        (ofResponse (.object (fields.editAll edits))).rows = (ofResponse (.object fields)).rows)
    ∧ ∀ response : Json,
        (∀ info, PageInfo.Told response info → (ofResponse response).pageInfo = info)
        ∧ ((∀ info, ¬ PageInfo.Told response info) →
          (ofResponse response).pageInfo = {} ∧ (ofResponse response).pageInfo.total = 0) := by
  refine ⟨?_, ?_, ?_, ?_, ?_, ?_, ?_, ?_⟩
  · intro fields items h
    rw [rowsOfResponse_of_lookup h, rowsOfResponse_of_not_isObject rfl]
  · intro items
    rw [rowsOfResponse_of_not_isObject rfl]
    exact ⟨Row.map_toJson_allOfJson_array items, Row.length_allOfJson_array_iff items⟩
  · intro fields row h
    rw [rowsOfResponse_of_lookup h, Row.allOfJson]
  · intro fields h
    exact rowsOfResponse_of_no_list h
  · intro json hleaf
    refine ⟨?_, fun fields h => ?_⟩
    · rw [rowsOfResponse_of_not_isObject (Json.isObject_of_isLeaf hleaf),
        Row.allOfJson_of_isLeaf hleaf]
    · rw [rowsOfResponse_of_lookup h, Row.allOfJson_of_isLeaf hleaf]
  · intro fields edits hedits
    exact pageInfo_editAll fields fun e he => (hedits e he).symm
  · intro fields edits hlist hedits
    obtain ⟨list, hlist⟩ := Option.ne_none_iff_exists'.mp hlist
    exact rows_editAll hlist fun e he => (hedits e he).symm
  · intro response
    refine ⟨fun info htold => PageInfo.ofResponse_of_told htold, fun hnone => ?_⟩
    have hempty : (ofResponse response).pageInfo = {} :=
      PageInfo.ofResponse_of_forall_not_told hnone
    exact ⟨hempty, hempty ▸ rfl⟩

/-- The rows may have columns called `list` and `pageInfo`; an entry of the wrong kind takes all of
the metadata with it and none of the rows. -/
theorem parts_of_response_columns :
    let row : Fields :=
      .ofPairs [("list", .array [.object .empty]), ("pageInfo", .object .empty)]
    let items : List Json := [.object row, .bool true, .object .empty]
    let metadata : Fields :=
      .ofPairs [("page", .null), ("size", .array []), ("totalRows", .ofUInt64 5)]
    let fields : Fields := .ofPairs [("list", .array items), ("pageInfo", .object metadata)]
    let shorter := fields.editAll [.remove "list", .put "count" .null]
    let broken := fields.editAll
      [.put "pageInfo" (.object (.ofPairs [("page", .string "one"), ("totalRows", .ofUInt64 5)]))]
    (rowsOfResponse (.object fields)).map Row.toJson = [.object row, .object .empty]
      ∧ (rowsOfResponse (.array items)).length ≠ items.length
      ∧ rowsOfResponse (.object (.ofPairs [("list", .object row)])) = [⟨row⟩]
      ∧ rowsOfResponse (.object row) = [⟨.empty⟩]
      ∧ rowsOfResponse (.object (.ofPairs [("pageInfo", .null)])) = [⟨.ofPairs [("pageInfo", .null)]⟩]
      ∧ rowsOfResponse (.object (.ofPairs [("list", .bool true)])) = []
      ∧ (ofResponse (.object fields)).pageInfo = { totalRows := some 5 }
      ∧ (ofResponse (.object shorter)).pageInfo = { totalRows := some 5 }
      ∧ (ofResponse (.object broken)).rows = (ofResponse (.object fields)).rows
      ∧ (ofResponse (.object broken)).pageInfo = {} := by
  intro row items metadata fields shorter broken
  obtain ⟨hlist, harray, hone, hself, hleaf, hpageInfo, hrows, hmetadata⟩ := parts_of_response
  have hrowsOfList :
      (rowsOfResponse (.object fields)).map Row.toJson = [.object row, .object .empty] := by
    rw [hlist fields items rfl, (harray items).1]
    rfl
  have htold : PageInfo.Told (.object fields) { totalRows := some 5 } :=
    ⟨.object metadata, rfl, .object ⟨.value 5, .null, rfl, rfl, rfl⟩⟩
  have hknown : (ofResponse (.object fields)).pageInfo = { totalRows := some 5 } :=
    (hmetadata _).1 _ htold
  have hnone : ∀ info, ¬ PageInfo.Told (.object broken) info := by
    rintro info ⟨json, hjson, hspells⟩
    have hput := Members.lookup_insert_self fields "pageInfo" (.object
      (.ofPairs [("page", .string "one"), ("totalRows", .ofUInt64 5)]))
    obtain rfl := Option.some.inj (hput.symm.trans hjson)
    cases hspells with
    | object hsets => cases hsets.page
  refine ⟨hrowsOfList, ?_, hone (.ofPairs [("list", .object row)]) row rfl, hlist row _ rfl, hself _ rfl,
    (hleaf (.bool true) rfl).2 _ rfl, hknown, ?_, ?_, ((hmetadata _).2 hnone).1⟩
  · rw [Ne, (harray items).2]
    exact fun hall => absurd (hall (.bool true) (by simp [items])) (by decide)
  · exact (hpageInfo fields _ (by decide)).trans hknown
  · exact hrows fields _ nofun (by decide)

end Listing

end RecordQuery
