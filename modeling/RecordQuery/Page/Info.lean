import RecordQuery.Json.Decode

/-!
# Page metadata of a response

A response to a list request tells about the whole result under the key `pageInfo`. Each entry may
be missing; metadata of which any entry is malformed counts as missing altogether.
-/

namespace RecordQuery

/-- What a response says about the result that its rows are a page of. -/
structure PageInfo where
  totalRows : Option UInt64 := none
  page : Option UInt64 := none
  pageSize : Option UInt64 := none
  isFirstPage : Option Bool := none
  isLastPage : Option Bool := none
deriving DecidableEq, Repr

namespace PageInfo

/-- The metadata as a JSON object, with `null` for what is unset. -/
def toJson (info : PageInfo) : Json :=
  .object <| .ofPairs
    [("isFirstPage", Json.ofOption Json.bool info.isFirstPage),
     ("isLastPage", Json.ofOption Json.bool info.isLastPage),
     ("page", Json.ofOption Json.ofUInt64 info.page),
     ("pageSize", Json.ofOption Json.ofUInt64 info.pageSize),
     ("totalRows", Json.ofOption Json.ofUInt64 info.totalRows)]

/-- Sets the entry that a member of an object stands for; other members are passed over. -/
def setMember (info : PageInfo) : String × Json → Except DecodeError PageInfo
  | ("totalRows", json) => do return { info with totalRows := ← Decoder.optional Decoder.word64 json }
  | ("page", json) => do return { info with page := ← Decoder.optional Decoder.word64 json }
  | ("pageSize", json) => do return { info with pageSize := ← Decoder.optional Decoder.word64 json }
  | ("isFirstPage", json) => do
    return { info with isFirstPage := ← Decoder.optional Decoder.flag json }
  | ("isLastPage", json) => do return { info with isLastPage := ← Decoder.optional Decoder.flag json }
  | _ => .ok info

def decodeItems (items : List Json) : Except DecodeError PageInfo := do
  let shape := "struct PageInfo with 5 elements"
  let totalRows ← Decoder.item shape items 0 (Decoder.optional Decoder.word64)
  let page ← Decoder.item shape items 1 (Decoder.optional Decoder.word64)
  let pageSize ← Decoder.item shape items 2 (Decoder.optional Decoder.word64)
  let isFirstPage ← Decoder.item shape items 3 (Decoder.optional Decoder.flag)
  let isLastPage ← Decoder.item shape items 4 (Decoder.optional Decoder.flag)
  if items.length > 5 then throw (.extraItems items.length)
  return { totalRows, page, pageSize, isFirstPage, isLastPage }

/-- Decodes metadata. -/
def decode : Decoder PageInfo
  | .object fields => fields.pairs.foldlM setMember {}
  | .array items => decodeItems items
  | found => .error (.wrongKind found "struct PageInfo")

/-- The metadata of a response; none of it if there is none or if it does not decode. -/
def ofResponse (response : Json) : PageInfo :=
  match response.member? "pageInfo" with
  | none => {}
  | some json =>
    match decode json with
    | .ok info => info
    | .error _ => {}

/-- The size of the whole result, zero if the response does not tell. -/
def total (info : PageInfo) : UInt64 := info.totalRows.getD 0

end PageInfo

end RecordQuery
