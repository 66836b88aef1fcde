import RecordQuery.Failure
import RecordQuery.Query.Parameters

/-!
# URLs of tables and records

The records of a table stand under `api/v2/tables/<table>/records` of a deployment, one record
under its key below that. The parameters of a list request form the query: numbers and sort order in
form encoding, and the filter with as little encoding as a query allows, so that its parentheses,
commas and tildes stay as they are.
-/

namespace RecordQuery.Config

variable (names : Url.NameMapping)

/-- The URL of the deployment. -/
def base (c : Config) : Except Failure Url :=
  match Url.parse names c.baseUrl with
  | .error e => .error (.config (.invalidValue "api_url" e.message))
  | .ok (.web url) => .ok url
  | .ok (.other _) => .error (.config (.invalidValue "api_url" "cannot be used as a base"))

/-- The URL that the given segments lead to from the tables of the deployment. -/
def tablesUrl (c : Config) (segments : List String) : Except Failure Url := do
  return (← c.base names).extendPath (["api", "v2", "tables"] ++ segments)

def recordsUrl (c : Config) (table : String) : Except Failure Url :=
  c.tablesUrl names [table, "records"]

def recordUrl (c : Config) (table : String) (id : Scalar) : Except Failure Url :=
  c.tablesUrl names [table, "records", id.display]

/-- A URL with the text of a filter behind what its query holds. -/
def withFilter (url : Url) (filter : String) : Url :=
  match url.query with
  | some query =>
    if query.isEmpty then url.setQuery ("where=" ++ filter)
    else url.setQuery (query ++ "&where=" ++ filter)
  | none => url.setQuery ("where=" ++ filter)

/-- A URL with the parameters of a list request. -/
def withParameters (url : Url) (p : Parameters) : Url :=
  let url := if p.pairs.isEmpty then url else url.appendPairs p.pairs
  match p.filter with
  | none => url
  | some filter => withFilter url filter

def listUrl (c : Config) (table : String) (p : Parameters) : Except Failure Url := do
  return withParameters (← c.recordsUrl names table) p

end RecordQuery.Config
