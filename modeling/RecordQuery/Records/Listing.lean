import RecordQuery.Page.Info
import RecordQuery.Row

/-!
# Rows of a response

A response to a list request holds its rows under `list`, or is itself the array of rows, or is the
only row. Items that are no objects are passed over. What the response says about the whole result is
read apart from the rows.
-/

namespace RecordQuery

/-- The rows that a value stands for: the objects of an array, or the value if it is an object. -/
def Row.allOfJson : Json → List Row
  | .array items => items.filterMap Row.ofJson?
  | .object fields => [⟨fields⟩]
  | _ => []

/-- The rows of a response and what it says about the whole result. -/
structure Listing where
  rows : List Row
  pageInfo : PageInfo

namespace Listing

def rowsOfResponse (response : Json) : List Row :=
  Row.allOfJson ((response.member? "list").getD response)

/-- The rows and the page metadata of a response. -/
def ofResponse (response : Json) : Listing :=
  ⟨rowsOfResponse response, PageInfo.ofResponse response⟩

def size (listing : Listing) : Nat := listing.rows.length

def isEmpty (listing : Listing) : Bool := listing.rows.isEmpty

end Listing

end RecordQuery
