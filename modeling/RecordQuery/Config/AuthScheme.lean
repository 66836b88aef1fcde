import RecordQuery.Json.Decode
import RecordQuery.Text.Blank
import RecordQuery.Text.Casing

/-!
# Authentication schemes

How a token is put on a request, the names under which a scheme is configured, and the one name
under which it is stored.
-/

namespace RecordQuery

inductive AuthScheme where
  /-- In a header of its own. -/
  | xcToken
  | bearer
deriving DecidableEq, Repr

namespace AuthScheme

/-- The name under which a scheme is stored. -/
def name : AuthScheme → String
  | .xcToken => "xc_token"
  | .bearer => "bearer"

/-- The scheme of a name in any letter case, blanks around it apart. -/
def ofName? (s : String) : Option AuthScheme :=
  match Text.lower (Text.trim s) with
  | "xc_token" | "xc-token" | "token" => some .xcToken
  | "bearer" => some .bearer
  | _ => none

/-- The name and the value of the header that carries a token. -/
def header (scheme : AuthScheme) (token : String) : String × String :=
  match scheme with
  | .xcToken => ("xc-token", token)
  | .bearer => ("Authorization", "Bearer " ++ token)

/-- The JSON value under which a scheme is stored. -/
def toJson (scheme : AuthScheme) : Json := .string scheme.name

def decodeName (name : String) : Except DecodeError AuthScheme :=
  if name = xcToken.name then .ok .xcToken
  else if name = bearer.name then .ok .bearer
  else .error (.unknownName name xcToken.name bearer.name)

/-- Decodes a stored scheme: its name, or an object with the name as its only key and no value. -/
def decode : Decoder AuthScheme
  | .string name => decodeName name
  | .object fields =>
    match fields.pairs with
    | [(name, value)] => do
      let scheme ← decodeName name
      if value.isNull then return scheme else throw (.wrongKind value "unit")
    | _ => .error .notSingleKey
  | found => .error (.wrongKind found "string or map")

end AuthScheme

end RecordQuery
