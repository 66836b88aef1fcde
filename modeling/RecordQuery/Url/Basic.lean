import RecordQuery.Url.Form
import RecordQuery.Url.Host
import RecordQuery.Url.Path

/-!
# Web URLs

A URL of a web server in its parts, all of them already encoded. Path and query are changed by
operations that encode what they are given; user, host and port have none, so they stay what they
were.
-/

namespace RecordQuery

open Url

/-- A URL with a host and a path of segments. -/
structure Url where
  scheme : String
  /-- The encoded text in front of the `@`, with a password behind a colon; empty if there is no
  `@`. -/
  userinfo : String
  host : Url.Host
  /-- A port other than the scheme's own. -/
  port : Option UInt16
  path : Url.Path
  query : Option String
  fragment : Option String
deriving DecidableEq, Repr

namespace Url

/-- The schemes of web URLs with the ports that go without saying. -/
def defaultPort? : String → Option UInt16
  | "http" => some 80
  | "https" => some 443
  | "ws" => some 80
  | "wss" => some 443
  | "ftp" => some 21
  | _ => none

/-- The URL with segments added to its path, in place of an empty one at its end. -/
def extendPath (url : Url) (segments : List String) : Url :=
  { url with path := segments.foldl Path.push url.path.popIfEmpty }

/-! ## Queries -/

/-- The query with a pair appended in form encoding. -/
def appendPair (query : String) (pair : String × String) : String :=
  (if query.isEmpty then query else query ++ "&") ++ String.ofList (formPair pair)

/-- The URL with pairs appended to its query in form encoding. -/
def appendPairs (url : Url) (pairs : List (String × String)) : Url :=
  { url with query := some (pairs.foldl appendPair (url.query.getD "")) }

/-- The URL with its query replaced by a text, of which only what may not stand in a query is
encoded. -/
def setQuery (url : Url) (query : String) : Url :=
  { url with query := some (String.ofList (percentEncode ByteSet.query (stripped query.toList))) }

/-! ## Printing -/

/-- The text of a part behind its mark; nothing if there is no such part. -/
def marked (mark : String) : Option String → String
  | none => ""
  | some part => mark ++ part

def originText (url : Url) : String :=
  url.scheme ++ "://" ++ (if url.userinfo.isEmpty then "" else url.userinfo ++ "@")
    ++ url.host.text ++ marked ":" (url.port.map fun n => toString n.toNat)

/-- What a request for the URL asks its server for: path and query. -/
def target (url : Url) : String := url.path.text ++ marked "?" url.query

def text (url : Url) : String := url.originText ++ url.target ++ marked "#" url.fragment

end Url

end RecordQuery
