import RecordQuery.Url.Basic

/-!
# Parsing URLs

`Url.parse` reads a text as an absolute URL. Controls and spaces around the text and tabs and line
ends anywhere in it are ignored. A web URL is taken apart; of a URL of another kind only the scheme
is kept, once its parts are found to be well formed. Names of hosts are mapped as `names` tells.
-/

namespace RecordQuery.Url

inductive Parsed where
  | web (url : Url)
  | other (scheme : String)

def Parsed.scheme : Parsed → String
  | .web url => url.scheme
  | .other scheme => scheme

/-- A text without what is ignored in a URL. -/
def cleaned (text : String) : List Char :=
  let isMargin (c : Char) : Bool := c.toNat ≤ 0x20
  stripped ((text.toList.dropWhile isMargin).reverse.dropWhile isMargin).reverse

/-- The characters of a scheme behind its first letter. -/
def isSchemeChar (c : Char) : Bool := c.isAlphanum || c == '+' || c == '-' || c == '.'

/-- The scheme in front of the first colon, in lower case, and what follows the colon. -/
def cutScheme? (cs : List Char) : Option (String × List Char) :=
  let scheme := cs.takeWhile isSchemeChar
  match scheme.head?, cs.dropWhile isSchemeChar with
  | some first, ':' :: rest =>
    if first.isAlpha then some (String.ofList (scheme.map Char.toLower), rest) else none
  | _, _ => none

/-- A slash, or a backslash that counts as one. -/
def isSlash (c : Char) : Bool := c == '/' || c == '\\'

/-- The end of a part in front of the path; backslashes end it in web URLs. -/
def endsAuthority (isWeb : Bool) (c : Char) : Bool :=
  c == '/' || c == '?' || c == '#' || (isWeb && c == '\\')

/-! ## User, host and port -/

/-- The text of user name and password, encoded; a colon without a password behind it goes. -/
def encodeUserinfo (userinfo : List Char) : String :=
  let name := userinfo.takeWhile (· != ':')
  let password := (userinfo.dropWhile (· != ':')).drop 1
  let encode := percentEncode ByteSet.userinfo
  String.ofList
    (if password.isEmpty then encode name else encode name ++ ':' :: encode password)

/-- Cuts a text at its first colon outside brackets, which stays with the second part. -/
def cutHost (inside : Bool) : List Char → List Char × List Char
  | [] => ([], [])
  | c :: rest =>
    if c == ':' && !inside then ([], c :: rest)
    else
      let (host, port) := cutHost (if c == '[' then true else if c == ']' then false else inside) rest
      (c :: host, port)

/-- Reads what follows a host: nothing, or a colon and a port, which may be empty. -/
def parsePort (isWeb : Bool) : List Char → Except ParseError (Option UInt16)
  | [] => .ok none
  | _ :: text =>
    let digits := text.takeWhile Char.isDigit
    let number := Nat.ofDigitChars 10 digits 0
    let rest := text.dropWhile Char.isDigit
    let atEnd := rest.isEmpty || (!isWeb && rest.head? == some '\\')
    if number > 65535 || !atEnd then .error .invalidPort
    else .ok (if digits.isEmpty then none else some (UInt16.ofNat number))

/-- A `@` without anything in front of it, and without a host behind it in front of more text. -/
def isBareAt (userinfo? : Option (List Char × List Char)) (rest : List Char) : Bool :=
  match userinfo? with
  | some ([], []) => !rest.isEmpty
  | _ => false

/-! ## Web URLs -/

/-- The encoded segments of a path up to the query or the fragment. -/
def splitPath (cs : List Char) : List String :=
  let path := cs.takeWhile fun c => !(c == '?' || c == '#')
  let path := match path with
    | c :: rest => if isSlash c then rest else path
    | [] => []
  (path.splitOnP isSlash).map fun segment => String.ofList (percentEncode ByteSet.path segment)

def parseQuery (cs : List Char) : Option String :=
  match cs.dropWhile fun c => !(c == '?' || c == '#') with
  | '?' :: rest =>
    some (String.ofList (percentEncode ByteSet.query (rest.takeWhile (· != '#'))))
  | _ => none

/-- The encoded fragment at the end of a text. -/
def parseFragment (cs : List Char) : Option String :=
  match cs.dropWhile (· != '#') with
  | _ :: rest => some (String.ofList (percentEncode ByteSet.fragment rest))
  | [] => none

/-- Parses a web URL behind the slashes that follow its scheme. -/
def parseWeb (names : NameMapping) (scheme : String) (cs : List Char) : Except ParseError Url := do
  let authority := cs.takeWhile fun c => !endsAuthority true c
  let rest := cs.dropWhile fun c => !endsAuthority true c
  let cut := Text.cutAtLast? '@' authority
  if isBareAt cut rest then throw .emptyHost
  let (userinfo, hostAndPort) := cut.getD ([], authority)
  let (hostText, portText) := cutHost false hostAndPort
  if hostText.isEmpty then throw .emptyHost
  -- A fault of the host is reported before one of the port.
  let host ← Host.parse names hostText
  let port ← parsePort true portText
  return {
    scheme
    userinfo := encodeUserinfo userinfo
    host
    port := port.filter fun n => some n != defaultPort? scheme
    path := Path.ofSegments (splitPath rest)
    query := parseQuery rest
    fragment := parseFragment rest }

/-! ## Other URLs -/

/-- Checks user, host and port of a URL that is not a web URL. -/
def checkAuthority (cs : List Char) : Except ParseError Unit := do
  let authority := cs.takeWhile fun c => !endsAuthority false c
  let rest := cs.dropWhile fun c => !endsAuthority false c
  let cut := Text.cutAtLast? '@' authority
  if isBareAt cut rest then throw .emptyHost
  let (userinfo, hostAndPort) := cut.getD ([], authority)
  let (hostText, portText) := cutHost false hostAndPort
  Host.parseOpaque hostText
  if hostText.isEmpty && !portText.isEmpty then throw .emptyHost
  let _ ← parsePort false portText
  if hostText.isEmpty && !(encodeUserinfo userinfo).isEmpty then throw .emptyHost

/-- Checks the host of a file URL, which stands behind two slashes and may be missing. -/
def checkFileHost (names : NameMapping) (cs : List Char) : Except ParseError Unit :=
  match cs with
  | a :: b :: rest =>
    if isSlash a && isSlash b then
      let host := rest.takeWhile fun c => !endsAuthority true c
      if host.isEmpty || Path.isDrive (String.ofList host) then .ok ()
      else do let _ ← Host.parse names host
    else .ok ()
  | _ => .ok ()

def parse (names : NameMapping) (text : String) : Except ParseError Parsed :=
  match cutScheme? (cleaned text) with
  | none => .error .relativeWithoutBase
  | some (scheme, rest) =>
    if (defaultPort? scheme).isSome then
      Parsed.web <$> parseWeb names scheme (rest.dropWhile isSlash)
    else if scheme = "file" then do
      checkFileHost names rest
      return .other scheme
    else do
      match rest with
      | '/' :: '/' :: rest => checkAuthority rest
      | _ => pure ()
      return .other scheme

end RecordQuery.Url
