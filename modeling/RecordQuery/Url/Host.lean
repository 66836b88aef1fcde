import RecordQuery.Url.Domain.Mapping

/-!
# Hosts

The host of a URL is a name, an IPv4 address or an IPv6 address. A name that ends in a number has to
be an IPv4 address, in which each part may be decimal, octal or hexadecimal; an IPv6 address stands
in brackets.
-/

namespace RecordQuery.Url

/-- Why a text is not a URL that can be used on its own. -/
inductive ParseError where
  | relativeWithoutBase
  | emptyHost
  | invalidPort
  | invalidIPv4
  | invalidIPv6
  | invalidName
  | invalidHostCharacter
deriving DecidableEq, Repr

def ParseError.message : ParseError → String
  | .relativeWithoutBase => "relative URL without a base"
  | .emptyHost => "empty host"
  | .invalidPort => "invalid port number"
  | .invalidIPv4 => "invalid IPv4 address"
  | .invalidIPv6 => "invalid IPv6 address"
  | .invalidName => "invalid international domain name"
  | .invalidHostCharacter => "invalid domain character"

inductive Host where
  | name (labels : String)
  | ipv4 (address : UInt32)
  | ipv6 (groups : Vector UInt16 8)
deriving DecidableEq, Repr

namespace Host

/-! ## IPv4 addresses -/

/-- The value of digits in a base up to sixteen; `none` if a character is no digit of it. -/
def numberInBase? (base : Nat) (digits : List Char) : Option Nat :=
  digits.foldlM (fun n c => do
    let d ← Text.hexDigit? c
    if d < base then some (base * n + d) else none) 0

/-- The value of a part of an IPv4 address, `0x` marking hexadecimal and a leading zero octal
digits. -/
def ipv4Part? : List Char → Option Nat
  | [] => none
  | '0' :: 'x' :: digits => numberInBase? 16 digits
  | '0' :: 'X' :: digits => numberInBase? 16 digits
  | '0' :: d :: digits => numberInBase? 8 (d :: digits)
  | digits => numberInBase? 10 digits

/-- The labels of a name, without an empty one at its end. -/
def labels (name : List Char) : List (List Char) :=
  let parts := name.splitOn '.'
  if parts.getLast? == some [] then parts.dropLast else parts

/-- The last label is a number, so that the name has to be an IPv4 address. -/
def endsInNumber (name : List Char) : Bool :=
  match (labels name).getLast? with
  | none => false
  | some [] => false
  | some label => label.all Char.isDigit || (ipv4Part? label).isSome

/-- The address that the values of one to four parts spell: the last part fills the bytes that the
others leave. -/
def ipv4OfParts? (parts : List Nat) : Option UInt32 :=
  match parts.reverse with
  | [] => none
  | last :: firsts =>
    let count := firsts.length
    if count ≤ 3 && last < Nat.pow 256 (4 - count) && firsts.all (· < 256) then
      let bytes := firsts.reverse.zipIdx.map fun (n, i) => n * Nat.pow 256 (3 - i)
      some (UInt32.ofNat (bytes.foldr (· + ·) last))
    else none

def ipv4? (name : List Char) : Option UInt32 := do
  ipv4OfParts? (← (labels name).mapM ipv4Part?)

/-! ## IPv6 addresses -/

/-- A group of one to four hexadecimal digits. -/
def ipv6Group? (digits : List Char) : Option UInt16 :=
  if digits.isEmpty || digits.length > 4 then none
  else (numberInBase? 16 digits).map UInt16.ofNat

/-- A decimal byte without leading zeros. -/
def decimalByte? (digits : List Char) : Option Nat :=
  match digits with
  | [] => none
  | '0' :: _ :: _ => none
  | ds =>
    if ds.length ≤ 3 then (numberInBase? 10 ds).filter (· < 256) else none

/-- The two groups that four decimal bytes at the end of an address stand for. -/
def ipv6Tail? (part : List Char) : Option (List UInt16) := do
  match ← (part.splitOn '.').mapM decimalByte? with
  | [a, b, c, d] => some [UInt16.ofNat (a * 256 + b), UInt16.ofNat (c * 256 + d)]
  | _ => none

/-- The groups between colons, the last of which may be four decimal bytes if `tail` allows it. -/
def ipv6Groups? (tail : Bool) (text : List Char) : Option (List UInt16) :=
  if text.isEmpty then some []
  else
    let parts := text.splitOn ':'
    let last := parts.getLast?.getD []
    if tail && last.contains '.' then do
      return (← parts.dropLast.mapM ipv6Group?) ++ (← ipv6Tail? last)
    else parts.mapM ipv6Group?

def cutAtDoubleColon? : List Char → Option (List Char × List Char)
  | ':' :: ':' :: rest => some ([], rest)
  | c :: rest => (cutAtDoubleColon? rest).map fun (before, after) => (c :: before, after)
  | [] => none

/-- Groups that make a whole address. -/
def eightGroups? (groups : List UInt16) : Option (Vector UInt16 8) :=
  if h : groups.length = 8 then some ⟨groups.toArray, by simpa using h⟩ else none

/-- The eight groups of an address; a double colon stands for one zero group or more. -/
def ipv6? (text : List Char) : Option (Vector UInt16 8) :=
  match cutAtDoubleColon? text with
  | none => (ipv6Groups? true text).bind eightGroups?
  | some (before, after) => do
    let left ← ipv6Groups? false before
    let right ← ipv6Groups? true after
    let given := left.length + right.length
    if given ≤ 7 then eightGroups? (left ++ List.replicate (8 - given) 0 ++ right) else none

/-! ## Parsing -/

/-- The name that a text spells once percent-decoded. -/
def name? (names : NameMapping) (text : List Char) : Option (List Char) :=
  names.toAscii? (percentDecode (utf8Bytes text))

def inBrackets? : List Char → Option (List Char)
  | '[' :: rest => if rest.getLast? == some ']' then some rest.dropLast else none
  | _ => none

def parse (names : NameMapping) (text : List Char) : Except ParseError Host :=
  if text.head? == some '[' then
    match (inBrackets? text).bind ipv6? with
    | some groups => .ok (.ipv6 groups)
    | none => .error .invalidIPv6
  else
    match name? names text with
    | none => .error .invalidName
    | some [] => .error .emptyHost
    | some domain =>
      if endsInNumber domain then
        match ipv4? domain with
        | some address => .ok (.ipv4 address)
        | none => .error .invalidIPv4
      else .ok (.name (String.ofList domain))

/-- Parses the host of a URL of another kind, which is not looked into. -/
def parseOpaque (text : List Char) : Except ParseError Unit :=
  if text.head? == some '[' then
    match (inBrackets? text).bind ipv6? with
    | some _ => .ok ()
    | none => .error .invalidIPv6
  else if text.any fun c =>
      ['\x00', '\t', '\n', '\r', ' ', '#', '/', ':', '<', '>', '?', '@', '[', '\\', ']', '^',
        '|'].contains c then
    .error .invalidHostCharacter
  else .ok ()

/-! ## Printing -/

/-- The four bytes of an IPv4 address between points. -/
def ipv4Text (address : UInt32) : String :=
  ".".intercalate ([3, 2, 1, 0].map fun i => toString (address.toNat / Nat.pow 256 i % 256))

/-- The length of the run of zeros at the beginning of a list. -/
def zeroRun (groups : List UInt16) : Nat := (groups.takeWhile (· == 0)).length

/-- The longest run of zero groups, its start and its length: the first one of several. -/
def longestZeroRun (groups : List UInt16) : Nat × Nat :=
  (List.range groups.length).foldl
    (fun best i => if zeroRun (groups.drop i) > best.2 then (i, zeroRun (groups.drop i)) else best)
    (0, 0)

def groupsText (groups : List UInt16) : String :=
  ":".intercalate (groups.map fun n => String.ofList (Nat.toDigits 16 n.toNat))

/-- The text of an IPv6 address: the longest run of two or more zero groups is left out. -/
def ipv6Text (groups : List UInt16) : String :=
  let (start, length) := longestZeroRun groups
  if length < 2 then groupsText groups
  else groupsText (groups.take start) ++ "::" ++ groupsText (groups.drop (start + length))

def text : Host → String
  | .name labels => labels
  | .ipv4 address => ipv4Text address
  | .ipv6 groups => "[" ++ ipv6Text groups.toList ++ "]"

end Host

end RecordQuery.Url
