import RecordQuery.Json.NumberReader
import RecordQuery.Text.Numeral

/-!
# Reading JSON text

`Json.read` turns a text into a value or the first fault in it. Of the members of an object that
share a key the last one counts, and the members are ordered by key. Arrays and objects nest to a
depth below `depthLimit`.
-/

namespace RecordQuery.Json

/-- This many open brackets are a fault. -/
def depthLimit : Nat := 128

/-- The value of four hexadecimal digits at the beginning of a text. -/
def hexUnit? : List Char → Option Nat
  | a :: b :: c :: d :: _ => do
    let a ← Text.hexDigit? a
    let b ← Text.hexDigit? b
    let c ← Text.hexDigit? c
    let d ← Text.hexDigit? d
    return ((a * 16 + b) * 16 + c) * 16 + d
  | _ => none

def byteLength (cs : List Char) : Nat :=
  cs.foldl (fun n c => n + c.utf8Size) 0

namespace Reader

/-! ## Quoted texts -/

/-- The sixteen-bit unit that four hexadecimal digits spell. -/
def hexUnit : Reader Nat := do
  let cursor ← get
  match hexUnit? cursor.rest with
  | some n => set (Cursor.mk (cursor.rest.drop 4) (cursor.place.afterBytes 4 cursor.rest)); return n
  | none =>
    let length := byteLength cursor.rest
    if length < 4 then failAt (cursor.place.afterBytes length cursor.rest) .endOfString
    else failAt (cursor.place.afterBytes 4 cursor.rest) .invalidEscape

/-- Passes the given character inside the escape of a surrogate pair. -/
def surrogateMark (c : Char) : Reader Unit := do
  match ← peek with
  | none => failHere .endOfString
  | some d => if d == c then skip else failNext .unpairedSurrogate

/-- The character that a `\u` escape spells: one unit, or two that form a surrogate pair. -/
def unicodeEscape : Reader Char := do
  let high ← hexUnit
  if 0xDC00 ≤ high && high ≤ 0xDFFF then
    failHere .loneSurrogate
  else if 0xD800 ≤ high && high ≤ 0xDBFF then
    surrogateMark '\\'
    surrogateMark 'u'
    let low ← hexUnit
    if 0xDC00 ≤ low && low ≤ 0xDFFF then
      return Char.ofNat (0x10000 + (high - 0xD800) * 0x400 + (low - 0xDC00))
    else failHere .loneSurrogate
  else return Char.ofNat high

/-- The character that an escape spells, behind its backslash. -/
def escape : Reader Char := do
  match ← peek with
  | none => failHere .endOfString
  | some '"' => skip; return '"'
  | some '\\' => skip; return '\\'
  | some '/' => skip; return '/'
  | some 'b' => skip; return '\x08'
  | some 'f' => skip; return '\x0C'
  | some 'n' => skip; return '\n'
  | some 'r' => skip; return '\r'
  | some 't' => skip; return '\t'
  | some 'u' => skip; unicodeEscape
  | some _ => failNext .invalidEscape

/-- The rest of a quoted text, to be appended to what was read of it. Each step passes a character,
so `fuel` may be the number of characters left. -/
def quotedRest (fuel : Nat) (reversed : List Char) : Reader String := do
  match fuel with
  | 0 => failHere .endOfString
  | fuel + 1 =>
    match ← peek with
    | none => failHere .endOfString
    | some '"' => skip; return String.ofList reversed.reverse
    | some '\\' => skip; quotedRest fuel ((← escape) :: reversed)
    | some c =>
      if c.toNat < 0x20 then failNext .controlCharacter
      else skip; quotedRest fuel (c :: reversed)

def quotedText : Reader String := do
  quotedRest ((← get).rest.length + 1) []

/-! ## Values -/

def word : List Char → Reader Unit
  | [] => return ()
  | c :: rest => do
    match ← peek with
    | none => failHere .endOfValue
    | some d => if d == c then skip; word rest else failNext .expectedWord

/-- Passes the colon between a key and its value. -/
def colon : Reader Unit := do
  match ← peekToken with
  | some ':' => skip
  | some _ => failNext .expectedColon
  | none => failHere .endOfObject

def itemFollows (first : Bool) : Reader Bool := do
  match ← peekToken with
  | none => failHere .endOfList
  | some ']' => return false
  | some c =>
    if first then return true
    else if c == ',' then
      skip
      match ← peekToken with
      | none => failHere .endOfValue
      | some ']' => failNext .trailingComma
      | some _ => return true
    else failNext .expectedListCommaOrEnd

def memberFollows (first : Bool) : Reader Bool := do
  match ← peekToken with
  | none => failHere .endOfObject
  | some '\x7d' => return false
  | some c =>
    if first then
      if c == '"' then return true else failNext .keyNotString
    else if c == ',' then
      skip
      match ← peekToken with
      | none => failHere .endOfValue
      | some '"' => return true
      | some '\x7d' => failNext .trailingComma
      | some _ => failNext .keyNotString
    else failNext .expectedObjectCommaOrEnd

mutual

/-- A value that may open `depth - 1` brackets inside each other. Each step of these functions
hands on less `fuel`, and every second one passes a character. -/
def value (fuel depth : Nat) : Reader Json := do
  match fuel with
  | 0 => failHere .endOfValue
  | fuel + 1 =>
    match ← peekToken with
    | none => failHere .endOfValue
    | some 'n' => skip; word ['u', 'l', 'l']; return .null
    | some 't' => skip; word ['r', 'u', 'e']; return .bool true
    | some 'f' => skip; word ['a', 'l', 's', 'e']; return .bool false
    | some '-' => skip; return .number (← number true)
    | some '"' => skip; return .string (← quotedText)
    | some '[' =>
      if depth ≤ 1 then failNext .tooDeep
      else skip; return .array (← items fuel (depth - 1) [])
    | some '\x7b' =>
      if depth ≤ 1 then failNext .tooDeep
      else skip; return .object (← members fuel (depth - 1) true .empty)
    | some c => if c.isDigit then return .number (← number false) else failNext .expectedValue

/-- The items of an array up to its closing bracket, behind those already read. -/
def items (fuel depth : Nat) (reversed : List Json) : Reader (List Json) := do
  match fuel with
  | 0 => failHere .endOfList
  | fuel + 1 =>
    if ← itemFollows reversed.isEmpty then
      let item ← value fuel depth
      items fuel depth (item :: reversed)
    else skip; return reversed.reverse

/-- The members of an object up to its closing brace, set on top of those already read. -/
def members (fuel depth : Nat) (first : Bool) (fields : Fields) : Reader Fields := do
  match fuel with
  | 0 => failHere .endOfObject
  | fuel + 1 =>
    if ← memberFollows first then
      skip
      let key ← quotedText
      colon
      let item ← value fuel depth
      members fuel depth false (fields.insert key item)
    else skip; return fields

end

/-- A whole text: one value with nothing but gaps around it. -/
def document : Reader Json := do
  let result ← value (2 * (← get).rest.length + 2) depthLimit
  match ← peekToken with
  | none => return result
  | some _ => failNext .trailingCharacters

end Reader

/-- Reads the value that a text spells. -/
def read (text : String) : Except SyntaxError Json :=
  Reader.document.run' ⟨text.toList, Place.start⟩

end RecordQuery.Json
