import RecordQuery.Json.SyntaxError

/-!
# Walking through a JSON text

A `Cursor` is what is left of a text and the place that was reached; a `Reader` moves it forward
or stops at a fault. A fault is reported at the cursor, or one byte further when the byte under
the cursor is the one that does not fit.
-/

namespace RecordQuery.Json

namespace Place

def start : Place := ⟨1, 0⟩

def after (p : Place) (c : Char) : Place :=
  if c = '\n' then ⟨p.line + 1, 0⟩ else ⟨p.line, p.column + c.utf8Size⟩

/-- The place `n` bytes further in a text, inside a character if they end there. -/
def afterBytes (p : Place) : Nat → List Char → Place
  | _, [] => p
  | n, c :: rest =>
    if n == 0 then p
    else if c.utf8Size ≤ n then (p.after c).afterBytes (n - c.utf8Size) rest
    else ⟨p.line, p.column + n⟩

end Place

/-- What is left of a text, and the place reached. -/
structure Cursor where
  rest : List Char
  place : Place

namespace Cursor

/-- Passes the longest run of characters that satisfy `p`. -/
def skipWhile (p : Char → Bool) : List Char → Place → Cursor
  | [], place => ⟨[], place⟩
  | c :: rest, place => if p c then skipWhile p rest (place.after c) else ⟨c :: rest, place⟩

theorem rest_skipWhile (p : Char → Bool) (cs : List Char) (place : Place) :
    (skipWhile p cs place).rest = cs.dropWhile p := by
  induction cs generalizing place with
  | nil => rfl
  | cons c rest ih =>
    by_cases h : p c
    · simp [skipWhile, h, ih]
    · simp [skipWhile, h]

end Cursor

/-- A reader of part of a text. -/
abbrev Reader := StateT Cursor (Except SyntaxError)

namespace Reader

def failAt (place : Place) (fault : SyntaxFault) : Reader α :=
  throw ⟨fault, place⟩

def failHere (fault : SyntaxFault) : Reader α := do
  failAt (← get).place fault

/-- Stops behind the byte under the cursor. -/
def failNext (fault : SyntaxFault) : Reader α := do
  let cursor ← get
  failAt (cursor.place.afterBytes 1 cursor.rest) fault

def peek : Reader (Option Char) := do
  return (← get).rest.head?

def skip : Reader Unit :=
  modify fun cursor => match cursor.rest with
    | [] => cursor
    | c :: rest => ⟨rest, cursor.place.after c⟩

/-- Passes the longest run of characters that satisfy `p`, and gives the run. -/
def takeWhile (p : Char → Bool) : Reader (List Char) :=
  modifyGet fun cursor => (cursor.rest.takeWhile p, Cursor.skipWhile p cursor.rest cursor.place)

/-- The characters that may stand between the tokens of a JSON text. -/
def isGap (c : Char) : Bool := c == ' ' || c == '\n' || c == '\t' || c == '\r'

/-- Passes the gap before the next token, and gives the character behind it. -/
def peekToken : Reader (Option Char) := do
  let _ ← takeWhile isGap
  peek

end Reader

end RecordQuery.Json
