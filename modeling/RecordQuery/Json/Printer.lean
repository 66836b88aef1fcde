import RecordQuery.Json.Basic
import RecordQuery.Number.Notation

/-!
# JSON text

The compact text of a JSON value: no blanks, the members of an object in their order, and escapes
only for the quote, the backslash and the control characters below U+0020.
-/

namespace RecordQuery.Json

open RecordQuery.Number (Notation)

def hexByte (n : Nat) : List Char := [Nat.digitChar (n / 16), Nat.digitChar (n % 16)]

/-- How a character is written inside a quoted text. -/
def escapeChar (c : Char) : List Char :=
  match c with
  | '"' => ['\\', '"']
  | '\\' => ['\\', '\\']
  | '\n' => ['\\', 'n']
  | '\r' => ['\\', 'r']
  | '\t' => ['\\', 't']
  | '\x08' => ['\\', 'b']
  | '\x0C' => ['\\', 'f']
  | c => if c.toNat < 0x20 then '\\' :: 'u' :: '0' :: '0' :: hexByte c.toNat else [c]

def quoted (s : String) : String :=
  String.ofList ('"' :: s.toList.flatMap escapeChar ++ ['"'])

/-- The text of a number: an integer without a point, any other number with a point or an
exponent. -/
def Number.text : Number → String
  | .int n _ => toString n
  | .float x _ => Notation.json.text x

/-- Texts joined by commas between an opening and a closing bracket. -/
def bracketed (opening : String) (items : List String) (closing : String) : String :=
  opening ++ String.intercalate "," items ++ closing

mutual

/-- The compact text of a value. -/
def text : Json → String
  | .null => "null"
  | .bool true => "true"
  | .bool false => "false"
  | .number n => n.text
  | .string s => quoted s
  | .array items => bracketed "[" (itemTexts items) "]"
  | .object fields =>
    bracketed "\x7b"
      (List.ofFn fun i => quoted (fields.keys.get i) ++ ":" ++ text (fields.value i)) "\x7d"

def itemTexts : List Json → List String
  | [] => []
  | item :: rest => text item :: itemTexts rest

end

end RecordQuery.Json
