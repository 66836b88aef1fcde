import RecordQuery.Text.Glyphless

/-!
# Texts quoted for a message

A text that is shown inside a message stands between quotes, with an escape for every character
that would not show there: the quote, the backslash, controls and other characters without a glyph
of their own, and marks that would join the character before them.
-/

namespace RecordQuery.Text

/-- How a character is shown between quotes. -/
def visibleChar (c : Char) : List Char :=
  match c with
  | '"' => ['\\', '"']
  | '\\' => ['\\', '\\']
  | '\n' => ['\\', 'n']
  | '\r' => ['\\', 'r']
  | '\t' => ['\\', 't']
  | '\x00' => ['\\', '0']
  | c =>
    if isGlyphless c then
      ['\\', 'u', '\x7b'] ++ Nat.toDigits 16 c.toNat ++ ['\x7d']
    else [c]

def visible (s : String) : String :=
  String.ofList ('"' :: s.toList.flatMap visibleChar ++ ['"'])

end RecordQuery.Text
