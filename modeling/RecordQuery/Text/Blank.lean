import RecordQuery.Text.Ranges

/-!
# Blank characters

The Unicode property `White_Space` as a table of ranges, and the trimming of a text by it.
-/

namespace RecordQuery.Text

/-- The code points that have the Unicode property `White_Space`. -/
def blankRanges : Ranges :=
  [(0x0009, 0x000D), (0x0020, 0x0020), (0x0085, 0x0085), (0x00A0, 0x00A0), (0x1680, 0x1680),
   (0x2000, 0x200A), (0x2028, 0x2029), (0x202F, 0x202F), (0x205F, 0x205F), (0x3000, 0x3000)]

/-- A character is blank when its code point lies in one of the `blankRanges`. -/
def isBlank (c : Char) : Bool := blankRanges.covers c

/-- Drops the longest run of characters satisfying `p` at the end of a text. -/
def dropEndWhile (p : Char → Bool) (cs : List Char) : List Char :=
  (cs.reverse.dropWhile p).reverse

/-- The text without the blanks at both of its ends. -/
def trim (s : String) : String :=
  String.ofList (dropEndWhile isBlank (s.toList.dropWhile isBlank))

def isBlankText (s : String) : Bool :=
  s.toList.all isBlank

end RecordQuery.Text
