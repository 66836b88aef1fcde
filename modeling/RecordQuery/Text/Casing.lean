/-!
# Letter case of names

Names of operators and schemes are compared without regard to letter case. The names themselves
are ASCII, so the only lower-casing that can turn another text into one of them is that of the
ASCII letters and of U+212A (the kelvin sign), whose lower case is the letter `k`. Every other
character lower-cases to a text that holds a character outside ASCII, so leaving it alone decides
each comparison the same way.
-/

namespace RecordQuery.Text

/-- The lower case of a character, as far as comparison with an ASCII name can tell. -/
def lowerChar (c : Char) : Char :=
  if c = '\u212A' then 'k' else c.toLower

/-- The lower case of a text, as far as comparison with an ASCII name can tell. -/
def lower (s : String) : String :=
  String.ofList (s.toList.map lowerChar)

end RecordQuery.Text
