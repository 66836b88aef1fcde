import RecordQuery.Url.Percent

/-!
# Paths

The path of a web URL is a list of encoded segments that is never empty: the path `/` has one empty
segment, and a path that ends in a slash has an empty segment at its end. Dot segments never get into
a path: `.` stands for the directory reached so far, and `..` for the one above, out of which no
double dot leads if it is a drive.
-/

namespace RecordQuery.Url

/-- The encoded segments of a path, of which there is one at least. -/
structure Path where
  segments : List String
  nonempty : segments ≠ []
deriving DecidableEq, Repr

namespace Path

@[ext] theorem ext {p q : Path} (h : p.segments = q.segments) : p = q := by
  cases p; cases q; simp_all

def root : Path := ⟨[""], by simp⟩

/-- An encoded segment that stands for the directory it is in. -/
def isSingleDot (segment : String) : Bool :=
  [".", "%2e", "%2E"].contains segment

/-- An encoded segment that stands for the directory above. -/
def isDoubleDot (segment : String) : Bool :=
  ["..", "%2e%2e", "%2e%2E", "%2E%2e", "%2E%2E", "%2e.", "%2E.", ".%2e", ".%2E"].contains segment

/-- A letter and a colon or bar, the name of a drive. -/
def isDrive (segment : String) : Bool :=
  match segment.toList with
  | [letter, mark] => letter.isAlpha && (mark == ':' || mark == '|')
  | _ => false

/-- The directories above the last one, which stays if it is a drive. -/
def parent (directories : List String) : List String :=
  if directories.getLast?.any isDrive then directories else directories.dropLast

/-- The directories reached by a segment behind which the path goes on. -/
def descend (directories : List String) (segment : String) : List String :=
  if isDoubleDot segment then parent directories
  else if isSingleDot segment then directories
  else directories ++ [segment]

/-- The path to a last segment; for a dot segment it ends in a slash. -/
def resolve (directories : List String) (segment : String) : Path :=
  if isDoubleDot segment then ⟨parent directories ++ [""], by simp⟩
  else if isSingleDot segment then ⟨directories ++ [""], by simp⟩
  else ⟨directories ++ [segment], by simp⟩

def ofSegments (segments : List String) : Path :=
  resolve (segments.dropLast.foldl descend []) (segments.getLast?.getD "")

/-- The path without an empty segment at its end, unless it is the only one. -/
def popIfEmpty (p : Path) : Path :=
  if h : p.segments.getLast? = some "" ∧ p.segments.dropLast ≠ [] then
    ⟨p.segments.dropLast, h.2⟩
  else p

/-- The text of one segment as it stands in a path. -/
def encodeSegment (segment : String) : String :=
  String.ofList (percentEncode ByteSet.segment (stripped segment.toList))

/-- The path with the text of one segment added; `.` and `..` name no segment and are passed over.
The path `/` has its empty segment replaced. -/
def push (p : Path) (segment : String) : Path :=
  if segment = "." ∨ segment = ".." then p
  else resolve (if p = root then [] else p.segments) (encodeSegment segment)

def text (p : Path) : String := "/" ++ "/".intercalate p.segments

/-- A segment that is no dot segment comes behind the directories. -/
theorem segments_resolve {directories : List String} {segment : String}
    (hsingle : isSingleDot segment = false) (hdouble : isDoubleDot segment = false) :
    (resolve directories segment).segments = directories ++ [segment] := by
  simp [resolve, hsingle, hdouble]

end Path

end RecordQuery.Url
