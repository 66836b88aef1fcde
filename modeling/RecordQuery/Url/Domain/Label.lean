import RecordQuery.Text.Blank
import RecordQuery.Text.Composition
import RecordQuery.Text.Joining
import RecordQuery.Text.WritingDirection
import RecordQuery.Url.Domain.Permitted
import RecordQuery.Url.Domain.Punycode

/-!
# Labels of domain names

A domain name is a sequence of labels between points. A label that begins with `xn--` spells an
international one, and is checked as what it spells: characters that are permitted and composed, no
mark at the beginning, joiners only where letters join, and letters of one writing direction.
Names are in lower case here.
-/

namespace RecordQuery.Url.Domain

open RecordQuery.Text

/-- What a label that spells an international one begins with. -/
def encodedMark : List Char := ['x', 'n', '-', '-']

/-- No longer spelling is looked into. -/
def longestSpelling : Nat := 2000

/-- No longer label is accepted. -/
def longestLabel : Nat := 1000

/-! ## Joiners -/

/-- A joiner is in its place behind a virama, and U+200C, which keeps letters apart, also between two
that would join. The characters before it stand in `before`, the last one first. -/
def isJoinerInPlace (joiner : Char) (before after : List Char) : Bool :=
  before.head?.any isVirama ||
    (joiner == '\u200C' && (before.dropWhile isTransparent).head?.any joinsForward
      && (after.dropWhile isTransparent).head?.any joinsBackward)

/-- All joiners in a text are in their place; what stands before it is given, the last one first. -/
def areJoinersInPlace (before : List Char) : List Char → Bool
  | [] => true
  | c :: rest =>
    (!(c == '\u200C' || c == '\u200D') || isJoinerInPlace c before rest)
      && areJoinersInPlace (c :: before) rest

/-! ## Writing direction -/

/-- A label with characters that are written from right to left, or that only occur among such. -/
def isRightToLeft (label : List Char) : Bool :=
  label.any fun c => direction c == .rightToLeft || direction c == .arabicNumber

/-- Nothing in a label is written against the direction of its first character, and numbers are of
one kind. At its end stands no sign. -/
def isOneDirection : List Char → Bool
  | [] => true
  | c :: rest =>
    let directions := rest.map direction
    let ending := (dropEndWhile (fun c => direction c == .nonspacing) rest).getLast?.map direction
    match direction c with
    | .leftToRight =>
      directions.all (fun d => d != .rightToLeft && d != .arabicNumber)
        && ending.all (fun d => d == .leftToRight || d == .europeanNumber)
    | .rightToLeft =>
      directions.all (fun d => d != .leftToRight)
        && ending.all (fun d => d == .rightToLeft || d == .europeanNumber || d == .arabicNumber)
        && !(directions.contains .europeanNumber && directions.contains .arabicNumber)
    | _ => false

/-! ## Labels and names -/

def isLabel (text : List Char) : Bool :=
  text.length ≤ longestLabel && text.all isPermitted && isComposed text
    && !text.head?.any isMark && areJoinersInPlace [] text

/-- The label that a label stands for: itself, or what it spells. One that spells a label without
any character outside ASCII ends in a hyphen and is refused. -/
def decodeLabel? (label : List Char) : Option (List Char) :=
  if encodedMark.isPrefixOf label then
    let spelling := label.drop encodedMark.length
    if label.getLast? == some '-' || spelling.length > longestSpelling then none
    else (Punycode.decode? spelling).filter isLabel
  else some label

/-- A name all labels of which stand for something. Where some of it is written from right to left,
each label has one direction. -/
def isWellFormed (name : List Char) : Bool :=
  match (name.splitOn '.').mapM decodeLabel? with
  | none => false
  | some labels => !labels.any isRightToLeft || labels.all isOneDirection

end RecordQuery.Url.Domain
