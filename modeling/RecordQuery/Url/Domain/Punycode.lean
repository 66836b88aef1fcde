import RecordQuery.Text.Split

/-!
# Punycode

The spelling of a text in lower-case letters, digits and hyphens. In front of the last hyphen stand
the characters of the text that are ASCII, behind it the others, in ascending order: each as a number
that tells how far to count on through all code points and, for every one of them, through all places
of the text. The digits of a number grow in weight, and the first digit below a threshold ends it; the
thresholds adapt to the numbers before.

* `length_lt_of_number?`: reading a number uses up some of the text.
-/

namespace RecordQuery.Url.Domain.Punycode

/-- The value of a digit: letters count from zero, and the decimal digits follow them. -/
def digit? (c : Char) : Option Nat :=
  if 'a' ≤ c ∧ c ≤ 'z' then some (c.toNat - 'a'.toNat)
  else if c.isDigit then some (c.toNat - '0'.toNat + 26)
  else none

/-- The least value that a digit in the middle of a number has, by the place of the digit. -/
def threshold (bias place : Nat) : Nat := min (max (36 * place - bias) 1) 26

/-- How often a number is divided until it is small, and what is left of it then. -/
def shrink (n : Nat) : Nat × Nat :=
  if 455 < n then
    let (times, rest) := shrink (n / 35)
    (times + 1, rest)
  else (0, n)
termination_by n
decreasing_by omega

/-- The bias for the next number, behind a number that led to a text of `length` characters. -/
def adapt (number length : Nat) (isFirst : Bool) : Nat :=
  let scaled := if isFirst then number / 700 else number / 2
  let (times, rest) := shrink (scaled + scaled / length)
  36 * times + 36 * rest / (rest + 38)

/-- Reads the number at the beginning of a text, its next digit at the given place and of the given
weight: the number, and what follows it. -/
def number? (bias place weight : Nat) : List Char → Option (Nat × List Char)
  | [] => none
  | c :: rest => do
    let digit ← digit? c
    let least := threshold bias place
    if digit < least then return (digit * weight, rest)
    else
      let (more, rest) ← number? bias (place + 1) (weight * (36 - least)) rest
      return (digit * weight + more, rest)

theorem length_lt_of_number? {bias place weight n : Nat} {cs rest : List Char}
    (h : number? bias place weight cs = some (n, rest)) : rest.length < cs.length := by
  induction cs generalizing place weight n with
  | nil => simp [number?] at h
  | cons c cs ih =>
    rw [number?] at h
    obtain ⟨digit, _, h⟩ := Option.bind_eq_some_iff.mp h
    dsimp only at h
    split at h
    · obtain ⟨_, rfl⟩ := Prod.mk.inj (Option.some.inj h)
      simp
    · obtain ⟨⟨more, rest'⟩, hmore, h⟩ := Option.bind_eq_some_iff.mp h
      obtain ⟨_, rfl⟩ := Prod.mk.inj (Option.some.inj h)
      have hlt : rest'.length < cs.length := ih hmore
      simpa using Nat.lt_succ_of_lt hlt

/-- Inserts the characters that numbers tell into a text. The count stands at a place of the text and
at a code point. -/
def insertAll (bias place code : Nat) (text : List Char) (cs : List Char) : Option (List Char) :=
  if cs.isEmpty then some text
  else
    match h : number? bias 1 1 cs with
    | none => none
    | some (number, rest) =>
      let length := text.length + 1
      let code := code + (place + number) / length
      let next := (place + number) % length
      if code.isValidChar then
        insertAll (adapt number length (place == 0)) (next + 1) code
          (text.insertIdx next (Char.ofNat code)) rest
      else none
termination_by cs.length
decreasing_by exact length_lt_of_number? h

/-- The text that a spelling stands for. A hyphen at the beginning is no separator, and no digit. -/
def decode? (cs : List Char) : Option (List Char) :=
  match Text.cutAtLast? '-' cs with
  | some (basic@(_ :: _), numbers) => insertAll 72 0 0x80 basic numbers
  | _ => insertAll 72 0 0x80 [] cs

end RecordQuery.Url.Domain.Punycode
