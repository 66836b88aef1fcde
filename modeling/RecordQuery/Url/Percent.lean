import RecordQuery.Text.Numeral

/-!
# Percent-encoding

Each part of a URL has a set of bytes that may not stand in it as they are. Such a byte is written
as `%` and two upper-case hexadecimal digits; a character outside ASCII is written byte by byte.

* `percentDecode_percentByte`: an encoded byte is read back, whatever follows.
-/

namespace RecordQuery.Url

def utf8Bytes (cs : List Char) : List UInt8 := cs.flatMap String.utf8EncodeChar

abbrev ByteSet := UInt8 → Bool

namespace ByteSet

def ofChars (cs : List Char) : ByteSet := fun b => cs.any fun c => c.toNat == b.toNat

def union (s t : ByteSet) : ByteSet := fun b => s b || t b

/-- Controls, and the bytes of characters outside ASCII. -/
def controls : ByteSet := fun b => b < 0x20 || b > 0x7E

def fragment : ByteSet := controls.union (ofChars [' ', '"', '<', '>', '\x60'])

def query : ByteSet := controls.union (ofChars [' ', '"', '#', '<', '>', '\x27'])

def path : ByteSet := fragment.union (ofChars ['#', '?', '\x7b', '\x7d'])

/-- The bytes encoded in a single segment of a path, so that it stays one segment. -/
def segment : ByteSet := path.union (ofChars ['/', '\\', '%'])

/-- The bytes encoded in a user name and a password. -/
def userinfo : ByteSet :=
  path.union (ofChars ['/', ':', ';', '=', '@', '[', '\\', ']', '^', '|'])

end ByteSet

def hexDigit (n : Nat) : Char :=
  if n < 10 then Char.ofNat ('0'.toNat + n) else Char.ofNat ('A'.toNat + n - 10)

/-- The value of the hexadecimal digit that a byte is in ASCII. -/
def hexValue? (b : UInt8) : Option Nat := Text.hexDigit? (Char.ofNat b.toNat)

/-- A byte as `%` and two hexadecimal digits. -/
def percentByte (b : UInt8) : List Char :=
  ['%', hexDigit (b.toNat / 16), hexDigit (b.toNat % 16)]

/-- A byte of a part whose set of encoded bytes is `set`. -/
def encodeByte (set : ByteSet) (b : UInt8) : List Char :=
  if set b then percentByte b else [Char.ofNat b.toNat]

/-- A text as part of a URL whose set of encoded bytes is `set`. -/
def percentEncode (set : ByteSet) (cs : List Char) : List Char :=
  (utf8Bytes cs).flatMap (encodeByte set)

/-- The bytes behind a percent-encoded text; a `%` without two hexadecimal digits stands for
itself. -/
def percentDecode : List UInt8 → List UInt8
  | [] => []
  | [a] => [a]
  | [a, b] => [a, b]
  | a :: b :: c :: rest =>
    if a = 0x25 then
      match hexValue? b, hexValue? c with
      | some high, some low => UInt8.ofNat (16 * high + low) :: percentDecode rest
      | _, _ => a :: percentDecode (b :: c :: rest)
    else a :: percentDecode (b :: c :: rest)

/-- Every byte is read back from its two digits. -/
theorem hexValue?_hexDigit {n : Nat} (h : n < 16) :
    hexValue? (UInt8.ofNat (hexDigit n).toNat) = some n := by
  have hall : ∀ m ∈ List.range 16, hexValue? (UInt8.ofNat (hexDigit m).toNat) = some m := by decide
  exact hall n (List.mem_range.mpr h)

/-- An encoded byte is read back, whatever follows. -/
theorem percentDecode_percentByte (b : UInt8) (rest : List UInt8) :
    percentDecode ((percentByte b).map (fun c => UInt8.ofNat c.toNat) ++ rest)
      = b :: percentDecode rest := by
  have hlt := b.toNat_lt
  have hhigh : b.toNat / 16 < 16 := by omega
  have hlow : b.toNat % 16 < 16 := by omega
  have hb : UInt8.ofNat (16 * (b.toNat / 16) + b.toNat % 16) = b := by
    rw [Nat.div_add_mod]; exact UInt8.ofNat_toNat
  simp [percentByte, percentDecode, hexValue?_hexDigit hhigh, hexValue?_hexDigit hlow, hb]

/-- Tabs and line ends, which a URL ignores wherever they stand. -/
def isIgnored (c : Char) : Bool := c == '\t' || c == '\n' || c == '\r'

def stripped (cs : List Char) : List Char := cs.filter fun c => !isIgnored c

end RecordQuery.Url
