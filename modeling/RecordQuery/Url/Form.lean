import RecordQuery.Url.Percent

/-!
# Form encoding

The encoding of keys and values in a query: a space becomes `+`, letters, digits and `*-._` stay,
and every other byte is percent-encoded.
-/

namespace RecordQuery.Url

def isFormByte (b : UInt8) : Bool :=
  (0x30 ≤ b && b ≤ 0x39) || (0x41 ≤ b && b ≤ 0x5A) || (0x61 ≤ b && b ≤ 0x7A) ||
    b == 0x2A || b == 0x2D || b == 0x2E || b == 0x5F

def formByte (b : UInt8) : List Char :=
  if b == 0x20 then ['+'] else if isFormByte b then [Char.ofNat b.toNat] else percentByte b

def formEncode (s : String) : List Char := (utf8Bytes s.toList).flatMap formByte

def formPair (pair : String × String) : List Char :=
  formEncode pair.1 ++ '=' :: formEncode pair.2

end RecordQuery.Url
