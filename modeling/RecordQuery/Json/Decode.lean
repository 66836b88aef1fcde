import RecordQuery.Json.Printer
import RecordQuery.Text.Visible

/-!
# Decoding JSON values

Decoders take a JSON value to a value of a known type, or say what stands in the way. A structure
is decoded from an object, in which unknown keys are passed over, or from an array that holds its
fields in their order.
-/

namespace RecordQuery

inductive DecodeError where
  /-- A value of another kind than the expected one. -/
  | wrongKind (found : Json) (expected : String)
  /-- An integer outside the range of the expected type. -/
  | outOfRange (found : Int) (expected : String)
  /-- An object of which just one key was expected. -/
  | notSingleKey
  /-- An object without a key that it has to have. -/
  | missingField (name : String)
  | missingItem (index : Nat) (expected : String)
  | extraItems (length : Nat)
  /-- A name that is none of the two known ones. -/
  | unknownName (found first second : String)
  /-- A value that is no alternative of a type. -/
  | noAlternative (type : String)

/-- The kind of a value, with the value itself where that is short. -/
def Json.describe : Json → String
  | .null => "null"
  | .bool b => "boolean `" ++ (if b then "true" else "false") ++ "`"
  | .number (.int n _) => "integer `" ++ toString n ++ "`"
  | .number n@(.float ..) => "floating point `" ++ n.text ++ "`"
  | .string s => "string " ++ Text.visible s
  | .array _ => "sequence"
  | .object _ => "map"

def DecodeError.message : DecodeError → String
  | .wrongKind found expected => "invalid type: " ++ found.describe ++ ", expected " ++ expected
  | .outOfRange found expected =>
    "invalid value: integer `" ++ toString found ++ "`, expected " ++ expected
  | .notSingleKey => "invalid value: map, expected map with a single key"
  | .missingField name => "missing field `" ++ name ++ "`"
  | .missingItem index expected => "invalid length " ++ toString index ++ ", expected " ++ expected
  | .extraItems length =>
    "invalid length " ++ toString length ++ ", expected fewer elements in array"
  | .unknownName found first second =>
    "unknown variant `" ++ found ++ "`, expected `" ++ first ++ "` or `" ++ second ++ "`"
  | .noAlternative type => "data did not match any variant of untagged enum " ++ type

/-- A decoder of values of a type. -/
abbrev Decoder (α : Type) := Json → Except DecodeError α

namespace Decoder

def text : Decoder String
  | .string s => .ok s
  | found => .error (.wrongKind found "a string")

def flag : Decoder Bool
  | .bool b => .ok b
  | found => .error (.wrongKind found "a boolean")

def unsigned (bound : Nat) (expected : String) : Decoder Nat
  | .number (.int n _) =>
    if 0 ≤ n ∧ n < bound then .ok n.toNat else .error (.outOfRange n expected)
  | found => .error (.wrongKind found expected)

def word32 : Decoder UInt32 := fun json => UInt32.ofNat <$> unsigned UInt32.size "u32" json

def word64 : Decoder UInt64 := fun json => UInt64.ofNat <$> unsigned UInt64.size "u64" json

/-- A value that `null` leaves unset. -/
def optional (decode : Decoder α) : Decoder (Option α)
  | .null => .ok none
  | json => some <$> decode json

/-- The item at an index of an array that has to hold one there. -/
def item (shape : String) (items : List Json) (index : Nat) (decode : Decoder α) :
    Except DecodeError α :=
  match items[index]? with
  | some json => decode json
  | none => .error (.missingItem index shape)

def required (name : String) : Option α → Except DecodeError α
  | some a => .ok a
  | none => .error (.missingField name)

/-! ## Decoding what was encoded -/

theorem unsigned_ofUInt64 {n : UInt64} {bound : Nat} (expected : String) (h : n.toNat < bound) :
    unsigned bound expected (Json.ofUInt64 n) = .ok n.toNat := by
  have hn : (0 : Int) ≤ n.toNat ∧ (n.toNat : Int) < bound := by omega
  simp only [Json.ofUInt64, unsigned, hn, and_self, ↓reduceIte, Int.toNat_natCast]

@[simp] theorem word64_ofUInt64 (n : UInt64) : word64 (Json.ofUInt64 n) = .ok n := by
  rw [word64, unsigned_ofUInt64 "u64" n.toNat_lt]
  exact congrArg Except.ok UInt64.ofNat_toNat

@[simp] theorem word32_ofUInt32 (n : UInt32) : word32 (Json.ofUInt32 n) = .ok n := by
  have h : n.toUInt64.toNat < UInt32.size := by simpa using n.toNat_lt
  rw [word32, Json.ofUInt32, unsigned_ofUInt64 "u32" h, UInt32.toNat_toUInt64]
  exact congrArg Except.ok UInt32.ofNat_toNat

/-- An optional value is decoded if its content is and never looks like its absence. -/
theorem optional_ofOption {encode : α → Json} {decode : Decoder α}
    (hdecode : ∀ a, decode (encode a) = .ok a) (hnull : ∀ a, encode a ≠ .null) (value : Option α) :
    optional decode (Json.ofOption encode value) = .ok value := by
  cases value with
  | none => rfl
  | some a =>
    simp only [Json.ofOption, optional]
    split
    · exact absurd (by assumption) (hnull a)
    · simp [hdecode, Functor.map, Except.map]

end Decoder

end RecordQuery
