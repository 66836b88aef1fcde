import RecordQuery.Url.Domain.Label
import RecordQuery.Url.Percent

/-!
# Mapping of names

Before the name of a host is looked at it is mapped to ASCII by the rules for international domain
names: letters become small, and a label with characters outside ASCII is spelled out. How
characters are mapped is a matter of tables that grow with every edition of Unicode, so whatever
reads a URL takes the mapping as a parameter. The one thing that reading relies on is that no name
holds a control or a space.

* `NameMapping.ascii`, `NameMapping.insert`: the mapping of the names that are written in ASCII, and
  one more name.
-/

namespace RecordQuery.Url

/-- The bytes that may not stand in a name. -/
def isForbidden (b : UInt8) : Bool :=
  ByteSet.controls b ||
    ByteSet.ofChars
      [' ', '#', '%', '/', ':', '<', '>', '?', '@', '[', '\\', ']', '^', '|'] b

/-- How names of hosts are mapped to ASCII. -/
structure NameMapping where
  /-- The name that the decoded bytes of a text are mapped to; `none` if they are no name. -/
  toAscii? : List UInt8 → Option (List Char)
  /-- A control and a space are mapped to nothing else, and are in no name. -/
  refuses_margin : ∀ bytes, ∀ b ∈ bytes, b ≤ 0x20 → toAscii? bytes = none

namespace NameMapping

theorem isForbidden_of_le {b : UInt8} (h : b ≤ 0x20) : isForbidden b = true := by
  have hall : ∀ n ∈ List.range 0x21, isForbidden (UInt8.ofNat n) = true := by decide
  have hlt : b.toNat < 0x21 := Nat.lt_succ_of_le (UInt8.le_iff_toNat_le.mp h)
  have hb := hall b.toNat (List.mem_range.mpr hlt)
  rwa [UInt8.ofNat_toNat] at hb

/-- The name that bytes spell in ASCII, in lower case. -/
def asciiName? (bytes : List UInt8) : Option (List Char) :=
  let name := bytes.map fun b => (Char.ofNat b.toNat).toLower
  if bytes.any isForbidden || !Domain.isWellFormed name then none else some name

/-- The mapping of the names that are written in ASCII, labels that spell international ones among
them. It has no other names. -/
def ascii : NameMapping where
  toAscii? := asciiName?
  refuses_margin bytes b hb hle := by
    have hany : bytes.any isForbidden = true := List.any_eq_true.mpr ⟨b, hb, isForbidden_of_le hle⟩
    simp [asciiName?, hany]

/-- The mapping with one more name, which holds neither a control nor a space. -/
def insert (names : NameMapping) (name spelling : String)
    (h : ∀ b ∈ utf8Bytes name.toList, 0x20 < b) : NameMapping where
  toAscii? bytes :=
    if bytes = utf8Bytes name.toList then some spelling.toList else names.toAscii? bytes
  refuses_margin bytes b hb hle := by
    have hother : bytes ≠ utf8Bytes name.toList := fun heq =>
      absurd (h b (heq ▸ hb)) (UInt8.not_lt.mpr hle)
    rw [if_neg hother]
    exact names.refuses_margin bytes b hb hle

end NameMapping

end RecordQuery.Url
