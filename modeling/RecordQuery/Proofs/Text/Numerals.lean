import RecordQuery.Proofs.Text.Trimming
import RecordQuery.Text.Numeral

/-!
# Numerals of numbers

A number is read from its numerals and from nothing else: an optional `+` and one or more decimal
digits, zeros in front allowed, whose value is the number. A numeral holds no blanks, so with blanks
around it it is read once these are trimmed off.

## Main statements

* `unsigned?_eq_some_iff`: the texts from which a number is read.
* `tellsNumber_iff`: the same when blanks are trimmed off before.
* `isNumeral_toString`: a number as it is written.
-/

namespace RecordQuery.Text

/-- A decimal numeral of a number, with or without a plus in front. -/
def IsNumeral (cs : List Char) (n : Nat) : Prop :=
  ∃ sign digits, cs = sign ++ digits ∧ (sign = [] ∨ sign = ['+']) ∧ digits ≠ []
    ∧ (∀ c ∈ digits, c.isDigit = true) ∧ Nat.ofDigitChars 10 digits 0 = n

/-- The text tells a number: a numeral of it, with blanks around it or without. -/
def TellsNumber (text : String) (n : Nat) : Prop :=
  ∃ core, Padded core text ∧ IsNumeral core n

theorem unsignedDigits_of_isDigit {digits : List Char} (h : ∀ c ∈ digits, c.isDigit = true) :
    unsignedDigits digits = digits := by
  rw [unsignedDigits.eq_def]
  split
  · exact absurd (h '+' List.mem_cons_self) (by decide)
  · rfl

theorem exists_sign_unsignedDigits (cs : List Char) :
    ∃ sign, cs = sign ++ unsignedDigits cs ∧ (sign = [] ∨ sign = ['+']) := by
  rw [unsignedDigits.eq_def]
  split
  · exact ⟨['+'], rfl, .inr rfl⟩
  · exact ⟨[], rfl, .inl rfl⟩

theorem unsigned?_eq_some_iff {bound n : Nat} {s : String} :
    unsigned? bound s = some n ↔ IsNumeral s.toList n ∧ n < bound := by
  have hread : unsigned? bound s = some n ↔ unsignedDigits s.toList ≠ []
      ∧ (∀ c ∈ unsignedDigits s.toList, c.isDigit = true)
      ∧ Nat.ofDigitChars 10 (unsignedDigits s.toList) 0 = n ∧ n < bound := by
    simp only [unsigned?, Option.ite_none_right_eq_some, Bool.and_eq_true, Bool.not_eq_true',
      List.isEmpty_eq_false_iff, List.all_eq_true, decide_eq_true_eq, Option.some.injEq]
    constructor
    · rintro ⟨⟨⟨hne, hdigits⟩, hlt⟩, rfl⟩
      exact ⟨hne, hdigits, rfl, hlt⟩
    · rintro ⟨hne, hdigits, rfl, hlt⟩
      exact ⟨⟨⟨hne, hdigits⟩, hlt⟩, rfl⟩
  rw [hread]
  constructor
  · rintro ⟨hne, hdigits, hvalue, hlt⟩
    obtain ⟨sign, hs, hsign⟩ := exists_sign_unsignedDigits s.toList
    exact ⟨⟨sign, unsignedDigits s.toList, hs, hsign, hne, hdigits, hvalue⟩, hlt⟩
  · rintro ⟨⟨sign, digits, hs, hsign, hne, hdigits, hvalue⟩, hlt⟩
    have hrest : unsignedDigits s.toList = digits := by
      rcases hsign with rfl | rfl
      · rw [hs, List.nil_append, unsignedDigits_of_isDigit hdigits]
      · rw [hs]
        rfl
    rw [hrest]
    exact ⟨hne, hdigits, hvalue, hlt⟩

theorem readUInt32?_eq_some_iff {s : String} {n : UInt32} :
    readUInt32? s = some n ↔ IsNumeral s.toList n.toNat := by
  rw [readUInt32?, Option.map_eq_some_iff]
  constructor
  · rintro ⟨value, hvalue, rfl⟩
    obtain ⟨hnumeral, hlt⟩ := unsigned?_eq_some_iff.mp hvalue
    rwa [UInt32.toNat_ofNat_of_lt' hlt]
  · intro h
    exact ⟨n.toNat, unsigned?_eq_some_iff.mpr ⟨h, n.toNat_lt⟩, UInt32.ofNat_toNat⟩

theorem readUInt64?_eq_some_iff {s : String} {n : UInt64} :
    readUInt64? s = some n ↔ IsNumeral s.toList n.toNat := by
  rw [readUInt64?, Option.map_eq_some_iff]
  constructor
  · rintro ⟨value, hvalue, rfl⟩
    obtain ⟨hnumeral, hlt⟩ := unsigned?_eq_some_iff.mp hvalue
    rwa [UInt64.toNat_ofNat_of_lt' hlt]
  · intro h
    exact ⟨n.toNat, unsigned?_eq_some_iff.mpr ⟨h, n.toNat_lt⟩, UInt64.ofNat_toNat⟩

/-! ## Blanks around a numeral -/

theorem not_isBlank_of_isDigit {c : Char} (h : c.isDigit = true) : isBlank c = false := by
  -- No range of blanks reaches into the digits.
  have hapart : ∀ range ∈ blankRanges, range.2 < '0'.toNat ∨ '9'.toNat < range.1 := by decide
  have hdigit : '0'.toNat ≤ c.toNat ∧ c.toNat ≤ '9'.toNat := by
    simpa [Char.isDigit, UInt32.le_iff_toNat_le] using h
  rw [← Bool.not_eq_true]
  intro hblank
  obtain ⟨range, hrange, hlow, hhigh⟩ := Ranges.covers_iff.mp hblank
  rcases hapart range hrange with hbelow | habove <;> omega

theorem IsNumeral.not_isBlank {cs : List Char} {n : Nat} (h : IsNumeral cs n) :
    ∀ c ∈ cs, isBlank c = false := by
  obtain ⟨sign, digits, rfl, hsign, -, hdigits, -⟩ := h
  intro c hc
  rcases List.mem_append.mp hc with hc | hc
  · rcases hsign with rfl | rfl
    · cases hc
    · obtain rfl : c = '+' := List.mem_singleton.mp hc
      decide
  · exact not_isBlank_of_isDigit (hdigits c hc)

theorem tellsNumber_iff {text : String} {n : Nat} :
    TellsNumber text n ↔ IsNumeral (trim text).toList n := by
  constructor
  · rintro ⟨core, hpadded, hnumeral⟩
    rw [trim_of_padded hpadded hnumeral.not_isBlank, String.toList_ofList]
    exact hnumeral
  · intro h
    exact ⟨(trim text).toList, padded_trim text, h⟩

theorem isNumeral_toString (n : Nat) : IsNumeral (toString n).toList n := by
  rw [Nat.toString_eq_ofList_toDigits, String.toList_ofList]
  exact ⟨[], Nat.toDigits 10 n, rfl, .inl rfl, Nat.toDigits_ne_nil,
    fun c hc => Nat.isDigit_of_mem_toDigits (by decide) (by decide) hc,
    Nat.ofDigitChars_ten_toDigits⟩

end RecordQuery.Text
