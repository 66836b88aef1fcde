import RecordQuery.Url.Percent

/-!
# Percent-decoding what was encoded

A text is encoded byte by byte, so decoding is followed byte by byte as well. Where the percent sign
is encoded itself, every byte is read back. Where it stays as it is, decoding sees the escapes that
the text holds, and no others: encoding neither makes nor breaks one.

## Main statements

* `utf8Bytes_injective`: a text is known by its bytes.
* `percentDecode_flatMap_eq_map`: what was encoded together with its percent signs is read back.
* `percentDecode_flatMap`: what was encoded but for its percent signs is read as it would be itself.
* `percentDecode_utf8Bytes_eq_self_iff`: a text that is not encoded is read as it is iff it holds no
  escape.
-/

namespace RecordQuery.Url

/-! ## Texts as bytes -/

@[simp] theorem utf8Bytes_nil : utf8Bytes [] = [] := rfl

@[simp] theorem utf8Bytes_cons (c : Char) (cs : List Char) :
    utf8Bytes (c :: cs) = String.utf8EncodeChar c ++ utf8Bytes cs := rfl

@[simp] theorem utf8Bytes_append (cs ds : List Char) :
    utf8Bytes (cs ++ ds) = utf8Bytes cs ++ utf8Bytes ds :=
  List.flatMap_append

theorem utf8Bytes_injective : Function.Injective utf8Bytes := by
  intro cs ds h
  have hbytes : (String.ofList cs).toByteArray = (String.ofList ds).toByteArray := by
    rw [String.toByteArray_ofList, String.toByteArray_ofList]
    exact congrArg List.toByteArray h
  rw [String.toByteArray_inj] at hbytes
  simpa using congrArg String.toList hbytes

def textBytes (s : String) : List UInt8 := utf8Bytes s.toList

theorem textBytes_injective : Function.Injective textBytes :=
  fun _ _ h => String.toList_inj.mp (utf8Bytes_injective h)

@[simp] theorem stripped_append (cs ds : List Char) :
    stripped (cs ++ ds) = stripped cs ++ stripped ds :=
  List.filter_append ..

theorem stripped_eq_self_iff {cs : List Char} :
    stripped cs = cs ↔ ∀ c ∈ cs, isIgnored c = false := by
  simp [stripped, List.filter_eq_self]

@[simp] theorem percentEncode_append (set : ByteSet) (cs ds : List Char) :
    percentEncode set (cs ++ ds) = percentEncode set cs ++ percentEncode set ds := by
  simp only [percentEncode, utf8Bytes_append, List.flatMap_append]

theorem utf8EncodeChar_of_lt {c : Char} (h : c.toNat < 128) :
    String.utf8EncodeChar c = [UInt8.ofNat c.toNat] := by
  have hle : c.val.toNat ≤ 0x7F := Nat.le_of_lt_succ h
  exact if_pos hle

theorem le_of_mem_utf8EncodeChar {c : Char} (h : 128 ≤ c.toNat) {b : UInt8}
    (hb : b ∈ String.utf8EncodeChar c) : 128 ≤ b.toNat := by
  have hlt : ¬ c.val.toNat ≤ 0x7F := Nat.not_le_of_lt h
  rw [String.utf8EncodeChar, if_neg hlt] at hb
  -- Two, three or four bytes, each with its mark added to a remainder.
  split at hb
  · simp only [List.mem_cons, List.not_mem_nil, or_false] at hb
    rcases hb with rfl | rfl <;> rw [UInt8.toNat_ofNat'] <;> omega
  · split at hb
    · simp only [List.mem_cons, List.not_mem_nil, or_false] at hb
      rcases hb with rfl | rfl | rfl <;> rw [UInt8.toNat_ofNat'] <;> omega
    · simp only [List.mem_cons, List.not_mem_nil, or_false] at hb
      rcases hb with rfl | rfl | rfl | rfl <;> rw [UInt8.toNat_ofNat'] <;> omega

theorem utf8Bytes_of_ascii {cs : List Char} (h : ∀ c ∈ cs, c.toNat < 128) :
    utf8Bytes cs = cs.map fun c => UInt8.ofNat c.toNat := by
  induction cs with
  | nil => rfl
  | cons c cs ih =>
    rw [utf8Bytes_cons, utf8EncodeChar_of_lt (h c List.mem_cons_self),
      ih fun d hd => h d (List.mem_cons_of_mem _ hd)]
    rfl

/-- The byte of an ASCII character is another one than that of another character. -/
theorem mem_utf8EncodeChar_iff {c : Char} (mark : Char) (hmark : mark.toNat < 128) :
    UInt8.ofNat mark.toNat ∈ String.utf8EncodeChar c ↔ c = mark := by
  have hbyte (d : Char) (hd : d.toNat < 128) : (UInt8.ofNat d.toNat).toNat = d.toNat := by
    rw [UInt8.toNat_ofNat', Nat.mod_eq_of_lt (by omega)]
  constructor
  · intro h
    by_cases hc : c.toNat < 128
    · rw [utf8EncodeChar_of_lt hc, List.mem_singleton] at h
      have hnat : mark.toNat = c.toNat := by
        rw [← hbyte mark hmark, ← hbyte c hc, h]
      exact (Char.toNat_inj.mp hnat).symm
    · have hle := le_of_mem_utf8EncodeChar (Nat.le_of_not_lt hc) h
      rw [hbyte mark hmark] at hle
      omega
  · rintro rfl
    rw [utf8EncodeChar_of_lt hmark]
    exact List.mem_singleton_self _

theorem mem_utf8Bytes_iff {cs : List Char} (mark : Char) (hmark : mark.toNat < 128) :
    UInt8.ofNat mark.toNat ∈ utf8Bytes cs ↔ mark ∈ cs := by
  simp [utf8Bytes, mem_utf8EncodeChar_iff mark hmark]

/-! ## Escapes

An escape is a percent sign and two hexadecimal digits. Decoding replaces it by one byte and leaves
everything else. -/

/-- The byte that two hexadecimal digits at the beginning spell, and what follows them. -/
def digitPair? : List UInt8 → Option (UInt8 × List UInt8)
  | b :: c :: rest => do
    let high ← hexValue? b
    let low ← hexValue? c
    return (UInt8.ofNat (16 * high + low), rest)
  | _ => none

theorem digitPair?_eq_some_iff {bytes rest : List UInt8} {b : UInt8} :
    digitPair? bytes = some (b, rest) ↔ ∃ x y high low, bytes = x :: y :: rest
      ∧ hexValue? x = some high ∧ hexValue? y = some low ∧ b = UInt8.ofNat (16 * high + low) := by
  match bytes with
  | [] => simp [digitPair?]
  | [_] => simp [digitPair?]
  | x :: y :: more =>
    simp only [digitPair?, Option.bind_eq_bind, Option.pure_def, Option.bind_eq_some_iff]
    constructor
    · rintro ⟨high, hhigh, low, hlow, h⟩
      obtain ⟨rfl, rfl⟩ := Prod.mk.inj (Option.some.inj h)
      exact ⟨x, y, high, low, rfl, hhigh, hlow, rfl⟩
    · rintro ⟨x', y', high, low, heq, hhigh, hlow, rfl⟩
      obtain ⟨rfl, rfl, rfl⟩ : x = x' ∧ y = y' ∧ more = rest := by simpa using heq
      exact ⟨high, hhigh, low, hlow, rfl⟩

theorem percentDecode_cons_of_ne {a : UInt8} (h : a ≠ 0x25) (rest : List UInt8) :
    percentDecode (a :: rest) = a :: percentDecode rest := by
  match rest with
  | [] => rfl
  | [_] => rfl
  | _ :: _ :: _ => rw [percentDecode, if_neg h]

theorem percentDecode_of_digitPair? {bytes rest : List UInt8} {b : UInt8}
    (h : digitPair? bytes = some (b, rest)) :
    percentDecode (0x25 :: bytes) = b :: percentDecode rest := by
  obtain ⟨x, y, high, low, rfl, hhigh, hlow, rfl⟩ := digitPair?_eq_some_iff.mp h
  rw [percentDecode, if_pos rfl, hhigh, hlow]

theorem percentDecode_of_digitPair?_eq_none {bytes : List UInt8} (h : digitPair? bytes = none) :
    percentDecode (0x25 :: bytes) = 0x25 :: percentDecode bytes := by
  match bytes, h with
  | [], _ => rfl
  | [_], _ => rfl
  | x :: y :: more, h =>
    rw [percentDecode, if_pos rfl]
    cases hhigh : hexValue? x with
    | none => rfl
    | some high =>
      cases hlow : hexValue? y with
      | none => rfl
      | some low => simp [digitPair?, hhigh, hlow] at h

/-- What a text is decoded as, one byte or one escape after the other. -/
inductive Decodes : List UInt8 → List UInt8 → Prop
  | nil : Decodes [] []
  | other {a : UInt8} {bytes decoded : List UInt8} (ha : a ≠ 0x25) (h : Decodes bytes decoded) :
      Decodes (a :: bytes) (a :: decoded)
  | percent {bytes decoded : List UInt8} (hpair : digitPair? bytes = none)
      (h : Decodes bytes decoded) : Decodes (0x25 :: bytes) (0x25 :: decoded)
  | escape {b : UInt8} {bytes rest decoded : List UInt8} (hpair : digitPair? bytes = some (b, rest))
      (h : Decodes rest decoded) : Decodes (0x25 :: bytes) (b :: decoded)

theorem decodes_percentDecode (bytes : List UInt8) : Decodes bytes (percentDecode bytes) := by
  match bytes with
  | [] => exact .nil
  | a :: bytes =>
    by_cases ha : a = 0x25
    · subst ha
      cases hpair : digitPair? bytes with
      | none =>
        rw [percentDecode_of_digitPair?_eq_none hpair]
        exact .percent hpair (decodes_percentDecode bytes)
      | some pair =>
        obtain ⟨b, rest⟩ := pair
        obtain ⟨_, _, _, _, rfl, -⟩ := digitPair?_eq_some_iff.mp hpair
        rw [percentDecode_of_digitPair? hpair]
        exact .escape hpair (decodes_percentDecode rest)
    · rw [percentDecode_cons_of_ne ha]
      exact .other ha (decodes_percentDecode bytes)
termination_by bytes.length

/-- Decoding shortens what it changes. -/
theorem Decodes.eq_or_length_lt {bytes decoded : List UInt8} (h : Decodes bytes decoded) :
    decoded = bytes ∨ decoded.length < bytes.length := by
  induction h with
  | nil => exact .inl rfl
  | other _ _ ih => simpa using ih
  | percent _ _ ih => simpa using ih
  | escape hpair _ ih =>
    obtain ⟨_, _, _, _, rfl, -⟩ := digitPair?_eq_some_iff.mp hpair
    right
    rcases ih with rfl | hlt
    · simp
    · simp only [List.length_cons]
      omega

theorem length_percentDecode_le (bytes : List UInt8) :
    (percentDecode bytes).length ≤ bytes.length := by
  rcases (decodes_percentDecode bytes).eq_or_length_lt with heq | hlt
  · exact Nat.le_of_eq (congrArg List.length heq)
  · exact Nat.le_of_lt hlt

/-! ## Encoded texts

Each byte is spelled by itself or by an escape. Decoding gives back the bytes, one by one, if the
percent sign is always spelled by an escape. If it never is, decoding gives what it would give for
the bytes themselves, provided that hexadecimal digits are not spelled by escapes either. -/

/-- The digits of an escape, as encoding writes them. -/
def hexDigits : List Char :=
  ['0', '1', '2', '3', '4', '5', '6', '7', '8', '9', 'A', 'B', 'C', 'D', 'E', 'F']

theorem hexDigit_mem_hexDigits {n : Nat} (h : n < 16) : hexDigit n ∈ hexDigits := by
  have hall : ∀ m ∈ List.range 16, hexDigit m ∈ hexDigits := by decide
  exact hall n (List.mem_range.mpr h)

theorem mem_of_mem_percentByte {b : UInt8} {c : Char} (h : c ∈ percentByte b) :
    c ∈ '%' :: hexDigits := by
  have hlt := b.toNat_lt
  simp only [percentByte, List.mem_cons, List.not_mem_nil, or_false] at h
  rcases h with rfl | rfl | rfl
  · exact List.mem_cons_self
  · exact List.mem_cons_of_mem _ (hexDigit_mem_hexDigits (by omega))
  · exact List.mem_cons_of_mem _ (hexDigit_mem_hexDigits (by omega))

theorem utf8Bytes_percentByte (b : UInt8) :
    utf8Bytes (percentByte b) = (percentByte b).map fun c => UInt8.ofNat c.toNat := by
  refine utf8Bytes_of_ascii fun c hc => ?_
  have hall : ('%' :: hexDigits).all fun d => d.toNat < 128 := by decide
  exact of_decide_eq_true (List.all_eq_true.mp hall c (mem_of_mem_percentByte hc))

theorem notMem_percentByte (mark : Char) (hmark : mark.toNat < 128) (h : mark ∉ '%' :: hexDigits)
    (b : UInt8) : UInt8.ofNat mark.toNat ∉ utf8Bytes (percentByte b) := by
  rw [mem_utf8Bytes_iff mark hmark]
  exact fun hmem => h (mem_of_mem_percentByte hmem)

section Spelling

variable {α : Type} {spelling : α → List UInt8} {byte : α → UInt8}

theorem percentDecode_flatMap_eq_map
    (h : ∀ x, (spelling x = [byte x] ∧ byte x ≠ 0x25)
      ∨ spelling x = utf8Bytes (percentByte (byte x))) (xs : List α) :
    percentDecode (xs.flatMap spelling) = xs.map byte := by
  induction xs with
  | nil => rfl
  | cons x xs ih =>
    rw [List.flatMap_cons, List.map_cons]
    rcases h x with ⟨hself, hne⟩ | hescape
    · rw [hself, List.singleton_append, percentDecode_cons_of_ne hne, ih]
    · rw [hescape, utf8Bytes_percentByte, percentDecode_percentByte, ih]

/-- A byte is spelled by itself, unless it is no part of an escape. -/
def SpellsPlainly (spelling : α → List UInt8) (byte : α → UInt8) : Prop :=
  ∀ x, spelling x = [byte x]
    ∨ (spelling x = utf8Bytes (percentByte (byte x)) ∧ byte x ≠ 0x25 ∧ hexValue? (byte x) = none)

theorem SpellsPlainly.eq_of_digit (h : SpellsPlainly spelling byte) {xs : List α} {b : UInt8}
    {value : Nat} {rest : List UInt8} (hxs : xs.flatMap spelling = b :: rest)
    (hdigit : hexValue? b = some value) :
    ∃ x ys, xs = x :: ys ∧ byte x = b ∧ rest = ys.flatMap spelling := by
  cases xs with
  | nil => cases hxs
  | cons x ys =>
    rw [List.flatMap_cons] at hxs
    rcases h x with hself | ⟨hescape, -, -⟩
    · rw [hself, List.singleton_append] at hxs
      obtain ⟨hbyte, hrest⟩ := List.cons.inj hxs
      exact ⟨x, ys, rfl, hbyte, hrest.symm⟩
    · -- An escape begins with a percent sign, which is no digit.
      rw [hescape, utf8Bytes_percentByte] at hxs
      have hpercent : b = 0x25 := (List.cons.inj hxs).1.symm
      subst hpercent
      cases hdigit

theorem SpellsPlainly.digitPair?_eq_some_iff (h : SpellsPlainly spelling byte) {xs : List α}
    {b : UInt8} {rest : List UInt8} :
    digitPair? (xs.flatMap spelling) = some (b, rest) ↔ ∃ x y ys high low, xs = x :: y :: ys
      ∧ hexValue? (byte x) = some high ∧ hexValue? (byte y) = some low
      ∧ b = UInt8.ofNat (16 * high + low) ∧ rest = ys.flatMap spelling := by
  rw [Url.digitPair?_eq_some_iff]
  constructor
  · rintro ⟨_, _, high, low, hxs, hhigh, hlow, rfl⟩
    obtain ⟨x, xs', rfl, rfl, hxs'⟩ := h.eq_of_digit hxs hhigh
    obtain ⟨y, ys, rfl, rfl, hrest⟩ := h.eq_of_digit hxs'.symm hlow
    exact ⟨x, y, ys, high, low, rfl, hhigh, hlow, rfl, hrest⟩
  · rintro ⟨x, y, ys, high, low, rfl, hhigh, hlow, rfl, rfl⟩
    have hself (z : α) {value : Nat} (hz : hexValue? (byte z) = some value) :
        spelling z = [byte z] :=
      (h z).resolve_right fun hescape => by simp [hescape.2.2] at hz
    refine ⟨byte x, byte y, high, low, ?_, hhigh, hlow, rfl⟩
    rw [List.flatMap_cons, List.flatMap_cons, hself x hhigh, hself y hlow]
    rfl

theorem percentDecode_flatMap (h : SpellsPlainly spelling byte) (xs : List α) :
    percentDecode (xs.flatMap spelling) = percentDecode (xs.map byte) := by
  have hplain : SpellsPlainly (fun x => [byte x]) byte := fun _ => .inl rfl
  rw [List.map_eq_flatMap]
  match xs with
  | [] => rfl
  | x :: xs =>
    have hrest := percentDecode_flatMap h xs
    rw [List.map_eq_flatMap] at hrest
    rw [List.flatMap_cons, List.flatMap_cons, List.singleton_append]
    rcases h x with hself | ⟨hescape, hne, -⟩
    · rw [hself, List.singleton_append]
      by_cases hpercent : byte x = 0x25
      · rw [hpercent]
        -- The two digits behind a percent sign are the same on both sides.
        cases hpair : digitPair? (xs.flatMap spelling) with
        | none =>
          have hpair' : digitPair? (xs.flatMap fun x => [byte x]) = none := by
            rw [Option.eq_none_iff_forall_ne_some] at hpair ⊢
            rintro ⟨b, rest⟩ hsome
            obtain ⟨x, y, ys, high, low, rfl, hhigh, hlow, rfl, rfl⟩ :=
              hplain.digitPair?_eq_some_iff.mp hsome
            exact hpair _ (h.digitPair?_eq_some_iff.mpr
              ⟨x, y, ys, high, low, rfl, hhigh, hlow, rfl, rfl⟩)
          rw [percentDecode_of_digitPair?_eq_none hpair,
            percentDecode_of_digitPair?_eq_none hpair', hrest]
        | some pair =>
          obtain ⟨b, rest⟩ := pair
          obtain ⟨x, y, ys, high, low, rfl, hhigh, hlow, rfl, rfl⟩ :=
            h.digitPair?_eq_some_iff.mp hpair
          have hpair' := hplain.digitPair?_eq_some_iff.mpr
            ⟨x, y, ys, high, low, rfl, hhigh, hlow, rfl, rfl⟩
          rw [percentDecode_of_digitPair? hpair, percentDecode_of_digitPair? hpair',
            percentDecode_flatMap h ys, List.map_eq_flatMap]
      · rw [percentDecode_cons_of_ne hpercent, percentDecode_cons_of_ne hpercent, hrest]
    · rw [hescape, utf8Bytes_percentByte, percentDecode_percentByte,
        percentDecode_cons_of_ne hne, hrest]
termination_by xs.length

end Spelling

/-- Characters outside ASCII are always encoded. -/
def ByteSet.CoversNonAscii (set : ByteSet) : Prop := ∀ b : UInt8, 128 ≤ b.toNat → set b = true

theorem utf8Bytes_percentEncode (set : ByteSet) (cs : List Char) :
    utf8Bytes (percentEncode set cs)
      = (utf8Bytes cs).flatMap fun b => utf8Bytes (encodeByte set b) :=
  List.flatMap_assoc

theorem utf8Bytes_encodeByte_of_mem {set : ByteSet} {b : UInt8} (h : set b = true) :
    utf8Bytes (encodeByte set b) = utf8Bytes (percentByte b) := by
  rw [encodeByte, if_pos h]

theorem utf8Bytes_ofByte {b : UInt8} (h : b.toNat < 128) :
    utf8Bytes [Char.ofNat b.toNat] = [b] := by
  have hnat : (Char.ofNat b.toNat).toNat = b.toNat := by
    rw [Char.ofNat, dif_pos (Or.inl (by omega))]
    rfl
  rw [utf8Bytes_of_ascii (by simp [hnat, h])]
  simp [hnat]

theorem utf8Bytes_encodeByte_of_notMem {set : ByteSet} (hset : set.CoversNonAscii) {b : UInt8}
    (h : set b = false) : utf8Bytes (encodeByte set b) = [b] := by
  have hlt : b.toNat < 128 := Nat.lt_of_not_le fun hle => by simp [hset b hle] at h
  rw [encodeByte, if_neg (by simp [h]), utf8Bytes_ofByte hlt]

/-! ## Texts with escapes -/

/-- A percent sign and two hexadecimal digits stand in a text. -/
def HoldsEscape (cs : List Char) : Prop :=
  ∃ a b, ['%', a, b] <:+: cs ∧ (Text.hexDigit? a).isSome ∧ (Text.hexDigit? b).isSome

theorem toNat_lt_of_hexDigit? {c : Char} {value : Nat} (h : Text.hexDigit? c = some value) :
    c.toNat < 128 := by
  have hle (d : Char) (hd : d.toNat < 128) (hcd : c ≤ d) : c.toNat < 128 :=
    Nat.lt_of_le_of_lt hcd hd
  rw [Text.hexDigit?] at h
  split at h
  · exact hle '9' (by decide) (by assumption : '0' ≤ c ∧ c ≤ '9').2
  · split at h
    · exact hle 'F' (by decide) (by assumption : 'A' ≤ c ∧ c ≤ 'F').2
    · split at h
      · exact hle 'f' (by decide) (by assumption : 'a' ≤ c ∧ c ≤ 'f').2
      · cases h

theorem hexValue?_ofNat_toNat {c : Char} (h : c.toNat < 128) :
    hexValue? (UInt8.ofNat c.toNat) = Text.hexDigit? c := by
  rw [hexValue?, UInt8.toNat_ofNat', Nat.mod_eq_of_lt (by omega), Char.ofNat_toNat]

theorem hexValue?_eq_none_of_le {b : UInt8} (h : 128 ≤ b.toNat) : hexValue? b = none := by
  have hlt := b.toNat_lt
  have hnat : (Char.ofNat b.toNat).toNat = b.toNat := by
    rw [Char.ofNat, dif_pos (Or.inl (by omega))]
    rfl
  rw [Option.eq_none_iff_forall_ne_some]
  intro value hvalue
  have hascii := toNat_lt_of_hexDigit? hvalue
  omega

/-- A digit among the bytes of a text is a digit of the text. -/
theorem utf8Bytes_eq_cons_iff_of_digit {cs : List Char} {b : UInt8} {value : Nat}
    {rest : List UInt8} (hdigit : hexValue? b = some value) :
    utf8Bytes cs = b :: rest ↔ ∃ c ds, cs = c :: ds ∧ Text.hexDigit? c = some value
      ∧ b = UInt8.ofNat c.toNat ∧ rest = utf8Bytes ds := by
  constructor
  · intro h
    cases cs with
    | nil => cases h
    | cons c ds =>
      rw [utf8Bytes_cons] at h
      by_cases hc : c.toNat < 128
      · rw [utf8EncodeChar_of_lt hc, List.singleton_append] at h
        obtain ⟨rfl, rfl⟩ := List.cons.inj h
        rw [hexValue?_ofNat_toNat hc] at hdigit
        exact ⟨c, ds, rfl, hdigit, rfl, rfl⟩
      · -- The bytes of other characters are no digits.
        have hmem : b ∈ String.utf8EncodeChar c := by
          cases hbytes : String.utf8EncodeChar c with
          | nil => exact absurd hbytes String.utf8EncodeChar_ne_nil
          | cons x xs =>
            rw [hbytes, List.cons_append] at h
            obtain ⟨rfl, -⟩ := List.cons.inj h
            exact List.mem_cons_self
        have hle := le_of_mem_utf8EncodeChar (Nat.le_of_not_lt hc) hmem
        rw [hexValue?_eq_none_of_le hle] at hdigit
        cases hdigit
  · rintro ⟨c, ds, rfl, hc, rfl, rfl⟩
    rw [utf8Bytes_cons, utf8EncodeChar_of_lt (toNat_lt_of_hexDigit? hc), List.singleton_append]

theorem isSome_digitPair?_utf8Bytes_iff {cs : List Char} :
    (digitPair? (utf8Bytes cs)).isSome ↔ ∃ a b, [a, b] <+: cs
      ∧ (Text.hexDigit? a).isSome ∧ (Text.hexDigit? b).isSome := by
  constructor
  · intro h
    obtain ⟨⟨byte, rest⟩, hpair⟩ := Option.isSome_iff_exists.mp h
    obtain ⟨x, y, high, low, hbytes, hhigh, hlow, -⟩ := digitPair?_eq_some_iff.mp hpair
    obtain ⟨a, ds, rfl, ha, -, hds⟩ := (utf8Bytes_eq_cons_iff_of_digit hhigh).mp hbytes
    obtain ⟨b, es, rfl, hb, -, -⟩ := (utf8Bytes_eq_cons_iff_of_digit hlow).mp hds.symm
    exact ⟨a, b, ⟨es, rfl⟩, by simp [ha], by simp [hb]⟩
  · rintro ⟨a, b, ⟨es, rfl⟩, ha, hb⟩
    obtain ⟨high, ha⟩ := Option.isSome_iff_exists.mp ha
    obtain ⟨low, hb⟩ := Option.isSome_iff_exists.mp hb
    have hlta := toNat_lt_of_hexDigit? ha
    have hltb := toNat_lt_of_hexDigit? hb
    have hbytes : utf8Bytes ([a, b] ++ es)
        = UInt8.ofNat a.toNat :: UInt8.ofNat b.toNat :: utf8Bytes es := by
      simp [utf8EncodeChar_of_lt hlta, utf8EncodeChar_of_lt hltb]
    rw [hbytes, digitPair?, hexValue?_ofNat_toNat hlta, hexValue?_ofNat_toNat hltb, ha, hb]
    rfl

theorem holdsEscape_cons_iff {c : Char} {cs : List Char} :
    HoldsEscape (c :: cs) ↔ (c = '%' ∧ (digitPair? (utf8Bytes cs)).isSome) ∨ HoldsEscape cs := by
  rw [isSome_digitPair?_utf8Bytes_iff]
  constructor
  · rintro ⟨a, b, hinfix, ha, hb⟩
    rcases List.infix_cons_iff.mp hinfix with hstart | hinfix
    · obtain ⟨hc, hdigits⟩ := List.cons_prefix_cons.mp hstart
      exact .inl ⟨hc.symm, a, b, hdigits, ha, hb⟩
    · exact .inr ⟨a, b, hinfix, ha, hb⟩
  · rintro (⟨rfl, a, b, hstart, ha, hb⟩ | ⟨a, b, hinfix, ha, hb⟩)
    · exact ⟨a, b, (List.cons_prefix_cons.mpr ⟨rfl, hstart⟩).isInfix, ha, hb⟩
    · exact ⟨a, b, List.infix_cons_iff.mpr (.inr hinfix), ha, hb⟩

theorem percentDecode_append_of_notMem {bytes : List UInt8} (h : 0x25 ∉ bytes)
    (rest : List UInt8) : percentDecode (bytes ++ rest) = bytes ++ percentDecode rest := by
  induction bytes with
  | nil => rfl
  | cons a bytes ih =>
    rw [List.mem_cons, not_or] at h
    rw [List.cons_append, percentDecode_cons_of_ne (Ne.symm h.1), ih h.2, List.cons_append]

theorem percentDecode_utf8Bytes_eq_self_iff (cs : List Char) :
    percentDecode (utf8Bytes cs) = utf8Bytes cs ↔ ¬ HoldsEscape cs := by
  induction cs with
  | nil =>
    refine iff_of_true rfl ?_
    rintro ⟨a, b, hinfix, -⟩
    simp at hinfix
  | cons c cs ih =>
    rw [holdsEscape_cons_iff, utf8Bytes_cons, not_or, ← ih]
    by_cases hc : c = '%'
    · subst hc
      have hbytes : String.utf8EncodeChar '%' = [0x25] := rfl
      rw [hbytes, List.singleton_append]
      cases hpair : digitPair? (utf8Bytes cs) with
      | none =>
        rw [percentDecode_of_digitPair?_eq_none hpair]
        simp
      | some pair =>
        -- The escape at the beginning becomes a single byte.
        obtain ⟨b, rest⟩ := pair
        obtain ⟨_, _, _, _, hrest, -⟩ := digitPair?_eq_some_iff.mp hpair
        have hle := length_percentDecode_le rest
        refine iff_of_false (fun h => ?_) (by simp)
        have hlength := congrArg List.length h
        rw [percentDecode_of_digitPair? hpair, hrest] at hlength
        simp only [List.length_cons] at hlength
        omega
    · have hpercent : (0x25 : UInt8) ∉ String.utf8EncodeChar c := fun hmem =>
        hc ((mem_utf8EncodeChar_iff '%' (by decide)).mp hmem)
      rw [percentDecode_append_of_notMem hpercent, List.append_cancel_left_eq]
      simp [hc]

instance : DecidablePred HoldsEscape := fun cs =>
  decidable_of_iff (percentDecode (utf8Bytes cs) ≠ utf8Bytes cs)
    ((not_congr (percentDecode_utf8Bytes_eq_self_iff cs)).trans Classical.not_not)

end RecordQuery.Url
