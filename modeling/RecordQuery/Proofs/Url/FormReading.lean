import Mathlib.Data.List.Flatten
import Mathlib.Data.List.TakeWhile
import RecordQuery.Proofs.Url.Decoding
import RecordQuery.Url.Basic

/-!
# Reading a query as a form

What a server reads in a query: the pieces between `&`, each cut at its first `=`, with `+` for a
space and escapes decoded. Pairs that were written in form encoding are read back. A text that a
query took in almost as it is adds what it would be read as by itself, so its `&`, `+` and escapes
are taken for those of the form.

## Main statements

* `readForm_foldl_appendPair`: pairs are read back, behind what the query held before.
* `readForm_percentEncode`: a text in a query is read as if it had not been encoded.
* `readForm_value_eq_iff`: the texts that are read back as the value under a name.
-/

namespace RecordQuery.Url

/-! ## What a server reads -/

/-- A plus sign stands for a space. -/
def plusToSpace (b : UInt8) : UInt8 := if b = 0x2B then 0x20 else b

def formDecode (bytes : List UInt8) : List UInt8 := percentDecode (bytes.map plusToSpace)

/-- The name and the value of a piece, which its first `=` parts. -/
def readPiece (piece : List UInt8) : List UInt8 × List UInt8 :=
  (formDecode (piece.takeWhile (· != 0x3D)), formDecode ((piece.dropWhile (· != 0x3D)).drop 1))

/-- The names and values of a form. An empty piece holds none. -/
def readForm (query : List UInt8) : List (List UInt8 × List UInt8) :=
  ((query.splitOn 0x26).filter fun piece => !piece.isEmpty).map readPiece

/-- The names and values that a server reads in the query of a URL. -/
def readQuery (url : Url) : List (List UInt8 × List UInt8) :=
  readForm (textBytes (url.query.getD ""))

/-- A name and a value as bytes. -/
def bytesOfPair (pair : String × String) : List UInt8 × List UInt8 :=
  (textBytes pair.1, textBytes pair.2)

@[simp] theorem readForm_nil : readForm [] = [] := rfl

theorem readForm_append_cons (front back : List UInt8) :
    readForm (front ++ 0x26 :: back) = readForm front ++ readForm back := by
  rw [readForm, List.splitOn_append_cons_self, List.filter_append, List.map_append]
  rfl

theorem readForm_eq_singleton {piece : List UInt8} (hne : piece ≠ []) (h : 0x26 ∉ piece) :
    readForm piece = [readPiece piece] := by
  rw [readForm, List.splitOn_eq_singleton h]
  simp [hne]

theorem readPiece_of_notMem {piece : List UInt8} (h : 0x3D ∉ piece) :
    readPiece piece = (formDecode piece, []) := by
  have hpiece : ∀ b ∈ piece, (b != 0x3D) = true := fun b hb =>
    bne_iff_ne.mpr fun heq => h (heq ▸ hb)
  rw [readPiece, List.takeWhile_eq_self_iff.mpr hpiece, List.dropWhile_eq_nil_iff.mpr hpiece]
  rfl

theorem readPiece_append_cons {name : List UInt8} (h : 0x3D ∉ name) (value : List UInt8) :
    readPiece (name ++ 0x3D :: value) = (formDecode name, formDecode value) := by
  have hname : ∀ b ∈ name, (b != 0x3D) = true := fun b hb =>
    bne_iff_ne.mpr fun heq => h (heq ▸ hb)
  rw [readPiece, List.takeWhile_append_of_pos hname, List.dropWhile_append_of_pos hname]
  simp

theorem map_plusToSpace_eq_self_iff {bytes : List UInt8} :
    bytes.map plusToSpace = bytes ↔ 0x2B ∉ bytes := by
  induction bytes with
  | nil => simp
  | cons b bytes ih =>
    by_cases hb : b = 0x2B
    · subst hb
      simp [plusToSpace]
    · simp [plusToSpace, hb, Ne.symm hb, ih]

/-! ## Plain characters -/

/-- A printable character of ASCII that may stand in a query as it is. -/
def IsPlain (c : Char) : Prop :=
  0x20 < c.toNat ∧ c.toNat < 0x7F ∧ c ∉ ['"', '#', '<', '>', '\x27']

instance : DecidablePred IsPlain := fun _ => inferInstanceAs (Decidable (_ ∧ _ ∧ _))

theorem IsPlain.lt {c : Char} (h : IsPlain c) : c.toNat < 128 := by
  have hlt := h.2.1
  omega

theorem IsPlain.not_isIgnored {c : Char} (h : IsPlain c) : isIgnored c = false := by
  have hne (d : Char) (hd : d.toNat ≤ 0x20) : c ≠ d := by
    rintro rfl
    have hgt := h.1
    omega
  simp [isIgnored, hne '\t' (by decide), hne '\n' (by decide), hne '\r' (by decide)]

/-- The bytes that are not encoded are those of the plain characters. -/
theorem query_eq_false_iff (b : UInt8) :
    ByteSet.query b = false ↔ IsPlain (Char.ofNat b.toNat) := by
  have hall : ∀ n ∈ List.range 256,
      ByteSet.query (UInt8.ofNat n) = false ↔ IsPlain (Char.ofNat n) := by decide +kernel
  have hb := hall b.toNat (List.mem_range.mpr b.toNat_lt)
  rwa [UInt8.ofNat_toNat] at hb

theorem IsPlain.not_encoded {c : Char} (h : IsPlain c) :
    ByteSet.query (UInt8.ofNat c.toNat) = false := by
  have hlt := h.lt
  rw [query_eq_false_iff, UInt8.toNat_ofNat', Nat.mod_eq_of_lt (by omega), Char.ofNat_toNat]
  exact h

/-! ## Pairs in form encoding -/

/-- The characters of a text in form encoding. -/
def formChars : List Char :=
  '+' :: '%' :: hexDigits
    ++ "GHIJKLMNOPQRSTUVWXYZabcdefghijklmnopqrstuvwxyz*-._".toList

/-- No character of a text in form encoding ends a name or a value. -/
theorem notMem_formChars {mark : Char} (h : mark = '&' ∨ mark = '=') : mark ∉ formChars := by
  rcases h with rfl | rfl <;> decide +kernel

/-- The characters of a query that holds pairs in form encoding. -/
def queryChars : List Char := '=' :: '&' :: formChars

theorem plain_of_mem_queryChars {c : Char} (h : c ∈ queryChars) : IsPlain c := by
  have hall : queryChars.all fun d => IsPlain d := by decide +kernel
  exact of_decide_eq_true (List.all_eq_true.mp hall c h)

theorem mem_formChars_of_isFormByte {b : UInt8} (h : isFormByte b = true) :
    Char.ofNat b.toNat ∈ formChars := by
  have hall : ∀ n ∈ List.range 256, isFormByte (UInt8.ofNat n) = true →
      Char.ofNat (UInt8.ofNat n).toNat ∈ formChars := by decide +kernel
  have hb := hall b.toNat (List.mem_range.mpr b.toNat_lt)
  rw [UInt8.ofNat_toNat] at hb
  exact hb h

theorem mem_formChars_of_mem_formByte {b : UInt8} {c : Char} (h : c ∈ formByte b) :
    c ∈ formChars := by
  rw [formByte] at h
  split at h
  · rw [List.mem_singleton] at h
    subst h
    decide +kernel
  · split at h
    · rename_i hform
      rw [List.mem_singleton] at h
      exact h ▸ mem_formChars_of_isFormByte hform
    · exact List.mem_append_left _ (List.mem_cons_of_mem _ (mem_of_mem_percentByte h))

theorem mem_formChars_of_mem_formEncode {s : String} {c : Char} (h : c ∈ formEncode s) :
    c ∈ formChars := by
  obtain ⟨b, -, hb⟩ := List.mem_flatMap.mp h
  exact mem_formChars_of_mem_formByte hb

theorem map_plusToSpace_percentByte (b : UInt8) :
    (utf8Bytes (percentByte b)).map plusToSpace = utf8Bytes (percentByte b) := by
  exact map_plusToSpace_eq_self_iff.mpr (notMem_percentByte '+' (by decide) (by decide) b)

theorem map_plusToSpace_formByte (b : UInt8) :
    ((utf8Bytes (formByte b)).map plusToSpace = [b] ∧ b ≠ 0x25)
      ∨ (utf8Bytes (formByte b)).map plusToSpace = utf8Bytes (percentByte b) := by
  rw [formByte]
  split
  · rename_i hspace
    obtain rfl := beq_iff_eq.mp hspace
    exact .inl ⟨rfl, by decide⟩
  · split
    · rename_i hform
      have hall : ∀ n ∈ List.range 256, isFormByte (UInt8.ofNat n) = true →
          n < 128 ∧ n ≠ 0x25 ∧ n ≠ 0x2B := by decide +kernel
      have hb := hall b.toNat (List.mem_range.mpr b.toNat_lt)
      rw [UInt8.ofNat_toNat] at hb
      obtain ⟨hlt, hpercent, hplus⟩ := hb hform
      have hne (m : UInt8) (h : b.toNat ≠ m.toNat) : b ≠ m := fun heq => h (heq ▸ rfl)
      refine .inl ⟨?_, hne 0x25 hpercent⟩
      rw [utf8Bytes_ofByte hlt, List.map_singleton, plusToSpace, if_neg (hne 0x2B hplus)]
    · exact .inr (map_plusToSpace_percentByte b)

/-- A text in form encoding is read back. -/
theorem formDecode_formEncode (s : String) :
    formDecode (utf8Bytes (formEncode s)) = textBytes s := by
  have hbytes : (utf8Bytes (formEncode s)).map plusToSpace
      = (textBytes s).flatMap fun b => (utf8Bytes (formByte b)).map plusToSpace := by
    rw [formEncode, utf8Bytes, List.flatMap_assoc, List.map_flatMap]
    rfl
  rw [formDecode, hbytes, percentDecode_flatMap_eq_map map_plusToSpace_formByte, List.map_id']

theorem notMem_utf8Bytes_formEncode {s : String} (mark : Char) (hmark : mark = '&' ∨ mark = '=') :
    UInt8.ofNat mark.toNat ∉ utf8Bytes (formEncode s) := by
  have hascii : mark.toNat < 128 := by rcases hmark with rfl | rfl <;> decide
  rw [mem_utf8Bytes_iff mark hascii]
  exact fun hmem => notMem_formChars hmark (mem_formChars_of_mem_formEncode hmem)

theorem readForm_formPair (pair : String × String) :
    readForm (utf8Bytes (formPair pair)) = [bytesOfPair pair] := by
  have hbytes : utf8Bytes (formPair pair)
      = utf8Bytes (formEncode pair.1) ++ 0x3D :: utf8Bytes (formEncode pair.2) := by
    rw [formPair, utf8Bytes_append, utf8Bytes_cons]
    rfl
  have hname : (0x3D : UInt8) ∉ utf8Bytes (formEncode pair.1) :=
    notMem_utf8Bytes_formEncode '=' (.inr rfl)
  have hand (s : String) : (0x26 : UInt8) ∉ utf8Bytes (formEncode s) :=
    notMem_utf8Bytes_formEncode '&' (.inl rfl)
  rw [hbytes, readForm_eq_singleton (by simp) (by simp [hand]), readPiece_append_cons hname,
    formDecode_formEncode, formDecode_formEncode]
  rfl

/-- A query with `&` behind it, so that what comes next is a piece of its own; nothing has to be
parted from an empty query. -/
def separated (query : String) : String := if query.isEmpty then query else query ++ "&"

theorem readForm_separated (query text : String) :
    readForm (textBytes (separated query ++ text))
      = readForm (textBytes query) ++ readForm (textBytes text) := by
  unfold separated
  split
  · rename_i hempty
    rw [String.isEmpty_iff] at hempty
    subst hempty
    simp [textBytes]
  · have hbytes : textBytes (query ++ "&" ++ text) = textBytes query ++ 0x26 :: textBytes text := by
      simp only [textBytes, String.toList_append, utf8Bytes_append, List.append_assoc]
      rfl
    rw [hbytes, readForm_append_cons]

theorem readForm_appendPair (query : String) (pair : String × String) :
    readForm (textBytes (appendPair query pair))
      = readForm (textBytes query) ++ [bytesOfPair pair] := by
  have hpair : textBytes (String.ofList (formPair pair)) = utf8Bytes (formPair pair) := by
    rw [textBytes, String.toList_ofList]
  rw [← readForm_formPair pair, ← hpair]
  exact readForm_separated query _

/-- Pairs are read back, behind what the query held before. -/
theorem readForm_foldl_appendPair (query : String) (pairs : List (String × String)) :
    readForm (textBytes (pairs.foldl appendPair query))
      = readForm (textBytes query) ++ pairs.map bytesOfPair := by
  induction pairs generalizing query with
  | nil => simp
  | cons pair pairs ih => simp [ih, readForm_appendPair]

/-! ## Texts that a query takes in

Encoding for a query leaves `&`, `=`, `+` and the percent sign as they are, and makes no other ones,
so it changes nothing about what is read. -/

/-- How a byte of a text stands in a query. -/
def queryBytes (b : UInt8) : List UInt8 := utf8Bytes (encodeByte ByteSet.query b)

theorem coversNonAscii_query : ByteSet.query.CoversNonAscii := by
  intro b hb
  have hcontrols : ByteSet.controls b = true := by
    have hgt : b > 0x7E := UInt8.lt_iff_toNat_lt.mpr (Nat.lt_of_lt_of_le (by decide) hb)
    simp [ByteSet.controls, hgt]
  rw [ByteSet.query, ByteSet.union, hcontrols, Bool.true_or]

/-- A byte stands for itself in a query, or it is encoded and no mark of a form. -/
theorem queryBytes_cases (b : UInt8) :
    queryBytes b = [b] ∨ (queryBytes b = utf8Bytes (percentByte b) ∧ hexValue? b = none
      ∧ b ≠ 0x25 ∧ b ≠ 0x26 ∧ b ≠ 0x2B ∧ b ≠ 0x3D) := by
  cases hb : ByteSet.query b with
  | false => exact .inl (utf8Bytes_encodeByte_of_notMem coversNonAscii_query hb)
  | true =>
    have hall : ∀ n ∈ List.range 256, ByteSet.query (UInt8.ofNat n) = true →
        hexValue? (UInt8.ofNat n) = none ∧ UInt8.ofNat n ≠ 0x25 ∧ UInt8.ofNat n ≠ 0x26
          ∧ UInt8.ofNat n ≠ 0x2B ∧ UInt8.ofNat n ≠ 0x3D := by decide +kernel
    have hmarks := hall b.toNat (List.mem_range.mpr b.toNat_lt)
    rw [UInt8.ofNat_toNat] at hmarks
    exact .inr ⟨utf8Bytes_encodeByte_of_mem hb, hmarks hb⟩

theorem notMem_flatMap_queryBytes {bytes : List UInt8} {mark : UInt8}
    (hmark : mark = 0x26 ∨ mark = 0x3D) (h : mark ∉ bytes) : mark ∉ bytes.flatMap queryBytes := by
  rw [List.mem_flatMap]
  rintro ⟨b, hb, hmem⟩
  rcases queryBytes_cases b with hself | ⟨hescape, -⟩
  · rw [hself, List.mem_singleton] at hmem
    exact h (hmem ▸ hb)
  · have hescaped : mark ∈ utf8Bytes (percentByte b) := hescape ▸ hmem
    rcases hmark with rfl | rfl
    · exact notMem_percentByte '&' (by decide) (by decide) b hescaped
    · exact notMem_percentByte '=' (by decide) (by decide) b hescaped

theorem formDecode_flatMap_queryBytes (bytes : List UInt8) :
    formDecode (bytes.flatMap queryBytes) = formDecode bytes := by
  have hplain : SpellsPlainly (fun b => (queryBytes b).map plusToSpace) plusToSpace := by
    intro b
    show (queryBytes b).map plusToSpace = _ ∨ (queryBytes b).map plusToSpace = _ ∧ _
    rcases queryBytes_cases b with hself | ⟨hescape, hdigit, hpercent, -, hplus, -⟩
    · exact .inl (by rw [hself, List.map_singleton])
    · have hb : plusToSpace b = b := if_neg hplus
      rw [hb, hescape, map_plusToSpace_percentByte]
      exact .inr ⟨rfl, hpercent, hdigit⟩
  rw [formDecode, List.map_flatMap, percentDecode_flatMap hplain, formDecode]

theorem readPiece_flatMap_queryBytes (piece : List UInt8) :
    readPiece (piece.flatMap queryBytes) = readPiece piece := by
  by_cases hequals : 0x3D ∈ piece
  · obtain ⟨name, value, rfl, hname⟩ := List.eq_append_cons_of_mem hequals
    have hmark : queryBytes 0x3D = [0x3D] := by decide
    rw [List.flatMap_append, List.flatMap_cons, hmark, List.singleton_append,
      readPiece_append_cons (notMem_flatMap_queryBytes (.inr rfl) hname),
      readPiece_append_cons hname, formDecode_flatMap_queryBytes, formDecode_flatMap_queryBytes]
  · rw [readPiece_of_notMem (notMem_flatMap_queryBytes (.inr rfl) hequals),
      readPiece_of_notMem hequals, formDecode_flatMap_queryBytes]

theorem readForm_flatMap_queryBytes (bytes : List UInt8) :
    readForm (bytes.flatMap queryBytes) = readForm bytes := by
  by_cases hand : 0x26 ∈ bytes
  · obtain ⟨front, back, hbytes⟩ := List.append_of_mem hand
    have hfront : front.length < bytes.length := by simp [hbytes]
    have hback : back.length < bytes.length := by
      rw [hbytes, List.length_append, List.length_cons]
      omega
    have hmark : queryBytes 0x26 = [0x26] := by decide
    rw [hbytes, List.flatMap_append, List.flatMap_cons, hmark, List.singleton_append,
      readForm_append_cons, readForm_append_cons, readForm_flatMap_queryBytes front,
      readForm_flatMap_queryBytes back]
  · cases bytes with
    | nil => rfl
    | cons b bytes =>
      have hne : (b :: bytes).flatMap queryBytes ≠ [] := by
        rcases queryBytes_cases b with hself | ⟨hescape, -⟩
        · simp [hself]
        · simp [hescape, percentByte]
      rw [readForm_eq_singleton hne (notMem_flatMap_queryBytes (.inl rfl) hand),
        readForm_eq_singleton (by simp) hand, readPiece_flatMap_queryBytes]
termination_by bytes.length

/-- A text in a query is read as if it stood there without any encoding. -/
theorem readForm_percentEncode (cs : List Char) :
    readForm (utf8Bytes (percentEncode ByteSet.query cs)) = readForm (utf8Bytes cs) := by
  rw [utf8Bytes_percentEncode]
  exact readForm_flatMap_queryBytes _

theorem percentEncode_eq_self {cs : List Char} (h : ∀ c ∈ cs, IsPlain c) :
    percentEncode ByteSet.query cs = cs := by
  induction cs with
  | nil => rfl
  | cons c cs ih =>
    have hplain := h c List.mem_cons_self
    have hlt := hplain.lt
    rw [percentEncode, utf8Bytes_cons, List.flatMap_append, utf8EncodeChar_of_lt hlt,
      List.flatMap_singleton, encodeByte, if_neg (by simp [hplain.not_encoded]), UInt8.toNat_ofNat',
      Nat.mod_eq_of_lt (by omega), Char.ofNat_toNat]
    exact congrArg (List.cons c) (ih fun d hd => h d (List.mem_cons_of_mem _ hd))

theorem plain_of_mem_percentEncode {cs : List Char} {c : Char}
    (h : c ∈ percentEncode ByteSet.query cs) : IsPlain c := by
  obtain ⟨b, -, hb⟩ := List.mem_flatMap.mp h
  unfold encodeByte at hb
  split at hb
  · apply plain_of_mem_queryChars
    exact .tail _ (.tail _ (List.mem_append_left _ (.tail _ (mem_of_mem_percentByte hb))))
  · rename_i hset
    obtain rfl := List.mem_singleton.mp hb
    exact (query_eq_false_iff b).mp (Bool.eq_false_iff.mpr hset)

/-- A text as a query takes it in: without what URLs ignore, and with all but plain characters
encoded. -/
def queryText (s : String) : String :=
  String.ofList (percentEncode ByteSet.query (stripped s.toList))

theorem query_setQuery (url : Url) (s : String) : (url.setQuery s).query = some (queryText s) := rfl

theorem toList_queryText (s : String) :
    (queryText s).toList = percentEncode ByteSet.query (stripped s.toList) :=
  String.toList_ofList

@[simp] theorem queryText_append (s t : String) :
    queryText (s ++ t) = queryText s ++ queryText t := by
  apply String.toList_inj.mp
  rw [String.toList_append, toList_queryText, toList_queryText, toList_queryText,
    String.toList_append, stripped_append, percentEncode_append]

theorem queryText_eq_self_iff {s : String} : queryText s = s ↔ ∀ c ∈ s.toList, IsPlain c := by
  constructor
  · intro h c hc
    rw [← h, toList_queryText] at hc
    exact plain_of_mem_percentEncode hc
  · intro h
    have hstripped : stripped s.toList = s.toList :=
      stripped_eq_self_iff.mpr fun c hc => (h c hc).not_isIgnored
    apply String.toList_inj.mp
    rw [toList_queryText, hstripped, percentEncode_eq_self h]

theorem readForm_queryText (s : String) :
    readForm (textBytes (queryText s)) = readForm (utf8Bytes (stripped s.toList)) := by
  rw [textBytes, toList_queryText, readForm_percentEncode]

/-! ## A value that is not in form encoding -/

/-- A form reads a text as it is: no `&` ends it, no `+` is taken for a space, no escape is decoded,
and the URL ignores nothing of it. -/
structure ReadsVerbatim (cs : List Char) : Prop where
  marks : ∀ c ∈ cs, c ∉ ['&', '+', '\t', '\n', '\r']
  noEscape : ¬ HoldsEscape cs

instance : DecidablePred ReadsVerbatim := fun cs =>
  decidable_of_iff ((cs.all fun c => c ∉ ['&', '+', '\t', '\n', '\r']) ∧ ¬ HoldsEscape cs)
    ⟨fun ⟨marks, noEscape⟩ => ⟨fun c hc => of_decide_eq_true (List.all_eq_true.mp marks c hc),
      noEscape⟩, fun h => ⟨List.all_eq_true.mpr fun c hc => decide_eq_true (h.marks c hc),
      h.noEscape⟩⟩

theorem length_formDecode_le (bytes : List UInt8) : (formDecode bytes).length ≤ bytes.length := by
  have hle := length_percentDecode_le (bytes.map plusToSpace)
  rwa [List.length_map] at hle

/-- Decoding shortens a text in which it finds an escape, and changes it where it finds a plus. -/
theorem formDecode_utf8Bytes_eq_self_iff (cs : List Char) :
    formDecode (utf8Bytes cs) = utf8Bytes cs ↔ '+' ∉ cs ∧ ¬ HoldsEscape cs := by
  have hplus : (0x2B : UInt8) ∉ utf8Bytes cs ↔ '+' ∉ cs :=
    not_congr (mem_utf8Bytes_iff '+' (by decide))
  rw [← percentDecode_utf8Bytes_eq_self_iff, ← hplus, ← map_plusToSpace_eq_self_iff, formDecode]
  constructor
  · intro h
    rcases (decodes_percentDecode ((utf8Bytes cs).map plusToSpace)).eq_or_length_lt with heq | hlt
    · have hmap := heq.symm.trans h
      exact ⟨hmap, hmap ▸ heq⟩
    · rw [h, List.length_map] at hlt
      exact absurd hlt (Nat.lt_irrefl _)
  · rintro ⟨hmap, hself⟩
    rw [hmap, hself]

theorem ReadsVerbatim.formDecode_eq {cs : List Char} (h : ReadsVerbatim cs) :
    formDecode (utf8Bytes cs) = utf8Bytes cs :=
  (formDecode_utf8Bytes_eq_self_iff cs).mpr
    ⟨fun hplus => by simpa using h.marks _ hplus, h.noEscape⟩

theorem ReadsVerbatim.notMem {cs : List Char} (h : ReadsVerbatim cs) : '&' ∉ cs :=
  fun hand => by simpa using h.marks _ hand

theorem ReadsVerbatim.stripped_eq {cs : List Char} (h : ReadsVerbatim cs) : stripped cs = cs := by
  refine stripped_eq_self_iff.mpr fun c hc => ?_
  have hmarks := h.marks c hc
  simp_all [isIgnored]

section Value

variable {name : List Char}

theorem readForm_value_of_notMem (hname : ReadsVerbatim name) (hequals : '=' ∉ name)
    {cs : List Char} (hcs : '&' ∉ cs) :
    readForm (utf8Bytes (name ++ '=' :: cs))
      = [(utf8Bytes name, formDecode (utf8Bytes cs))] := by
  have hbytes : utf8Bytes (name ++ '=' :: cs) = utf8Bytes name ++ 0x3D :: utf8Bytes cs :=
    utf8Bytes_append _ _
  have hand (ds : List Char) (hds : '&' ∉ ds) : (0x26 : UInt8) ∉ utf8Bytes ds :=
    mt (mem_utf8Bytes_iff '&' (by decide)).mp hds
  have hmark : (0x3D : UInt8) ∉ utf8Bytes name :=
    mt (mem_utf8Bytes_iff '=' (by decide)).mp hequals
  rw [hbytes, readForm_eq_singleton (by simp) (by simp [hand _ hname.notMem, hand _ hcs]),
    readPiece_append_cons hmark, hname.formDecode_eq]

/-- A text behind a name is read as its value up to the first `&`. -/
theorem readForm_value (hname : ReadsVerbatim name) (hequals : '=' ∉ name) (cs : List Char) :
    ∃ more, readForm (utf8Bytes (name ++ '=' :: cs))
        = (utf8Bytes name, formDecode (utf8Bytes (cs.takeWhile (· != '&')))) :: more
      ∧ ('&' ∉ cs → more = []) := by
  have htake (front back : List Char) (hfront : '&' ∉ front) :
      (front ++ back).takeWhile (· != '&') = front ++ back.takeWhile (· != '&') :=
    List.takeWhile_append_of_pos fun c hc => bne_iff_ne.mpr fun heq => hfront (heq ▸ hc)
  by_cases hand : '&' ∈ cs
  · obtain ⟨front, back, rfl, hfront⟩ := List.eq_append_cons_of_mem hand
    have hbytes : utf8Bytes (name ++ '=' :: (front ++ '&' :: back))
        = utf8Bytes (name ++ '=' :: front) ++ 0x26 :: utf8Bytes back := by
      rw [← List.cons_append, ← List.append_assoc, utf8Bytes_append]
      rfl
    refine ⟨readForm (utf8Bytes back), ?_, fun h => absurd hand h⟩
    rw [hbytes, readForm_append_cons, readForm_value_of_notMem hname hequals hfront,
      htake front _ hfront]
    simp
  · refine ⟨[], ?_, fun _ => rfl⟩
    have hall := htake cs [] hand
    rw [List.append_nil, List.takeWhile_nil, List.append_nil] at hall
    rw [readForm_value_of_notMem hname hequals hand, hall]

/-- A text is read back as the value under a name, and nothing else is read, iff a form reads it as
it is. -/
theorem readForm_value_eq_iff (hname : ReadsVerbatim name) (hequals : '=' ∉ name)
    (cs : List Char) :
    readForm (utf8Bytes (name ++ '=' :: stripped cs)) = [(utf8Bytes name, utf8Bytes cs)]
      ↔ ReadsVerbatim cs := by
  constructor
  · intro h
    obtain ⟨more, hread, -⟩ := readForm_value hname hequals (stripped cs)
    obtain ⟨hpair, -⟩ := List.cons.inj (hread.symm.trans h)
    have hvalue := (Prod.mk.inj hpair).2
    -- What is read is no longer than the bytes in front of the first `&`, so these are all of them.
    have hfront : ((stripped cs).takeWhile (· != '&')).Sublist cs :=
      (List.takeWhile_sublist _).trans List.filter_sublist
    have hle := length_formDecode_le (utf8Bytes ((stripped cs).takeWhile (· != '&')))
    rw [hvalue] at hle
    have hself : (stripped cs).takeWhile (· != '&') = cs :=
      utf8Bytes_injective ((hfront.flatMap String.utf8EncodeChar).eq_of_length_le hle)
    rw [hself] at hvalue
    obtain ⟨hplus, hescape⟩ := (formDecode_utf8Bytes_eq_self_iff cs).mp hvalue
    refine ⟨fun c hc => ?_, hescape⟩
    have hc' : c ∈ (stripped cs).takeWhile (· != '&') := by rwa [hself]
    have hand : c ≠ '&' := by simpa using List.mem_takeWhile_imp hc'
    have hkept : isIgnored c = false := by
      simpa using (List.mem_filter.mp ((List.takeWhile_sublist _).subset hc')).2
    have hplus : c ≠ '+' := fun heq => hplus (heq ▸ hc)
    simpa [isIgnored, hand, hplus, and_assoc] using hkept
  · intro h
    rw [h.stripped_eq, readForm_value_of_notMem hname hequals h.notMem, h.formDecode_eq]

end Value

end RecordQuery.Url
