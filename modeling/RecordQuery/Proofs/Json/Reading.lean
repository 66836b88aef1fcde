import Mathlib.Algebra.BigOperators.Group.List.Basic
import RecordQuery.Json.Printer
import RecordQuery.Json.Reader

/-!
# Readers at their text

A reader *reads* `before` down to `after` as a value when it gives the value and leaves `after`,
whatever the place reached. These statements compose like the readers themselves, so for each part
of a text the reader and the printer are held against each other once.

## Main statements

* `Reader.reads_quotedText`: a quoted text is read as the text in the quotes, whatever follows.
* `Reader.reads_number`: the digits of an integer of at most 64 bits are read as that integer, if
  nothing follows that could go on with the number.
-/

namespace RecordQuery.Json

namespace Reader

/-- The reader takes `before` down to `after` and gives `a`, whatever the place reached. -/
def Reads (read : Reader α) (before after : List Char) (a : α) : Prop :=
  ∀ place, ∃ place', read ⟨before, place⟩ = .ok (a, ⟨after, place'⟩)

variable {α β : Type}

theorem Reads.bind {first : Reader α} {next : α → Reader β} {before between after : List Char}
    {a : α} {b : β} (hfirst : first.Reads before between a)
    (hnext : (next a).Reads between after b) :
    (first >>= next).Reads before after b := by
  intro place
  obtain ⟨place', h⟩ := hfirst place
  obtain ⟨place'', h'⟩ := hnext place'
  refine ⟨place'', ?_⟩
  show (first ⟨before, place⟩ >>= fun (a, cursor) => next a cursor) = _
  rw [h]
  exact h'

theorem reads_pure (a : α) (cs : List Char) : (pure a : Reader α).Reads cs cs a :=
  fun place => ⟨place, rfl⟩

/-- A reader that looks at the cursor first. -/
theorem reads_of_get {next : Cursor → Reader β} {before after : List Char} {b : β}
    (h : ∀ place, (next ⟨before, place⟩).Reads before after b) :
    ((get : Reader Cursor) >>= next).Reads before after b :=
  fun place => h place place

theorem reads_peek (cs : List Char) : peek.Reads cs cs cs.head? :=
  fun place => ⟨place, rfl⟩

theorem reads_skip (c : Char) (rest : List Char) : skip.Reads (c :: rest) rest () :=
  fun place => ⟨place.after c, rfl⟩

theorem reads_takeWhile (p : Char → Bool) (cs : List Char) :
    (takeWhile p).Reads cs (cs.dropWhile p) (cs.takeWhile p) := by
  intro place
  refine ⟨(Cursor.skipWhile p cs place).place, ?_⟩
  show Except.ok (cs.takeWhile p, Cursor.skipWhile p cs place) = _
  rw [← Cursor.rest_skipWhile p cs place]

/-- A token with no gap in front is under the cursor already. -/
theorem reads_peekToken {cs : List Char} (h : cs.head?.all (!isGap ·) = true) :
    peekToken.Reads cs cs cs.head? := by
  have hdrop : cs.dropWhile isGap = cs := by
    cases cs with
    | nil => rfl
    | cons c rest => exact List.dropWhile_cons_of_neg (by simpa using h)
  have htake := reads_takeWhile isGap cs
  rw [hdrop] at htake
  exact htake.bind (reads_peek cs)

/-! ## Quoted texts -/

theorem hexDigit?_digitChar : ∀ n < 16, Text.hexDigit? (Nat.digitChar n) = some n := by decide

theorem hexUnit?_hexByte {n : Nat} (h : n < 0x100) (more : List Char) :
    hexUnit? ('0' :: '0' :: hexByte n ++ more) = some n := by
  have hzero : Text.hexDigit? '0' = some 0 := rfl
  have hhigh := hexDigit?_digitChar (n / 16) (by omega)
  have hlow := hexDigit?_digitChar (n % 16) (by omega)
  show (do
    let a ← Text.hexDigit? '0'
    let b ← Text.hexDigit? '0'
    let c ← Text.hexDigit? (Nat.digitChar (n / 16))
    let d ← Text.hexDigit? (Nat.digitChar (n % 16))
    return ((a * 16 + b) * 16 + c) * 16 + d) = some n
  rw [hzero, hhigh, hlow]
  exact congrArg some (by omega)

theorem reads_hexUnit {n : Nat} {before : List Char} (h : hexUnit? before = some n) :
    hexUnit.Reads before (before.drop 4) n := by
  apply reads_of_get
  intro place
  simp only [h]
  intro place'
  exact ⟨_, rfl⟩

/-- A control character is read back from its escape. -/
theorem reads_unicodeEscape {c : Char} (h : c.toNat < 0x20) (more : List Char) :
    unicodeEscape.Reads ('0' :: '0' :: hexByte c.toNat ++ more) more c := by
  refine (reads_hexUnit (hexUnit?_hexByte (by omega) more)).bind ?_
  have hlow : ¬(0xDC00 ≤ c.toNat && c.toNat ≤ 0xDFFF) = true := by
    simp only [Bool.and_eq_true, decide_eq_true_eq]
    omega
  have hhigh : ¬(0xD800 ≤ c.toNat && c.toNat ≤ 0xDBFF) = true := by
    simp only [Bool.and_eq_true, decide_eq_true_eq]
    omega
  rw [if_neg hlow, if_neg hhigh, Char.ofNat_toNat]
  exact reads_pure c more

/-- An escape of one character. -/
theorem reads_escape {mark c : Char} (more : List Char)
    (h : (mark, c) ∈ [('"', '"'), ('\\', '\\'), ('n', '\n'), ('r', '\r'), ('t', '\t'),
      ('b', '\x08'), ('f', '\x0C')]) :
    escape.Reads (mark :: more) more c := by
  refine (reads_peek _).bind ?_
  simp only [List.mem_cons, List.not_mem_nil, or_false, Prod.mk.injEq] at h
  rcases h with h | h | h | h | h | h | h
  all_goals
    obtain ⟨rfl, rfl⟩ := h
    exact (reads_skip _ more).bind (reads_pure _ more)

/-- A character is written as itself or, if it may not stand in quotes, as an escape of it. -/
theorem escapeChar_eq (c : Char) :
    (∃ spelled, escapeChar c = '\\' :: spelled ∧ ∀ more, escape.Reads (spelled ++ more) more c)
    ∨ escapeChar c = [c] ∧ c ≠ '"' ∧ c ≠ '\\' ∧ ¬ c.toNat < 0x20 := by
  unfold escapeChar
  split
  · exact .inl ⟨['"'], rfl, fun more => reads_escape more (by decide)⟩
  · exact .inl ⟨['\\'], rfl, fun more => reads_escape more (by decide)⟩
  · exact .inl ⟨['n'], rfl, fun more => reads_escape more (by decide)⟩
  · exact .inl ⟨['r'], rfl, fun more => reads_escape more (by decide)⟩
  · exact .inl ⟨['t'], rfl, fun more => reads_escape more (by decide)⟩
  · exact .inl ⟨['b'], rfl, fun more => reads_escape more (by decide)⟩
  · exact .inl ⟨['f'], rfl, fun more => reads_escape more (by decide)⟩
  · split
    · refine .inl ⟨'u' :: '0' :: '0' :: hexByte c.toNat, rfl, fun more => ?_⟩
      exact (reads_peek _).bind ((reads_skip _ _).bind (reads_unicodeEscape ‹_› more))
    · exact .inr ⟨rfl, ‹_›, ‹_›, ‹_›⟩

/-- One character in quotes, with the rest behind it. -/
theorem reads_quotedRest_cons {fuel : Nat} {reversed more after : List Char} {c : Char} {s : String}
    (h : (quotedRest fuel (c :: reversed)).Reads more after s) :
    (quotedRest (fuel + 1) reversed).Reads (escapeChar c ++ more) after s := by
  rcases escapeChar_eq c with ⟨spelled, hc, hescape⟩ | ⟨hc, hquote, hbackslash, hcontrol⟩
  · rw [hc]
    refine (reads_peek _).bind ((reads_skip _ _).bind ((hescape more).bind h))
  · rw [hc]
    refine (reads_peek _).bind ?_
    simp only [List.singleton_append, List.head?_cons]
    rw [if_neg hcontrol]
    exact (reads_skip c more).bind h

theorem reads_quotedRest (cs reversed : List Char) {fuel : Nat} (rest : List Char)
    (hfuel : cs.length < fuel) :
    (quotedRest fuel reversed).Reads (cs.flatMap escapeChar ++ '"' :: rest) rest
      (String.ofList (reversed.reverse ++ cs)) := by
  induction cs generalizing fuel reversed with
  | nil =>
    obtain ⟨fuel, rfl⟩ : ∃ n, fuel = n + 1 := ⟨fuel - 1, by omega⟩
    rw [List.append_nil]
    exact (reads_peek _).bind ((reads_skip _ _).bind (reads_pure _ rest))
  | cons c cs ih =>
    obtain ⟨fuel, rfl⟩ : ∃ n, fuel = n + 1 := ⟨fuel - 1, by omega⟩
    rw [List.length_cons] at hfuel
    have hrest := ih (c :: reversed) (show cs.length < fuel by omega)
    rw [List.reverse_cons, List.append_assoc, List.singleton_append] at hrest
    rw [List.flatMap_cons, List.append_assoc]
    exact reads_quotedRest_cons hrest

theorem length_le_length_escaped (cs : List Char) :
    cs.length ≤ (cs.flatMap escapeChar).length := by
  have hsum := List.length_le_sum_of_one_le (cs.map fun c => (escapeChar c).length)
  rw [List.length_map, ← List.length_flatMap] at hsum
  apply hsum
  intro n hn
  obtain ⟨c, -, rfl⟩ := List.mem_map.mp hn
  rcases escapeChar_eq c with ⟨spelled, hc, -⟩ | ⟨hc, -⟩
  · rw [hc]
    exact Nat.succ_pos spelled.length
  · rw [hc]
    exact Nat.one_pos

/-- A quoted text is read as the text in the quotes, whatever follows. -/
theorem reads_quotedText (s : String) (rest : List Char) :
    quotedText.Reads (s.toList.flatMap escapeChar ++ '"' :: rest) rest s := by
  apply reads_of_get
  intro place
  show (quotedRest ((s.toList.flatMap escapeChar ++ '"' :: rest).length + 1) []).Reads _ _ s
  have hlength := length_le_length_escaped s.toList
  have hread := reads_quotedRest s.toList [] rest
    (show s.toList.length < (s.toList.flatMap escapeChar ++ '"' :: rest).length + 1 by
      rw [List.length_append]
      omega)
  rwa [List.reverse_nil, List.nil_append, String.ofList_toList] at hread

/-! ## Integers -/

/-- No number goes on here. -/
def EndsNumber (rest : List Char) : Prop :=
  ∀ c ∈ rest.head?, c.isDigit = false ∧ c ≠ '.' ∧ c ≠ 'e' ∧ c ≠ 'E'

theorem le_ofDigitChars (digits : List Char) (value : Nat) :
    value ≤ Nat.ofDigitChars 10 digits value := by
  rw [Nat.ofDigitChars_eq_ofDigitChars_zero]
  have hpower : 0 < 10 ^ digits.length := Nat.pow_pos (by decide)
  exact Nat.le_add_right_of_le (Nat.le_mul_of_pos_left value hpower)

/-- Digits that stay within the limit are all gathered. -/
theorem gatherDigits_eq {limit value : Nat} (digits : List Char)
    (h : Nat.ofDigitChars 10 digits value ≤ limit) :
    gatherDigits limit value digits = (Nat.ofDigitChars 10 digits value, digits.length) := by
  induction digits generalizing value with
  | nil => rfl
  | cons c rest ih =>
    rw [Nat.ofDigitChars_cons] at h ⊢
    have hlonger : 10 * value + (c.toNat - '0'.toNat) ≤ limit :=
      Nat.le_trans (le_ofDigitChars rest _) h
    simp only [gatherDigits, digitValue, hlonger, ↓reduceIte, ih h, List.length_cons]

/-- The digits of a number that is not zero do not begin with a zero. -/
theorem head_toDigits_ne_zero {n : Nat} (h : 0 < n) : (Nat.toDigits 10 n).head? ≠ some '0' := by
  induction n using Nat.strongRecOn with
  | ind n ih =>
    by_cases hlt : n < 10
    · rw [Nat.toDigits_of_lt_base hlt]
      have hdigit : ∀ m < 10, 0 < m → [Nat.digitChar m].head? ≠ some '0' := by decide
      exact hdigit n hlt h
    · rw [Nat.toDigits_of_base_le (by decide) (by omega), List.head?_append]
      have hhead := ih (n / 10) (by omega) (by omega)
      cases heq : (Nat.toDigits 10 (n / 10)).head? with
      | none => exact absurd (List.head?_eq_none_iff.mp heq) Nat.toDigits_ne_nil
      | some c => rwa [heq] at hhead

theorem reads_digits {ds rest : List Char} (hne : ds ≠ []) (hdigits : ∀ c ∈ ds, c.isDigit = true)
    (hrest : EndsNumber rest) : digits.Reads (ds ++ rest) rest ds := by
  have hend : rest.dropWhile Char.isDigit = rest ∧ rest.takeWhile Char.isDigit = [] := by
    cases rest with
    | nil => exact ⟨rfl, rfl⟩
    | cons c rest =>
      have hc : ¬ c.isDigit = true := by simp [(hrest c rfl).1]
      exact ⟨List.dropWhile_cons_of_neg hc, List.takeWhile_cons_of_neg hc⟩
  have htake := reads_takeWhile Char.isDigit (ds ++ rest)
  rw [List.dropWhile_append_of_pos hdigits, List.takeWhile_append_of_pos hdigits, hend.1, hend.2,
    List.append_nil] at htake
  cases ds with
  | nil => contradiction
  | cons c ds =>
    refine (reads_peek _).bind ?_
    show (if c.isDigit then takeWhile Char.isDigit else failNext .invalidNumber).Reads _ _ _
    rw [if_pos (hdigits c List.mem_cons_self)]
    exact htake

theorem reads_wholeDigits (n : Nat) {rest : List Char} (hrest : EndsNumber rest) :
    wholeDigits.Reads (Nat.toDigits 10 n ++ rest) rest (Nat.toDigits 10 n) := by
  have hdigits : ∀ c ∈ Nat.toDigits 10 n, c.isDigit = true := fun c hc =>
    Nat.isDigit_of_mem_toDigits (by decide) (by decide) hc
  refine (reads_digits Nat.toDigits_ne_nil hdigits hrest).bind ?_
  split
  · rename_i c ds heq
    have hn : ¬ 0 < n := fun h => head_toDigits_ne_zero h (by rw [heq]; rfl)
    obtain rfl : n = 0 := by omega
    have hzero : Nat.toDigits 10 0 = ['0'] := rfl
    rw [hzero] at heq
    cases heq
  · exact reads_pure _ rest

theorem reads_fraction? {rest : List Char} (hrest : EndsNumber rest) :
    fraction?.Reads rest rest none := by
  refine (reads_peek rest).bind ?_
  split
  · rename_i heq
    exact absurd rfl (hrest '.' heq).2.1
  · exact reads_pure none rest

theorem reads_exponentFollows {rest : List Char} (hrest : EndsNumber rest) :
    exponentFollows.Reads rest rest false := by
  refine (reads_peek rest).bind ?_
  have hnone : (rest.head?.any fun c => c == 'e' || c == 'E') = false := by
    cases hhead : rest.head? with
    | none => rfl
    | some c => simp [hrest c hhead]
  rw [hnone]
  exact reads_pure false rest

theorem reads_integer {negative : Bool} {n : Nat} {value : Int}
    (range : -0x8000000000000000 ≤ value ∧ value < 0x10000000000000000)
    (hvalue : value = if negative then -(n : Int) else n) (hzero : ¬(negative = true ∧ n = 0))
    (rest : List Char) : (integer negative n).Reads rest rest (.int value range) := by
  subst hvalue
  unfold integer
  rw [dif_pos ⟨range, hzero⟩]
  exact reads_pure _ rest

/-- The digits of an integer of at most 64 bits are read as that integer. -/
theorem reads_number {negative : Bool} {n : Nat} {value : Int}
    (range : -0x8000000000000000 ≤ value ∧ value < 0x10000000000000000)
    (hvalue : value = if negative then -(n : Int) else n) (hzero : ¬(negative = true ∧ n = 0))
    {rest : List Char} (hrest : EndsNumber rest) :
    (number negative).Reads (Nat.toDigits 10 n ++ rest) rest (.int value range) := by
  have hn : n ≤ UInt64.size - 1 := by
    have hsize : UInt64.size = 0x10000000000000000 := rfl
    split at hvalue <;> omega
  have hgather : gatherDigits (UInt64.size - 1) 0 (Nat.toDigits 10 n)
      = (n, (Nat.toDigits 10 n).length) := by
    rw [gatherDigits_eq _ (by rwa [Nat.ofDigitChars_ten_toDigits]), Nat.ofDigitChars_ten_toDigits]
  refine (reads_wholeDigits n hrest).bind ?_
  rw [hgather]
  refine (reads_fraction? hrest).bind ?_
  simp only [Nat.sub_self, beq_self_eq_true]
  refine (reads_exponentFollows hrest).bind ?_
  exact reads_integer range hvalue hzero rest

end Reader

end RecordQuery.Json
