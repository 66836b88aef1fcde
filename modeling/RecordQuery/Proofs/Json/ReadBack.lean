import RecordQuery.Proofs.Json.Reading
import RecordQuery.Proofs.Text.Numerals

/-!
# Reading a printed value back

The text of a value is read as that value, whichever texts and keys stand in it, as long as its
numbers are integers and its brackets nest below the limit. Of a number with a point or an exponent
the reader may give a neighbour, since it scales the digits in double precision.

## Main statements

* `Reader.reads_items`, `Reader.reads_members`: what is inside brackets, from any place on.
* `Reader.reads_value`: a value is read from its text, also inside a larger text.
* `read_text`: a value is read from its text.
-/

namespace RecordQuery.Json

/-- At most `depth` brackets open inside each other, and all numbers are integers. -/
inductive NestsWithin : Nat → Json → Prop
  | null (depth : Nat) : NestsWithin depth .null
  | bool (depth : Nat) (b : Bool) : NestsWithin depth (.bool b)
  | int (depth : Nat) (n : Int) (range) : NestsWithin depth (.number (.int n range))
  | string (depth : Nat) (s : String) : NestsWithin depth (.string s)
  | array {depth : Nat} {items : List Json} (h : ∀ item ∈ items, NestsWithin depth item) :
      NestsWithin (depth + 1) (.array items)
  | object {depth : Nat} {fields : Fields} (h : ∀ i, NestsWithin depth (fields.value i)) :
      NestsWithin (depth + 1) (.object fields)

/-! ## The characters of a text -/

/-- Pieces with a comma between them, and one in front unless they are the first. -/
def joined (first : Bool) : List (List Char) → List Char
  | [] => []
  | piece :: pieces => (if first then [] else [',']) ++ piece ++ joined false pieces

theorem intercalate_cons_eq_joined (piece : List Char) (pieces : List (List Char)) :
    [','].intercalate (piece :: pieces) = piece ++ joined false pieces := by
  induction pieces generalizing piece with
  | nil => simp [joined, List.intercalate]
  | cons next pieces ih =>
    rw [List.intercalate_cons_cons, ih next]
    simp [joined]

theorem intercalate_eq_joined (pieces : List (List Char)) :
    [','].intercalate pieces = joined true pieces := by
  cases pieces with
  | nil => rfl
  | cons piece pieces => exact intercalate_cons_eq_joined piece pieces

theorem toList_bracketed (opening : String) (items : List String) (closing : String) :
    (bracketed opening items closing).toList
      = opening.toList ++ joined true (items.map String.toList) ++ closing.toList := by
  rw [bracketed, String.toList_append, String.toList_append, String.toList_intercalate]
  exact congrArg (opening.toList ++ · ++ closing.toList) (intercalate_eq_joined _)

theorem itemTexts_eq_map (items : List Json) : itemTexts items = items.map text := by
  induction items with
  | nil => rw [itemTexts, List.map_nil]
  | cons item rest ih => rw [itemTexts, List.map_cons, ih]

theorem toList_text_array (items : List Json) :
    (text (.array items)).toList = '[' :: joined true (items.map (·.text.toList)) ++ [']'] := by
  rw [text, toList_bracketed, itemTexts_eq_map, List.map_map]
  rfl

/-- A member of an object as it is written, behind its opening quote. -/
def memberTail (pair : String × Json) : List Char :=
  pair.1.toList.flatMap escapeChar ++ '"' :: ':' :: pair.2.text.toList

theorem toList_text_object (fields : Fields) :
    (text (.object fields)).toList
      = '\x7b' :: joined true (fields.pairs.map fun pair => '"' :: memberTail pair)
        ++ ['\x7d'] := by
  have hpieces :
      (List.ofFn fun i => quoted (fields.keys.get i) ++ ":" ++ text (fields.value i)).map
        String.toList = fields.pairs.map fun pair => '"' :: memberTail pair := by
    rw [Members.pairs, List.map_ofFn, List.map_ofFn]
    apply congrArg List.ofFn
    funext i
    simp [quoted, memberTail]
  rw [text, toList_bracketed, hpieces]
  rfl

theorem toList_toString (n : Nat) : (toString n).toList = Nat.toDigits 10 n := by
  rw [Nat.toString_eq_ofList_toDigits, String.toList_ofList]

theorem toList_text_int (n : Int) (range) :
    (text (.number (.int n range))).toList
      = (if n < 0 then ['-'] else []) ++ Nat.toDigits 10 n.natAbs := by
  rw [text, Number.text]
  cases n with
  | ofNat n => exact toList_toString n
  | negSucc n =>
    rw [if_pos (Int.negSucc_lt_zero n)]
    show ("-" ++ toString (n + 1)).toList = ['-'] ++ Nat.toDigits 10 (n + 1)
    rw [String.toList_append, toList_toString]
    rfl

/-- A value may begin here: no blank stands here, and no bracket that closes an array. -/
def BeginsValue (cs : List Char) : Prop :=
  ∃ c rest, cs = c :: rest ∧ Text.isBlank c = false ∧ c ≠ ']'

theorem beginsValue_text {depth : Nat} {json : Json} (h : json.NestsWithin depth) :
    BeginsValue json.text.toList := by
  cases h with
  | null depth => exact ⟨'n', _, rfl, by decide, by decide⟩
  | bool depth b =>
    cases b
    · exact ⟨'f', _, rfl, by decide, by decide⟩
    · exact ⟨'t', _, rfl, by decide, by decide⟩
  | int depth n range =>
    rw [toList_text_int]
    split
    · exact ⟨'-', _, rfl, by decide, by decide⟩
    · cases heq : Nat.toDigits 10 n.natAbs with
      | nil => exact absurd heq Nat.toDigits_ne_nil
      | cons c rest =>
        have hc : c.isDigit = true :=
          Nat.isDigit_of_mem_toDigits (by decide) (by decide) (heq ▸ List.mem_cons_self)
        refine ⟨c, rest, rfl, Text.not_isBlank_of_isDigit hc, ?_⟩
        rintro rfl
        exact absurd hc (by decide)
  | string depth s =>
    rw [text, quoted, String.toList_ofList]
    exact ⟨'"', _, rfl, by decide, by decide⟩
  | array h =>
    rw [toList_text_array]
    exact ⟨'[', _, rfl, by decide, by decide⟩
  | object h =>
    rw [toList_text_object]
    exact ⟨'\x7b', _, rfl, by decide, by decide⟩

theorem length_text_pos {depth : Nat} {json : Json} (h : json.NestsWithin depth) :
    0 < json.text.toList.length := by
  obtain ⟨c, rest, hcs, -⟩ := beginsValue_text h
  rw [hcs]
  exact Nat.succ_pos rest.length

theorem BeginsValue.append {cs : List Char} (h : BeginsValue cs) (more : List Char) :
    BeginsValue (cs ++ more) := by
  obtain ⟨c, rest, rfl, hblank, hbracket⟩ := h
  exact ⟨c, rest ++ more, rfl, hblank, hbracket⟩

/-- A value may end in front of this: nothing follows it, or a comma or a closing bracket. -/
def EndsValue (rest : List Char) : Prop :=
  ∀ c ∈ rest.head?, c = ',' ∨ c = ']' ∨ c = '\x7d'

theorem endsValue_joined (pieces : List (List Char)) {closing : Char} (rest : List Char)
    (h : closing = ']' ∨ closing = '\x7d') :
    EndsValue (joined false pieces ++ closing :: rest) := by
  intro c hc
  cases pieces with
  | nil => exact .inr (Option.some.inj hc ▸ h)
  | cons piece pieces => exact .inl (Option.some.inj hc).symm

theorem EndsValue.endsNumber {rest : List Char} (h : EndsValue rest) : Reader.EndsNumber rest := by
  intro c hc
  rcases h c hc with rfl | rfl | rfl <;> decide

/-! ## Values, items and members -/

namespace Reader

theorem isBlank_of_isGap {c : Char} (h : isGap c = true) : Text.isBlank c = true := by
  unfold isGap at h
  simp only [Bool.or_eq_true, beq_iff_eq] at h
  rcases h with ((rfl | rfl) | rfl) | rfl <;> decide

/-- A gap is blank, so none is passed in front of a character that is not. -/
theorem reads_peekToken_cons {c : Char} (rest : List Char) (h : Text.isBlank c = false) :
    peekToken.Reads (c :: rest) (c :: rest) (some c) := by
  apply reads_peekToken
  show (!isGap c) = true
  cases hc : isGap c with
  | false => rfl
  | true =>
    rw [isBlank_of_isGap hc] at h
    cases h

theorem reads_word (cs rest : List Char) : (word cs).Reads (cs ++ rest) rest () := by
  induction cs with
  | nil => exact reads_pure () rest
  | cons c cs ih =>
    refine (reads_peek _).bind ?_
    show (if c == c then (do skip; word cs) else failNext .expectedWord).Reads _ _ _
    rw [if_pos (beq_self_eq_true c)]
    exact (reads_skip c _).bind ih

theorem reads_colon (rest : List Char) : colon.Reads (':' :: rest) rest () :=
  (reads_peekToken_cons rest (by decide)).bind (reads_skip ':' rest)

-- In front of an item `simp only` closes the choice between it and the closing bracket: the
-- character under the cursor is known only not to be that bracket.

/-- An item follows if a value begins behind the comma that only the first item lacks. -/
theorem reads_itemFollows {first : Bool} {cs : List Char} (h : BeginsValue cs) :
    (itemFollows first).Reads ((if first then [] else [',']) ++ cs) cs true := by
  obtain ⟨c, rest, rfl, hblank, hbracket⟩ := h
  cases first with
  | true =>
    refine (reads_peekToken_cons rest hblank).bind ?_
    simp only
    exact reads_pure true _
  | false =>
    refine (reads_peekToken_cons (c :: rest) (by decide)).bind ?_
    refine (reads_skip ',' _).bind ?_
    refine (reads_peekToken_cons rest hblank).bind ?_
    simp only
    exact reads_pure true _

theorem reads_itemFollows_end (first : Bool) (rest : List Char) :
    (itemFollows first).Reads (']' :: rest) (']' :: rest) false :=
  (reads_peekToken_cons rest (by decide)).bind (reads_pure false _)

/-- A member follows if a quote stands behind the comma that only the first member lacks. -/
theorem reads_memberFollows (first : Bool) (cs : List Char) :
    (memberFollows first).Reads ((if first then [] else [',']) ++ '"' :: cs) ('"' :: cs) true := by
  cases first with
  | true => exact (reads_peekToken_cons cs (by decide)).bind (reads_pure true _)
  | false =>
    refine (reads_peekToken_cons _ (by decide)).bind ?_
    refine (reads_skip ',' _).bind ?_
    exact (reads_peekToken_cons cs (by decide)).bind (reads_pure true _)

theorem reads_memberFollows_end (first : Bool) (rest : List Char) :
    (memberFollows first).Reads ('\x7d' :: rest) ('\x7d' :: rest) false :=
  (reads_peekToken_cons rest (by decide)).bind (reads_pure false _)

/-- The text of a value is read back where up to `limit - 1` brackets may open. Each of its
characters accounts for two steps. -/
def ReadsBack (limit : Nat) (json : Json) : Prop :=
  ∀ fuel rest, 2 * json.text.toList.length ≤ fuel → EndsValue rest →
    (value fuel limit).Reads (json.text.toList ++ rest) rest json

theorem readsBack_of_succ {depth limit : Nat} {json : Json} (h : json.NestsWithin depth)
    (hread : ∀ fuel rest, 2 * json.text.toList.length ≤ fuel + 1 → EndsValue rest →
      (value (fuel + 1) limit).Reads (json.text.toList ++ rest) rest json) :
    ReadsBack limit json := by
  intro fuel rest hfuel hrest
  cases fuel with
  | zero =>
    have hlength := length_text_pos h
    omega
  | succ fuel => exact hread fuel rest hfuel hrest

/-- The items to come, behind those read already. By induction on them: each takes a step of its own
and the two steps for each of its characters. -/
theorem reads_items {limit depth : Nat} {later : List Json}
    (hnests : ∀ item ∈ later, item.NestsWithin depth)
    (hread : ∀ item ∈ later, ReadsBack limit item) (reversed : List Json) {fuel : Nat}
    (rest : List Char)
    (hfuel : 2 * (joined reversed.isEmpty (later.map (·.text.toList))).length + 2 ≤ fuel) :
    (items fuel limit reversed).Reads
      (joined reversed.isEmpty (later.map (·.text.toList)) ++ ']' :: rest) rest
      (reversed.reverse ++ later) := by
  induction later generalizing reversed fuel with
  | nil =>
    obtain ⟨fuel, rfl⟩ : ∃ n, fuel = n + 1 := ⟨fuel - 1, by omega⟩
    rw [List.append_nil]
    refine (reads_itemFollows_end _ rest).bind ?_
    exact (reads_skip ']' rest).bind (reads_pure _ rest)
  | cons item later ih =>
    obtain ⟨fuel, rfl⟩ : ∃ n, fuel = n + 1 := ⟨fuel - 1, by omega⟩
    have hbegins := beginsValue_text (hnests item List.mem_cons_self)
    have hlength := length_text_pos (hnests item List.mem_cons_self)
    rw [List.map_cons, joined] at hfuel ⊢
    rw [List.length_append, List.length_append] at hfuel
    rw [List.append_assoc, List.append_assoc]
    refine (reads_itemFollows (hbegins.append _)).bind ?_
    have hends := endsValue_joined (later.map (·.text.toList)) rest (.inl (rfl : ']' = ']'))
    refine (hread item List.mem_cons_self fuel _ (by omega) hends).bind ?_
    have hitems := ih (fun later hmem => hnests later (List.mem_cons_of_mem _ hmem))
      (fun later hmem => hread later (List.mem_cons_of_mem _ hmem)) (item :: reversed)
      (show 2 * (joined false (later.map (·.text.toList))).length + 2 ≤ fuel by omega)
    rwa [List.reverse_cons, List.append_assoc, List.singleton_append] at hitems

/-- The members to come, behind those read already. Each key is larger than all before it, so its
member is set behind them. -/
theorem reads_members {limit : Nat} {fields : Fields} {later : List (String × Json)}
    (hread : ∀ pair ∈ later, ReadsBack limit pair.2) (first : Bool) (earlier : Fields)
    (hpairs : earlier.pairs ++ later = fields.pairs) {fuel : Nat} (rest : List Char)
    (hfuel : 2 * (joined first (later.map fun pair => '"' :: memberTail pair)).length + 2 ≤ fuel) :
    (members fuel limit first earlier).Reads
      (joined first (later.map fun pair => '"' :: memberTail pair) ++ '\x7d' :: rest) rest
      fields := by
  induction later generalizing first earlier fuel with
  | nil =>
    obtain ⟨fuel, rfl⟩ : ∃ n, fuel = n + 1 := ⟨fuel - 1, by omega⟩
    obtain rfl : earlier = fields := Members.ext (by rw [← hpairs, List.append_nil])
    refine (reads_memberFollows_end first rest).bind ?_
    exact (reads_skip '\x7d' rest).bind (reads_pure earlier rest)
  | cons pair later ih =>
    obtain ⟨fuel, rfl⟩ : ∃ n, fuel = n + 1 := ⟨fuel - 1, by omega⟩
    obtain ⟨key, json⟩ := pair
    have hascending : Members.Ascending (earlier.pairs ++ (key, json) :: later) :=
      hpairs ▸ fields.ascending_pairs
    have hinsert := Members.pairs_insert_of_ascending hascending
    rw [List.map_cons, joined, memberTail] at hfuel ⊢
    simp only [List.length_append, List.length_cons] at hfuel
    simp only [List.append_assoc, List.cons_append]
    refine (reads_memberFollows first _).bind ?_
    refine (reads_skip '"' _).bind ((reads_quotedText key _).bind ((reads_colon _).bind ?_))
    have hends := endsValue_joined (later.map fun pair => '"' :: memberTail pair) rest
      (.inr (rfl : '\x7d' = '\x7d'))
    have hlength : 2 * json.text.toList.length ≤ fuel := by omega
    refine (hread (key, json) List.mem_cons_self fuel _ hlength hends).bind ?_
    apply ih (fun later hmem => hread later (List.mem_cons_of_mem _ hmem))
    · rw [hinsert, List.append_assoc, List.singleton_append, hpairs]
    · omega

/-- The digits of an integer, with no sign in front. -/
theorem reads_value_digits {fuel limit : Nat} (n : Nat) (range) {rest : List Char}
    (hrest : EndsNumber rest) :
    (value (fuel + 1) limit).Reads (Nat.toDigits 10 n ++ rest) rest (.number (.int n range)) := by
  have hnumber : (number false).Reads (Nat.toDigits 10 n ++ rest) rest (.int n range) :=
    reads_number range rfl (by simp) hrest
  cases heq : Nat.toDigits 10 n with
  | nil => exact absurd heq Nat.toDigits_ne_nil
  | cons c ds =>
    have hc : c.isDigit = true :=
      Nat.isDigit_of_mem_toDigits (by decide) (by decide) (heq ▸ List.mem_cons_self)
    rw [heq] at hnumber
    refine (reads_peekToken_cons _ (Text.not_isBlank_of_isDigit hc)).bind ?_
    -- No other kind of value begins with a digit.
    split
    case h_1 => contradiction
    case h_9 =>
      rename_i hsome
      rw [← Option.some.inj hsome, if_pos hc]
      exact hnumber.bind (reads_pure _ rest)
    all_goals
      rename_i hsome
      rw [Option.some.inj hsome] at hc
      exact absurd hc (by decide)

theorem reads_value_int {fuel limit : Nat} (n : Int) (range) {rest : List Char}
    (hrest : EndsNumber rest) :
    (value (fuel + 1) limit).Reads ((text (.number (.int n range))).toList ++ rest) rest
      (.number (.int n range)) := by
  rw [toList_text_int]
  split
  · rename_i hneg
    have hvalue : n = if true then -(n.natAbs : Int) else n.natAbs := by
      rw [if_pos rfl]
      omega
    refine (reads_peekToken_cons _ (by decide)).bind ((reads_skip '-' _).bind ?_)
    exact (reads_number range hvalue (by omega) hrest).bind (reads_pure _ rest)
  · rename_i hpos
    obtain ⟨n, rfl⟩ := Int.eq_ofNat_of_zero_le (Int.not_lt.mp hpos)
    exact reads_value_digits n range hrest

theorem reads_value_string {fuel limit : Nat} (s : String) (rest : List Char) :
    (value (fuel + 1) limit).Reads ((text (.string s)).toList ++ rest) rest (.string s) := by
  rw [text, quoted, String.toList_ofList]
  simp only [List.append_assoc, List.cons_append, List.nil_append]
  refine (reads_peekToken_cons _ (by decide)).bind ((reads_skip '"' _).bind ?_)
  exact (reads_quotedText s rest).bind (reads_pure _ rest)

theorem reads_value_array {fuel limit depth : Nat} {items : List Json}
    (hnests : ∀ item ∈ items, item.NestsWithin depth)
    (hread : ∀ item ∈ items, ReadsBack (limit - 1) item) (hlimit : 1 < limit) (rest : List Char)
    (hfuel : 2 * (text (.array items)).toList.length ≤ fuel + 1) :
    (value (fuel + 1) limit).Reads ((text (.array items)).toList ++ rest) rest (.array items) := by
  rw [toList_text_array] at hfuel ⊢
  simp only [List.length_append, List.length_cons, List.length_nil] at hfuel
  simp only [List.append_assoc, List.cons_append, List.nil_append]
  refine (reads_peekToken_cons _ (by decide)).bind ?_
  show Reads (if limit ≤ 1 then failNext .tooDeep
    else do skip; return Json.array (← Reader.items fuel (limit - 1) [])) _ _ _
  rw [if_neg (Nat.not_le.mpr hlimit)]
  refine (reads_skip '[' _).bind ?_
  have hitems : 2 * (joined true (items.map (·.text.toList))).length + 2 ≤ fuel := by omega
  exact (reads_items hnests hread [] rest hitems).bind (reads_pure _ rest)

theorem reads_value_object {fuel limit : Nat} {fields : Fields}
    (hread : ∀ i, ReadsBack (limit - 1) (fields.value i)) (hlimit : 1 < limit) (rest : List Char)
    (hfuel : 2 * (text (.object fields)).toList.length ≤ fuel + 1) :
    (value (fuel + 1) limit).Reads ((text (.object fields)).toList ++ rest) rest
      (.object fields) := by
  have hpairs : ∀ pair ∈ fields.pairs, ReadsBack (limit - 1) pair.2 := by
    intro pair hmem
    obtain ⟨i, rfl⟩ := List.mem_ofFn.mp hmem
    exact hread i
  have hall : (Members.empty : Fields).pairs ++ fields.pairs = fields.pairs := List.nil_append _
  rw [toList_text_object] at hfuel ⊢
  simp only [List.length_append, List.length_cons, List.length_nil] at hfuel
  simp only [List.append_assoc, List.cons_append, List.nil_append]
  refine (reads_peekToken_cons _ (by decide)).bind ?_
  show Reads (if limit ≤ 1 then failNext .tooDeep
    else do skip; return Json.object (← members fuel (limit - 1) true .empty)) _ _ _
  rw [if_neg (Nat.not_le.mpr hlimit)]
  refine (reads_skip '\x7b' _).bind ?_
  exact (reads_members hpairs true .empty hall rest (by omega)).bind (reads_pure _ rest)

/-- A value is read from its text wherever that stands, if the brackets left suffice for it. -/
theorem reads_value {depth limit : Nat} {json : Json} (h : json.NestsWithin depth)
    (hdepth : depth < limit) : ReadsBack limit json := by
  induction h generalizing limit with
  | null depth =>
    apply readsBack_of_succ (.null depth)
    intro fuel rest _ _
    refine (reads_peekToken_cons _ (by decide)).bind ((reads_skip 'n' _).bind ?_)
    exact (reads_word ['u', 'l', 'l'] rest).bind (reads_pure _ rest)
  | bool depth b =>
    apply readsBack_of_succ (.bool depth b)
    intro fuel rest _ _
    cases b
    · refine (reads_peekToken_cons _ (by decide)).bind ((reads_skip 'f' _).bind ?_)
      exact (reads_word ['a', 'l', 's', 'e'] rest).bind (reads_pure _ rest)
    · refine (reads_peekToken_cons _ (by decide)).bind ((reads_skip 't' _).bind ?_)
      exact (reads_word ['r', 'u', 'e'] rest).bind (reads_pure _ rest)
  | int depth n range =>
    apply readsBack_of_succ (.int depth n range)
    intro fuel rest _ hrest
    exact reads_value_int n range hrest.endsNumber
  | string depth s =>
    apply readsBack_of_succ (.string depth s)
    intro fuel rest _ _
    exact reads_value_string s rest
  | @array depth items hitems ih =>
    apply readsBack_of_succ (.array hitems)
    intro fuel rest hfuel _
    have hread : ∀ item ∈ items, ReadsBack (limit - 1) item := fun item hmem =>
      ih item hmem (by omega)
    exact reads_value_array hitems hread (by omega) rest hfuel
  | @object depth fields hfields ih =>
    apply readsBack_of_succ (.object hfields)
    intro fuel rest hfuel _
    have hread : ∀ i, ReadsBack (limit - 1) (fields.value i) := fun i => ih i (by omega)
    exact reads_value_object hread (by omega) rest hfuel

/-- A text with one value and nothing else in it. -/
theorem reads_document {depth : Nat} {json : Json} (h : json.NestsWithin depth)
    (hdepth : depth < depthLimit) : document.Reads json.text.toList [] json := by
  apply reads_of_get
  intro place
  have hends : EndsValue [] := fun c hc => by cases hc
  have hread := reads_value h hdepth (2 * json.text.toList.length + 2) [] (by omega) hends
  rw [List.append_nil] at hread
  exact hread.bind ((reads_peekToken rfl).bind (reads_pure json []))

end Reader

/-- A value is read from its text. -/
theorem read_text {depth : Nat} {json : Json} (h : json.NestsWithin depth)
    (hdepth : depth < depthLimit) : read json.text = .ok json := by
  obtain ⟨place, hread⟩ := Reader.reads_document h hdepth Place.start
  show Prod.fst <$> Reader.document ⟨json.text.toList, Place.start⟩ = _
  rw [hread]
  rfl

end RecordQuery.Json
