import RecordQuery.Query.Sort

/-!
# Reading sort orders back

A sort parameter is read by cutting it at its commas, a leading `-` of a piece telling a descending
key. Every parameter is read and written back as it was. An order is read back from its parameter
iff no column holds a comma and no ascending one begins with `-`, so among these orders a parameter
stands for one order only. Columns without a character are no exception: one such column is the
empty text, and no column at all is no parameter.

## Main statements

* `SortKey.read_text`, `SortKey.text_read`: a key and its text.
* `SortOrder.param?_read`, `SortOrder.read_param?_iff`: an order and its parameter.
* `SortOrder.isReadable_run`: what a run of steps keeps.
* `SortOrder.param?_of_added`: the parameter grows at its end.
* `SortOrder.runs_read_back`: all together.
-/

namespace RecordQuery

namespace SortKey

/-- Nothing in the column is taken for a mark of the parameter. -/
structure IsReadable (key : SortKey) : Prop where
  comma : ',' ∉ key.column.toList
  sign : key.direction = .ascending → key.column.toList.head? ≠ some '-'

instance (key : SortKey) : Decidable key.IsReadable :=
  decidable_of_iff
    (',' ∉ key.column.toList
      ∧ (key.direction = .ascending → key.column.toList.head? ≠ some '-'))
    ⟨fun ⟨comma, sign⟩ => ⟨comma, sign⟩, fun h => ⟨h.comma, h.sign⟩⟩

/-- The key that a piece of a parameter stands for. -/
def read : List Char → SortKey
  | '-' :: column => desc (String.ofList column)
  | column => asc (String.ofList column)

theorem read_of_head?_ne {piece : List Char} (h : piece.head? ≠ some '-') :
    read piece = asc (String.ofList piece) := by
  cases piece with
  | nil => rfl
  | cons c rest =>
    have hc : c ≠ '-' := by simpa using h
    rw [read]
    intro column hpiece
    exact hc (List.cons.inj hpiece).1

theorem text_asc (column : String) : (asc column).text = column := by
  simp [asc, text, Direction.sign]

theorem toList_text_desc (column : String) : (desc column).text.toList = '-' :: column.toList := by
  simp [desc, text, Direction.sign]

theorem read_text {key : SortKey} (h : key.IsReadable) : read key.text.toList = key := by
  obtain ⟨column, direction⟩ := key
  cases direction with
  | ascending =>
    show read (asc column).text.toList = asc column
    rw [text_asc, read_of_head?_ne (h.sign rfl), String.ofList_toList]
  | descending =>
    -- The first `-` is the sign, whatever the column begins with.
    show read (desc column).text.toList = desc column
    rw [toList_text_desc, read, String.ofList_toList]

theorem toList_text_read (piece : List Char) : (read piece).text.toList = piece := by
  by_cases h : piece.head? = some '-'
  · obtain ⟨column, rfl⟩ := List.head?_eq_some_iff.mp h
    rw [read, toList_text_desc, String.toList_ofList]
  · rw [read_of_head?_ne h, text_asc, String.toList_ofList]

theorem comma_notMem_text {key : SortKey} (h : key.IsReadable) : ',' ∉ key.text.toList := by
  obtain ⟨column, direction⟩ := key
  cases direction with
  | ascending =>
    show ',' ∉ (asc column).text.toList
    rw [text_asc]
    exact h.comma
  | descending =>
    show ',' ∉ (desc column).text.toList
    rw [toList_text_desc, List.mem_cons, not_or]
    exact ⟨by decide, h.comma⟩

theorem isReadable_read {piece : List Char} (h : ',' ∉ piece) : (read piece).IsReadable := by
  by_cases hsign : piece.head? = some '-'
  · obtain ⟨column, rfl⟩ := List.head?_eq_some_iff.mp hsign
    refine ⟨?_, nofun⟩
    show ',' ∉ (String.ofList column).toList
    rw [String.toList_ofList]
    exact fun hmem => h (List.mem_cons_of_mem _ hmem)
  · rw [read_of_head?_ne hsign]
    refine ⟨?_, fun _ => ?_⟩ <;> simpa [asc]

end SortKey

namespace SortOrder

/-! ## Cutting at the commas -/

/-- No piece of a text that is cut at a separator holds it. -/
theorem notMem_of_mem_splitOn {separator : Char} {cs piece : List Char}
    (h : piece ∈ cs.splitOn separator) : separator ∉ piece := by
  induction cs generalizing piece with
  | nil =>
    obtain rfl : piece = [] := by simpa using h
    exact List.not_mem_nil
  | cons c rest ih =>
    rw [List.splitOn_cons_eq_if_modifyHead] at h
    split at h
    · cases h with
      | head => exact List.not_mem_nil
      | tail _ htail => exact ih htail
    · -- The first piece of the rest takes the character, which is no separator.
      rename_i hc
      cases hpieces : rest.splitOn separator with
      | nil => exact absurd hpieces (List.splitOn_ne_nil separator rest)
      | cons first later =>
        rw [hpieces, List.modifyHead_cons] at h
        cases h with
        | head =>
          rw [List.mem_cons, not_or]
          exact ⟨fun heq => hc (by simp [heq]), ih (hpieces ▸ List.mem_cons_self)⟩
        | tail _ htail => exact ih (hpieces ▸ List.mem_cons_of_mem _ htail)

/-- Every key of the order can be read back. -/
def IsReadable (order : SortOrder) : Prop := ∀ key ∈ order.keys, key.IsReadable

/-- The order that a parameter stands for. -/
def read : Option String → SortOrder
  | none => {}
  | some text => ⟨(text.toList.splitOn ',').map SortKey.read⟩

theorem param?_of_keys_ne_nil {order : SortOrder} (h : order.keys ≠ []) :
    order.param? = some (",".intercalate (order.keys.map SortKey.text)) := by
  have hempty : order.isEmpty = false := by simpa [isEmpty] using h
  rw [param?, hempty]
  rfl

theorem param?_read (param : Option String) : (read param).param? = param := by
  cases param with
  | none => rfl
  | some text =>
    have hne : (read (some text)).keys ≠ [] := by
      simp [read]
    have hpieces : (read (some text)).keys.map (String.toList ∘ SortKey.text)
        = text.toList.splitOn ',' := by
      show ((text.toList.splitOn ',').map SortKey.read).map _ = _
      rw [List.map_map]
      exact (List.map_congr_left fun piece _ => SortKey.toList_text_read piece).trans
        (List.map_id _)
    rw [param?_of_keys_ne_nil hne, Option.some_inj, ← String.toList_inj,
      String.toList_intercalate, List.map_map, hpieces]
    exact List.intercalate_splitOn ','

theorem isReadable_read (param : Option String) : (read param).IsReadable := by
  intro key hkey
  cases param with
  | none => cases hkey
  | some text =>
    obtain ⟨piece, hpiece, rfl⟩ := List.mem_map.mp hkey
    exact SortKey.isReadable_read (notMem_of_mem_splitOn hpiece)

theorem read_param? {order : SortOrder} (h : order.IsReadable) : read order.param? = order := by
  by_cases hkeys : order.keys = []
  · rw [param?_eq_none_iff.mpr hkeys, read, ← hkeys]
  · -- The pieces are the texts of the keys, none of which holds a comma.
    have hpieces : ∀ piece ∈ (order.keys.map SortKey.text).map String.toList, ',' ∉ piece := by
      intro piece hpiece
      simp only [List.map_map, List.mem_map, Function.comp_apply] at hpiece
      obtain ⟨key, hkey, rfl⟩ := hpiece
      exact SortKey.comma_notMem_text (h key hkey)
    have hread : (order.keys.map SortKey.text).map (SortKey.read ∘ String.toList)
        = order.keys := by
      rw [List.map_map]
      exact (List.map_congr_left fun key hkey => SortKey.read_text (h key hkey)).trans
        (List.map_id _)
    rw [param?_of_keys_ne_nil hkeys, read, String.toList_intercalate]
    show SortOrder.mk (List.map _ (List.splitOn ',' ([','].intercalate _))) = order
    rw [List.splitOn_intercalate ',' hpieces (by simpa using hkeys), List.map_map, hread]

/-- What is read is an order that can be read, so no other order is read back. -/
theorem read_param?_iff {order : SortOrder} : read order.param? = order ↔ order.IsReadable :=
  ⟨fun h => h ▸ isReadable_read order.param?, read_param?⟩

theorem eq_of_param?_eq {order other : SortOrder} (h : order.IsReadable) (hother : other.IsReadable)
    (heq : order.param? = other.param?) : order = other := by
  rw [← read_param? h, heq, read_param? hother]

/-! ## Steps -/

theorem param?_of_added {order : SortOrder} {text : String} (h : order.param? = some text)
    (key : SortKey) : (order.add key).param? = some (text ++ "," ++ key.text) := by
  have hkeys : order.keys ≠ [] := mt param?_eq_none_iff.mpr (by simp [h])
  rw [param?_of_keys_ne_nil hkeys, Option.some_inj] at h
  rw [param?_of_keys_ne_nil (by simp [add]), add, List.map_append, ← h,
    String.intercalate_append_of_ne_nil (by simpa using hkeys) (by simp), List.map_singleton,
    String.intercalate_singleton]

theorem param?_of_added_first {order : SortOrder} (h : order.keys = []) (key : SortKey) :
    (order.add key).param? = some key.text := by
  rw [param?_of_keys_ne_nil (by simp [add]), add, h, List.nil_append, List.map_singleton,
    String.intercalate_singleton]

theorem keys_step_ne_nil (order : SortOrder) (s : SortStep) : (order.step s).keys ≠ [] := by
  cases s with
  | only key => exact List.cons_ne_nil key []
  | add key => exact List.append_ne_nil_of_right_ne_nil _ (List.cons_ne_nil key [])

theorem isReadable_step {order : SortOrder} (h : order.IsReadable) {s : SortStep}
    (hs : s.key.IsReadable) : (order.step s).IsReadable := by
  intro key hkey
  cases s with
  | only first =>
    obtain rfl : key = first := List.mem_singleton.mp hkey
    exact hs
  | add last =>
    rcases List.mem_append.mp hkey with hold | hnew
    · exact h key hold
    · obtain rfl : key = last := List.mem_singleton.mp hnew
      exact hs

/-- Only a run without steps leaves an order without keys. -/
theorem keys_run_eq_nil_iff (order : SortOrder) (steps : List SortStep) :
    (order.run steps).keys = [] ↔ order.keys = [] ∧ steps = [] := by
  induction steps generalizing order with
  | nil => simp [run]
  | cons s rest ih =>
    have hrest := ih (order.step s)
    simp only [keys_step_ne_nil, false_and, iff_false] at hrest
    show ((order.step s).run rest).keys = [] ↔ _
    simp [hrest]

theorem isReadable_run {order : SortOrder} (h : order.IsReadable) {steps : List SortStep}
    (hsteps : ∀ s ∈ steps, s.key.IsReadable) : (order.run steps).IsReadable := by
  induction steps generalizing order with
  | nil => exact h
  | cons s rest ih =>
    exact ih (isReadable_step h (hsteps s List.mem_cons_self))
      fun later hlater => hsteps later (List.mem_cons_of_mem _ hlater)

/-! ## A run and its parameter -/

/-- After any run of steps there is no parameter iff there are no keys, that is, if there were none
before and no step was taken. An order is read back from its parameter iff each key can be read, and
so is the outcome of a run that brings in such keys only; of two such orders with one parameter both
are the same. One more key is written behind what is there, with a comma if anything is. -/
theorem runs_read_back :
    (∀ (start : SortOrder) (steps : List SortStep),
        ((start.run steps).param? = none ↔ (start.run steps).keys = [])
        ∧ ((start.run steps).keys = [] ↔ start.keys = [] ∧ steps = []))
    ∧ (∀ order : SortOrder, read order.param? = order ↔ order.IsReadable)
    ∧ (∀ (start : SortOrder) (steps : List SortStep), start.IsReadable →
        (∀ s ∈ steps, s.key.IsReadable) → read (start.run steps).param? = start.run steps)
    ∧ (∀ order other : SortOrder, order.IsReadable → other.IsReadable →
        (order.param? = other.param? ↔ order = other))
    ∧ ∀ (order : SortOrder) (key : SortKey),
        (order.keys = [] → (order.add key).param? = some key.text)
        ∧ (order.keys ≠ [] → ∃ text, order.param? = some text
            ∧ (order.add key).param? = some (text ++ "," ++ key.text)) := by
  refine ⟨?_, ?_, ?_, ?_, ?_⟩
  · intro start steps
    exact ⟨param?_eq_none_iff, keys_run_eq_nil_iff start steps⟩
  · intro order
    exact read_param?_iff
  · intro start steps hstart hsteps
    exact read_param? (isReadable_run hstart hsteps)
  · intro order other h hother
    exact ⟨eq_of_param?_eq h hother, congrArg param?⟩
  · intro order key
    refine ⟨fun hnone => param?_of_added_first hnone key, fun hsome => ?_⟩
    have htext := param?_of_keys_ne_nil hsome
    exact ⟨_, htext, param?_of_added htext key⟩

/-- A column without a character comes first and is written as nothing in front of a comma, and a
descending column with a minus of its own is written with two. -/
theorem runs_read_back_marks :
    let steps : List SortStep :=
      [.add (.asc "age"), .only (.asc ""), .add (.desc "-x"), .add (.desc "-x")]
    let order : SortOrder := ({} : SortOrder).run steps
    (∀ s ∈ steps, s.key.IsReadable) ∧ order.param? = some ",--x,--x"
      ∧ read (some ",--x,--x") = order ∧ (order.add (.asc "b c")).param? = some ",--x,--x,b c" := by
  intro steps order
  obtain ⟨-, -, hread, -, hadd⟩ := runs_read_back
  have hsteps : ∀ s ∈ steps, s.key.IsReadable := by decide
  have hparam : order.param? = some ",--x,--x" := rfl
  have hback : read order.param? = order := hread {} steps nofun hsteps
  obtain ⟨text, htext, hmore⟩ := (hadd order (.asc "b c")).2 (by decide)
  obtain rfl : ",--x,--x" = text := Option.some.inj (hparam.symm.trans htext)
  exact ⟨hsteps, hparam, hparam ▸ hback, hmore⟩

end SortOrder

end RecordQuery
