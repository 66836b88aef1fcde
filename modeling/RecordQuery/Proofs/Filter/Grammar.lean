import RecordQuery.Proofs.Filter.NormalForm

/-!
# Reading the text of a filter

The grammar of the filter dialect has three rules: a text is an item and then items with `~` and a
connector in front of them, and an item is a comparison `(column,operator,value)` or a text of two
items at least in parentheses. Columns hold no comma and do not start with a parenthesis, and values
hold no closing parenthesis; nothing else is asked of them.

## Main statements

* `ReadsItem.unique`: no text of an item is the beginning of the text of another one.
* `Sequence.Reads.unique`: a text is read in at most one way.
-/

namespace RecordQuery

/-- The texts of a leaf keep clear of the marks that end them. -/
def Leaf.Readable (l : Leaf) : Prop :=
  ',' ∉ l.column.toList ∧ l.column.toList.head? ≠ some '(' ∧ ')' ∉ l.value.toList

instance (l : Leaf) : Decidable l.Readable := inferInstanceAs (Decidable (_ ∧ _ ∧ _))

namespace Predicate

mutual

/-- The comparisons of a condition, from left to right. -/
def leaves : Predicate → List Comparison
  | .comparison _ test => [test]
  | .group _ children => leavesAll children

def leavesAll : List Predicate → List Comparison
  | [] => []
  | p :: rest => leaves p ++ leavesAll rest

end

def Readable (p : Predicate) : Prop := ∀ c ∈ p.leaves, c.leaf.Readable

instance (p : Predicate) : Decidable p.Readable :=
  inferInstanceAs (Decidable (∀ c ∈ p.leaves, c.leaf.Readable))

end Predicate

/-! ## The grammar -/

mutual

/-- A text is an item. -/
inductive ReadsItem : List Char → Item → Prop
  | leaf {l : Leaf} (hl : l.Readable) :
      ReadsItem ('(' :: (l.column.toList
        ++ ',' :: (l.operator.name.toList ++ ',' :: (l.value.toList ++ [')'])))) (.leaf l)
  | nested {front back : List Char} {first : Item} {rest : List (Connector × Item)}
      (hfirst : ReadsItem front first) (hrest : ReadsTail back rest) (hne : rest ≠ []) :
      ReadsItem ('(' :: (front ++ (back ++ [')']))) (.nested first rest)

/-- A text is some items, each with `~` and its connector in front of it. -/
inductive ReadsTail : List Char → List (Connector × Item) → Prop
  | nil : ReadsTail [] []
  | cons {front back : List Char} {connector : Connector} {item : Item}
      {rest : List (Connector × Item)} (hitem : ReadsItem front item)
      (hrest : ReadsTail back rest) :
      ReadsTail ('~' :: (connector.name.toList ++ (front ++ back))) ((connector, item) :: rest)

end

/-- A text is a whole filter. -/
def Sequence.Reads (text : List Char) (s : Sequence) : Prop :=
  ∃ front back, text = front ++ back ∧ ReadsItem front s.first ∧ ReadsTail back s.rest

/-! ## A text is read in at most one way

Every item says itself where it ends: a leaf at its first closing parenthesis, a nested item at the
one that closes it. So two readings that start at the same place agree on the first item and go on at
the same place. Induction on the first reading. -/

/-- Two texts that are cut at their first `mark` are cut at the same place. -/
theorem split_at_mark {mark : Char} {xs ys r r' : List Char} (hx : mark ∉ xs) (hy : mark ∉ ys)
    (h : xs ++ mark :: r = ys ++ mark :: r') : xs = ys ∧ r = r' := by
  induction xs generalizing ys with
  | nil =>
    cases ys with
    | nil => exact ⟨rfl, (List.cons.inj h).2⟩
    | cons y ys => exact absurd (List.cons.inj h).1 fun e => hy (e ▸ List.mem_cons_self)
  | cons x xs ih =>
    cases ys with
    | nil => exact absurd (List.cons.inj h).1 fun e => hx (e ▸ List.mem_cons_self)
    | cons y ys =>
      obtain ⟨rfl, htail⟩ := List.cons.inj h
      have hxs : mark ∉ xs := fun hm => hx (List.mem_cons_of_mem _ hm)
      have hys : mark ∉ ys := fun hm => hy (List.mem_cons_of_mem _ hm)
      obtain ⟨rfl, hr⟩ := ih hxs hys htail
      exact ⟨rfl, hr⟩

theorem Operator.comma_notMem_name (op : Operator) : ',' ∉ op.name.toList := by
  cases op <;> decide

theorem ReadsItem.eq_open_cons {t : List Char} {i : Item} (h : ReadsItem t i) :
    ∃ t', t = '(' :: t' := by
  cases h with
  | leaf _ => exact ⟨_, rfl⟩
  | nested _ _ _ => exact ⟨_, rfl⟩

/-- A leaf tells from its text, and where it ends. -/
theorem Leaf.eq_of_text_append {l m : Leaf} {r r' : List Char} (hl : l.Readable) (hm : m.Readable)
    (h : l.column.toList ++ ',' :: (l.operator.name.toList ++ ',' :: (l.value.toList ++ ')' :: r))
      = m.column.toList
        ++ ',' :: (m.operator.name.toList ++ ',' :: (m.value.toList ++ ')' :: r'))) :
    l = m ∧ r = r' := by
  -- The column and the name end at the first comma, the value at the first closing parenthesis.
  obtain ⟨hcolumn, hafterColumn⟩ := split_at_mark hl.1 hm.1 h
  obtain ⟨hname, hafterName⟩ :=
    split_at_mark (Operator.comma_notMem_name _) (Operator.comma_notMem_name _) hafterColumn
  obtain ⟨hvalue, hr⟩ := split_at_mark hl.2.2 hm.2.2 hafterName
  have hoperator : l.operator = m.operator := Operator.name_injective (String.toList_inj.mp hname)
  refine ⟨?_, hr⟩
  cases l
  cases m
  simp only [Leaf.mk.injEq]
  exact ⟨String.toList_inj.mp hcolumn, hoperator, String.toList_inj.mp hvalue⟩

/-- The text of a leaf goes on in no way that opens an item inside it. -/
theorem Leaf.text_ne_nested {l : Leaf} (hl : l.Readable) {t r r' : List Char} {i : Item}
    (ht : ReadsItem t i) : l.column.toList ++ ',' :: r ≠ t ++ r' := by
  intro h
  obtain ⟨t', rfl⟩ := ht.eq_open_cons
  cases hcolumn : l.column.toList with
  | nil =>
    rw [hcolumn] at h
    exact absurd (List.cons.inj h).1 (by decide)
  | cons c cs =>
    -- The column would start with the parenthesis of the item.
    rw [hcolumn] at h
    refine hl.2.1 ?_
    rw [hcolumn, (List.cons.inj h).1]
    rfl

/-- The name of a connector says which one it is, whatever follows. -/
theorem Connector.eq_of_name_append {c c' : Connector} {r r' : List Char}
    (h : c.name.toList ++ r = c'.name.toList ++ r') : c = c' ∧ r = r' := by
  cases c <;> cases c'
  · exact ⟨rfl, List.append_cancel_left h⟩
  · exact absurd (List.cons.inj h).1 (by decide)
  · exact absurd (List.cons.inj h).1 (by decide)
  · exact ⟨rfl, List.append_cancel_left h⟩

mutual

/-- Two items at the beginning of one text are the same item and end at the same place. -/
theorem ReadsItem.unique {t u r r' : List Char} {i j : Item} (h : ReadsItem t i)
    (h' : ReadsItem u j) (heq : t ++ r = u ++ r') : i = j ∧ r = r' := by
  match h, h' with
  | .leaf hl, .leaf hm =>
    simp only [List.cons_append, List.append_assoc, List.nil_append, List.cons.injEq,
      true_and] at heq
    obtain ⟨rfl, hr⟩ := Leaf.eq_of_text_append hl hm heq
    exact ⟨rfl, hr⟩
  | .leaf hl, .nested hfirst _ _ =>
    simp only [List.cons_append, List.append_assoc, List.cons.injEq, true_and] at heq
    exact absurd heq (Leaf.text_ne_nested hl hfirst)
  | .nested hfirst _ _, .leaf hm =>
    simp only [List.cons_append, List.append_assoc, List.cons.injEq, true_and] at heq
    exact absurd heq.symm (Leaf.text_ne_nested hm hfirst)
  | .nested hfirst hrest _, .nested hfirst' hrest' _ =>
    simp only [List.cons_append, List.append_assoc, List.nil_append, List.cons.injEq,
      true_and] at heq
    obtain ⟨rfl, hback⟩ := hfirst.unique hfirst' heq
    -- Behind the rest stands the closing parenthesis, and so no further item.
    obtain ⟨rfl, hr⟩ := hrest.unique hrest' (by simp) (by simp) hback
    exact ⟨rfl, (List.cons.inj hr).2⟩

/-- Two rows of items at the beginning of one text are the same if no item follows them. -/
theorem ReadsTail.unique {t u r r' : List Char} {is js : List (Connector × Item)}
    (h : ReadsTail t is) (h' : ReadsTail u js) (hr : r.head? ≠ some '~') (hr' : r'.head? ≠ some '~')
    (heq : t ++ r = u ++ r') : is = js ∧ r = r' := by
  match h, h' with
  | .nil, .nil => exact ⟨rfl, heq⟩
  -- One reading ends where the other one has a connector.
  | .nil, .cons _ _ =>
    exact absurd (by rw [show r = _ from heq]; rfl) hr
  | .cons _ _, .nil =>
    exact absurd (by rw [show r' = _ from heq.symm]; rfl) hr'
  | .cons hitem hrest, .cons hitem' hrest' =>
    simp only [List.cons_append, List.append_assoc, List.cons.injEq, true_and] at heq
    obtain ⟨rfl, hitems⟩ := Connector.eq_of_name_append heq
    obtain ⟨rfl, hback⟩ := hitem.unique hitem' hitems
    obtain ⟨rfl, hr⟩ := hrest.unique hrest' hr hr' hback
    exact ⟨rfl, hr⟩

end

theorem Sequence.Reads.unique {t : List Char} {s s' : Sequence} (h : s.Reads t) (h' : s'.Reads t) :
    s = s' := by
  obtain ⟨front, back, htext, hfirst, hrest⟩ := h
  obtain ⟨front', back', htext', hfirst', hrest'⟩ := h'
  obtain ⟨first, hback⟩ := hfirst.unique hfirst' (htext.symm.trans htext')
  obtain ⟨rest, -⟩ := hrest.unique hrest' (by simp) (by simp) (congrArg (· ++ []) hback)
  cases s
  cases s'
  simp only [Sequence.mk.injEq]
  exact ⟨first, rest⟩

end RecordQuery
