import RecordQuery.Proofs.Filter.Grammar

/-!
# The text of a filter and its normal form

The text of a filter is a text of the grammar, and the one way to read it gives the normal form of
the filter back. So the text tells two filters apart iff their normal forms differ.

## Main statements

* `Predicate.reads_text_of_normalForm?`: the normal form of a filter is read from its text.
* `Predicate.whereClause?_eq_iff`: filters have one text iff they have one normal form.
* `Predicate.reads_whereClause?_iff_normalForm?`: both together, with what else a text could be read
  as.
-/

namespace RecordQuery

theorem Leaf.readsItem_text {l : Leaf} (hl : l.Readable) : ReadsItem l.text.toList (.leaf l) := by
  have htext : l.text.toList = '(' :: (l.column.toList
      ++ ',' :: (l.operator.name.toList ++ ',' :: (l.value.toList ++ [')']))) := by
    simp [Leaf.text, String.toList_append]
  rw [htext]
  exact .leaf hl

/-- Items that are read from their texts are read from the text of the row that they make. -/
theorem Item.readsTail_tailText {items : List (Connector × Item)}
    (h : ∀ x ∈ items, ReadsItem x.2.text.toList x.2) :
    ReadsTail (tailText items).toList items := by
  induction items with
  | nil => simpa [tailText] using ReadsTail.nil
  | cons x rest ih =>
    obtain ⟨connector, item⟩ := x
    have hitem : ReadsItem item.text.toList item := h _ List.mem_cons_self
    have hrest := ih fun y hy => h y (List.mem_cons_of_mem _ hy)
    have htext : (tailText ((connector, item) :: rest)).toList
        = '~' :: (connector.name.toList ++ (item.text.toList ++ (tailText rest).toList)) := by
      simp [tailText, String.toList_append]
    rw [htext]
    exact .cons hitem hrest

/-- What is left of a group is read from its text if what is left of its children is. -/
theorem Item.readsItem_ofItems? {items : List (Connector × Item)} {i : Item}
    (h : ∀ x ∈ items, ReadsItem x.2.text.toList x.2) (hi : Item.ofItems? items = some i) :
    ReadsItem i.text.toList i := by
  match items with
  | [] => simp [Item.ofItems?] at hi
  | [x] =>
    -- The group is gone: the text is that of its one item.
    obtain rfl : x.2 = i := Option.some.inj hi
    exact h x List.mem_cons_self
  | x :: second :: rest =>
    obtain rfl : Item.nested x.2 (second :: rest) = i := Option.some.inj hi
    have hfirst := h x List.mem_cons_self
    have hrest := Item.readsTail_tailText fun y hy => h y (List.mem_cons_of_mem _ hy)
    have htext : (Item.nested x.2 (second :: rest)).text.toList
        = '(' :: (x.2.text.toList ++ ((tailText (second :: rest)).toList ++ [')'])) := by
      simp [Item.text, String.toList_append]
    rw [htext]
    exact .nested hfirst hrest (List.cons_ne_nil _ _)

namespace Predicate

mutual

theorem readsItem_of_item? (p : Predicate) (hp : p.Readable) {i : Item} (hi : p.item? = some i) :
    ReadsItem i.text.toList i := by
  match p with
  | .comparison _ test =>
    obtain rfl : Item.leaf test.leaf = i := Option.some.inj hi
    exact Leaf.readsItem_text (hp test (by simp [leaves]))
  | .group _ children => exact Item.readsItem_ofItems? (readsItem_of_mem_items children hp) hi

theorem readsItem_of_mem_items (ps : List Predicate) (hps : ∀ c ∈ leavesAll ps, c.leaf.Readable) :
    ∀ x ∈ items ps, ReadsItem x.2.text.toList x.2 := by
  match ps with
  | [] => simp [items]
  | p :: rest =>
    have hrest := readsItem_of_mem_items rest fun c hc => hps c (by simp [leavesAll, hc])
    rw [items]
    cases hi : p.item? with
    | none => exact hrest
    | some i =>
      intro x hx
      -- The induction is on the tree: the first item is read from `p`, the others from `rest`.
      rcases List.mem_cons.mp hx with rfl | hx
      · exact readsItem_of_item? p (fun c hc => hps c (by simp [leavesAll, hc])) hi
      · exact hrest x hx

end

theorem reads_text_of_normalForm? {p : Predicate} {s : Sequence} (hp : p.Readable)
    (hs : p.normalForm? = some s) : s.Reads s.text.toList := by
  have hsplit : s.text.toList = s.first.text.toList ++ (Item.tailText s.rest).toList := by
    simp [Sequence.text, String.toList_append]
  refine ⟨_, _, hsplit, ?_⟩
  cases p with
  | comparison _ test =>
    obtain rfl : Sequence.mk (.leaf test.leaf) [] = s := Option.some.inj hs
    have hleaf := Leaf.readsItem_text (hp test (by simp [leaves]))
    exact ⟨hleaf, by simpa [Item.tailText] using ReadsTail.nil⟩
  | group _ children =>
    have hitems := readsItem_of_mem_items children hp
    rw [normalForm?] at hs
    cases hchildren : items children with
    | nil => simp [hchildren, Sequence.ofItems?] at hs
    | cons x rest =>
      rw [hchildren] at hs hitems
      obtain rfl : Sequence.mk x.2 rest = s := Option.some.inj hs
      have hfirst := hitems x List.mem_cons_self
      exact ⟨hfirst, Item.readsTail_tailText fun y hy => hitems y (List.mem_cons_of_mem _ hy)⟩

/-- Filters of one normal form have one text, and readable filters of one text have one normal
form. -/
theorem whereClause?_eq_iff {p q : Predicate} (hp : p.Readable) (hq : q.Readable) :
    whereClause? (some p) = whereClause? (some q) ↔ p.normalForm? = q.normalForm? := by
  constructor
  · intro h
    rw [whereClause?_eq_map_text, whereClause?_eq_map_text] at h
    cases hs : p.normalForm? with
    | none =>
      rw [hs, Option.map_none, eq_comm, Option.map_eq_none_iff] at h
      exact h.symm
    | some s =>
      rw [hs, Option.map_some, eq_comm, Option.map_eq_some_iff] at h
      obtain ⟨s', hs', htext⟩ := h
      -- One text, and each filter has its normal form read from it.
      have hreads := reads_text_of_normalForm? hp hs
      have hreads' := reads_text_of_normalForm? hq hs'
      rw [htext] at hreads'
      rw [hs', hreads.unique hreads']
  · intro h
    rw [whereClause?_eq_map_text, whereClause?_eq_map_text, h]

/-- The text of a filter is read as its normal form and as nothing else, so it determines the normal
form and depends on nothing beyond it. -/
theorem reads_whereClause?_iff_normalForm? (p : Predicate) (hp : p.Readable)
    (hne : p.isEmpty = false) :
    (∃ text s, whereClause? (some p) = some text ∧ p.normalForm? = some s
      ∧ ∀ s' : Sequence, s'.Reads text.toList ↔ s' = s)
    ∧ ∀ q : Predicate, q.Readable → q.isEmpty = false →
      (whereClause? (some p) = whereClause? (some q) ↔ p.normalForm? = q.normalForm?) := by
  refine ⟨?_, fun q hq _ => whereClause?_eq_iff hp hq⟩
  have hcount : p.leafCount ≠ 0 := by simpa [isEmpty] using hne
  obtain ⟨s, hs⟩ := Option.ne_none_iff_exists'.mp (mt (normalForm?_eq_none_iff p).mp hcount)
  have hreads := reads_text_of_normalForm? hp hs
  refine ⟨s.text, s, ?_, hs, fun s' => ⟨fun h => h.unique hreads, fun h => h ▸ hreads⟩⟩
  rw [whereClause?_eq_map_text, hs, Option.map_some]

/-- A filter with all that its text leaves out or has to tell apart: groups without comparisons, a
chain of groups with one child, a group that keeps its parentheses, and marks of the grammar inside
values. -/
def mixedGroups : Predicate :=
  .group .and
    [.group .or [],
      .comparison .or ⟨"crm.leads.name", "LIKE", .text "(a,b"⟩,
      .group .or [.group .and [.group .or [], .comparison .and ⟨"age", ">=", .int 18⟩]],
      .group .and
        [.comparison .or ⟨"x", "=", .text "1~or(y"⟩, .comparison .or ⟨"y", "<>", .null⟩]]

/-- The text of the mixed groups, and the one way to read it. -/
theorem reads_mixedGroups :
    mixedGroups.Readable ∧ mixedGroups.isEmpty = false
      ∧ whereClause? (some mixedGroups)
        = some "(name,like,(a,b)~or(age,ge,18)~and((x,eq,1~or(y)~or(y,neq,))"
      ∧ (∀ s : Sequence,
          s.Reads "(name,like,(a,b)~or(age,ge,18)~and((x,eq,1~or(y)~or(y,neq,))".toList
            ↔ s = ⟨.leaf ⟨"name", .like, "(a,b"⟩,
              [(.or, .leaf ⟨"age", .greaterOrEqual, "18"⟩),
                (.and, .nested (.leaf ⟨"x", .equal, "1~or(y"⟩)
                  [(.or, .leaf ⟨"y", .notEqual, ""⟩)])]⟩)
      ∧ whereClause? (some (.comparison .and ⟨"name", "like", .text "(a,b"⟩))
        ≠ whereClause? (some mixedGroups) := by
  have hreadable : mixedGroups.Readable := by decide
  have hne : mixedGroups.isEmpty = false := by decide
  have htext : whereClause? (some mixedGroups)
      = some "(name,like,(a,b)~or(age,ge,18)~and((x,eq,1~or(y)~or(y,neq,))" := by decide
  obtain ⟨⟨text, s, htext', hs, hreads⟩, hother⟩ :=
    reads_whereClause?_iff_normalForm? mixedGroups hreadable hne
  refine ⟨hreadable, hne, htext, ?_, ?_⟩
  · obtain rfl := Option.some.inj (htext.symm.trans htext')
    obtain rfl := Option.some.inj hs
    exact hreads
  · intro heq
    have hnormal := (hother _ (by decide) (by decide)).mp heq.symm
    cases hnormal

end Predicate

end RecordQuery
