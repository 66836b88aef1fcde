/-!
# Members of an object

Values under keys, each key once and the keys in ascending order: both are part of the type, so no
reader and no builder can make members in which a key stands twice. The values are a function of the
place of their key and not a list beside the keys, since a type of values that are themselves built
from members cannot hold a proof about a list of its own values.

* `Members.pairs`, `Members.ofAscending`: the keys with their values, and back.
* `Members.ext`: members with the same pairs are the same.
* `Members.lookup_insert_self`, `Members.lookup_insert_of_ne`, `Members.lookup_erase_self`,
  `Members.lookup_erase_of_ne`: what a change does to a look-up.
* `Members.lookup_ofPairs`: what stands under a key after all pairs.
-/

namespace RecordQuery

/-- Values under keys in ascending order. -/
structure Members (α : Type) where
  keys : List String
  ascending : keys.Pairwise (· < ·)
  value : Fin keys.length → α

namespace Members

variable {α : Type}

/-- The keys with their values, in order. -/
def pairs (members : Members α) : List (String × α) :=
  List.ofFn fun i => (members.keys.get i, members.value i)

/-- Pairs in the ascending order of their keys, none of which stands twice. -/
def Ascending (pairs : List (String × α)) : Prop := (pairs.map Prod.fst).Pairwise (· < ·)

theorem ascending_cons_iff {pair : String × α} {rest : List (String × α)} :
    Ascending (pair :: rest) ↔ (∀ later ∈ rest, pair.1 < later.1) ∧ Ascending rest := by
  rw [Ascending, List.map_cons, List.pairwise_cons, List.forall_mem_map]
  exact Iff.rfl

/-- In ascending pairs a key does not stand again behind its place. -/
theorem lookup_eq_none_of_ascending_cons {key : String} {value : α} {rest : List (String × α)}
    (h : Ascending ((key, value) :: rest)) : rest.lookup key = none := by
  rw [List.lookup_eq_none_iff]
  intro later hmem
  have hlt : key < later.1 := (ascending_cons_iff.mp h).1 later hmem
  exact bne_iff_ne.mpr fun heq => String.lt_irrefl key (heq ▸ hlt)

def ofAscending (pairs : List (String × α)) (h : Ascending pairs) : Members α where
  keys := pairs.map Prod.fst
  ascending := h
  value i := (pairs.get (i.cast (List.length_map _))).2

@[simp] theorem pairs_ofAscending (pairs : List (String × α)) (h : Ascending pairs) :
    (ofAscending pairs h).pairs = pairs := by
  show (List.ofFn fun i : Fin (pairs.map Prod.fst).length =>
    ((pairs.map Prod.fst).get i, (pairs.get (i.cast (List.length_map _))).2)) = pairs
  apply List.ext_getElem
  · rw [List.length_ofFn, List.length_map]
  · intro i _ _
    rw [List.getElem_ofFn, List.get_eq_getElem, List.getElem_map]
    rfl

@[simp] theorem map_fst_pairs (members : Members α) :
    members.pairs.map Prod.fst = members.keys := by
  rw [pairs, List.map_ofFn]
  exact List.ofFn_getElem

theorem ascending_pairs (members : Members α) : Ascending members.pairs := by
  rw [Ascending, map_fst_pairs]
  exact members.ascending

/-- Members with the same pairs are the same. -/
theorem ext {members others : Members α} (h : members.pairs = others.pairs) : members = others := by
  have hkeys : members.keys = others.keys := by
    rw [← map_fst_pairs members, ← map_fst_pairs others, h]
  obtain ⟨keys, ascending, value⟩ := members
  obtain ⟨_, _, value'⟩ := others
  obtain rfl : keys = _ := hkeys
  have hpairs : (List.ofFn fun i => (keys.get i, value i))
      = List.ofFn fun i => (keys.get i, value' i) := h
  obtain rfl : value = value' := by
    funext i
    have hlt : i.val < (List.ofFn fun i => (keys.get i, value i)).length := by
      rw [List.length_ofFn]
      exact i.isLt
    have hi := List.getElem_of_eq hpairs hlt
    rw [List.getElem_ofFn, List.getElem_ofFn] at hi
    exact congrArg Prod.snd hi
  rfl

/-! ## Looking up and changing -/

def lookup (members : Members α) (key : String) : Option α := members.pairs.lookup key

def size (members : Members α) : Nat := members.keys.length

def isEmpty (members : Members α) : Bool := members.keys.isEmpty

def empty : Members α := ofAscending [] .nil

/-- The pairs with a value under a key: in place of what stands there, or in front of the first
larger key. -/
def insertPair (key : String) (value : α) : List (String × α) → List (String × α)
  | [] => [(key, value)]
  | (k, v) :: rest =>
    if key < k then (key, value) :: (k, v) :: rest
    else if key = k then (key, value) :: rest
    else (k, v) :: insertPair key value rest

theorem mem_insertPair {key : String} {value : α} {pair : String × α} {pairs : List (String × α)}
    (h : pair ∈ insertPair key value pairs) : pair = (key, value) ∨ pair ∈ pairs := by
  induction pairs with
  | nil => exact .inl (List.mem_singleton.mp h)
  | cons first rest ih =>
    obtain ⟨k, v⟩ := first
    rw [insertPair] at h
    split at h
    · exact List.mem_cons.mp h
    · split at h
      · exact (List.mem_cons.mp h).imp_right (List.mem_cons_of_mem _)
      · cases List.mem_cons.mp h with
        | inl heq => exact .inr (heq ▸ List.mem_cons_self)
        | inr hlater => exact (ih hlater).imp_right (List.mem_cons_of_mem _)

theorem ascending_insertPair (key : String) (value : α) {pairs : List (String × α)}
    (h : Ascending pairs) : Ascending (insertPair key value pairs) := by
  induction pairs with
  | nil => exact List.pairwise_singleton _ key
  | cons first rest ih =>
    obtain ⟨k, v⟩ := first
    obtain ⟨hlater, hrest⟩ := ascending_cons_iff.mp h
    rw [insertPair]
    split
    · rename_i hlt
      refine ascending_cons_iff.mpr ⟨fun later hmem => ?_, h⟩
      cases List.mem_cons.mp hmem with
      | inl heq => exact heq ▸ hlt
      | inr hmem => exact String.lt_trans hlt (hlater later hmem)
    · rename_i hnot
      split
      · rename_i heq
        subst heq
        exact ascending_cons_iff.mpr ⟨hlater, hrest⟩
      · rename_i hne
        have hlt : k < key := Std.lt_of_le_of_ne (String.not_lt.mp hnot) (Ne.symm hne)
        refine ascending_cons_iff.mpr ⟨fun later hmem => ?_, ih hrest⟩
        cases mem_insertPair hmem with
        | inl heq => exact heq ▸ hlt
        | inr hmem => exact hlater later hmem

/-- A key larger than all others comes last. -/
theorem insertPair_of_lt {key : String} (value : α) {pairs : List (String × α)}
    (h : ∀ pair ∈ pairs, pair.1 < key) : insertPair key value pairs = pairs ++ [(key, value)] := by
  induction pairs with
  | nil => rfl
  | cons first rest ih =>
    obtain ⟨k, v⟩ := first
    have hlt : k < key := h (k, v) List.mem_cons_self
    have hnot : ¬ key < k := fun hkey => String.lt_irrefl key (String.lt_trans hkey hlt)
    have hne : ¬ key = k := fun heq => String.lt_irrefl key (heq ▸ hlt)
    have hrest : insertPair key value rest = rest ++ [(key, value)] :=
      ih fun pair hmem => h pair (List.mem_cons_of_mem _ hmem)
    rw [insertPair, if_neg hnot, if_neg hne, hrest]
    rfl

/-- The members with a value under a key, in place of what stood there. -/
def insert (members : Members α) (key : String) (value : α) : Members α :=
  ofAscending (insertPair key value members.pairs) (ascending_insertPair key value
    members.ascending_pairs)

theorem ascending_filter {pairs : List (String × α)} (h : Ascending pairs)
    (keep : String × α → Bool) : Ascending (pairs.filter keep) :=
  h.sublist (List.filter_sublist.map Prod.fst)

def erase (members : Members α) (key : String) : Members α :=
  ofAscending (members.pairs.filter fun pair => key != pair.1)
    (ascending_filter members.ascending_pairs _)

/-- The pairs in order, and of those that share a key the last one. -/
def sorted (pairs : List (String × α)) : List (String × α) :=
  pairs.foldl (fun earlier (key, value) => insertPair key value earlier) []

theorem sorted_concat (pairs : List (String × α)) (key : String) (value : α) :
    sorted (pairs ++ [(key, value)]) = insertPair key value (sorted pairs) := by
  rw [sorted, List.foldl_append]
  rfl

theorem ascending_sorted (pairs : List (String × α)) : Ascending (sorted pairs) := by
  suffices h : ∀ earlier, Ascending earlier →
      Ascending (pairs.foldl (fun earlier (key, value) => insertPair key value earlier) earlier) from
    h [] .nil
  induction pairs with
  | nil => exact fun _ h => h
  | cons pair rest ih => exact fun earlier h => ih _ (ascending_insertPair pair.1 pair.2 h)

/-- The members that a list of pairs sets one after the other. -/
def ofPairs (pairs : List (String × α)) : Members α :=
  ofAscending (sorted pairs) (ascending_sorted pairs)

theorem pairs_insert (members : Members α) (key : String) (value : α) :
    (members.insert key value).pairs = insertPair key value members.pairs :=
  pairs_ofAscending _ _

/-- A member whose key is larger than all others is set behind them. -/
theorem pairs_insert_of_ascending {members : Members α} {key : String} {value : α}
    {later : List (String × α)} (h : Ascending (members.pairs ++ (key, value) :: later)) :
    (members.insert key value).pairs = members.pairs ++ [(key, value)] := by
  rw [Ascending, List.map_append, List.pairwise_append] at h
  rw [pairs_insert]
  apply insertPair_of_lt
  intro pair hmem
  exact h.2.2 pair.1 (List.mem_map_of_mem hmem) key (List.mem_map_of_mem List.mem_cons_self)

theorem pairs_erase (members : Members α) (key : String) :
    (members.erase key).pairs = members.pairs.filter fun pair => key != pair.1 :=
  pairs_ofAscending _ _

theorem pairs_ofPairs (pairs : List (String × α)) : (ofPairs pairs).pairs = sorted pairs :=
  pairs_ofAscending _ _

@[simp] theorem pairs_ofPairs_singleton (key : String) (value : α) :
    (ofPairs [(key, value)]).pairs = [(key, value)] :=
  pairs_ofPairs _

/-! ## Look-ups after a change -/

theorem lookup_insertPair_self (key : String) (value : α) (pairs : List (String × α)) :
    (insertPair key value pairs).lookup key = some value := by
  induction pairs with
  | nil => simp [insertPair]
  | cons first rest ih =>
    obtain ⟨k, v⟩ := first
    rw [insertPair]
    split
    · exact List.lookup_cons_self
    · split
      · exact List.lookup_cons_self
      · rename_i hne
        have hkey : (key == k) = false := beq_eq_false_iff_ne.mpr hne
        rw [List.lookup_cons, hkey]
        exact ih

theorem lookup_insertPair_of_ne {key other : String} (value : α) (pairs : List (String × α))
    (h : other ≠ key) : (insertPair key value pairs).lookup other = pairs.lookup other := by
  have hother : (other == key) = false := beq_eq_false_iff_ne.mpr h
  induction pairs with
  | nil => simp [insertPair, List.lookup_cons, hother]
  | cons first rest ih =>
    obtain ⟨k, v⟩ := first
    rw [insertPair]
    split
    · rw [List.lookup_cons, hother]
    · split
      · rename_i heq
        subst heq
        simp only [List.lookup_cons, hother]
      · simp only [List.lookup_cons, ih]

@[simp] theorem lookup_insert_self (members : Members α) (key : String) (value : α) :
    (members.insert key value).lookup key = some value := by
  rw [lookup, pairs_insert]
  exact lookup_insertPair_self key value members.pairs

/-- An insertion leaves every other key as it was. -/
theorem lookup_insert_of_ne {key other : String} (members : Members α) (value : α)
    (h : other ≠ key) : (members.insert key value).lookup other = members.lookup other := by
  rw [lookup, pairs_insert]
  exact lookup_insertPair_of_ne value members.pairs h

/-- Of the pairs that share a key the last one counts. -/
theorem lookup_ofPairs (pairs : List (String × α)) (key : String) :
    (ofPairs pairs).lookup key = pairs.reverse.lookup key := by
  rw [lookup, pairs_ofPairs]
  -- Induction from the last pair on, which is set on top of all others.
  suffices h : ∀ later : List (String × α), (sorted later.reverse).lookup key = later.lookup key by
    rw [← h pairs.reverse, List.reverse_reverse]
  intro later
  induction later with
  | nil => rfl
  | cons last earlier ih =>
    obtain ⟨k, v⟩ := last
    rw [List.reverse_cons, sorted_concat]
    by_cases h : key = k
    · subst h
      rw [lookup_insertPair_self, List.lookup_cons_self]
    · have hkey : (key == k) = false := beq_eq_false_iff_ne.mpr h
      rw [lookup_insertPair_of_ne v _ h, ih, List.lookup_cons, hkey]

theorem lookup_erase_self (members : Members α) (key : String) :
    (members.erase key).lookup key = none := by
  rw [lookup, pairs_erase, List.lookup_eq_none_iff]
  intro pair hmem
  exact (List.mem_filter.mp hmem).2

theorem lookup_erase_of_ne {key other : String} (members : Members α) (h : other ≠ key) :
    (members.erase key).lookup other = members.lookup other := by
  rw [lookup, pairs_erase, lookup]
  induction members.pairs with
  | nil => rfl
  | cons first rest ih =>
    obtain ⟨k, v⟩ := first
    by_cases hkey : key = k
    · subst hkey
      have hother : (other == key) = false := beq_eq_false_iff_ne.mpr h
      simp [List.lookup_cons, hother, ih]
    · simp [hkey, List.lookup_cons, ih]

end Members

end RecordQuery
