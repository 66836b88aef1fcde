import RecordQuery.Proofs.Json.Members
import RecordQuery.Proofs.Query.Interleaving
import RecordQuery.Proofs.Records.WrittenKey

/-!
# Writes by key

An update and a deletion of one record settle on a key before anything is sent. Without a key they
fail and no call is made. With one they make a single call, for the record under that key, and the
reply to it is the result.

## Main statements

* `Row.keyedAs_insert`: the record that an update sends.
* `Query.update_eq_ask`, `Query.delete_eq_request`: a write with a key is one call.
* `Query.delete_eq_of_key?`: a deletion by a given key is one by a filter that asks for this key.
* `Query.write_by_key`: all together.
-/

namespace RecordQuery

namespace Members

variable {α : Type}

/-- Under larger keys alone there is nothing to be taken out. -/
theorem filter_key_of_forall_lt {key : String} {pairs : List (String × α)}
    (h : ∀ pair ∈ pairs, key < pair.1) : (pairs.filter fun pair => pair.1 ≠ key) = pairs := by
  rw [List.filter_eq_self]
  intro pair hmem
  have hlt := h pair hmem
  exact decide_eq_true fun heq => String.lt_irrefl key (heq ▸ hlt)

theorem insertPair_perm (key : String) (value : α) {pairs : List (String × α)}
    (h : Ascending pairs) :
    (insertPair key value pairs).Perm ((key, value) :: pairs.filter fun pair => pair.1 ≠ key) := by
  induction pairs with
  | nil => exact .refl _
  | cons first rest ih =>
    obtain ⟨k, v⟩ := first
    obtain ⟨hlater, hrest⟩ := ascending_cons_iff.mp h
    rw [insertPair]
    split
    · rename_i hlt
      have hall : ∀ pair ∈ (k, v) :: rest, key < pair.1 :=
        List.forall_mem_cons.mpr ⟨hlt, fun later hmem => String.lt_trans hlt (hlater later hmem)⟩
      rw [filter_key_of_forall_lt hall]
    · split
      · rename_i heq
        subst heq
        rw [List.filter_cons_of_neg (by simp), filter_key_of_forall_lt hlater]
      · rename_i hne
        rw [List.filter_cons_of_pos (by simpa using Ne.symm hne)]
        exact ((ih hrest).cons (k, v)).trans (.swap (key, value) (k, v) _)

/-- An insertion adds one member and takes out what stood under its key. -/
theorem insert_perm (members : Members α) (key : String) (value : α) :
    (members.insert key value).pairs.Perm
      ((key, value) :: members.pairs.filter fun pair => pair.1 ≠ key) := by
  rw [pairs_insert]
  exact insertPair_perm key value members.ascending_pairs

end Members

/-- A record has the members of some fields but for the primary key, which stands there once and
with a value of its own. -/
structure Row.KeyedAs (record fields : Row) (key : Json) : Prop where
  primary : record.get? "Id" = some key
  other : ∀ column, column ≠ "Id" → record.get? column = fields.get? column
  members : record.fields.pairs.Perm
    (("Id", key) :: fields.fields.pairs.filter fun member => member.1 ≠ "Id")

theorem Row.keyedAs_insert (fields : Row) (key : Json) :
    (fields.insert primaryKey key).KeyedAs fields key where
  primary := get?_insert_self fields primaryKey key
  other _ h := get?_insert_of_ne fields key h
  members := Members.insert_perm fields.fields primaryKey key

/-- What is left of a reply in which one record is looked for: the first item of an array that has
one, and any other reply as it is. -/
inductive Reply.Unwraps : Reply → Reply → Prop
  | first (item : Json) (rest : List Json) : Unwraps (.ok (.array (item :: rest))) (.ok item)
  | itself {reply : Reply} (h : ∀ item rest, reply ≠ .ok (.array (item :: rest))) :
      Unwraps reply reply

theorem Reply.unwraps_map_firstOrSelf (reply : Reply) :
    Reply.Unwraps reply (reply.map Json.firstOrSelf) := by
  cases reply with
  | error e => exact .itself fun item rest h => by cases h
  | ok json =>
    -- Only an array can have a first item.
    cases json with
    | array items =>
      cases items with
      | nil => exact .itself fun item rest h => by cases h
      | cons item rest => exact .first item rest
    | _ => exact .itself fun item rest h => by cases h

namespace Query

/-! ## The key of a deletion -/

/-- The record under a key is the target of a deletion: the key is given and not blank, or no such
key is given and the query asks for it. -/
inductive Targets (q : Query) : Option Scalar → Scalar → Prop
  | given {key : Scalar} (hkey : key.isBlank = false) : Targets q (some key) key
  | found {id : Option Scalar} {key : Scalar}
      (hid : ∀ given, id = some given → given.isBlank = true) (hkey : q.key? = some key) :
      Targets q id key

variable {q : Query} {id : Option Scalar} {key : Scalar}

theorem deletionKey?_of_blank (q : Query)
    (hid : ∀ given, id = some given → given.isBlank = true) : q.deletionKey? id = q.key? := by
  have hnone : (id.filter fun given => !given.isBlank) = none := by
    rw [Option.filter_eq_none_iff]
    intro given hgiven
    simp [hid given hgiven]
  rw [deletionKey?, hnone, Option.none_or]

theorem deletionKey?_of_given (q : Query) (hkey : key.isBlank = false) :
    q.deletionKey? (some key) = some key := by
  have hsome : ((some key).filter fun given => !given.isBlank) = some key := by
    rw [Option.filter_some, if_pos (by simp [hkey])]
  rw [deletionKey?, hsome, Option.some_or]

theorem deletionKey?_eq_some_iff : q.deletionKey? id = some key ↔ q.Targets id key := by
  constructor
  · intro h
    cases id with
    | none => exact .found (by simp) h
    | some given =>
      by_cases hgiven : given.isBlank = true
      · have hid : ∀ other, some given = some other → other.isBlank = true :=
          fun _ heq => Option.some.inj heq ▸ hgiven
        exact .found hid (deletionKey?_of_blank q hid ▸ h)
      · rw [Bool.not_eq_true] at hgiven
        rw [deletionKey?_of_given q hgiven, Option.some.injEq] at h
        exact h ▸ .given hgiven
  · intro h
    cases h with
    | given hkey => exact deletionKey?_of_given q hkey
    | found hid hkey => rw [deletionKey?_of_blank q hid, hkey]

/-! ## What a write is -/

theorem update_eq_fail (fields : Row) (h : q.key? = none) :
    q.update fields = .fail (.invalidOperation
      ("update on '" ++ q.table ++ "' requires a primary key in the where clause")) := by
  rw [update, h]

theorem update_eq_ask (fields : Row) (h : q.key? = some key) :
    q.update fields = .ask (.update q.table (updateBody fields key)) fun reply =>
      .finish (reply.map Json.firstOrSelf) := by
  rw [update, h]
  exact Operation.request_bind_pure _ Json.firstOrSelf

theorem delete_eq_fail (h : q.deletionKey? id = none) :
    q.delete id = .fail (.invalidOperation
      ("delete on '" ++ q.table ++ "' requires a primary key")) := by
  rw [delete, ← deletionKey?, h]

theorem delete_eq_request (h : q.deletionKey? id = some key) :
    q.delete id = .request (.delete q.table (deleteBody key)) := by
  rw [delete, ← deletionKey?, h]

/-- A deletion is determined by its table and its key, wherever the key is from. -/
theorem delete_eq_of_key? {q' : Query} (htable : q'.table = q.table) (hkey : q'.key? = some key) :
    q.delete (some key) = q'.delete none := by
  have hgiven : q.deletionKey? (some key) = some key :=
    deletionKey?_of_given q (isBlank_of_key? hkey)
  have hfound : q'.deletionKey? none = some key := hkey
  rw [delete_eq_request hgiven, delete_eq_request hfound, htable]

theorem siblingKey?_whereId (first : Bool) (hkey : key.isBlank = false) :
    (ConditionStep.whereId key).condition.siblingKey? first = some key := by
  have hcolumn : isPrimaryKey (bareColumn "Id") = true := by decide
  have hequal : (Operator.ofToken "=" == .equal) = true := by decide
  have htest : (Comparison.mk "Id" "=" key).key? = some key := by
    rw [Comparison.key?, if_pos (by simp [hcolumn, hequal, hkey])]
  show Predicate.siblingKey? first (.comparison .and ⟨"Id", "=", key⟩) = some key
  rw [Predicate.siblingKey?, if_pos (by simp), htest]

theorem key?_filterOf (conditions : List Predicate) :
    (filterOf conditions).bind Predicate.key? = Predicate.keyAmong? true conditions := by
  cases conditions <;> rfl

/-- A condition on the key settles the key of a query, unless one in front of it does. -/
theorem key?_build_run_whereId (table : String) {before : List QueryStep}
    (hbefore : ((QueryDraft.ofTable table).run before).build.key? = none)
    (hkey : key.isBlank = false) (after : List QueryStep) :
    ((QueryDraft.ofTable table).run (before ++ .condition (.whereId key) :: after)).build.key?
      = some key := by
  rw [Query.key?, QueryDraft.filter_build_run, key?_filterOf] at hbefore ⊢
  rw [List.filterMap_append, List.map_append, Predicate.keyAmong?_append, hbefore, Option.none_or]
  show (((ConditionStep.whereId key).condition.siblingKey? _).or _) = some key
  rw [siblingKey?_whereId _ hkey, Option.some_or]

theorem key?_whereId (table : String) (hkey : key.isBlank = false) :
    ((QueryDraft.ofTable table).run [.condition (.whereId key)]).build.key? = some key := by
  have hnone : ((QueryDraft.ofTable table).run []).build.key? = none := rfl
  exact key?_build_run_whereId table hnone hkey []

/-- An update without a key, and a deletion without one, fail before any call. With a key there is
one call, about one record: for an update the given fields with the key in place of whatever they
have under `Id`, for a deletion the key alone. A blank id counts as none, and an id that is not
blank as a query for this key. -/
theorem write_by_key (q : Query) (fields : Row) (id : Option Scalar) {σ : Type}
    (respond : Responder σ) (state : σ) :
    (q.key? = none → (q.update fields).run respond state
      = ⟨.error (.invalidOperation
          ("update on '" ++ q.table ++ "' requires a primary key in the where clause")), [], state⟩)
    ∧ (∀ key, q.key? = some key → ∃ (record : Row) (result : Reply),
        let call := Call.update q.table (.array [record.toJson])
        record.KeyedAs fields key.toJson
        ∧ (q.update fields).run respond state = ⟨result, [call], (respond state call).2⟩
        ∧ Reply.Unwraps (respond state call).1 result)
    ∧ ((∀ key, ¬ q.Targets id key) → (q.delete id).run respond state
      = ⟨.error (.invalidOperation
          ("delete on '" ++ q.table ++ "' requires a primary key")), [], state⟩)
    ∧ (∀ key, q.Targets id key →
        let call := Call.delete q.table (.array [.object (.ofPairs [("Id", key.toJson)])])
        (q.delete id).run respond state = ⟨(respond state call).1, [call], (respond state call).2⟩)
    ∧ (∀ key, key.isBlank = true → q.delete (some key) = q.delete none)
    ∧ ∀ key, key.isBlank = false → q.delete (some key)
        = ((QueryDraft.ofTable q.table).run [.condition (.whereId key)]).build.delete none := by
  refine ⟨?_, ?_, ?_, ?_, ?_, ?_⟩
  · intro hkey
    rw [update_eq_fail fields hkey, Operation.run_fail]
  · intro key hkey
    refine ⟨fields.insert primaryKey key.toJson, _, Row.keyedAs_insert fields key.toJson, ?_,
      Reply.unwraps_map_firstOrSelf _⟩
    rw [update_eq_ask fields hkey]
    rfl
  · intro htargets
    have hkey : q.deletionKey? id = none := by
      rw [Option.eq_none_iff_forall_ne_some]
      exact fun key hkey => htargets key (deletionKey?_eq_some_iff.mp hkey)
    rw [delete_eq_fail hkey, Operation.run_fail]
  · intro key htargets
    rw [delete_eq_request (deletionKey?_eq_some_iff.mpr htargets), Operation.run_request]
    rfl
  · intro key hblank
    have hid : ∀ given, some key = some given → given.isBlank = true :=
      fun _ heq => Option.some.inj heq ▸ hblank
    have hsame : q.deletionKey? (some key) = q.deletionKey? none := deletionKey?_of_blank q hid
    rw [delete, ← deletionKey?, hsame]
    rfl
  · intro key hkey
    exact delete_eq_of_key? rfl (key?_whereId q.table hkey)

end Query

end RecordQuery
