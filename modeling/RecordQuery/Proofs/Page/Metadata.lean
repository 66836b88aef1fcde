import Mathlib.Tactic.MkIffOfInductiveProp
import RecordQuery.Page.Info
import RecordQuery.Proofs.Json.Members

/-!
# Decoding page metadata

Metadata is an object with the entries under their names, or an array of all five in their order.
Either way it decodes iff each entry does, and then to these entries.

## Main statements

* `PageInfo.setMember_eq_ok_iff`, `PageInfo.foldlM_setMember_eq_ok_iff`: one member, and all of
  them.
* `PageInfo.decode_eq_ok_iff`: the metadata that decodes.
-/

namespace RecordQuery.PageInfo

open Decoder (Holds Entry)

/-- The members set the entries of `start` to those of `info`. -/
@[mk_iff]
structure Sets (members : List (String × Json)) (start info : PageInfo) : Prop where
  totalRows : Entry Json.ofUInt64 start.totalRows (members.lookup "totalRows") info.totalRows
  page : Entry Json.ofUInt64 start.page (members.lookup "page") info.page
  pageSize : Entry Json.ofUInt64 start.pageSize (members.lookup "pageSize") info.pageSize
  isFirstPage : Entry Json.bool start.isFirstPage (members.lookup "isFirstPage") info.isFirstPage
  isLastPage : Entry Json.bool start.isLastPage (members.lookup "isLastPage") info.isLastPage

/-- The names of the entries, in the order in which an array holds them. -/
def names : List String := ["totalRows", "page", "pageSize", "isFirstPage", "isLastPage"]

/-- A value spells metadata: an object by its members, an array by one item for each entry. -/
inductive Spells : Json → PageInfo → Prop
  | object {fields : Fields} {info : PageInfo} (h : Sets fields.pairs {} info) :
      Spells (.object fields) info
  | array {items : List Json} {info : PageInfo} (hlength : items.length = names.length)
      (h : Sets (names.zip items) {} info) : Spells (.array items) info

theorem optionalWord_eq_ok_iff (json : Json) (value : Option UInt64) :
    Decoder.optional Decoder.word64 json = .ok value ↔ Holds Json.ofUInt64 json value :=
  Decoder.optional_eq_ok_iff Decoder.inverts_word64 nofun json

theorem optionalFlag_eq_ok_iff (json : Json) (value : Option Bool) :
    Decoder.optional Decoder.flag json = .ok value ↔ Holds Json.bool json value :=
  Decoder.optional_eq_ok_iff Decoder.inverts_flag nofun json

/-- Members under other names set nothing. -/
theorem sets_iff_of_lookup_eq_none {members : List (String × Json)} {start info : PageInfo}
    (h : ∀ name ∈ names, members.lookup name = none) : Sets members start info ↔ info = start := by
  simp only [names, List.forall_mem_cons] at h
  obtain ⟨h₁, h₂, h₃, h₄, h₅, -⟩ := h
  cases info
  cases start
  simp only [sets_iff, h₁, h₂, h₃, h₄, h₅, Entry, mk.injEq]

/-! ## Objects -/

theorem setMember_of_notMem_names (start : PageInfo) {key : String} (hkey : key ∉ names)
    (json : Json) : start.setMember (key, json) = .ok start := by
  rw [setMember.eq_def]
  split
  case h_6 => rfl
  all_goals
    rename_i heq
    obtain ⟨rfl, rfl⟩ := Prod.mk.inj heq
    simp [names] at hkey

/-- A member under one of the names sets the entry of that name and no other one. -/
theorem setMember_eq_ok_iff (start info : PageInfo) (key : String) (json : Json) :
    start.setMember (key, json) = .ok info ↔ Sets [(key, json)] start info := by
  by_cases hkey : key ∈ names
  · cases info
    simp only [names, List.mem_cons, List.not_mem_nil, or_false] at hkey
    rcases hkey with rfl | rfl | rfl | rfl | rfl
    all_goals
      simp only [setMember, bind_eq_ok_iff, optionalWord_eq_ok_iff, optionalFlag_eq_ok_iff,
        pure, Except.pure, Except.ok.injEq, mk.injEq]
      simp only [sets_iff, List.lookup_cons, List.lookup_nil, Entry, String.reduceBEq]
      grind
  · have hnone := Fields.lookup_singleton_of_notMem hkey json
    rw [setMember_of_notMem_names start hkey, sets_iff_of_lookup_eq_none hnone, Except.ok.injEq,
      eq_comm]

/-- Entry by entry: what the first member sets is what the others start from. -/
theorem sets_cons_iff {key : String} {json : Json} {rest : List (String × Json)}
    (hkey : rest.lookup key = none) (start info : PageInfo) : Sets ((key, json) :: rest) start info
      ↔ ∃ between, Sets [(key, json)] start between ∧ Sets rest between info := by
  simp only [sets_iff ((key, json) :: rest), Decoder.entry_lookup_cons_iff hkey]
  constructor
  · rintro ⟨⟨a, ha, ha'⟩, ⟨b, hb, hb'⟩, ⟨c, hc, hc'⟩, ⟨d, hd, hd'⟩, ⟨e, he, he'⟩⟩
    exact ⟨⟨a, b, c, d, e⟩, ⟨ha, hb, hc, hd, he⟩, ⟨ha', hb', hc', hd', he'⟩⟩
  · rintro ⟨between, hfirst, hlater⟩
    exact ⟨⟨_, hfirst.totalRows, hlater.totalRows⟩, ⟨_, hfirst.page, hlater.page⟩,
      ⟨_, hfirst.pageSize, hlater.pageSize⟩, ⟨_, hfirst.isFirstPage, hlater.isFirstPage⟩,
      ⟨_, hfirst.isLastPage, hlater.isLastPage⟩⟩

theorem foldlM_setMember_eq_ok_iff (fields : Fields) (start info : PageInfo) :
    fields.pairs.foldlM setMember start = .ok info ↔ Sets fields.pairs start info :=
  Decoder.foldlM_pairs_eq_ok_iff
    (fun _ _ => sets_iff_of_lookup_eq_none fun _ _ => List.lookup_nil) setMember_eq_ok_iff
    sets_cons_iff fields start info

/-! ## Arrays -/

/-- Metadata that decodes has an item for each entry and no further one. -/
theorem length_of_decodeItems {items : List Json} {info : PageInfo}
    (h : decodeItems items = .ok info) : items.length = names.length := by
  simp only [decodeItems, bind_eq_ok_iff, Decoder.item_eq_ok_iff] at h
  obtain ⟨_, -, _, -, _, -, _, -, _, ⟨_, hlast, -⟩, hlength⟩ := h
  have hmany : 4 < items.length := (List.getElem?_eq_some_iff.mp hlast).1
  split at hlength
  · cases hlength
  · show items.length = 5
    omega

theorem decodeItems_five_eq_ok_iff (a b c d e : Json) (info : PageInfo) :
    decodeItems [a, b, c, d, e] = .ok info ↔ Sets (names.zip [a, b, c, d, e]) {} info := by
  cases info
  simp only [decodeItems, bind_eq_ok_iff, Decoder.item_eq_ok_iff, optionalWord_eq_ok_iff,
    optionalFlag_eq_ok_iff]
  simp only [sets_iff, names, List.zip_cons_cons, List.zip_nil_right, List.lookup_cons, Entry,
    String.reduceBEq]
  simp only [List.length_cons, List.length_nil, Nat.zero_add, Nat.reduceAdd, Nat.zero_lt_succ,
    getElem?_pos, List.getElem_cons_zero, Option.some.injEq, exists_eq_left', Nat.reduceLT,
    List.getElem_cons_succ, Nat.lt_add_one, gt_iff_lt, Nat.lt_irrefl, ↓reduceIte, pure,
    Except.pure, Except.ok.injEq, mk.injEq]
  grind

theorem decodeItems_eq_ok_iff (items : List Json) (info : PageInfo) :
    decodeItems items = .ok info
      ↔ items.length = names.length ∧ Sets (names.zip items) {} info := by
  have hfive (hlength : items.length = names.length) :
      decodeItems items = .ok info ↔ Sets (names.zip items) {} info := by
    match items, hlength with
    | [a, b, c, d, e], _ => exact decodeItems_five_eq_ok_iff a b c d e info
  constructor
  · intro h
    exact ⟨length_of_decodeItems h, (hfive (length_of_decodeItems h)).mp h⟩
  · rintro ⟨hlength, h⟩
    exact (hfive hlength).mpr h

/-! ## Metadata of a response -/

theorem decode_eq_ok_iff {json : Json} {info : PageInfo} :
    decode json = .ok info ↔ Spells json info := by
  cases json with
  | object fields =>
    rw [decode, foldlM_setMember_eq_ok_iff]
    exact ⟨.object, fun hspells => by cases hspells; assumption⟩
  | array items =>
    rw [decode, decodeItems_eq_ok_iff]
    exact ⟨fun ⟨hlength, hsets⟩ => .array hlength hsets,
      fun hspells => by cases hspells; constructor <;> assumption⟩
  | _ => exact ⟨nofun, fun hspells => by cases hspells⟩

/-- A response tells metadata: there is some, and it spells it. -/
def Told (response : Json) (info : PageInfo) : Prop :=
  ∃ json, response.member? "pageInfo" = some json ∧ Spells json info

theorem ofResponse_of_told {response : Json} {info : PageInfo} (h : Told response info) :
    ofResponse response = info := by
  obtain ⟨json, hmember, hspells⟩ := h
  have hdecode : decode json = .ok info := decode_eq_ok_iff.mpr hspells
  simp only [ofResponse, hmember, hdecode]

/-- Metadata that does not decode counts as none. -/
theorem ofResponse_of_forall_not_told {response : Json} (h : ∀ info, ¬ Told response info) :
    ofResponse response = {} := by
  rw [ofResponse]
  split
  · rfl
  · rename_i json hmember
    split
    · rename_i info hdecode
      exact absurd ⟨json, hmember, decode_eq_ok_iff.mp hdecode⟩ (h info)
    · rfl

end RecordQuery.PageInfo
