import RecordQuery.Proofs.Config.Stored
import RecordQuery.Proofs.Page.Metadata

/-!
# Written forms

Page metadata and configurations are written as objects and decoded from them. What was written is
decoded to the value that it was written for, and a reader does not notice keys that it does not
know, nor that a key is missing under which `null` or a default would stand. Metadata is decoded as
a whole: one entry that is malformed, and none of the others counts.

## Main statements

* `PageInfo.exists_decode_object_iff`: the objects from which metadata is decoded.
* `PageInfo.sets_editAll_members`: what written metadata says after changes.
* `written_forms_decode`: all together, with the configurations.
-/

namespace RecordQuery

open Decoder (Entry Holds)
open Fields (Edit)

/-! ## Kinds of values -/

namespace Json

/-- An integer in the range of an unsigned word of 64 bits. -/
def IsWord : Json → Prop
  | .number (.int n _) => 0 ≤ n ∧ n < UInt64.size
  | _ => False

def IsFlag : Json → Prop
  | .bool _ => True
  | _ => False

theorem isWord_iff {json : Json} : json.IsWord ↔ ∃ n, json = ofUInt64 n := by
  constructor
  · intro h
    cases json with
    | number number =>
      cases number with
      | float x finite => cases h
      | int n range =>
        obtain ⟨hnonneg, hlt⟩ := h
        obtain ⟨m, rfl⟩ := Int.eq_ofNat_of_zero_le hnonneg
        exact ⟨UInt64.ofNat m, Decoder.number_eq_ofUInt64 (by omega) range⟩
    | _ => cases h
  · rintro ⟨n, rfl⟩
    have := n.toNat_lt
    show (0 : Int) ≤ n.toNat ∧ (n.toNat : Int) < UInt64.size
    simp only [UInt64.size]
    omega

theorem isFlag_iff {json : Json} : json.IsFlag ↔ ∃ b, json = .bool b := by
  cases json <;> simp [IsFlag]

theorem ofOption_eq_null_iff {encode : α → Json} (h : ∀ a, encode a ≠ .null) (value : Option α) :
    ofOption encode value = .null ↔ value = none := by
  cases value with
  | none => exact ⟨fun _ => rfl, fun _ => rfl⟩
  | some a => exact ⟨fun heq => absurd heq (h a), nofun⟩

end Json

theorem Decoder.exists_holds_iff {encode : α → Json} {json : Json} :
    (∃ value, Holds encode json value) ↔ json = .null ∨ ∃ a, json = encode a := by
  constructor
  · rintro ⟨_, hnull | a⟩
    · exact .inl rfl
    · exact .inr ⟨a, rfl⟩
  · rintro (rfl | ⟨a, rfl⟩)
    · exact ⟨none, .null⟩
    · exact ⟨some a, .value a⟩

namespace PageInfo

/-! ## Malformed metadata -/

/-- The names of the entries that are words. -/
def wordNames : List String := ["totalRows", "page", "pageSize"]

/-- The names of the entries that are flags. -/
def flagNames : List String := ["isFirstPage", "isLastPage"]

/-- The member stands under the name of an entry and is neither `null` nor of its kind. -/
def Malformed (member : String × Json) : Prop :=
  member.2 ≠ .null ∧ (member.1 ∈ wordNames ∧ ¬ member.2.IsWord
    ∨ member.1 ∈ flagNames ∧ ¬ member.2.IsFlag)

theorem exists_setMember_word_iff (start : PageInfo) {name : String} (hname : name ∈ wordNames)
    (json : Json) :
    (∃ info, start.setMember (name, json) = .ok info) ↔ json = .null ∨ json.IsWord := by
  simp only [wordNames, List.mem_cons, List.not_mem_nil, or_false] at hname
  rcases hname with rfl | rfl | rfl <;>
    simp only [setMember, exists_bind_pure_eq_ok_iff, optionalWord_eq_ok_iff,
      Decoder.exists_holds_iff, Json.isWord_iff]

theorem exists_setMember_flag_iff (start : PageInfo) {name : String} (hname : name ∈ flagNames)
    (json : Json) :
    (∃ info, start.setMember (name, json) = .ok info) ↔ json = .null ∨ json.IsFlag := by
  simp only [flagNames, List.mem_cons, List.not_mem_nil, or_false] at hname
  rcases hname with rfl | rfl <;>
    simp only [setMember, exists_bind_pure_eq_ok_iff, optionalFlag_eq_ok_iff,
      Decoder.exists_holds_iff, Json.isFlag_iff]

/-- A member is accepted or not whatever the others have set. -/
theorem exists_setMember_iff (start : PageInfo) (member : String × Json) :
    (∃ info, start.setMember member = .ok info) ↔ ¬ Malformed member := by
  obtain ⟨key, json⟩ := member
  by_cases hword : key ∈ wordNames
  · have hflag : key ∉ flagNames := by
      revert key
      decide
    rw [exists_setMember_word_iff start hword]
    simp [Malformed, hword, hflag, Classical.or_iff_not_imp_left]
  · by_cases hflag : key ∈ flagNames
    · rw [exists_setMember_flag_iff start hflag]
      simp [Malformed, hword, hflag, Classical.or_iff_not_imp_left]
    · have hkey : key ∉ names := List.not_mem_append hword hflag
      simp [setMember_of_notMem_names start hkey, Malformed, hword, hflag]

theorem exists_decode_object_iff (fields : Fields) :
    (∃ info, decode (.object fields) = .ok info) ↔ ∀ member ∈ fields.pairs, ¬ Malformed member :=
  exists_foldlM_eq_ok_iff exists_setMember_iff fields.pairs {}

section Response

variable {response : Json} {fields : Fields}
  (hmember : response.member? "pageInfo" = some (.object fields))
include hmember

theorem ofResponse_of_malformed (h : ∃ member ∈ fields.pairs, Malformed member) :
    ofResponse response = {} := by
  simp only [ofResponse, hmember]
  split
  · rename_i info hdecode
    obtain ⟨member, hin, hmalformed⟩ := h
    exact absurd hmalformed ((exists_decode_object_iff fields).mp ⟨info, hdecode⟩ member hin)
  · rfl

theorem decode_eq_ofResponse (h : ∀ member ∈ fields.pairs, ¬ Malformed member) :
    decode (.object fields) = .ok (ofResponse response) := by
  obtain ⟨info, hdecode⟩ := (exists_decode_object_iff fields).mpr h
  simp only [ofResponse, hmember, hdecode]

end Response

/-! ## Written metadata -/

/-- The members of written metadata. -/
def members (info : PageInfo) : Fields := info.toJson.fields?.getD .empty

section Edits

variable {info : PageInfo} {edits : List Edit}
  (h : ∀ e ∈ edits, e.Spares names fun key => info.toJson.member? key = some .null)
include h

theorem entry_editAll_members {name : String} (hname : name ∈ names) {encode : α → Json}
    (hencode : ∀ a, encode a ≠ .null) {value : Option α}
    (hvalue : info.toJson.member? name = some (Json.ofOption encode value)) :
    Entry encode none ((info.members.editAll edits).lookup name) value := by
  refine Decoder.entry_of_lookup ?_
  rcases Fields.lookup_editAll_of_spares info.members h hname with hthere | ⟨hnull, hnone⟩
  · exact .inl (hthere.trans hvalue)
  · rw [hvalue, Option.some.injEq] at hnull
    exact .inr ⟨(Json.ofOption_eq_null_iff hencode value).mp hnull, hnone⟩

theorem sets_editAll_members : Sets (info.members.editAll edits).pairs {} info where
  totalRows := entry_editAll_members h (by decide) nofun rfl
  page := entry_editAll_members h (by decide) nofun rfl
  pageSize := entry_editAll_members h (by decide) nofun rfl
  isFirstPage := entry_editAll_members h (by decide) nofun rfl
  isLastPage := entry_editAll_members h (by decide) nofun rfl

theorem ofResponse_editAll_toJson {response : Json}
    (hmember : response.member? "pageInfo" = some (info.toJson.editAll edits)) :
    ofResponse response = info := by
  have hwritten : response.member? "pageInfo" = some (.object (info.members.editAll edits)) :=
    hmember
  exact ofResponse_of_told ⟨_, hwritten, .object (sets_editAll_members h)⟩

end Edits

end PageInfo

/-! ## All of it together -/

/-- Metadata is taken from every response in which it was written, and a configuration is decoded
from what was stored: also with any keys besides those that are known, without keys that hold `null`
in written metadata, and without a project and a workspace that are not set and a scheme that is the
default one. Metadata with a malformed member counts as none at all; any other object is decoded,
and that is the metadata of the response. -/
theorem written_forms_decode :
    (∀ (info : PageInfo) (edits : List Edit),
        (∀ e ∈ edits, e.Spares PageInfo.names fun key => info.toJson.member? key = some .null) →
        ∀ response : Json, response.member? "pageInfo" = some (info.toJson.editAll edits) →
          PageInfo.ofResponse response = info)
    ∧ (∀ (c : Config) (edits : List Edit), (∀ e ∈ edits, e.Spares Config.names c.MayMiss) →
        Config.decode (c.toJson.editAll edits) = .ok c)
    ∧ ∀ (response : Json) (fields : Fields), response.member? "pageInfo" = some (.object fields) →
        ((∃ member ∈ fields.pairs, PageInfo.Malformed member) → PageInfo.ofResponse response = {})
        ∧ ((∀ member ∈ fields.pairs, ¬ PageInfo.Malformed member) →
          PageInfo.decode (.object fields) = .ok (PageInfo.ofResponse response)) := by
  refine ⟨?_, ?_, ?_⟩
  · intro info edits hedits response hmember
    exact PageInfo.ofResponse_editAll_toJson hedits hmember
  · intro c edits hedits
    exact c.decode_editAll_toJson hedits
  · intro response fields hmember
    exact ⟨PageInfo.ofResponse_of_malformed hmember, PageInfo.decode_eq_ofResponse hmember⟩

/-- Metadata of which two entries are not set, written without them and with a key that differs in
its letters only; a configuration with a project without a name, stored without workspace and
scheme; and a page below zero, which takes the known size with it. -/
theorem written_forms_decode_without_unset :
    let info : PageInfo :=
      { totalRows := some 18446744073709551615, pageSize := some 0, isFirstPage := some false }
    let shortened : List Edit :=
      [.remove "page", .put "totalrows" (.string "many"), .remove "isLastPage", .put "page " .null]
    let response : Json := .object (.ofPairs [("pageInfo", info.toJson.editAll shortened)])
    let c : Config := { apiUrl := "", project := some "", retryAttempts := 4294967295 }
    let older : List Edit :=
      [.remove "workspace", .put "version" (.array []), .remove "auth_scheme"]
    let fields : Fields := .ofPairs [("page", .ofInt64 (-1)), ("totalRows", .ofUInt64 5)]
    let broken : Json := .object (.ofPairs [("list", .array []), ("pageInfo", .object fields)])
    (∀ e ∈ shortened, e.Spares PageInfo.names fun key => info.toJson.member? key = some .null)
      ∧ PageInfo.ofResponse response = info
      ∧ (∀ e ∈ older, e.Spares Config.names c.MayMiss)
      ∧ Config.decode (c.toJson.editAll older) = .ok c
      ∧ PageInfo.Malformed ("page", .ofInt64 (-1))
      ∧ ¬ PageInfo.Malformed ("totalRows", .ofUInt64 5)
      ∧ PageInfo.ofResponse broken = {} := by
  intro info shortened response c older fields broken
  obtain ⟨hmetadata, hconfig, hobject⟩ := written_forms_decode
  have hshortened : ∀ e ∈ shortened,
      e.Spares PageInfo.names fun key => info.toJson.member? key = some .null := by
    simp only [shortened, List.forall_mem_cons]
    exact ⟨fun _ => rfl, show "totalrows" ∉ PageInfo.names by decide, fun _ => rfl,
      show "page " ∉ PageInfo.names by decide, nofun⟩
  have holder : ∀ e ∈ older, e.Spares Config.names c.MayMiss := by
    simp only [older, List.forall_mem_cons]
    exact ⟨fun _ => .inr (.inl ⟨rfl, rfl⟩), show "version" ∉ Config.names by decide,
      fun _ => .inr (.inr ⟨rfl, rfl⟩), nofun⟩
  have hpage : PageInfo.Malformed ("page", .ofInt64 (-1)) :=
    ⟨nofun, .inl ⟨by decide, fun hword => absurd hword.1 (by decide)⟩⟩
  have htotal : ¬ PageInfo.Malformed ("totalRows", .ofUInt64 5) := by
    rintro ⟨-, ⟨-, hword⟩ | ⟨hflag, -⟩⟩
    · exact hword (Json.isWord_iff.mpr ⟨5, rfl⟩)
    · exact absurd hflag (by decide)
  exact ⟨hshortened, hmetadata info shortened hshortened response rfl, holder,
    hconfig c older holder, hpage, htotal, (hobject broken fields rfl).1 ⟨_, .head _, hpage⟩⟩

end RecordQuery
