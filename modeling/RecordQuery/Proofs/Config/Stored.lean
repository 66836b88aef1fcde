import Mathlib.Tactic.MkIffOfInductiveProp
import RecordQuery.Config.Codec
import RecordQuery.Proofs.Json.Members

/-!
# Decoding stored configurations

A configuration is decoded by gathering a draft from the members of an object, one field for each
member under a known name, and completing it. Which draft is gathered does not depend on the order
of the members, and what the draft is completed to is what the members spell: five fields have to be
there, a project and a workspace may be missing or `null`, and a scheme that is missing is the one
with a header of its own.

## Main statements

* `AuthScheme.decode_eq_ok_iff`: the two forms of a stored scheme.
* `Config.Draft.setMember_eq_ok_iff`, `Config.Draft.foldlM_setMember_eq_ok_iff`: one member, and all
  of them.
* `Config.decode_object_eq_ok_iff`: the objects from which a configuration is decoded.
* `Config.decode_editAll_toJson`: what was stored is decoded again, also with other members besides
  it and without those that may be missing.
-/

namespace RecordQuery

open Decoder (Entry EntryOf Inverts)
open Fields (Edit)

/-! ## Schemes -/

namespace AuthScheme

/-- A value spells a scheme: its name, or an object with the name as its key and no value. -/
inductive Spells : Json → AuthScheme → Prop
  | name (scheme : AuthScheme) : Spells (.string scheme.name) scheme
  | key (scheme : AuthScheme) : Spells (.object (.ofPairs [(scheme.name, .null)])) scheme

theorem decodeName_eq_ok_iff {name : String} {scheme : AuthScheme} :
    decodeName name = .ok scheme ↔ name = scheme.name := by
  constructor
  · intro h
    rw [decodeName] at h
    split at h
    · rename_i hname
      obtain rfl : xcToken = scheme := Except.ok.inj h
      exact hname
    · split at h
      · rename_i hname
        obtain rfl : bearer = scheme := Except.ok.inj h
        exact hname
      · cases h
  · rintro rfl
    cases scheme <;> rfl

theorem decode_eq_ok_iff {json : Json} {scheme : AuthScheme} :
    decode json = .ok scheme ↔ Spells json scheme := by
  constructor
  · intro h
    rw [decode.eq_def] at h
    split at h
    case h_1 name =>
      obtain rfl := decodeName_eq_ok_iff.mp h
      exact .name scheme
    case h_2 fields =>
      split at h
      · rename_i name value hpairs
        obtain ⟨named, hname, hvalue⟩ := bind_eq_ok_iff.mp h
        split at hvalue
        · rename_i hnull
          obtain rfl : named = scheme := Except.ok.inj hvalue
          obtain rfl := decodeName_eq_ok_iff.mp hname
          cases value with
          | null =>
            obtain rfl : fields = .ofPairs [(named.name, .null)] :=
              Members.ext (hpairs.trans (Members.pairs_ofPairs_singleton _ _).symm)
            exact .key named
          | _ => cases hnull
        · cases hvalue
      · cases h
    case h_3 => cases h
  · intro h
    cases h with
    | name => exact decodeName_eq_ok_iff.mpr rfl
    | key =>
      rw [decode]
      exact bind_eq_ok_iff.mpr ⟨scheme, decodeName_eq_ok_iff.mpr rfl, rfl⟩

end AuthScheme

namespace Config

/-- The keys of a stored configuration. -/
def names : List String :=
  ["api_url", "api_token", "auth_scheme", "project", "workspace", "retry_attempts",
    "retry_delay_ms", "timeout_secs"]

namespace Draft

/-- A value that is decoded says that the field is set. -/
def Gives (decode : Decoder α) (json : Json) (value : Option α) : Prop :=
  ∃ a, decode json = .ok a ∧ value = some a

/-- The members set the fields of `start` to those of `d`. -/
@[mk_iff]
structure Sets (members : List (String × Json)) (start d : Draft) : Prop where
  apiUrl : EntryOf (Gives Decoder.text) start.apiUrl (members.lookup "api_url") d.apiUrl
  apiToken : EntryOf (Gives Decoder.text) start.apiToken (members.lookup "api_token") d.apiToken
  authScheme : EntryOf (Gives AuthScheme.decode) start.authScheme (members.lookup "auth_scheme")
    d.authScheme
  project : Entry Json.string start.project (members.lookup "project") d.project
  workspace : Entry Json.string start.workspace (members.lookup "workspace") d.workspace
  retryAttempts : EntryOf (Gives Decoder.word32) start.retryAttempts
    (members.lookup "retry_attempts") d.retryAttempts
  retryDelay : EntryOf (Gives Decoder.word64) start.retryDelay (members.lookup "retry_delay_ms")
    d.retryDelay
  timeout : EntryOf (Gives Decoder.word64) start.timeout (members.lookup "timeout_secs") d.timeout

theorem optionalText_eq_ok_iff (json : Json) (value : Option String) :
    Decoder.optional Decoder.text json = .ok value ↔ Decoder.Holds Json.string json value :=
  Decoder.optional_eq_ok_iff Decoder.inverts_text nofun json

/-- Members under other names set nothing. -/
theorem sets_iff_of_lookup_eq_none {members : List (String × Json)} {start d : Draft}
    (h : ∀ name ∈ names, members.lookup name = none) : Sets members start d ↔ d = start := by
  simp only [names, List.forall_mem_cons] at h
  obtain ⟨h₁, h₂, h₃, h₄, h₅, h₆, h₇, h₈, -⟩ := h
  cases d
  cases start
  simp only [sets_iff, h₁, h₂, h₃, h₄, h₅, h₆, h₇, h₈, Entry, EntryOf, mk.injEq]

theorem setMember_of_notMem_names (start : Draft) {key : String} (hkey : key ∉ names)
    (json : Json) : start.setMember (key, json) = .ok start := by
  rw [setMember.eq_def]
  split
  case h_9 => rfl
  all_goals
    rename_i heq
    obtain ⟨rfl, rfl⟩ := Prod.mk.inj heq
    simp [names] at hkey

/-- A member under one of the names sets the field of that name and no other one. -/
theorem setMember_eq_ok_iff (start d : Draft) (key : String) (json : Json) :
    start.setMember (key, json) = .ok d ↔ Sets [(key, json)] start d := by
  by_cases hkey : key ∈ names
  · cases d
    simp only [names, List.mem_cons, List.not_mem_nil, or_false] at hkey
    rcases hkey with rfl | rfl | rfl | rfl | rfl | rfl | rfl | rfl
    all_goals
      simp only [setMember, bind_eq_ok_iff, optionalText_eq_ok_iff, pure, Except.pure,
        Except.ok.injEq, mk.injEq]
      simp only [sets_iff, List.lookup_cons, List.lookup_nil, Entry, EntryOf, Gives,
        String.reduceBEq]
      grind
  · have hnone := Fields.lookup_singleton_of_notMem hkey json
    rw [setMember_of_notMem_names start hkey, sets_iff_of_lookup_eq_none hnone, Except.ok.injEq,
      eq_comm]

/-- Field by field: what the first member sets is what the others start from. -/
theorem sets_cons_iff {key : String} {json : Json} {rest : List (String × Json)}
    (hkey : rest.lookup key = none) (start d : Draft) : Sets ((key, json) :: rest) start d
      ↔ ∃ between, Sets [(key, json)] start between ∧ Sets rest between d := by
  simp only [sets_iff ((key, json) :: rest), Decoder.entry_lookup_cons_iff hkey,
    Decoder.entryOf_lookup_cons_iff hkey]
  constructor
  · rintro ⟨⟨a, ha, ha'⟩, ⟨b, hb, hb'⟩, ⟨c, hc, hc'⟩, ⟨d, hd, hd'⟩, ⟨e, he, he'⟩, ⟨f, hf, hf'⟩,
      ⟨g, hg, hg'⟩, ⟨t, ht, ht'⟩⟩
    exact ⟨⟨a, b, c, d, e, f, g, t⟩, ⟨ha, hb, hc, hd, he, hf, hg, ht⟩,
      ⟨ha', hb', hc', hd', he', hf', hg', ht'⟩⟩
  · rintro ⟨between, hfirst, hlater⟩
    exact ⟨⟨_, hfirst.apiUrl, hlater.apiUrl⟩, ⟨_, hfirst.apiToken, hlater.apiToken⟩,
      ⟨_, hfirst.authScheme, hlater.authScheme⟩, ⟨_, hfirst.project, hlater.project⟩,
      ⟨_, hfirst.workspace, hlater.workspace⟩, ⟨_, hfirst.retryAttempts, hlater.retryAttempts⟩,
      ⟨_, hfirst.retryDelay, hlater.retryDelay⟩, ⟨_, hfirst.timeout, hlater.timeout⟩⟩

theorem foldlM_setMember_eq_ok_iff (fields : Fields) (start d : Draft) :
    fields.pairs.foldlM setMember start = .ok d ↔ Sets fields.pairs start d :=
  Decoder.foldlM_pairs_eq_ok_iff
    (fun _ _ => sets_iff_of_lookup_eq_none fun _ _ => List.lookup_nil) setMember_eq_ok_iff
    sets_cons_iff fields start d

/-- What a draft is completed to, field by field. -/
structure Completes (d : Draft) (c : Config) : Prop where
  apiUrl : d.apiUrl = some c.apiUrl
  apiToken : d.apiToken = some c.apiToken
  authScheme : d.authScheme.getD .xcToken = c.authScheme
  project : d.project = c.project
  workspace : d.workspace = c.workspace
  retryAttempts : d.retryAttempts = some c.retryAttempts
  retryDelay : d.retryDelay = some c.retryDelay
  timeout : d.timeout = some c.timeout

theorem required_eq_ok_iff {name : String} {value : Option α} {a : α} :
    Decoder.required name value = .ok a ↔ value = some a := by
  cases value with
  | none => exact ⟨nofun, nofun⟩
  | some b => exact ⟨fun h => congrArg some (Except.ok.inj h), fun h => by cases h; rfl⟩

theorem complete_eq_ok_iff {d : Draft} {c : Config} : d.complete = .ok c ↔ Completes d c := by
  simp only [complete, bind_eq_ok_iff, required_eq_ok_iff, pure, Except.pure, Except.ok.injEq]
  constructor
  · rintro ⟨url, hurl, token, htoken, attempts, hattempts, delay, hdelay, timeout, htimeout, rfl⟩
    exact ⟨hurl, htoken, rfl, rfl, rfl, hattempts, hdelay, htimeout⟩
  · intro h
    refine ⟨_, h.apiUrl, _, h.apiToken, _, h.retryAttempts, _, h.retryDelay, _, h.timeout, ?_⟩
    rw [h.authScheme, h.project, h.workspace]

end Draft

/-! ## Configurations -/

/-- The members of an object spell a configuration. -/
structure Spells (members : Fields) (c : Config) : Prop where
  apiUrl : members.lookup "api_url" = some (.string c.apiUrl)
  apiToken : members.lookup "api_token" = some (.string c.apiToken)
  authScheme : EntryOf AuthScheme.Spells .xcToken (members.lookup "auth_scheme") c.authScheme
  project : Entry Json.string none (members.lookup "project") c.project
  workspace : Entry Json.string none (members.lookup "workspace") c.workspace
  retryAttempts : members.lookup "retry_attempts" = some (Json.ofUInt32 c.retryAttempts)
  retryDelay : members.lookup "retry_delay_ms" = some (Json.ofUInt64 c.retryDelay)
  timeout : members.lookup "timeout_secs" = some (Json.ofUInt64 c.timeout)

section Entries

variable {found : Option Json}

/-- A field that has to be there is set iff its encoding is found. -/
theorem entryOf_gives_some_iff {decode : Decoder α} {encode : α → Json}
    (hinverts : Inverts decode encode) (a : α) :
    EntryOf (Draft.Gives decode) none found (some a) ↔ found = some (encode a) := by
  cases found with
  | none => simp [EntryOf]
  | some json => simp [EntryOf, Draft.Gives, hinverts json]

theorem exists_entryOf_scheme_iff (scheme : AuthScheme) :
    (∃ drafted, EntryOf (Draft.Gives AuthScheme.decode) none found drafted
        ∧ drafted.getD .xcToken = scheme)
      ↔ EntryOf AuthScheme.Spells .xcToken found scheme := by
  cases found with
  | none => simp [EntryOf, eq_comm]
  | some json =>
    simp only [EntryOf, Draft.Gives, AuthScheme.decode_eq_ok_iff]
    constructor
    · rintro ⟨_, ⟨named, hspells, rfl⟩, rfl⟩
      exact hspells
    · intro hspells
      exact ⟨some scheme, ⟨scheme, hspells, rfl⟩, rfl⟩

end Entries

section Drafts

variable {fields : Fields} {c : Config}

theorem spells_of_completes {d : Draft} (hsets : Draft.Sets fields.pairs {} d) (h : d.Completes c) :
    Spells fields c where
  apiUrl := (entryOf_gives_some_iff Decoder.inverts_text _).mp (h.apiUrl ▸ hsets.apiUrl)
  apiToken := (entryOf_gives_some_iff Decoder.inverts_text _).mp (h.apiToken ▸ hsets.apiToken)
  authScheme := (exists_entryOf_scheme_iff c.authScheme).mp
    ⟨d.authScheme, hsets.authScheme, h.authScheme⟩
  project := h.project ▸ hsets.project
  workspace := h.workspace ▸ hsets.workspace
  retryAttempts :=
    (entryOf_gives_some_iff Decoder.inverts_word32 _).mp (h.retryAttempts ▸ hsets.retryAttempts)
  retryDelay :=
    (entryOf_gives_some_iff Decoder.inverts_word64 _).mp (h.retryDelay ▸ hsets.retryDelay)
  timeout := (entryOf_gives_some_iff Decoder.inverts_word64 _).mp (h.timeout ▸ hsets.timeout)

theorem exists_draft_of_spells (h : Spells fields c) :
    ∃ d, Draft.Sets fields.pairs {} d ∧ d.Completes c := by
  -- The scheme is the one field that a draft may lack and its configuration has.
  obtain ⟨drafted, hdrafted, hscheme⟩ := (exists_entryOf_scheme_iff c.authScheme).mpr h.authScheme
  let d : Draft :=
    { apiUrl := some c.apiUrl, apiToken := some c.apiToken, authScheme := drafted
      project := c.project, workspace := c.workspace, retryAttempts := some c.retryAttempts
      retryDelay := some c.retryDelay, timeout := some c.timeout }
  have hsets : Draft.Sets fields.pairs {} d := {
    apiUrl := (entryOf_gives_some_iff Decoder.inverts_text _).mpr h.apiUrl
    apiToken := (entryOf_gives_some_iff Decoder.inverts_text _).mpr h.apiToken
    authScheme := hdrafted
    project := h.project
    workspace := h.workspace
    retryAttempts := (entryOf_gives_some_iff Decoder.inverts_word32 _).mpr h.retryAttempts
    retryDelay := (entryOf_gives_some_iff Decoder.inverts_word64 _).mpr h.retryDelay
    timeout := (entryOf_gives_some_iff Decoder.inverts_word64 _).mpr h.timeout }
  exact ⟨d, hsets, ⟨rfl, rfl, hscheme, rfl, rfl, rfl, rfl, rfl⟩⟩

end Drafts

theorem decode_object_eq_ok_iff {fields : Fields} {c : Config} :
    decode (.object fields) = .ok c ↔ Spells fields c := by
  rw [decode, bind_eq_ok_iff]
  simp only [Draft.foldlM_setMember_eq_ok_iff, Draft.complete_eq_ok_iff]
  constructor
  · rintro ⟨d, hsets, hcompletes⟩
    exact spells_of_completes hsets hcompletes
  · exact exists_draft_of_spells

/-! ## What was stored -/

/-- The keys that a stored form of the configuration need not have: a project and a workspace that
are not set, and a scheme that is the default one. -/
def MayMiss (c : Config) (key : String) : Prop :=
  key = "project" ∧ c.project = none ∨ key = "workspace" ∧ c.workspace = none
    ∨ key = "auth_scheme" ∧ c.authScheme = ({} : Config).authScheme

/-- The members of a stored configuration. -/
def members (c : Config) : Fields := c.toJson.fields?.getD .empty

theorem lookup_members (c : Config) (key : String) :
    c.members.lookup key = List.lookup key
      [("workspace", Json.ofOption Json.string c.workspace),
        ("timeout_secs", Json.ofUInt64 c.timeout), ("retry_delay_ms", Json.ofUInt64 c.retryDelay),
        ("retry_attempts", Json.ofUInt32 c.retryAttempts),
        ("project", Json.ofOption Json.string c.project), ("auth_scheme", c.authScheme.toJson),
        ("api_url", .string c.apiUrl), ("api_token", .string c.apiToken)] :=
  Members.lookup_ofPairs _ key

theorem spells_editAll_members (c : Config) {edits : List Edit}
    (h : ∀ e ∈ edits, e.Spares names c.MayMiss) : Spells (c.members.editAll edits) c := by
  have hkept {key : String} (hkey : key ∈ names) (hmust : ¬ c.MayMiss key) :=
    (Fields.lookup_editAll_eq_of_spares c.members h hkey hmust).trans (c.lookup_members key)
  have hfound (key : String) (hkey : key ∈ names) :=
    Fields.lookup_editAll_of_spares c.members h hkey
  simp only [lookup_members] at hfound
  constructor
  case apiUrl => exact hkept (by decide) (by simp [MayMiss])
  case apiToken => exact hkept (by decide) (by simp [MayMiss])
  case retryAttempts => exact hkept (by decide) (by simp [MayMiss])
  case retryDelay => exact hkept (by decide) (by simp [MayMiss])
  case timeout => exact hkept (by decide) (by simp [MayMiss])
  case authScheme =>
    rcases hfound "auth_scheme" (by decide) with hthere | ⟨hmiss, hnone⟩
    · rw [hthere]
      exact .name c.authScheme
    · rw [hnone]
      show c.authScheme = .xcToken
      simpa [MayMiss] using hmiss
  case project =>
    apply Decoder.entry_of_lookup
    rcases hfound "project" (by decide) with hthere | ⟨hmiss, hnone⟩
    · exact .inl hthere
    · exact .inr ⟨by simpa [MayMiss] using hmiss, hnone⟩
  case workspace =>
    apply Decoder.entry_of_lookup
    rcases hfound "workspace" (by decide) with hthere | ⟨hmiss, hnone⟩
    · exact .inl hthere
    · exact .inr ⟨by simpa [MayMiss] using hmiss, hnone⟩

theorem decode_editAll_toJson (c : Config) {edits : List Edit}
    (h : ∀ e ∈ edits, e.Spares names c.MayMiss) : decode (c.toJson.editAll edits) = .ok c := by
  show decode (.object (c.members.editAll edits)) = .ok c
  exact decode_object_eq_ok_iff.mpr (spells_editAll_members c h)

end Config

end RecordQuery
