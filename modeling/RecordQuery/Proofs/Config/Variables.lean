import RecordQuery.Config.Environment
import RecordQuery.Proofs.Config.SchemeNames
import RecordQuery.Proofs.Outcome
import RecordQuery.Proofs.Text.Numerals

/-!
# Configurations and the variables they are read from

A configuration is read from variables iff they tell it and it can be used. They tell it if the
token is set, every variable that is set has a text for the value in the configuration, and every
other value is a default. So a configuration is read back from variables that spell all of it, with
names and numbers written in any of their ways. A text that is no number for its variable is a fault
under the name of that variable, unless a fault comes before it.

## Main statements

* `Config.numberFrom_eq_ok_iff`, `Config.schemeFrom_eq_ok_iff`: one variable.
* `Config.ofLookup_eq_ok_iff`: all variables.
* `Config.told_of_spelled`: variables that spell a configuration tell it.
* `Config.ofLookup_eq_error`: the first variable with a text that is no number.
* `Config.variables_told`: all together.
-/

namespace RecordQuery

open Text (TellsNumber Padded)

/-- A setting from a variable: the default if it is not set, and a value that its text tells if it
is. -/
inductive Setting (tells : String → α → Prop) (default : α) : Option String → α → Prop
  | unset : Setting tells default none default
  | set {text : String} {a : α} (h : tells text a) : Setting tells default (some text) a

namespace Config

/-! ## One variable -/

section Variable

variable {name : String} {value : Option String}

theorem numberFrom_eq_ok_iff {α : Type} {read : String → Option α} {tells : String → α → Prop}
    (hread : ∀ text a, read (Text.trim text) = some a ↔ tells text a) {default a : α} :
    numberFrom name value read default = .ok a ↔ Setting tells default value a := by
  cases value with
  | none =>
    refine ⟨fun h => ?_, fun h => by cases h; rfl⟩
    obtain rfl : default = a := Except.ok.inj h
    exact .unset
  | some text =>
    rw [numberFrom]
    constructor
    · intro h
      split at h
      · rename_i number hnumber
        obtain rfl : number = a := Except.ok.inj h
        exact .set ((hread text number).mp hnumber)
      · cases h
    · rintro ⟨⟩
      rename_i h
      rw [(hread text a).mpr h]

/-- A text from which nothing is read is reported with the name of its variable. -/
theorem numberFrom_eq_error {α : Type} {read : String → Option α} {text : String}
    (htext : value = some text) (h : ¬ ∃ a, read (Text.trim text) = some a) (default : α) :
    numberFrom name value read default
      = .error (.invalidValue name ("'" ++ text ++ "' is not a number")) := by
  have hnone : read (Text.trim text) = none := by
    rw [Option.eq_none_iff_forall_ne_some]
    exact fun a ha => h ⟨a, ha⟩
  rw [numberFrom.eq_def, htext]
  simp only [hnone]

theorem schemeFrom_eq_ok_iff {default scheme : AuthScheme} :
    schemeFrom name value default = .ok scheme
      ↔ Setting (fun text scheme => scheme.IsNamedBy text) default value scheme := by
  cases value with
  | none =>
    refine ⟨fun h => ?_, fun h => by cases h; rfl⟩
    obtain rfl : default = scheme := Except.ok.inj h
    exact .unset
  | some text =>
    rw [schemeFrom]
    constructor
    · intro h
      split at h
      · rename_i named hnamed
        obtain rfl : named = scheme := Except.ok.inj h
        exact .set (AuthScheme.ofName?_eq_some_iff.mp hnamed)
      · cases h
    · rintro ⟨⟩
      rename_i h
      rw [AuthScheme.ofName?_eq_some_iff.mpr h]

theorem tokenFrom_eq_ok_iff {token : String} :
    tokenFrom name value = .ok token ↔ value = some token := by
  cases value with
  | none => exact ⟨nofun, nofun⟩
  | some text => exact ⟨fun h => congrArg some (Except.ok.inj h), fun h => by cases h; rfl⟩

end Variable

theorem readUInt32?_trim_iff (text : String) (n : UInt32) :
    Text.readUInt32? (Text.trim text) = some n ↔ TellsNumber text n.toNat := by
  rw [Text.readUInt32?_eq_some_iff, Text.tellsNumber_iff]

theorem readUInt64?_trim_iff (text : String) (n : UInt64) :
    Text.readUInt64? (Text.trim text) = some n ↔ TellsNumber text n.toNat := by
  rw [Text.readUInt64?_eq_some_iff, Text.tellsNumber_iff]

/-! ## All variables -/

/-- The variables tell the configuration: whatever they do not set is as in `default`. -/
structure Told (lookup : String → Option String) (default c : Config) : Prop where
  apiUrl : c.apiUrl = (lookup urlVariable).getD default.apiUrl
  apiToken : lookup tokenVariable = some c.apiToken
  authScheme : Setting (fun text scheme => scheme.IsNamedBy text) default.authScheme
    (lookup schemeVariable) c.authScheme
  project : c.project = lookup projectVariable
  workspace : c.workspace = lookup workspaceVariable
  retryAttempts : Setting (fun text n => TellsNumber text n.toNat) default.retryAttempts
    (lookup attemptsVariable) c.retryAttempts
  retryDelay : Setting (fun text n => TellsNumber text n.toNat) default.retryDelay
    (lookup delayVariable) c.retryDelay
  timeout : Setting (fun text n => TellsNumber text n.toNat) default.timeout
    (lookup timeoutVariable) c.timeout

theorem ofLookup_eq_ok_iff {names : Url.NameMapping} {lookup : String → Option String}
    {c : Config} :
    ofLookup names lookup = .ok c ↔ Told lookup {} c ∧ c.validate names = .ok () := by
  simp only [ofLookup, bind_eq_ok_iff, tokenFrom_eq_ok_iff, schemeFrom_eq_ok_iff,
    numberFrom_eq_ok_iff readUInt32?_trim_iff, numberFrom_eq_ok_iff readUInt64?_trim_iff]
  constructor
  · rintro ⟨token, htoken, scheme, hscheme, attempts, hattempts, delay, hdelay, timeout, htimeout,
      ⟨⟩, hvalid, hc⟩
    obtain rfl := Except.ok.inj hc
    exact ⟨⟨rfl, htoken, hscheme, rfl, rfl, hattempts, hdelay, htimeout⟩, hvalid⟩
  · rintro ⟨htold, hvalid⟩
    have hc : ({ apiUrl := (lookup urlVariable).getD ({} : Config).apiUrl
                 apiToken := c.apiToken, authScheme := c.authScheme
                 project := lookup projectVariable, workspace := lookup workspaceVariable
                 retryAttempts := c.retryAttempts, retryDelay := c.retryDelay
                 timeout := c.timeout } : Config) = c := by
      rw [← htold.apiUrl, ← htold.project, ← htold.workspace]
    refine ⟨c.apiToken, htold.apiToken, c.authScheme, htold.authScheme, c.retryAttempts,
      htold.retryAttempts, c.retryDelay, htold.retryDelay, c.timeout, htold.timeout, (), ?_, ?_⟩
    · rw [hc]
      exact hvalid
    · rw [hc]
      rfl

/-- The variables spell all of the configuration: texts as they are, the scheme by one of its names
in any letter case, numbers in decimal, and blanks around the scheme and the numbers. A project or a
workspace is set iff the configuration has one. -/
structure Spelled (lookup : String → Option String) (c : Config) : Prop where
  apiUrl : lookup urlVariable = some c.apiUrl
  apiToken : lookup tokenVariable = some c.apiToken
  authScheme : ∃ text, lookup schemeVariable = some text ∧ c.authScheme.IsNamedBy text
  project : lookup projectVariable = c.project
  workspace : lookup workspaceVariable = c.workspace
  retryAttempts : ∃ text, lookup attemptsVariable = some text
    ∧ Padded (toString c.retryAttempts.toNat).toList text
  retryDelay : ∃ text, lookup delayVariable = some text
    ∧ Padded (toString c.retryDelay.toNat).toList text
  timeout : ∃ text, lookup timeoutVariable = some text
    ∧ Padded (toString c.timeout.toNat).toList text

theorem setting_of_padded {α : Type} {toNat : α → Nat} {default a : α} {value : Option String}
    (h : ∃ text, value = some text ∧ Padded (toString (toNat a)).toList text) :
    Setting (fun text a => TellsNumber text (toNat a)) default value a := by
  obtain ⟨text, rfl, hpadded⟩ := h
  exact .set ⟨_, hpadded, Text.isNumeral_toString (toNat a)⟩

theorem told_of_spelled {lookup : String → Option String} {c : Config} (h : Spelled lookup c)
    (default : Config) : Told lookup default c where
  apiUrl := by rw [h.apiUrl, Option.getD_some]
  apiToken := h.apiToken
  authScheme := by
    obtain ⟨text, htext, hnamed⟩ := h.authScheme
    exact htext ▸ .set hnamed
  project := h.project.symm
  workspace := h.workspace.symm
  retryAttempts := setting_of_padded h.retryAttempts
  retryDelay := setting_of_padded h.retryDelay
  timeout := setting_of_padded h.timeout

/-! ## Faults -/

/-- A variable that holds a number, and the least number that is too large for it. -/
structure NumberVariable where
  name : String
  bound : Nat

/-- The variables that hold numbers, in the order of reading. -/
def numberVariables : List NumberVariable :=
  [⟨attemptsVariable, UInt32.size⟩, ⟨delayVariable, UInt64.size⟩, ⟨timeoutVariable, UInt64.size⟩]

/-- The text is a numeral of a number that the variable can hold. -/
def NumberVariable.Accepts (v : NumberVariable) (text : String) : Prop :=
  ∃ n < v.bound, TellsNumber text n

theorem accepts_iff_readUInt32? {name text : String} :
    NumberVariable.Accepts ⟨name, UInt32.size⟩ text
      ↔ ∃ n, Text.readUInt32? (Text.trim text) = some n := by
  simp only [readUInt32?_trim_iff, NumberVariable.Accepts]
  constructor
  · rintro ⟨n, hlt, htells⟩
    exact ⟨UInt32.ofNat n, by rwa [UInt32.toNat_ofNat_of_lt' hlt]⟩
  · rintro ⟨n, htells⟩
    exact ⟨n.toNat, n.toNat_lt, htells⟩

theorem accepts_iff_readUInt64? {name text : String} :
    NumberVariable.Accepts ⟨name, UInt64.size⟩ text
      ↔ ∃ n, Text.readUInt64? (Text.trim text) = some n := by
  simp only [readUInt64?_trim_iff, NumberVariable.Accepts]
  constructor
  · rintro ⟨n, hlt, htells⟩
    exact ⟨UInt64.ofNat n, by rwa [UInt64.toNat_ofNat_of_lt' hlt]⟩
  · rintro ⟨n, htells⟩
    exact ⟨n.toNat, n.toNat_lt, htells⟩

/-- The variable is not set, or to a text that it accepts. -/
def NumberVariable.Passes (v : NumberVariable) (lookup : String → Option String) : Prop :=
  ∀ text, lookup v.name = some text → v.Accepts text

theorem exists_numberFrom {α : Type} {value : Option String} {read : String → Option α}
    (h : ∀ text, value = some text → ∃ a, read (Text.trim text) = some a) (name : String)
    (default : α) : ∃ a, numberFrom name value read default = .ok a := by
  cases value with
  | none => exact ⟨default, rfl⟩
  | some text =>
    obtain ⟨a, ha⟩ := h text rfl
    exact ⟨a, by rw [numberFrom, ha]⟩

theorem exists_schemeFrom {value : Option String}
    (h : ∀ text, value = some text → ∃ scheme : AuthScheme, scheme.IsNamedBy text) (name : String)
    (default : AuthScheme) : ∃ scheme, schemeFrom name value default = .ok scheme := by
  cases value with
  | none => exact ⟨default, rfl⟩
  | some text =>
    obtain ⟨scheme, hscheme⟩ := h text rfl
    exact ⟨scheme, schemeFrom_eq_ok_iff.mpr (.set hscheme)⟩

/-- The faults of the variables for numbers come behind those of token and scheme, and each behind
those of the variables in front of it. -/
theorem ofLookup_eq_error {names : Url.NameMapping} {lookup : String → Option String}
    {before after : List NumberVariable} {v : NumberVariable} {text : String} (hv : numberVariables = before ++ v :: after)
    (htoken : lookup tokenVariable ≠ none)
    (hscheme : ∀ text, lookup schemeVariable = some text →
      ∃ scheme : AuthScheme, scheme.IsNamedBy text)
    (hbefore : ∀ u ∈ before, u.Passes lookup) (htext : lookup v.name = some text)
    (hrefused : ¬ v.Accepts text) :
    ofLookup names lookup = .error (.invalidValue v.name ("'" ++ text ++ "' is not a number")) := by
  obtain ⟨token, htoken⟩ := Option.ne_none_iff_exists'.mp htoken
  obtain ⟨scheme, hscheme⟩ :=
    exists_schemeFrom hscheme schemeVariable ({} : Config).authScheme
  have hattempts (hpasses : NumberVariable.Passes ⟨attemptsVariable, UInt32.size⟩ lookup) :=
    exists_numberFrom (fun text htext => accepts_iff_readUInt32?.mp (hpasses text htext))
      attemptsVariable ({} : Config).retryAttempts
  have hdelay (hpasses : NumberVariable.Passes ⟨delayVariable, UInt64.size⟩ lookup) :=
    exists_numberFrom (fun text htext => accepts_iff_readUInt64?.mp (hpasses text htext))
      delayVariable ({} : Config).retryDelay
  rw [ofLookup, tokenFrom_eq_ok_iff.mpr htoken, hscheme]
  -- The variable is one of the three, and those in front of it are read.
  rcases before with _ | ⟨a, _ | ⟨b, _ | ⟨c, rest⟩⟩⟩ <;>
    simp only [numberVariables, List.nil_append, List.cons_append, List.cons.injEq] at hv
  · obtain ⟨rfl, -⟩ := hv
    rw [numberFrom_eq_error htext (mt accepts_iff_readUInt32?.mpr hrefused)]
    rfl
  · obtain ⟨rfl, rfl, -⟩ := hv
    obtain ⟨attempts, hattempts⟩ := hattempts (hbefore _ (by simp))
    rw [hattempts, numberFrom_eq_error htext (mt accepts_iff_readUInt64?.mpr hrefused)]
    rfl
  · obtain ⟨rfl, rfl, rfl, -⟩ := hv
    obtain ⟨attempts, hattempts⟩ := hattempts (hbefore _ (by simp))
    obtain ⟨delay, hdelay⟩ := hdelay (hbefore _ (by simp))
    rw [hattempts, hdelay, numberFrom_eq_error htext (mt accepts_iff_readUInt64?.mpr hrefused)]
    rfl
  · simp at hv

/-! ## All of it together -/

/-- A usable configuration is read from variables that spell all of it. Whatever the variables are,
the configurations read from them are the usable ones that they tell. And with a token and a scheme
that is known, the first variable with a text that is no number for it is named as the fault. -/
theorem variables_told (names : Url.NameMapping) (lookup : String → Option String) :
    (∀ c : Config, Spelled lookup c → c.validate names = .ok () → ofLookup names lookup = .ok c)
    ∧ (∀ c : Config, ofLookup names lookup = .ok c ↔ Told lookup {} c ∧ c.validate names = .ok ())
    ∧ ∀ (before after : List NumberVariable) (v : NumberVariable) (text : String),
        numberVariables = before ++ v :: after → lookup v.name = some text → ¬ v.Accepts text →
        lookup tokenVariable ≠ none →
        (∀ text, lookup schemeVariable = some text →
          ∃ scheme : AuthScheme, scheme.IsNamedBy text) →
        (∀ u ∈ before, u.Passes lookup) →
          ofLookup names lookup
            = .error (.invalidValue v.name ("'" ++ text ++ "' is not a number")) := by
  refine ⟨?_, fun _ => ofLookup_eq_ok_iff, ?_⟩
  · intro c hspelled hvalid
    exact ofLookup_eq_ok_iff.mpr ⟨told_of_spelled hspelled {}, hvalid⟩
  · intro before after v text hv htext hrefused htoken hscheme hbefore
    exact ofLookup_eq_error hv htoken hscheme hbefore htext hrefused

/-- Largest numbers with blanks around them, a scheme with some capitals, and a project without a
name are read back; a number that is one too large for the tries is a fault, also when the delay is
no number either. -/
theorem variables_told_largest :
    let c : Config :=
      { apiUrl := "https://noco.example.com/", apiToken := "", authScheme := .bearer
        project := some "", workspace := none, retryAttempts := 4294967295
        retryDelay := 18446744073709551615, timeout := 0 }
    let spelling : List (String × String) :=
      [(urlVariable, "https://noco.example.com/"), (tokenVariable, ""),
       (schemeVariable, "\tBeaReR "), (projectVariable, ""),
       (attemptsVariable, "\u3000 4294967295\n"), (delayVariable, "18446744073709551615"),
       (timeoutVariable, "0")]
    let tooLarge : List (String × String) :=
      [(tokenVariable, "secret"), (attemptsVariable, "+4294967296"), (delayVariable, "soon")]
    c.validate .ascii = .ok ()
      ∧ ofLookup .ascii (fun name => spelling.lookup name) = .ok c
      ∧ ofLookup .ascii (fun name => tooLarge.lookup name)
        = .error (.invalidValue attemptsVariable "'+4294967296' is not a number") := by
  intro c spelling tooLarge
  have hvalid : c.validate .ascii = .ok () := by decide +kernel
  have hname : "bearer" ∈ AuthScheme.bearer.names := .head _
  have hspelled : Spelled (fun name => spelling.lookup name) c := by
    refine ⟨rfl, rfl, ⟨_, rfl, "bearer", hname, "BeaReR".toList, ?_, ?_⟩, rfl, rfl, ⟨_, rfl, ?_⟩,
      ⟨_, rfl, ?_⟩, ⟨_, rfl, ?_⟩⟩
    · exact ⟨['\t'], [' '], rfl, List.all_eq_true.mp rfl, List.all_eq_true.mp rfl⟩
    · exact (Text.map_lowerChar_eq_iff (AuthScheme.isNameChar_of_mem_names hname)).mp (by decide)
    · exact ⟨['\u3000', ' '], ['\n'], by decide +kernel, List.all_eq_true.mp rfl,
        List.all_eq_true.mp rfl⟩
    · exact ⟨[], [], by decide +kernel, nofun, nofun⟩
    · exact ⟨[], [], by decide +kernel, nofun, nofun⟩
  obtain ⟨hread, -, -⟩ := variables_told .ascii fun name => spelling.lookup name
  obtain ⟨-, -, hfault⟩ := variables_told .ascii fun name => tooLarge.lookup name
  have hrefused : ¬ NumberVariable.Accepts ⟨attemptsVariable, UInt32.size⟩ "+4294967296" := by
    have hnone : Text.readUInt32? (Text.trim "+4294967296") = none := by decide +kernel
    rw [accepts_iff_readUInt32?, hnone]
    exact nofun
  exact ⟨hvalid, hread c hspelled hvalid,
    hfault [] _ _ _ rfl rfl hrefused (by decide) nofun nofun⟩

end Config

end RecordQuery
