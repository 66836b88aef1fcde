import Mathlib.Data.List.Forall2
import RecordQuery.Config.AuthScheme
import RecordQuery.Proofs.Text.Trimming

/-!
# Names of authentication schemes

A scheme is configured by one of its names with its letters in either case, and blanks around the
name do not count. Apart from that the only other texts are those with the kelvin sign in place of a
`k`, which it is the capital of in one more way.

## Main statements

* `Text.map_lowerChar_eq_iff`: the texts whose lower case is a given name.
* `AuthScheme.ofName?_eq_some_iff`: the texts that name a scheme.
-/

namespace RecordQuery

namespace Text

/-! ## Letters in either case -/

/-- The characters of a name in lower case: no capitals, and nothing beyond ASCII. -/
def IsNameChar (c : Char) : Prop := c.toNat < 128 ∧ (c.toNat < 65 ∨ 90 < c.toNat)

instance (c : Char) : Decidable (IsNameChar c) :=
  inferInstanceAs (Decidable (c.toNat < 128 ∧ (c.toNat < 65 ∨ 90 < c.toNat)))

/-- A character stands for a character of a name: it is the same letter in one case or the other. -/
def StandsFor (c d : Char) : Prop := c = d ∨ c = d.toUpper ∨ (c = '\u212A' ∧ d = 'k')

theorem toNat_toLower (c : Char) :
    c.toLower.toNat = if 65 ≤ c.toNat ∧ c.toNat ≤ 90 then c.toNat + 32 else c.toNat := by
  have hcapital : (c.val ≥ 'A'.val ∧ c.val ≤ 'Z'.val) ↔ (65 ≤ c.val.toNat ∧ c.val.toNat ≤ 90) := by
    simp only [ge_iff_le, UInt32.le_iff_toNat_le]
    rfl
  show (dite _ _ _ : Char).val.toNat = if 65 ≤ c.val.toNat ∧ c.val.toNat ≤ 90 then _ else _
  split
  · rename_i h
    have hrange := hcapital.mp h
    rw [if_pos hrange]
    show (c.val + 32).toNat = c.val.toNat + 32
    rw [UInt32.toNat_add]
    show (c.val.toNat + 32) % 4294967296 = c.val.toNat + 32
    omega
  · rename_i h
    rw [if_neg (mt hcapital.mpr h)]
    rfl

theorem toNat_toUpper (c : Char) :
    c.toUpper.toNat = if 97 ≤ c.toNat ∧ c.toNat ≤ 122 then c.toNat - 32 else c.toNat := by
  have hsmall : ('a'.val ≤ c.val ∧ c.val ≤ 'z'.val) ↔ (97 ≤ c.val.toNat ∧ c.val.toNat ≤ 122) := by
    simp only [UInt32.le_iff_toNat_le]
    rfl
  show (dite _ _ _ : Char).val.toNat = if 97 ≤ c.val.toNat ∧ c.val.toNat ≤ 122 then _ else _
  split
  · rename_i h
    have hrange := hsmall.mp h
    rw [if_pos hrange]
    show (c.val + ('A'.val - 'a'.val)).toNat = c.val.toNat - 32
    rw [UInt32.toNat_add]
    show (c.val.toNat + 4294967264) % 4294967296 = c.val.toNat - 32
    omega
  · rename_i h
    rw [if_neg (mt hsmall.mpr h)]
    rfl

theorem lowerChar_eq_iff {c d : Char} (hd : IsNameChar d) : lowerChar c = d ↔ StandsFor c d := by
  obtain ⟨hascii, hcase⟩ := hd
  have hkelvin : '\u212A'.toNat = 8490 := rfl
  have hk : 'k'.toNat = 107 := rfl
  rw [lowerChar, StandsFor]
  simp only [← Char.toNat_inj, toNat_toUpper]
  split
  · split <;> omega
  · rw [toNat_toLower]
    split <;> split <;> omega

theorem map_lowerChar_eq_iff {cs name : List Char} (hname : ∀ d ∈ name, IsNameChar d) :
    cs.map lowerChar = name ↔ List.Forall₂ StandsFor cs name := by
  induction name generalizing cs with
  | nil => rw [List.map_eq_nil_iff, List.forall₂_nil_right_iff]
  | cons d rest ih =>
    cases cs with
    | nil => exact ⟨nofun, nofun⟩
    | cons c more =>
      have hrest : more.map lowerChar = rest ↔ List.Forall₂ StandsFor more rest :=
        ih fun e he => hname e (List.mem_cons_of_mem _ he)
      rw [List.map_cons, List.cons.injEq, List.forall₂_cons, hrest,
        lowerChar_eq_iff (hname d List.mem_cons_self)]

end Text

namespace AuthScheme

/-- The names of a scheme, in lower case. -/
def names : AuthScheme → List String
  | .xcToken => ["xc_token", "xc-token", "token"]
  | .bearer => ["bearer"]

/-- The text names the scheme: one of its names in any letter case, with blanks around it or
without. -/
def IsNamedBy (scheme : AuthScheme) (text : String) : Prop :=
  ∃ name ∈ scheme.names, ∃ core, Text.Padded core text
    ∧ List.Forall₂ Text.StandsFor core name.toList

theorem ofName?_eq_some_iff_mem {text : String} {scheme : AuthScheme} :
    ofName? text = some scheme ↔ Text.lower (Text.trim text) ∈ scheme.names := by
  rw [ofName?]
  split <;> rename_i hname <;> cases scheme <;> simp_all [names]

theorem isNameChar_of_mem_names {scheme : AuthScheme} {name : String} (h : name ∈ scheme.names) :
    ∀ d ∈ name.toList, Text.IsNameChar d := by
  have hall : (scheme.names.all fun name =>
      name.toList.all fun d => decide (Text.IsNameChar d)) = true := by
    cases scheme <;> decide
  simp only [List.all_eq_true, decide_eq_true_eq] at hall
  exact hall name h

/-- A character that stands for one of a name is not blank. -/
theorem not_isBlank_of_standsFor {scheme : AuthScheme} {name : String} (h : name ∈ scheme.names)
    {c d : Char} (hd : d ∈ name.toList) (hc : Text.StandsFor c d) : Text.isBlank c = false := by
  have hall : (scheme.names.all fun name =>
      name.toList.all fun d => !Text.isBlank d && !Text.isBlank d.toUpper) = true := by
    cases scheme <;> decide
  simp only [List.all_eq_true, Bool.and_eq_true, Bool.not_eq_true'] at hall
  obtain ⟨hsmall, hcapital⟩ := hall name h d hd
  rcases hc with rfl | rfl | ⟨rfl, -⟩
  · exact hsmall
  · exact hcapital
  · decide

theorem ofName?_eq_some_iff {text : String} {scheme : AuthScheme} :
    ofName? text = some scheme ↔ scheme.IsNamedBy text := by
  rw [ofName?_eq_some_iff_mem]
  constructor
  · intro h
    refine ⟨_, h, (Text.trim text).toList, Text.padded_trim text, ?_⟩
    rw [← Text.map_lowerChar_eq_iff (isNameChar_of_mem_names h), Text.lower, String.toList_ofList]
  · rintro ⟨name, hname, core, hpadded, hcore⟩
    have hchars := isNameChar_of_mem_names hname
    have hlower : core.map Text.lowerChar = name.toList :=
      (Text.map_lowerChar_eq_iff hchars).mpr hcore
    have hvisible : ∀ c ∈ core, Text.isBlank c = false := by
      intro c hc
      have hd : Text.lowerChar c ∈ name.toList := hlower ▸ List.mem_map_of_mem hc
      exact not_isBlank_of_standsFor hname hd ((Text.lowerChar_eq_iff (hchars _ hd)).mp rfl)
    rw [Text.trim_of_padded hpadded hvisible, Text.lower, String.toList_ofList, hlower,
      String.ofList_toList]
    exact hname

end AuthScheme

end RecordQuery
