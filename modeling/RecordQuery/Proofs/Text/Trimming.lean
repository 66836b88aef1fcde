import Mathlib.Data.List.TakeWhile
import RecordQuery.Text.Blank

/-!
# Trimming

A text is its trimmed text with blanks around it, and a text without blanks is what is left when
blanks are put around it and trimmed off again.

## Main statements

* `padded_trim`, `trim_of_padded`: trimming and the blanks around a text.
-/

namespace RecordQuery.Text

/-- A text is what is left of it, and a run of what is dropped. -/
theorem exists_dropEndWhile_append (p : Char → Bool) (cs : List Char) :
    ∃ dropped, cs = dropEndWhile p cs ++ dropped ∧ ∀ c ∈ dropped, p c = true := by
  refine ⟨(cs.reverse.takeWhile p).reverse, ?_, fun c hc => ?_⟩
  · rw [dropEndWhile, ← List.reverse_append, List.takeWhile_append_dropWhile,
      List.reverse_reverse]
  · exact List.mem_takeWhile_imp (List.mem_reverse.mp hc)

/-- The text is `core` with blanks around it, or without any. -/
def Padded (core : List Char) (text : String) : Prop :=
  ∃ front back, text.toList = front ++ core ++ back ∧ (∀ c ∈ front, isBlank c = true)
    ∧ ∀ c ∈ back, isBlank c = true

theorem padded_trim (text : String) : Padded (trim text).toList text := by
  obtain ⟨back, hback, hblank⟩ :=
    exists_dropEndWhile_append isBlank (text.toList.dropWhile isBlank)
  refine ⟨text.toList.takeWhile isBlank, back, ?_, fun c hc => List.mem_takeWhile_imp hc, hblank⟩
  rw [trim, String.toList_ofList, List.append_assoc, ← hback, List.takeWhile_append_dropWhile]

/-- Nothing is dropped from the end of a text whose characters stay. -/
theorem dropEndWhile_append {p : Char → Bool} {core back : List Char}
    (hcore : ∀ c ∈ core, p c = false) (hback : ∀ c ∈ back, p c = true) :
    dropEndWhile p (core ++ back) = core := by
  have hstays : core.reverse.dropWhile p = core.reverse := by
    cases hreverse : core.reverse with
    | nil => rfl
    | cons c rest =>
      have hc : c ∈ core := List.mem_reverse.mp (hreverse ▸ List.mem_cons_self)
      exact List.dropWhile_cons_of_neg (by simp [hcore c hc])
  have hdrops : ∀ c ∈ back.reverse, p c = true := fun c hc => hback c (List.mem_reverse.mp hc)
  rw [dropEndWhile, List.reverse_append, List.dropWhile_append_of_pos hdrops, hstays,
    List.reverse_reverse]

theorem trim_of_padded {core : List Char} {text : String} (h : Padded core text)
    (hcore : ∀ c ∈ core, isBlank c = false) : trim text = String.ofList core := by
  obtain ⟨front, back, htext, hfront, hback⟩ := h
  rw [trim, htext, List.append_assoc, List.dropWhile_append_of_pos hfront]
  cases core with
  | nil =>
    -- Nothing but blanks: all of them go from the front.
    have hall : back.dropWhile isBlank = [] := List.dropWhile_eq_nil_iff.mpr hback
    rw [List.nil_append, hall]
    rfl
  | cons c rest =>
    have hc : ¬ isBlank c = true := by simp [hcore c List.mem_cons_self]
    rw [List.cons_append, List.dropWhile_cons_of_neg hc, ← List.cons_append,
      dropEndWhile_append hcore hback]

end RecordQuery.Text
