/-!
# Cutting texts

A text is cut at its last separator. The part behind it is the whole text if it has none.
-/

namespace RecordQuery.Text

/-- What follows the last `separator` of a text: all of it if it has none. -/
def afterLast (separator : Char) (cs : List Char) : List Char :=
  (cs.reverse.takeWhile (· != separator)).reverse

/-- Cuts a text at its last separator: what stands in front of it, and what follows it. -/
def cutAtLast? (separator : Char) (cs : List Char) : Option (List Char × List Char) :=
  if cs.contains separator then
    let back := afterLast separator cs
    some (cs.take (cs.length - back.length - 1), back)
  else none

/-- What follows the last separator holds none. -/
theorem separator_notMem_afterLast (separator : Char) (cs : List Char) :
    separator ∉ afterLast separator cs := by
  intro h
  have hall : ∀ c ∈ cs.reverse.takeWhile (· != separator), (c != separator) = true := by
    intro c hc
    exact List.all_eq_true.mp (List.all_takeWhile (l := cs.reverse) (p := (· != separator))) c hc
  have := hall separator (by simpa [afterLast] using h)
  simp at this

/-- Nothing is cut from a text without the separator. -/
theorem afterLast_eq_self {separator : Char} {cs : List Char} (h : separator ∉ cs) :
    afterLast separator cs = cs := by
  have hall : ∀ c ∈ cs.reverse, (c != separator) = true := by
    intro c hc
    simp only [bne_iff_ne]
    rintro rfl
    exact h (List.mem_reverse.mp hc)
  have htake := @List.takeWhile_append_of_pos _ _ cs.reverse [] hall
  simp only [List.append_nil, List.takeWhile_nil] at htake
  rw [afterLast, htake, List.reverse_reverse]

/-- What stands before a separator does not matter. -/
theorem afterLast_append_cons (separator : Char) (front back : List Char) :
    afterLast separator (front ++ separator :: back) = afterLast separator back := by
  simp only [afterLast, List.reverse_append, List.reverse_cons, List.append_assoc]
  rw [List.takeWhile_append]
  split
  · rename_i hlen
    have hself : back.reverse.takeWhile (· != separator) = back.reverse :=
      (List.takeWhile_prefix _).eq_of_length hlen
    simp [hself]
  · rfl

end RecordQuery.Text
