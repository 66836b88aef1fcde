/-!
# Ranges of characters

Properties of characters that follow no rule are tables of ranges of code points.
-/

namespace RecordQuery.Text

abbrev Ranges := List (Nat × Nat)

namespace Ranges

/-- A character whose code point lies in one of the ranges. -/
def covers (ranges : Ranges) (c : Char) : Bool :=
  ranges.any fun (lo, hi) => lo ≤ c.toNat && c.toNat ≤ hi

theorem covers_iff {ranges : Ranges} {c : Char} :
    ranges.covers c = true ↔ ∃ r ∈ ranges, r.1 ≤ c.toNat ∧ c.toNat ≤ r.2 := by
  simp [covers]

end Ranges

end RecordQuery.Text
