import RecordQuery.Proofs.Number.WideIntegers
import RecordQuery.Scalar.Json

/-!
# Scalars in request bodies and back

JSON has a value for every scalar but the infinities and NaNs, and the value read back is the
scalar. Those few become `null`. The other way round, a JSON number is sent as it came unless it is
an integer above all signed words: a scalar has only a double-precision number close to it.
-/

namespace RecordQuery

open Number (Binary64)

namespace Scalar

/-- JSON can express the scalar: it is no infinity and no NaN. -/
def isExpressible : Scalar → Bool
  | .float x => x.isFinite
  | _ => true

theorem ofJson_toJson {s : Scalar} (h : s.isExpressible = true) : ofJson s.toJson = s := by
  cases s with
  | null => rfl
  | bool b => rfl
  | text s => rfl
  | int n =>
    -- A number above the signed range would be read back as a double-precision one.
    have hlt : n.toInt < 0x8000000000000000 := Int64.toInt_lt n
    rw [toJson, Json.ofInt64, ofJson, ofNumber, if_pos hlt, Int64.ofInt_toInt]
  | float x =>
    have hfinite : x.isFinite = true := h
    rw [toJson, Json.ofBinary64, dif_pos hfinite, ofJson, ofNumber]

theorem toJson_eq_null {s : Scalar} (h : s.isExpressible = false) : s.toJson = .null := by
  cases s with
  | float x => rw [toJson, Json.ofBinary64, dif_neg (by simpa [isExpressible] using h)]
  | _ => simp [isExpressible] at h

/-- A scalar that is not blank and that JSON can express has a JSON value that is not blank. -/
theorem toJson_ne_blank {s : Scalar} (hblank : s.isBlank = false) (h : s.isExpressible = true) :
    s.toJson ≠ .null ∧ s.toJson ≠ .string "" := by
  -- `null` and the empty text are read back as blank scalars.
  have hback := ofJson_toJson h
  constructor
  · intro hnull
    rw [hnull, ofJson] at hback
    simp [← hback, isBlank] at hblank
  · intro hempty
    rw [hempty, ofJson] at hback
    simp [← hback, isBlank] at hblank

/-! ## Numbers -/

section Numbers

variable {n : Int} (range : -0x8000000000000000 ≤ n ∧ n < 0x10000000000000000)

theorem toJson_ofNumber_of_signed (h : n < 0x8000000000000000) :
    (ofNumber (.int n range)).toJson = .number (.int n range) := by
  have hword : (Int64.ofInt n).toInt = n := Int64.toInt_ofInt_of_le range.1 h
  rw [ofNumber, if_pos h, toJson, Json.ofInt64]
  simp only [hword]

theorem toJson_ofNumber_float {x : Binary64} (finite : x.isFinite = true) :
    (ofNumber (.float x finite)).toJson = .number (.float x finite) := by
  rw [ofNumber, toJson, Json.ofBinary64, dif_pos finite]

theorem toJson_ofNumber_of_wide (h : 0x8000000000000000 ≤ n) :
    ∃ x finite, (ofNumber (.int n range)).toJson = .number (.float x finite) ∧ x.IsNear n := by
  have hfinite := Binary64.isFinite_ofInt_of_wide h range.2
  refine ⟨Binary64.ofInt n, hfinite, ?_, Binary64.isNear_ofInt_of_wide h range.2⟩
  rw [ofNumber, if_neg (Int.not_lt.mpr h), toJson, Json.ofBinary64, dif_pos hfinite]

end Numbers

end Scalar

end RecordQuery
