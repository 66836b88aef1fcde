import RecordQuery.Proofs.Scalar.RoundTrip

/-!
# Stored scalars

A scalar is stored as it is sent in a request body, and a value without parts is decoded to the
scalar that it is read as in a response. The two ways back differ in arrays and objects alone: read
in a response they are kept as their text, and stored they are no scalar.

An integer that a signed word holds fits two alternatives of the stored form, which is why the one
for integers has to stand before the one for double-precision numbers.

## Main statements

* `Scalar.encode_eq_toJson`: one way to JSON.
* `Scalar.decode_of_isLeaf`, `Scalar.decode_of_not_isLeaf`: the two ways back.
* `Scalar.stored_as_sent`: all together, with the way there and back.
-/

namespace RecordQuery

open Number (Binary64)

namespace Scalar

theorem encode_eq_toJson (s : Scalar) : s.encode = s.toJson := by
  cases s <;> rfl

/-! ## Trying the alternatives -/

section Integers

variable {n : Int} {range : -0x8000000000000000 ≤ n ∧ n < 0x10000000000000000}

/-- Of the two alternatives that fit, the first one counts. -/
theorem decode_int_of_signed (h : n < 0x8000000000000000) :
    decode (.number (.int n range)) = .ok (.int (Int64.ofInt n)) := by
  have hfits : intAlternative? (.number (.int n range)) = some (.int (Int64.ofInt n)) := by
    rw [intAlternative?, if_pos h]
  simp only [decode, alternatives, List.findSome?, nullAlternative?, boolAlternative?, hfits]

theorem decode_int_of_wide (h : 0x8000000000000000 ≤ n) :
    decode (.number (.int n range)) = .ok (.float (Binary64.ofInt n)) := by
  have hwide : intAlternative? (.number (.int n range)) = none := by
    rw [intAlternative?, if_neg (Int.not_lt.mpr h)]
  simp only [decode, alternatives, List.findSome?, nullAlternative?, boolAlternative?, hwide,
    floatAlternative?]

theorem ofJson_int_of_signed (h : n < 0x8000000000000000) :
    ofJson (.number (.int n range)) = .int (Int64.ofInt n) := by
  rw [ofJson, ofNumber, if_pos h]

theorem ofJson_int_of_wide (h : 0x8000000000000000 ≤ n) :
    ofJson (.number (.int n range)) = .float (Binary64.ofInt n) := by
  rw [ofJson, ofNumber, if_neg (Int.not_lt.mpr h)]

end Integers

theorem decode_of_isLeaf {json : Json} (h : json.isLeaf = true) :
    decode json = .ok (ofJson json) := by
  cases json with
  | null => rfl
  | bool b => rfl
  | string s => rfl
  | number n =>
    cases n with
    | float x finite => rfl
    | int n range =>
      by_cases hsigned : n < 0x8000000000000000
      · rw [decode_int_of_signed hsigned, ofJson_int_of_signed hsigned]
      · have hwide : 0x8000000000000000 ≤ n := Int.not_lt.mp hsigned
        rw [decode_int_of_wide hwide, ofJson_int_of_wide hwide]
  | array items => cases h
  | object fields => cases h

/-- No alternative fits a value with parts. -/
theorem decode_of_not_isLeaf {json : Json} (h : json.isLeaf = false) :
    decode json = .error (.noAlternative "Scalar") := by
  cases json with
  | array items => rfl
  | object fields => rfl
  | _ => cases h

theorem ofJson_of_not_isLeaf {json : Json} (h : json.isLeaf = false) :
    ofJson json = .text json.text := by
  cases json with
  | array items => rfl
  | object fields => rfl
  | _ => cases h

theorem isExpressible_iff {s : Scalar} :
    s.isExpressible = true ↔ ∀ x, s = .float x → x.isFinite = true := by
  cases s with
  | float x =>
    refine ⟨fun h y hy => ?_, fun h => h x rfl⟩
    obtain rfl : x = y := Scalar.float.inj hy
    exact h
  | _ => simp [isExpressible]

/-- A scalar is stored as it is sent, and comes back as it was both ways unless it is an infinity or
a NaN, which become `null`. What has no parts is decoded to the scalar that it is read as: an
integer above the signed range, which fits no alternative for integers, to a double-precision number
close to it. What has parts is read as its text and does not decode. -/
theorem stored_as_sent :
    (∀ s : Scalar, s.encode = s.toJson)
    ∧ (∀ s : Scalar, (∀ x, s = .float x → x.isFinite = true) →
        ofJson s.toJson = s ∧ decode s.encode = .ok s)
    ∧ (∀ x : Binary64, x.isFinite = false → toJson (.float x) = .null ∧ encode (.float x) = .null)
    ∧ (∀ json : Json, json.isLeaf = true → decode json = .ok (ofJson json))
    ∧ (∀ (n : Int) (range : -0x8000000000000000 ≤ n ∧ n < 0x10000000000000000),
        0x8000000000000000 ≤ n → ∃ x : Binary64, x.IsNear n
          ∧ ofJson (.number (.int n range)) = .float x
          ∧ decode (.number (.int n range)) = .ok (.float x))
    ∧ ∀ json : Json, json.isLeaf = false →
        ofJson json = .text json.text ∧ decode json = .error (.noAlternative "Scalar") := by
  refine ⟨encode_eq_toJson, ?_, ?_, ?_, ?_, ?_⟩
  · intro s hfinite
    have hback := ofJson_toJson (isExpressible_iff.mpr hfinite)
    -- What a scalar is sent as has no parts.
    have hleaf : s.toJson.isLeaf = true := by
      cases s with
      | float x => rw [toJson, Json.ofBinary64, dif_pos (hfinite x rfl)]; rfl
      | _ => rfl
    exact ⟨hback, by rw [encode_eq_toJson, decode_of_isLeaf hleaf, hback]⟩
  · intro x hx
    have hnull : toJson (.float x) = .null := toJson_eq_null hx
    exact ⟨hnull, (encode_eq_toJson _).trans hnull⟩
  · intro json hleaf
    exact decode_of_isLeaf hleaf
  · intro n range hwide
    exact ⟨Binary64.ofInt n, Binary64.isNear_ofInt_of_wide hwide range.2,
      ofJson_int_of_wide hwide, decode_int_of_wide hwide⟩
  · intro json hparts
    exact ⟨ofJson_of_not_isLeaf hparts, decode_of_not_isLeaf hparts⟩

/-- Numbers at the borders: the negative zero keeps its sign, a double-precision one is no integer,
and the largest integer of all is no signed word. -/
theorem stored_as_sent_borders :
    let zero := Binary64.zero true
    let one : Json := .number (.float ⟨0x3FF0000000000000⟩ rfl)
    let largest : Json := .number (.int 0xFFFFFFFFFFFFFFFF (by omega))
    zero ≠ Binary64.zero false ∧ ofJson (toJson (.float zero)) = .float zero
      ∧ toJson (.float Binary64.nan) = .null
      ∧ decode one = .ok (.float ⟨0x3FF0000000000000⟩)
      ∧ (∃ x : Binary64, x.IsNear 0xFFFFFFFFFFFFFFFF ∧ decode largest = .ok (.float x))
      ∧ ofJson (.array [.null, .bool true]) = .text "[null,true]"
      ∧ decode (.object .empty) = .error (.noAlternative "Scalar") := by
  intro zero one largest
  obtain ⟨-, hback, hnull, hleaf, hwide, hparts⟩ := stored_as_sent
  have hzero : ∀ x, Scalar.float zero = .float x → x.isFinite = true := by
    intro x hx
    obtain rfl := Scalar.float.inj hx
    decide
  obtain ⟨x, hnear, -, hlargest⟩ := hwide 0xFFFFFFFFFFFFFFFF (by omega) (by omega)
  have htext : (Json.array [.null, .bool true]).text = "[null,true]" := by cbv
  exact ⟨by decide, (hback (.float zero) hzero).1, (hnull Binary64.nan (by decide)).1,
    hleaf one rfl, ⟨x, hnear, hlargest⟩, htext ▸ (hparts (.array _) rfl).1,
    (hparts (.object .empty) rfl).2⟩

end Scalar

end RecordQuery
