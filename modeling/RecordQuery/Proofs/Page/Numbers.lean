import RecordQuery.Page.Basic

/-!
# The numbers of a page, as natural numbers

Page numbers, offsets and counts are words of 64 bits, computed with clamping and saturation. Here
they are said without words.

## Main statements

* `PageRequest.toNat_limit_of`, `PageRequest.toNat_offset_of`: the window that a page asks for.
* `le_pageCount_mul`, `lt_pageCount_iff`: there are just enough pages.
* `Page.toNat_last`: the last page is the number of pages.
* `Page.hasMore_iff`: when there are pages behind one.
-/

namespace RecordQuery

theorem max_one_pos (n : Nat) : 0 < max n 1 := Nat.lt_of_lt_of_le Nat.one_pos (Nat.le_max_right n 1)

theorem toNat_max (a b : UInt64) : (max a b).toNat = max a.toNat b.toNat := by
  show (if a ≤ b then b else a).toNat = max a.toNat b.toNat
  split
  · rename_i hle
    have hle := UInt64.le_iff_toNat_le.mp hle
    omega
  · rename_i hlt
    rw [UInt64.le_iff_toNat_le] at hlt
    omega

theorem toNat_max_one (a : UInt64) : (max a 1).toNat = max a.toNat 1 := toNat_max a 1

theorem one_le_max_one (a : UInt64) : 1 ≤ max a 1 := by
  rw [UInt64.le_iff_toNat_le, toNat_max_one]
  exact Nat.le_max_right a.toNat 1

namespace PageRequest

@[simp] theorem toNat_page_of (page perPage : UInt64) :
    (of page perPage).page.toNat = max page.toNat 1 := toNat_max_one page

@[simp] theorem toNat_perPage_of (page perPage : UInt64) :
    (of page perPage).perPage.toNat = max perPage.toNat 1 := toNat_max_one perPage

@[simp] theorem toNat_limit_of (page perPage : UInt64) :
    (of page perPage).limit.toNat = max perPage.toNat 1 := toNat_max_one perPage

/-- All rows of the pages in front; the largest word stands for what is beyond it. -/
theorem toNat_offset_of (page perPage : UInt64) :
    (of page perPage).offset.toNat
      = min ((max page.toNat 1 - 1) * max perPage.toNat 1) (UInt64.size - 1) := by
  have hbefore : ((of page perPage).page - 1).toNat = max page.toNat 1 - 1 := by
    rw [show (of page perPage).page = max page 1 from rfl,
      UInt64.toNat_sub_of_le _ _ (one_le_max_one page), toNat_max_one]
    rfl
  rw [offset, toNat_saturatingMul, hbefore, toNat_perPage_of]

end PageRequest

/-! ## How many pages there are -/

/-- The number of pages that so many rows make; no rows make one page. -/
def pageCount (size perPage : Nat) : Nat := max ((size + perPage - 1) / perPage) 1

theorem pageCount_pos (size perPage : Nat) : 0 < pageCount size perPage := max_one_pos _

/-- Rounding a quotient up adds one to it if there is a remainder. -/
theorem ceilDiv_eq_div_add {n d : Nat} (h : 0 < d) :
    (n + d - 1) / d = n / d + if n % d = 0 then 0 else 1 := by
  have hsplit : d * (n / d) + n % d = n := Nat.div_add_mod n d
  split
  · rename_i hzero
    have hsum : n + d - 1 = d * (n / d) + (d - 1) := by omega
    rw [hsum, Nat.mul_add_div h, Nat.div_eq_of_lt (show d - 1 < d by omega)]
  · rename_i hrest
    have hsmall : n % d < d := Nat.mod_lt n h
    have hsum : n + d - 1 = d * (n / d + 1) + (n % d - 1) := by
      rw [Nat.mul_succ]
      omega
    rw [hsum, Nat.mul_add_div h, Nat.div_eq_of_lt (show n % d - 1 < d by omega), Nat.add_zero]

/-- A remainder leaves room above the quotient. -/
theorem div_lt_of_mod_ne_zero {n d : Nat} (h : 0 < d) (hrest : n % d ≠ 0) : n / d < n := by
  have hsplit := Nat.div_add_mod n d
  have hle := Nat.le_mul_of_pos_left (n / d) h
  omega

/-- The pages have room for all rows. -/
theorem le_pageCount_mul (size : Nat) {perPage : Nat} (h : 0 < perPage) :
    size ≤ pageCount size perPage * perPage := by
  have hsplit := Nat.div_add_mod (size + perPage - 1) perPage
  have hsmall := Nat.mod_lt (size + perPage - 1) h
  have hceil : size ≤ (size + perPage - 1) / perPage * perPage := by
    rw [Nat.mul_comm]
    omega
  exact Nat.le_trans hceil (Nat.mul_le_mul_right perPage (Nat.le_max_left _ _))

/-- There are more than so many pages iff the rows fill these and go on. -/
theorem lt_pageCount_iff {k size perPage : Nat} (hk : 0 < k) (h : 0 < perPage) :
    k < pageCount size perPage ↔ k * perPage < size := by
  constructor
  · intro hlt
    have hle : k + 1 ≤ (size + perPage - 1) / perPage := by
      unfold pageCount at hlt
      omega
    have hmul := Nat.mul_le_of_le_div perPage (k + 1) (size + perPage - 1) hle
    rw [Nat.succ_mul] at hmul
    omega
  · intro hlt
    exact Nat.lt_of_mul_lt_mul_right (Nat.lt_of_lt_of_le hlt (le_pageCount_mul size h))

/-- The pages in front of one of them are full. -/
theorem mul_le_of_lt_pageCount {k size perPage : Nat} (hlt : k < pageCount size perPage) :
    k * perPage ≤ size := by
  rcases Nat.eq_zero_or_pos k with rfl | hk
  · rw [Nat.zero_mul]
    exact Nat.zero_le size
  rcases Nat.eq_zero_or_pos perPage with rfl | hroom
  · rw [Nat.mul_zero]
    exact Nat.zero_le size
  · exact Nat.le_of_lt ((lt_pageCount_iff hk hroom).mp hlt)

namespace Page

variable {α : Type} {page : Page α}

/-- Full pages, and one more if there is a remainder. -/
theorem toNat_last (h : 0 < page.perPage.toNat) :
    page.last.toNat = pageCount page.total.toNat page.perPage.toNat := by
  have hroom : page.perPage ≠ 0 := by
    rintro hzero
    rw [hzero] at h
    exact absurd h (by decide)
  have hzero : page.total % page.perPage = 0 ↔ page.total.toNat % page.perPage.toNat = 0 := by
    rw [← UInt64.toNat_inj, UInt64.toNat_mod]
    rfl
  have hceil : (page.total / page.perPage + if page.total % page.perPage = 0 then 0 else 1).toNat
      = (page.total.toNat + page.perPage.toNat - 1) / page.perPage.toNat := by
    rw [ceilDiv_eq_div_add h]
    by_cases hrest : page.total.toNat % page.perPage.toNat = 0
    · rw [if_pos hrest, if_pos (hzero.mpr hrest), UInt64.add_zero, UInt64.toNat_div, Nat.add_zero]
    · have hlt := div_lt_of_mod_ne_zero h hrest
      have hbound := page.total.toNat_lt
      rw [if_neg hrest, if_neg (mt hzero.mp hrest), UInt64.toNat_add, UInt64.toNat_div]
      exact Nat.mod_eq_of_lt (Nat.lt_of_le_of_lt hlt hbound)
  rw [last, if_neg hroom, toNat_max_one, hceil, pageCount]

theorem hasMore_iff : page.hasMore = true ↔ page.current.toNat < page.last.toNat := by
  rw [hasMore, decide_eq_true_iff, UInt64.lt_iff_toNat_lt]

end Page

end RecordQuery
