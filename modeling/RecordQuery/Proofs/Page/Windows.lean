import Mathlib.Logic.ExistsUnique
import RecordQuery.Proofs.Page.Numbers

/-!
# Pages as windows on a result

A page asks for the rows from its offset on, as many as it has room for. The windows of the pages
cut a result into parts: each row lies in one of them, and none of them is empty up to the last page.
This holds for all words, also where an offset is beyond them and the largest one stands for it.

Words wrap, and a division by zero gives zero. The numbers of a page are computed once more with
operations that fail in these cases instead: they never fail.

## Main statements

* `PageRequest.covers_of_iff`: the page in whose window a row lies.
* `PageRequest.existsUnique_covers`: there is one such page.
* `Page.hasMore_answering_iff`: a page has more behind it iff its window ends before the result.
* `Page.offset?_eq`, `Page.last?_eq`, `Page.hasMore?_eq`: no step wraps or divides by zero.
* `Page.numbers_exact`: all together.
-/

namespace RecordQuery

namespace PageRequest

/-- The row at an index is among those that are asked for. -/
def Covers (request : PageRequest) (index : Nat) : Prop :=
  request.offset.toNat ≤ index ∧ index < request.offset.toNat + request.limit.toNat

variable {number perPage : UInt64} {index : Nat}

theorem covers_of_iff (hindex : index < UInt64.size - 1) :
    (of number perPage).Covers index
      ↔ max number.toNat 1 - 1 = index / max perPage.toNat 1 := by
  unfold Covers
  rw [toNat_offset_of, toNat_limit_of]
  have hroom : 0 < max perPage.toNat 1 := max_one_pos perPage.toNat
  generalize max perPage.toNat 1 = room at hroom ⊢
  generalize max number.toNat 1 - 1 = before
  constructor
  · -- The largest word covers no index below it, so the offset is exact.
    rintro ⟨hle, hlt⟩
    have hexact : min (before * room) (UInt64.size - 1) = before * room := by omega
    rw [hexact] at hle hlt
    exact (Nat.div_eq_of_lt_le hle (by rw [Nat.succ_mul]; exact hlt)).symm
  · intro hbefore
    have hle : before * room ≤ index := hbefore ▸ Nat.div_mul_le_self index room
    have hlt : index < before * room + room := hbefore ▸ Nat.lt_div_mul_add hroom
    have hexact : min (before * room) (UInt64.size - 1) = before * room := by omega
    rw [hexact]
    exact ⟨hle, hlt⟩

theorem existsUnique_covers (hindex : index < UInt64.size - 1) :
    ∃! number : UInt64, 1 ≤ number.toNat ∧ (of number perPage).Covers index := by
  obtain ⟨before, hbefore⟩ : ∃ before, index / max perPage.toNat 1 = before := ⟨_, rfl⟩
  have hle : before ≤ index := hbefore ▸ Nat.div_le_self index _
  have hnumber : (UInt64.ofNat (before + 1)).toNat = before + 1 :=
    UInt64.toNat_ofNat_of_lt' (by omega)
  refine ⟨UInt64.ofNat (before + 1), ⟨?_, ?_⟩, ?_⟩
  · rw [hnumber]
    omega
  · rw [covers_of_iff hindex, hnumber, hbefore]
    omega
  · rintro other ⟨hpos, hcovers⟩
    rw [covers_of_iff hindex, hbefore] at hcovers
    apply UInt64.toNat_inj.mp
    omega

end PageRequest

/-! ## Arithmetic that fails -/

namespace Word

/-- The difference, unless it is below zero. -/
def sub? (a b : UInt64) : Option UInt64 := if b ≤ a then some (a - b) else none

/-- The sum, unless no word holds it. -/
def add? (a b : UInt64) : Option UInt64 :=
  if a.toNat + b.toNat < UInt64.size then some (a + b) else none

/-- The quotient, unless the divisor is zero. -/
def div? (a b : UInt64) : Option UInt64 := if b = 0 then none else some (a / b)

/-- The remainder, unless the divisor is zero. -/
def mod? (a b : UInt64) : Option UInt64 := if b = 0 then none else some (a % b)

end Word

namespace Page

variable {α : Type}

/-- The offset, if no step of its computation fails. -/
def offset? (page : Page α) : Option UInt64 := do
  let before ← Word.sub? (max page.current 1) 1
  return saturatingMul before page.perPage

/-- The last page, if no step of its computation fails. -/
def last? (page : Page α) : Option UInt64 :=
  if page.perPage = 0 then some 1
  else do
    let full ← Word.div? page.total page.perPage
    let rest ← Word.mod? page.total page.perPage
    let pages ← if rest = 0 then some full else Word.add? full 1
    return max pages 1

def hasMore? (page : Page α) : Option Bool := do
  return decide (page.current < (← page.last?))

section Exact

variable (page : Page α)

theorem offset?_eq : page.offset? = some page.offset := by
  unfold offset? Word.sub?
  rw [if_pos (one_le_max_one page.current)]
  rfl

theorem last?_eq : page.last? = some page.last := by
  unfold last? last
  by_cases hroom : page.perPage = 0
  · rw [if_pos hroom, if_pos hroom]
  · rw [if_neg hroom, if_neg hroom]
    unfold Word.div? Word.mod?
    rw [if_neg hroom, if_neg hroom]
    show (do let pages ← if page.total % page.perPage = 0 then some (page.total / page.perPage)
                else Word.add? (page.total / page.perPage) 1
             return max pages 1) = _
    by_cases hrest : page.total % page.perPage = 0
    · rw [if_pos hrest, if_pos hrest, UInt64.add_zero]
      rfl
    · -- With a remainder there is a word above the quotient.
      have hpos : 0 < page.perPage.toNat :=
        Nat.pos_of_ne_zero fun hzero => hroom (UInt64.toNat_inj.mp hzero)
      have hrestNat : page.total.toNat % page.perPage.toNat ≠ 0 := by
        intro hzero
        rw [← UInt64.toNat_mod] at hzero
        exact hrest (UInt64.toNat_inj.mp hzero)
      have hlt := div_lt_of_mod_ne_zero hpos hrestNat
      have hbound := page.total.toNat_lt
      have hfits : (page.total / page.perPage).toNat + (1 : UInt64).toNat < UInt64.size := by
        rw [UInt64.toNat_div]
        show _ + 1 < 18446744073709551616
        omega
      rw [if_neg hrest, if_neg hrest, Word.add?, if_pos hfits]
      rfl

theorem hasMore?_eq : page.hasMore? = some page.hasMore := by
  unfold hasMore? hasMore
  rw [last?_eq]
  rfl

theorem one_le_last : 1 ≤ page.last := by
  unfold last
  split
  · exact UInt64.le_refl 1
  · exact one_le_max_one _

end Exact

/-! ## The numbers of a page -/

section Numbers

variable (number perPage total : UInt64) (items : List α)

theorem offset_answering :
    (answering (PageRequest.of number perPage) items total).offset
      = (PageRequest.of number perPage).offset := by
  have hone : max (max number 1) 1 = max number 1 := by
    apply UInt64.toNat_inj.mp
    rw [toNat_max_one, toNat_max_one]
    omega
  show saturatingMul (max (max number 1) 1 - 1) (max perPage 1) = _
  rw [hone]
  rfl

theorem toNat_last_answering :
    (answering (PageRequest.of number perPage) items total).last.toNat
      = pageCount total.toNat (max perPage.toNat 1) := by
  have hroom : (answering (PageRequest.of number perPage) items total).perPage.toNat
      = max perPage.toNat 1 := PageRequest.toNat_perPage_of number perPage
  rw [toNat_last (by rw [hroom]; omega), hroom]
  rfl

/-- An offset that is cut off at the largest word lies behind the result, as the exact one does. -/
theorem hasMore_answering_iff :
    (answering (PageRequest.of number perPage) items total).hasMore = true
      ↔ (PageRequest.of number perPage).offset.toNat + max perPage.toNat 1 < total.toNat := by
  have hcurrent : (answering (PageRequest.of number perPage) items total).current.toNat
      = max number.toNat 1 := PageRequest.toNat_page_of number perPage
  have hroom : 0 < max perPage.toNat 1 := max_one_pos perPage.toNat
  have hnumber : 0 < max number.toNat 1 := max_one_pos number.toNat
  have hbound : total.toNat < UInt64.size := total.toNat_lt
  rw [hasMore_iff, toNat_last_answering, hcurrent, PageRequest.toNat_offset_of,
    lt_pageCount_iff hnumber hroom]
  generalize max perPage.toNat 1 = room at hroom ⊢
  generalize max number.toNat 1 = current at hnumber ⊢
  have hsplit : current * room = (current - 1) * room + room := by
    rw [← Nat.succ_mul, Nat.succ_eq_add_one, Nat.sub_add_cancel hnumber]
  omega

variable {number perPage total items} {index : Nat}

theorem le_last_of_covers {other : UInt64} (hindex : index < total.toNat)
    (hcovers : (PageRequest.of other perPage).Covers index) :
    other ≤ (answering (PageRequest.of number perPage) items total).last := by
  have hbound : total.toNat < UInt64.size := total.toNat_lt
  have hroom : 0 < max perPage.toNat 1 := max_one_pos perPage.toNat
  have hlt : index / max perPage.toNat 1 < pageCount total.toNat (max perPage.toNat 1) := by
    rw [Nat.div_lt_iff_lt_mul hroom]
    exact Nat.lt_of_lt_of_le hindex (le_pageCount_mul total.toNat hroom)
  rw [← (PageRequest.covers_of_iff (by omega)).mp hcovers] at hlt
  rw [UInt64.le_iff_toNat_le, toNat_last_answering]
  omega

/-- The first row that a page asks for is there, up to the last page. -/
theorem exists_covers_of_le_last {other : UInt64} (htotal : 0 < total.toNat)
    (hlast : other ≤ (answering (PageRequest.of number perPage) items total).last) :
    ∃ index, index < total.toNat ∧ (PageRequest.of other perPage).Covers index := by
  have hbound : total.toNat < UInt64.size := total.toNat_lt
  have hroom : 0 < max perPage.toNat 1 := max_one_pos perPage.toNat
  rw [UInt64.le_iff_toNat_le, toNat_last_answering] at hlast
  have hfirst : (max other.toNat 1 - 1) * max perPage.toNat 1 < total.toNat := by
    rcases Nat.lt_or_ge 1 other.toNat with hmany | hone
    · rw [← lt_pageCount_iff (by omega) hroom]
      omega
    · rw [show max other.toNat 1 - 1 = 0 by omega, Nat.zero_mul]
      exact htotal
  refine ⟨_, hfirst, ?_⟩
  rw [PageRequest.covers_of_iff (by omega), Nat.mul_div_cancel _ hroom]

end Numbers

/-- The offset of a page, the last page and whether there are pages behind one are those of
unbounded numbers, but for an offset that is cut off at the largest word. Each row of a result is
asked for by one page, none behind the last one, and each page up to the last one asks for a row of
a result that has any. Whatever numbers a page holds, nothing wraps and nothing is divided by
zero. -/
theorem numbers_exact (number perPage total : UInt64) (items : List α) :
    let request := PageRequest.of number perPage
    let page := answering request items total
    let room := max perPage.toNat 1
    page.offset = request.offset
    ∧ request.offset.toNat = min ((max number.toNat 1 - 1) * room) (UInt64.size - 1)
    ∧ page.last.toNat = max 1 ((total.toNat + room - 1) / room)
    ∧ (page.hasMore = true ↔ request.offset.toNat + room < total.toNat)
    ∧ (∀ index, index < total.toNat →
        (∃! other : UInt64, 1 ≤ other.toNat ∧ (PageRequest.of other perPage).Covers index)
        ∧ ∀ other, (PageRequest.of other perPage).Covers index → other ≤ page.last)
    ∧ (0 < total.toNat → ∀ other, 1 ≤ other.toNat → other ≤ page.last →
        ∃ index, index < total.toNat ∧ (PageRequest.of other perPage).Covers index)
    ∧ ∀ raw : Page α, raw.offset? = some raw.offset ∧ raw.last? = some raw.last
        ∧ raw.hasMore? = some raw.hasMore ∧ 1 ≤ raw.last.toNat := by
  intro request page room
  refine ⟨offset_answering number perPage total items, PageRequest.toNat_offset_of number perPage,
    ?_, hasMore_answering_iff number perPage total items, ?_, ?_, ?_⟩
  · rw [toNat_last_answering, pageCount, Nat.max_comm]
  · intro index hindex
    have hbound : total.toNat < UInt64.size := total.toNat_lt
    exact ⟨PageRequest.existsUnique_covers (by omega), fun other => le_last_of_covers hindex⟩
  · intro htotal other _ hlast
    exact exists_covers_of_le_last htotal hlast
  · intro raw
    have hlast : 1 ≤ raw.last.toNat := UInt64.le_iff_toNat_le.mp (one_le_last raw)
    exact ⟨offset?_eq raw, last?_eq raw, hasMore?_eq raw, hlast⟩

end Page

end RecordQuery
