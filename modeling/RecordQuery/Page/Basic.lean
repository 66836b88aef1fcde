/-!
# Pages

A result is read in pages counted from one. A `PageRequest` never asks for page zero or for pages
without rows; a `Page` carries the rows of one page with the size of the whole result. Counts are
unsigned words of 64 bits, and an offset beyond them is the largest one.
-/

namespace RecordQuery

/-- The product of two words, or the largest word if it does not fit. -/
def saturatingMul (a b : UInt64) : UInt64 := UInt64.ofNatClamp (a.toNat * b.toNat)

theorem toNat_saturatingMul (a b : UInt64) :
    (saturatingMul a b).toNat = min (a.toNat * b.toNat) (UInt64.size - 1) := by
  simp only [saturatingMul, UInt64.ofNatClamp]
  split
  · rename_i h
    simp only [UInt64.size] at h
    simp only [UInt64.toNat_ofNatLT, UInt64.size]
    omega
  · rename_i h
    simp only [UInt64.size] at h
    simp only [UInt64.toNat_ofNatLT, UInt64.size]
    omega

/-- A request for one page of a result. -/
structure PageRequest where
  page : UInt64
  perPage : UInt64
deriving DecidableEq, Repr

namespace PageRequest

/-- The request for a page; zero counts as one in both places. -/
def of (page perPage : UInt64) : PageRequest := ⟨max page 1, max perPage 1⟩

def offset (request : PageRequest) : UInt64 := saturatingMul (request.page - 1) request.perPage

def limit (request : PageRequest) : UInt64 := request.perPage

end PageRequest

/-- One page of a result, with the size of the whole. -/
structure Page (α : Type) where
  items : List α
  total : UInt64
  perPage : UInt64
  current : UInt64

namespace Page

def answering (request : PageRequest) (items : List α) (total : UInt64) : Page α :=
  ⟨items, total, request.perPage, request.page⟩

def count (page : Page α) : Nat := page.items.length

/-- How many rows come before the page; page zero counts as the first. -/
def offset (page : Page α) : UInt64 := saturatingMul (max page.current 1 - 1) page.perPage

/-- The number of the last page: at least one, also of an empty result and of pages without room. -/
def last (page : Page α) : UInt64 :=
  if page.perPage = 0 then 1
  else max (page.total / page.perPage + if page.total % page.perPage = 0 then 0 else 1) 1

def hasMore (page : Page α) : Bool := page.current < page.last

def isFirst (page : Page α) : Bool := page.current ≤ 1

/-- The page has no items. -/
def isEmpty (page : Page α) : Bool := page.items.isEmpty

end Page

end RecordQuery
