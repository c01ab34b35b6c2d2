import Listing.Json.Printer

namespace Listing

/-- The sum, or the largest word if it does not fit. -/
def saturatingAdd (a b : UInt64) : UInt64 :=
  UInt64.ofNat (min (a.toNat + b.toNat) (UInt64.size - 1))

def saturatingMul (a b : UInt64) : UInt64 :=
  UInt64.ofNat (min (a.toNat * b.toNat) (UInt64.size - 1))

theorem toNat_saturatingAdd (a b : UInt64) :
    (saturatingAdd a b).toNat = min (a.toNat + b.toNat) (UInt64.size - 1) := by
  simp only [saturatingAdd, UInt64.toNat_ofNat']
  exact Nat.mod_eq_of_lt (by simp only [UInt64.size]; omega)

theorem toNat_saturatingMul (a b : UInt64) :
    (saturatingMul a b).toNat = min (a.toNat * b.toNat) (UInt64.size - 1) := by
  simp only [saturatingMul, UInt64.toNat_ofNat']
  exact Nat.mod_eq_of_lt (by simp only [UInt64.size]; omega)

structure Page (α : Type) where
  content : List α
  totalElements : UInt64
  limit : UInt32
  offset : UInt64
  deriving Repr

namespace Page

variable {α β : Type}

def empty (limit : UInt32) (offset : UInt64) : Page α := ⟨[], 0, limit, offset⟩

def totalPages (p : Page α) : UInt64 :=
  if p.limit = 0 then 0
  else
    let size := p.limit.toUInt64
    if p.totalElements % size = 0 then p.totalElements / size else p.totalElements / size + 1

/-- The number of the page, the first one being page 0. -/
def currentPage (p : Page α) : UInt64 := if p.limit = 0 then 0 else p.offset / p.limit.toUInt64

def hasNext (p : Page α) : Bool :=
  p.limit ≠ 0 &&
    decide (saturatingMul (saturatingAdd p.currentPage 1) p.limit.toUInt64 < p.totalElements)

def hasPrevious (p : Page α) : Bool := decide (0 < p.currentPage)

def map (f : α → β) (p : Page α) : Page β := ⟨p.content.map f, p.totalElements, p.limit, p.offset⟩

def toJson (f : α → Json) (p : Page α) : Json :=
  .record [("content", .array (p.content.map f)), ("totalElements", .ofInt p.totalElements.toNat),
    ("limit", .ofInt p.limit.toNat), ("offset", .ofInt p.offset.toNat)]

end Page

end Listing
