import Listing.Page
import Mathlib.Data.Rat.Floor

namespace Listing

section Words

variable {a b c t : UInt64}

theorem saturatingMul_lt_iff : saturatingMul a b < t ↔ a.toNat * b.toNat < t.toNat := by
  have ht : t.toNat < UInt64.size := t.toNat_lt
  rw [UInt64.lt_iff_toNat_lt, toNat_saturatingMul]
  omega

/-- A sum that stops at the largest word is still too large when it is multiplied. -/
theorem saturatingMul_saturatingAdd_lt_iff (hc : c ≠ 0) :
    saturatingMul (saturatingAdd a b) c < t ↔ (a.toNat + b.toNat) * c.toNat < t.toNat := by
  have hc : 0 < c.toNat := UInt64.lt_iff_toNat_lt.1 (UInt64.pos_iff_ne_zero.2 hc)
  have ht : t.toNat ≤ UInt64.size - 1 := Nat.le_pred_of_lt t.toNat_lt
  rw [saturatingMul_lt_iff, toNat_saturatingAdd]
  rcases le_total (a.toNat + b.toNat) (UInt64.size - 1) with h | h
  · rw [min_eq_left h]
  · have hmax : t.toNat ≤ (UInt64.size - 1) * c.toNat := ht.trans (Nat.le_mul_of_pos_right _ hc)
    have hsum : t.toNat ≤ (a.toNat + b.toNat) * c.toNat :=
      hmax.trans (Nat.mul_le_mul_right _ h)
    rw [min_eq_right h]
    exact iff_of_false hmax.not_gt hsum.not_gt

end Words

namespace Page

variable {α : Type} {p : Page α}

theorem toNat_limit_pos (h : p.limit ≠ 0) : 0 < p.limit.toNat := by
  rw [Nat.pos_iff_ne_zero]
  exact fun h0 ↦ h (UInt32.toNat_inj.1 h0)

theorem toUInt64_limit_ne_zero (h : p.limit ≠ 0) : p.limit.toUInt64 ≠ 0 := by
  intro h0
  have hn := congrArg UInt64.toNat h0
  rw [UInt32.toNat_toUInt64] at hn
  exact (toNat_limit_pos h).ne' hn

theorem toNat_currentPage (p : Page α) :
    p.currentPage.toNat = p.offset.toNat / p.limit.toNat := by
  unfold currentPage
  split
  next h => simp [h]
  next => rw [UInt64.toNat_div, UInt32.toNat_toUInt64]

theorem toNat_totalPages_eq (h : p.limit ≠ 0) : p.totalPages.toNat =
    if p.totalElements.toNat % p.limit.toNat = 0 then p.totalElements.toNat / p.limit.toNat
    else p.totalElements.toNat / p.limit.toNat + 1 := by
  have hquotient : (p.totalElements / p.limit.toUInt64).toNat =
      p.totalElements.toNat / p.limit.toNat := by
    rw [UInt64.toNat_div, UInt32.toNat_toUInt64]
  have hremainder : p.totalElements % p.limit.toUInt64 = 0 ↔
      p.totalElements.toNat % p.limit.toNat = 0 := by
    rw [← UInt64.toNat_inj, UInt64.toNat_mod, UInt32.toNat_toUInt64, UInt64.toNat_zero]
  unfold totalPages
  simp only [if_neg h, hremainder]
  split
  next => exact hquotient
  next hr =>
    have htwo : 2 ≤ p.limit.toNat := by
      have hpos := toNat_limit_pos h
      have hone : p.limit.toNat ≠ 1 := fun h1 ↦ hr (by rw [h1, Nat.mod_one])
      omega
    have hle : p.totalElements.toNat / p.limit.toNat ≤ p.totalElements.toNat / 2 :=
      Nat.div_le_div_left htwo Nat.zero_lt_two
    have hlt := p.totalElements.toNat_lt
    rw [UInt64.toNat_add, hquotient]
    exact Nat.mod_eq_of_lt (by simp only [UInt64.toNat_one]; omega)

theorem toNat_totalPages_le_iff (h : p.limit ≠ 0) {n : ℕ} :
    p.totalPages.toNat ≤ n ↔ p.totalElements.toNat ≤ n * p.limit.toNat := by
  have hl := toNat_limit_pos h
  rw [toNat_totalPages_eq h]
  split
  next hr =>
    rw [← Nat.mul_le_mul_right_iff hl, Nat.div_mul_cancel (Nat.dvd_of_mod_eq_zero hr)]
  next hr =>
    have hne : p.totalElements.toNat ≠ n * p.limit.toNat := fun he ↦
      hr (by rw [he, Nat.mul_mod_left])
    rw [Nat.succ_le_iff, Nat.div_lt_iff_lt_mul hl, le_iff_lt_or_eq, or_iff_left hne]

theorem toNat_totalPages (h : p.limit ≠ 0) :
    p.totalPages.toNat = ⌈(p.totalElements.toNat : ℚ) / p.limit.toNat⌉₊ := by
  have hl : (0 : ℚ) < p.limit.toNat := Nat.cast_pos.2 (toNat_limit_pos h)
  refine eq_of_forall_ge_iff fun n ↦ ?_
  rw [toNat_totalPages_le_iff h, Nat.ceil_le, div_le_iff₀ hl]
  exact_mod_cast Iff.rfl

theorem hasNext_iff (h : p.limit ≠ 0) : p.hasNext = true ↔
    (p.currentPage.toNat + 1) * p.limit.toNat < p.totalElements.toNat := by
  have hs := saturatingMul_saturatingAdd_lt_iff (a := p.currentPage) (b := 1)
    (t := p.totalElements) (toUInt64_limit_ne_zero h)
  rw [UInt32.toNat_toUInt64] at hs
  simp [hasNext, h, hs]

theorem hasPrevious_iff (h : p.limit ≠ 0) :
    p.hasPrevious = true ↔ p.limit.toNat ≤ p.offset.toNat := by
  rw [hasPrevious, decide_eq_true_iff, UInt64.lt_iff_toNat_lt, toNat_currentPage]
  exact Nat.div_pos_iff.trans (and_iff_right (toNat_limit_pos h))

theorem hasNext_iff_lt_totalPages (h : p.limit ≠ 0) :
    p.hasNext = true ↔ p.currentPage.toNat + 1 < p.totalPages.toNat := by
  rw [hasNext_iff h, ← not_le, ← not_le, toNat_totalPages_le_iff h]

theorem hasNext_iff_of_dvd (h : p.limit ≠ 0) (hd : p.limit.toNat ∣ p.offset.toNat) :
    p.hasNext = true ↔ p.offset.toNat + p.limit.toNat < p.totalElements.toNat := by
  rw [hasNext_iff h, toNat_currentPage, Nat.add_one_mul, Nat.div_mul_cancel hd]

def divMod? (a b : UInt64) : Option (UInt64 × UInt64) :=
  if b = 0 then none else some (a / b, a % b)

/-- The number of pages, with divisions that can fail. -/
def totalPages? (p : Page α) : Option UInt64 :=
  if p.limit = 0 then some 0
  else (divMod? p.totalElements p.limit.toUInt64).map fun (n, r) ↦ if r = 0 then n else n + 1

def currentPage? (p : Page α) : Option UInt64 :=
  if p.limit = 0 then some 0 else (divMod? p.offset p.limit.toUInt64).map Prod.fst

def hasNext? (p : Page α) : Option Bool :=
  if p.limit = 0 then some false
  else p.currentPage?.map fun n ↦
    decide (saturatingMul (saturatingAdd n 1) p.limit.toUInt64 < p.totalElements)

def hasPrevious? (p : Page α) : Option Bool := p.currentPage?.map fun n ↦ decide (0 < n)

theorem divMod?_limit (h : p.limit ≠ 0) (a : UInt64) : divMod? a p.limit.toUInt64 =
    some (a / p.limit.toUInt64, a % p.limit.toUInt64) := if_neg (toUInt64_limit_ne_zero h)

theorem totalPages?_eq (p : Page α) : p.totalPages? = some p.totalPages := by
  unfold totalPages? totalPages
  split
  next => rfl
  next h =>
    rw [divMod?_limit h]
    rfl

theorem currentPage?_eq (p : Page α) : p.currentPage? = some p.currentPage := by
  unfold currentPage? currentPage
  split
  next => rfl
  next h =>
    rw [divMod?_limit h]
    rfl

theorem hasNext?_eq (p : Page α) : p.hasNext? = some p.hasNext := by
  rw [hasNext?, hasNext, currentPage?_eq]
  split
  next h => simp [h]
  next h => simp [h]

theorem hasPrevious?_eq (p : Page α) : p.hasPrevious? = some p.hasPrevious := by
  rw [hasPrevious?, currentPage?_eq]
  rfl

/-- The pages, and those around this one, are those that numbers without bounds give. A limit of
zero leaves no pages, and no division is by zero. -/
theorem navigation_exact (p : Page α) :
    (p.limit ≠ 0 →
      p.totalPages.toNat = ⌈(p.totalElements.toNat : ℚ) / p.limit.toNat⌉₊ ∧
      p.currentPage.toNat = p.offset.toNat / p.limit.toNat ∧
      (p.hasNext = true ↔ p.currentPage.toNat + 1 < p.totalPages.toNat) ∧
      (p.hasNext = true ↔
        (p.currentPage.toNat + 1) * p.limit.toNat < p.totalElements.toNat) ∧
      (p.hasPrevious = true ↔ p.limit.toNat ≤ p.offset.toNat) ∧
      (p.limit.toNat ∣ p.offset.toNat →
        (p.hasNext = true ↔ p.offset.toNat + p.limit.toNat < p.totalElements.toNat))) ∧
    (p.limit = 0 →
      p.totalPages = 0 ∧ p.currentPage = 0 ∧ p.hasNext = false ∧ p.hasPrevious = false) ∧
    p.totalPages? = some p.totalPages ∧ p.currentPage? = some p.currentPage ∧
    p.hasNext? = some p.hasNext ∧ p.hasPrevious? = some p.hasPrevious := by
  refine ⟨fun h ↦ ?_, fun h ↦ ?_, totalPages?_eq p, currentPage?_eq p, hasNext?_eq p,
    hasPrevious?_eq p⟩
  · exact ⟨toNat_totalPages h, toNat_currentPage p, hasNext_iff_lt_totalPages h, hasNext_iff h,
      hasPrevious_iff h, hasNext_iff_of_dvd h⟩
  · simp [totalPages, currentPage, hasNext, hasPrevious, h]

theorem navigation_exact_at_the_largest_words :
    let last : Page Unit := ⟨[], 18446744073709551615, 4294967295, 18446744069414584320⟩
    let single : Page Unit := ⟨[], 18446744073709551615, 1, 18446744073709551615⟩
    let zero : Page Unit := ⟨[], 95, 0, 30⟩
    last.totalPages.toNat = ⌈(18446744073709551615 : ℚ) / 4294967295⌉₊ ∧
    last.hasNext = false ∧ last.hasPrevious = true ∧
    single.hasNext = false ∧ zero.totalPages = 0 ∧ zero.hasNext = false := by
  intro last single zero
  obtain ⟨hpages, -, -, -, hprevious, hnext⟩ := (navigation_exact last).1 (by decide)
  obtain ⟨-, -, -, hsingle, -⟩ := (navigation_exact single).1 (by decide)
  obtain ⟨hpagesZero, -, hnextZero, -⟩ := (navigation_exact zero).2.1 rfl
  have hnext := hnext (by decide)
  refine ⟨?_, ?_, hprevious.2 (by decide), ?_, hpagesZero, hnextZero⟩
  · exact_mod_cast hpages
  · rw [← Bool.not_eq_true, hnext]
    decide
  · rw [← Bool.not_eq_true, hsingle]
    decide

end Page

end Listing
