import Listing.Sql.Dialect

namespace Listing.Sql

theorem isNameStart_iff {c : Char} : isNameStart c = true ↔
    (97 ≤ c.toNat ∧ c.toNat ≤ 122) ∨ (65 ≤ c.toNat ∧ c.toNat ≤ 90) ∨ c.toNat = 95 := by
  have hu : c = '_' ↔ c.toNat = 95 := ⟨fun h ↦ h ▸ rfl, fun h ↦ Char.toNat_inj.1 h⟩
  simp only [isNameStart, Bool.or_eq_true, Bool.and_eq_true, decide_eq_true_eq, Char.le_def,
    UInt32.le_iff_toNat_le, hu, or_assoc]
  rfl

theorem isDigit_iff {c : Char} : c.isDigit = true ↔ 48 ≤ c.toNat ∧ c.toNat ≤ 57 := by
  simp only [Char.isDigit, Bool.and_eq_true, decide_eq_true_eq, UInt32.le_iff_toNat_le, ge_iff_le]
  rfl

theorem isDigit_of_mem_digits {n : Nat} : ∀ c ∈ Number.digits n, c.isDigit = true := by
  have hd := Number.isDigits_digits n
  rw [Number.isDigits, Bool.and_eq_true, List.all_eq_true] at hd
  exact hd.2

theorem digits_ne_nil (n : Nat) : Number.digits n ≠ [] := by
  have hd := Number.isDigits_digits n
  rw [Number.isDigits, Bool.and_eq_true] at hd
  intro he
  rw [he] at hd
  exact absurd hd.1 (by simp)

theorem isNameChar_iff {c : Char} : isNameChar c = true ↔
    isNameStart c = true ∨ (48 ≤ c.toNat ∧ c.toNat ≤ 57) := by
  rw [isNameChar, Bool.or_eq_true, isDigit_iff]

theorem isBlank_of_isNameChar {c : Char} (h : isNameChar c = true) : Text.isBlank c = false := by
  have h' := isNameChar_iff.1 h
  rw [isNameStart_iff] at h'
  simp only [Text.isBlank, Bool.or_eq_false_iff, Bool.and_eq_false_iff, decide_eq_false_iff_not,
    beq_eq_false_iff_ne]
  omega

theorem toNat_lt_of_isNameChar {c : Char} (h : isNameChar c = true) : c.toNat < 128 := by
  have h' := isNameChar_iff.1 h
  rw [isNameStart_iff] at h'
  omega

theorem isNameStart_of_isName_cons {c : Char} {w : List Char} (h : isName (c :: w) = true) :
    isNameStart c = true := (Bool.and_eq_true_iff.1 h).1

theorem isNameChar_of_isName {w : List Char} (h : isName w = true) :
    ∀ c ∈ w, isNameChar c = true := by
  cases w with
  | nil => exact fun _ hc ↦ nomatch hc
  | cons c w =>
    simp only [isName, Bool.and_eq_true, List.all_eq_true] at h
    intro c' hc'
    rcases List.mem_cons.1 hc' with rfl | hc'
    · rw [isNameChar, h.1, Bool.true_or]
    · exact h.2 c' hc'

theorem lowerAfter_of_isNameChar {w : List Char} (h : ∀ c ∈ w, isNameChar c = true)
    (before : List Char) : Text.lowerAfter before w = w.map Text.asciiLower := by
  induction w generalizing before with
  | nil => rfl
  | cons c w ih =>
    have hc := toNat_lt_of_isNameChar (h c List.mem_cons_self)
    have hs : c.toNat ≠ 0x3A3 := by omega
    rw [Text.lowerAfter, if_neg hs, Text.lowerChar, if_pos hc,
      ih (fun c' hc' ↦ h c' (List.mem_cons_of_mem c hc'))]
    rfl

theorem lower_of_isName {w : List Char} (h : isName w = true) :
    Text.lower (String.ofList w) = String.ofList (w.map Text.asciiLower) := by
  rw [Text.lower, String.toList_ofList, lowerAfter_of_isNameChar (isNameChar_of_isName h)]

end Listing.Sql
