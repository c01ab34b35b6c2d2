import Listing.Proofs.Atomicity
import Listing.Proofs.Integers

namespace Listing

open Number Text

namespace Number

theorem comma_notMem_integerDigits (k : Int) : ',' ∉ integerDigits k := by
  intro h
  have hn := toNat_of_mem_integerDigits h
  simp at hn

theorem integerDigits_of_neg {k : Int} (h : k < 0) :
    integerDigits k = '-' :: integerDigits (-k) := by
  have hk : ¬ -k < 0 := by omega
  rw [integerDigits, integerDigits, if_pos h, if_neg hk, Int.natAbs_neg]

theorem hyphen_notMem_integerDigits {k : Int} (h : 0 ≤ k) : '-' ∉ integerDigits k := by
  intro hm
  rw [integerDigits, if_neg (by omega)] at hm
  have hd := Sql.isDigit_of_mem_digits _ hm
  simp at hd

end Number

namespace Text

theorem replaceChar_append (c : Char) (r s t : List Char) :
    replaceChar c r (s ++ t) = replaceChar c r s ++ replaceChar c r t := by
  simp [replaceChar]

theorem replaceChar_of_notMem {c : Char} {s : List Char} (h : c ∉ s) (r : List Char) :
    replaceChar c r s = s := by
  induction s with
  | nil => rfl
  | cons d s ih =>
    simp only [List.mem_cons, not_or] at h
    have hd : replaceChar c r [d] = [d] := by simp [replaceChar, Ne.symm h.1]
    rw [← List.singleton_append, replaceChar_append, hd, ih h.2]

end Text

namespace Shorthand

theorem side_integerDigits (k : Int) : side (integerDigits k) = some (integerText k) := by
  have hs : nonBlank? (integerDigits k) = some (integerDigits k) :=
    nonBlank?_eq_some.2 ⟨trimBoth_integerDigits k, integerDigits_ne_nil k⟩
  rw [side, hs]
  rfl

def intervalText (lo hi : Int) : String := integerText lo ++ "," ++ integerText hi

theorem replaceChar_intervalText (lo hi : Int) :
    replaceChar ',' ['-'] (intervalText lo hi).toList =
      integerDigits lo ++ '-' :: integerDigits hi := by
  have hraw : (intervalText lo hi).toList = integerDigits lo ++ ([','] ++ integerDigits hi) := by
    simp [intervalText]
  have hcomma : replaceChar ',' ['-'] [','] = ['-'] := by simp [replaceChar]
  rw [hraw, replaceChar_append, replaceChar_append, hcomma,
    replaceChar_of_notMem (comma_notMem_integerDigits lo),
    replaceChar_of_notMem (comma_notMem_integerDigits hi)]
  rfl

variable {lo hi : Int}

theorem interval?_of_neg (h : lo < 0) :
    interval? (intervalText lo hi) = some (none, some (integerText (-lo))) := by
  have hlo : '-' ∉ integerDigits (-lo) := hyphen_notMem_integerDigits (by omega)
  rw [interval?, replaceChar_intervalText, integerDigits_of_neg h, List.cons_append, piecesAt_cons,
    if_pos rfl, piecesAt_append_cons hlo]
  simp only [side_integerDigits]
  rfl

theorem interval?_of_nonneg_of_neg (hlo : 0 ≤ lo) (hhi : hi < 0) :
    interval? (intervalText lo hi) = some (some (integerText lo), none) := by
  rw [interval?, replaceChar_intervalText, piecesAt_append_cons (hyphen_notMem_integerDigits hlo),
    integerDigits_of_neg hhi, piecesAt_cons, if_pos rfl]
  simp only [side_integerDigits]
  rfl

theorem interval?_of_nonneg (hlo : 0 ≤ lo) (hhi : 0 ≤ hi) :
    interval? (intervalText lo hi) = some (some (integerText lo), some (integerText hi)) := by
  rw [interval?, replaceChar_intervalText, piecesAt_append_cons (hyphen_notMem_integerDigits hlo),
    piecesAt_of_notMem (hyphen_notMem_integerDigits hhi)]
  simp only [side_integerDigits]

end Shorthand

open Shorthand

namespace Filter

variable {f : Filter}

theorem emits_interval (hk : f.kind = .interval) {raw : String} {lo hi : Option String}
    (h : interval? raw = some (lo, hi)) :
    f.Emits raw (f.sides (lo.map .string, hi.map .string)) := by
  rw [emits_iff (by rw [hk]; rfl)]
  simp [predicates, hk, h]

/-- Both bounds are kept if neither is negative. The sign of a lower bound parts its digits from the
rest, and they become the upper bound; the sign of an upper bound leaves nothing of it. -/
theorem interval_keeps_bounds_iff (hk : f.kind = .interval) (lo hi : Int) :
    (f.Emits (intervalText lo hi) [f.own .greaterOrEqual (.string (integerText lo)),
        f.own .lessOrEqual (.string (integerText hi))] ↔ 0 ≤ lo ∧ 0 ≤ hi) ∧
    (lo < 0 →
      f.Emits (intervalText lo hi) [f.own .lessOrEqual (.string (integerText (-lo)))]) ∧
    (0 ≤ lo → hi < 0 →
      f.Emits (intervalText lo hi) [f.own .greaterOrEqual (.string (integerText lo))]) := by
  have hlower (h : lo < 0) :
      f.Emits (intervalText lo hi) [f.own .lessOrEqual (.string (integerText (-lo)))] :=
    emits_interval hk (interval?_of_neg h)
  have hupper (hlo : 0 ≤ lo) (hhi : hi < 0) :
      f.Emits (intervalText lo hi) [f.own .greaterOrEqual (.string (integerText lo))] :=
    emits_interval hk (interval?_of_nonneg_of_neg hlo hhi)
  refine ⟨⟨fun h ↦ ?_, fun h ↦ ?_⟩, hlower, hupper⟩
  · by_contra hn
    obtain ⟨p, hp⟩ : ∃ p, f.Emits (intervalText lo hi) [p] := by
      by_cases hlo : lo < 0
      · exact ⟨_, hlower hlo⟩
      · exact ⟨_, hupper (by omega) (by omega)⟩
    have heq := h.predicates_eq.symm.trans hp.predicates_eq
    simp at heq
  · exact emits_interval hk (interval?_of_nonneg h.1 h.2)

theorem interval_keeps_bounds_iff_around_zero :
    let f : Filter := { param := "price", internalName := "cost", kind := .interval }
    f.Emits "0,65" [.and "cost" .greaterOrEqual (.string "0"),
      .and "cost" .lessOrEqual (.string "65")] ∧
    f.Emits "-20,-10" [.and "cost" .lessOrEqual (.string "20")] ∧
    f.Emits "5,-3" [.and "cost" .greaterOrEqual (.string "5")] := by
  intro f
  obtain ⟨hboth, -, -⟩ := interval_keeps_bounds_iff (f := f) rfl 0 65
  obtain ⟨-, hlower, -⟩ := interval_keeps_bounds_iff (f := f) rfl (-20) (-10)
  obtain ⟨-, -, hupper⟩ := interval_keeps_bounds_iff (f := f) rfl 5 (-3)
  exact ⟨hboth.2 (by decide), hlower (by decide), hupper (by decide) (by decide)⟩

/-- At least −5 and at most 10 is read as at most 5. -/
theorem negative_lower_bound_is_lost :
    let f : Filter := .ofKind "price" .interval
    intervalText (-5) 10 = "-5,10" ∧
    f.predicates (intervalText (-5) 10) = .ok [.and "price" .lessOrEqual (.string "5")] ∧
    f.predicates (intervalText (-5) 10) ≠
      .ok [.and "price" .greaterOrEqual (.string (integerText (-5))),
        .and "price" .lessOrEqual (.string (integerText 10))] := by
  intro f
  have hraw : intervalText (-5) 10 = "-5,10" := by decide
  have hp : f.predicates "-5,10" = .ok [.and "price" .lessOrEqual (.string "5")] := by rfl
  rw [hraw, hp]
  exact ⟨rfl, rfl, by simp⟩

end Filter

end Listing
