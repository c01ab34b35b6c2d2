import Listing.Body
import Listing.Proofs.Json.RoundTrip

namespace Listing.Json

open Number

/-- The form without quotes that a text has. -/
inductive IsBare : String → Json → Prop
  | number {n : Int} (hlo : Int64.minValue.toInt ≤ n) (hhi : n ≤ maxNatural) :
    IsBare (integerText n) (.ofInt n)
  | truth (b : Bool) : IsBare (if b then "true" else "false") (.bool b)

def bare? (s : String) : Option Json :=
  if s = "true" then some (.bool true)
  else if s = "false" then some (.bool false)
  else match integer? s.toList with
    | some n =>
      if integerText n = s ∧ Int64.minValue.toInt ≤ n ∧ n ≤ maxNatural then some (.ofInt n)
      else none
    | none => none

def written (bare : Bool) (value : Option String) : Json :=
  if bare then (value.bind bare?).getD (optionalText value) else optionalText value

theorem integer?_integerText (n : Int) : integer? (integerText n).toList = some n := by
  rw [integerText, String.toList_ofList, integer?_integerDigits]

theorem bare?_eq_some_iff {s : String} {j : Json} : bare? s = some j ↔ IsBare s j := by
  constructor
  · intro h
    unfold bare? at h
    split at h
    next hs =>
      cases h
      rw [hs]
      exact .truth true
    next =>
      split at h
      next hs =>
        cases h
        rw [hs]
        exact .truth false
      next =>
        split at h
        next n _ =>
          split at h
          next hn =>
            cases h
            rw [← hn.1]
            exact .number hn.2.1 hn.2.2
          next => cases h
        next => cases h
  · intro h
    cases h with
    | truth b => cases b <;> simp [bare?]
    | @number n hlo hhi =>
      have hi := integer?_integerText n
      have htrue : integerText n ≠ "true" := by
        intro h
        rw [h] at hi
        cases hi
      have hfalse : integerText n ≠ "false" := by
        intro h
        rw [h] at hi
        cases hi
      rw [bare?, if_neg htrue, if_neg hfalse, hi]
      exact if_pos ⟨rfl, hlo, hhi⟩

theorem written_eq_or_isBare (bare : Bool) (value : Option String) :
    written bare value = optionalText value ∨
      ∃ s, value = some s ∧ IsBare s (written bare value) := by
  cases bare with
  | false => exact .inl rfl
  | true =>
    cases value with
    | none => exact .inl rfl
    | some s =>
      cases h : bare? s with
      | none => exact .inl (by simp [written, h])
      | some j =>
        refine .inr ⟨s, rfl, ?_⟩
        simpa [written, h] using bare?_eq_some_iff.1 h

theorem digits_eq_of_head? {n : ℕ} (h : (digits n).head? = some '0') : digits n = ['0'] := by
  induction n using Nat.strongRecOn with
  | _ n ih =>
    by_cases hn : n < 10
    · rw [digits, Nat.toDigits_of_lt_base hn] at h ⊢
      simpa using h
    · have hd : digits n = digits (n / 10) ++ digits (n % 10) := by
        have ha := Nat.toDigits_append_toDigits (b := 10) (n := n / 10) (d := n % 10) (by decide)
          (by omega) (by omega)
        rw [digits, digits, digits, ha, Nat.div_add_mod]
      rw [hd, List.head?_append_of_ne_nil _ (ne_nil_of_isDigits (isDigits_digits _))] at h
      have hz := ih (n / 10) (by omega) h
      have hq := ofDigits_digits (n / 10)
      rw [hz] at hq
      have : n / 10 = 0 := hq.symm
      omega

theorem wellFormed_ofInt (n : Int) : (ofInt n).WellFormed :=
  .number ⟨isDigits_digits _, digits_eq_of_head?, nofun, nofun⟩

theorem numberValue?_ofInt {n : Int} (hlo : Int64.minValue.toInt ≤ n) (hhi : n ≤ maxNatural) :
    numberValue? ⟨decide (n < 0), digits n.natAbs, none, none⟩ = some (.whole n) := by
  by_cases h : n < 0
  · have hpos : n.natAbs ≠ 0 := by omega
    have hle : n.natAbs ≤ Nat.pow 2 63 := by
      change (-9223372036854775808 : Int) ≤ n at hlo
      change n.natAbs ≤ 9223372036854775808
      omega
    have habs : -(n.natAbs : Int) = n := by omega
    rw [numberValue?, ofDigits_digits]
    simp only [h, hpos, hle, habs, decide_true, if_true, if_false]
  · have hle : n.natAbs ≤ maxNatural := by omega
    have habs : (n.natAbs : Int) = n := by omega
    rw [numberValue?, ofDigits_digits]
    simp only [h, hle, habs, decide_false, if_true, if_false, Bool.false_eq_true]

theorem wellFormed_optionalText (s : Option String) : (optionalText s).WellFormed := by
  cases s with
  | none => exact .null
  | some s => exact .text s

theorem IsBare.wellFormed {s : String} {j : Json} (h : IsBare s j) : j.WellFormed := by
  cases h with
  | number hlo hhi => exact wellFormed_ofInt _
  | truth b => exact .bool b

theorem wellFormed_written (bare : Bool) (value : Option String) :
    (written bare value).WellFormed := by
  rcases written_eq_or_isBare bare value with h | ⟨s, -, h⟩
  · rw [h]
    exact wellFormed_optionalText value
  · exact h.wellFormed

end Listing.Json

namespace Listing.Body

open Json

theorem scalar?_optionalText (s : Option String) : scalar? (optionalText s) = some s := by
  cases s <;> rfl

theorem scalar?_of_isBare {s : String} {j : Json} (h : IsBare s j) : scalar? j = some (some s) := by
  cases h with
  | truth b => cases b <;> rfl
  | number hlo hhi =>
    rw [ofInt, scalar?, numberValue?_ofInt hlo hhi]
    rfl

theorem scalar?_written (bare : Bool) (value : Option String) :
    scalar? (written bare value) = some value := by
  rcases written_eq_or_isBare bare value with h | ⟨s, rfl, h⟩
  · rw [h, scalar?_optionalText]
  · exact scalar?_of_isBare h

end Listing.Body
