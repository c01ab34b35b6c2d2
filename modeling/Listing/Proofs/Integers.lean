import Listing.Proofs.Comparison
import Listing.Proofs.Literals

namespace Listing

namespace Number

theorem signedNumeral_integerDigits (k : Int) : SignedNumeral (integerDigits k) k := by
  have hn := numeral_ofDigits (isDigits_digits k.natAbs)
  rw [ofDigits_digits] at hn
  rw [integerDigits]
  split
  next h =>
    have hk := SignedNumeral.negative hn
    rwa [Int.ofNat_natAbs_of_nonpos (Int.le_of_lt h), Int.neg_neg] at hk
  next h =>
    have hk := SignedNumeral.natural hn
    rwa [Int.natAbs_of_nonneg (Int.not_lt.1 h)] at hk

theorem toNat_of_mem_integerDigits {k : Int} {c : Char} (h : c ∈ integerDigits k) :
    c.toNat = 45 ∨ 48 ≤ c.toNat ∧ c.toNat ≤ 57 := (signedNumeral_integerDigits k).toNat_of_mem h

theorem integerDigits_ne_nil (k : Int) : integerDigits k ≠ [] := by
  unfold integerDigits
  split
  next => exact List.cons_ne_nil _ _
  next => exact Sql.digits_ne_nil _

theorem trimBoth_integerDigits (k : Int) : Text.trimBoth (integerDigits k) = integerDigits k := by
  refine Text.trimBoth_of_forall fun c hc ↦ ?_
  have hn := toNat_of_mem_integerDigits hc
  simp only [Text.isBlank, Bool.or_eq_false_iff, Bool.and_eq_false_iff, decide_eq_false_iff_not,
    beq_eq_false_iff_ne]
  omega

@[simp]
theorem toList_integerText (k : Int) : (integerText k).toList = integerDigits k :=
  String.toList_ofList

theorem trim_integerText (k : Int) : Text.trim (integerText k) = integerText k := by
  rw [Text.trim, toList_integerText, trimBoth_integerDigits, integerText]

theorem isEmpty_integerText (k : Int) : (integerText k).isEmpty = false := by
  rw [← Bool.not_eq_true, String.isEmpty_iff]
  intro he
  have hl := congrArg String.toList he
  rw [toList_integerText] at hl
  exact integerDigits_ne_nil k hl

theorem signed?_integerDigits {bits : Nat} {k : Int} (h : fitsSigned bits k = true) :
    signed? bits (integerDigits k) = some k := by
  rw [signed?, integer?_integerDigits, Option.filter_some, if_pos h]

theorem int64?_integerDigits (n : Int64) : int64? (integerDigits n.toInt) = some n := by
  rw [int64?, signed?_integerDigits (isWord_int64.fits n), Option.map_some, n.ofInt_toInt]

end Number

open Number

namespace Value

inductive IsInteger (n : Int64) : Value → Prop
  | int {m : Int32} (h : m.toInt = n.toInt) : IsInteger n (int m)
  | long : IsInteger n (long n)
  | string : IsInteger n (string (integerText n.toInt))

theorem IsInteger.text {n : Int64} {v : Value} (h : v.IsInteger n) :
    v.text = integerText n.toInt := by
  cases h with
  | int h => rw [Value.text, h]
  | long | string => rw [Value.text]

theorem exists_sniff?_integerText (n : Int64) :
    ∃ v, sniff? (integerText n.toInt) = some v ∧ v.IsInteger n := by
  have hk : SignedNumeral (integerText n.toInt).toList n.toInt := by
    rw [toList_integerText]
    exact signedNumeral_integerDigits n.toInt
  by_cases hl : (integerText n.toInt).toList.length < longLength
  · obtain ⟨m, hm, hs⟩ := sniff?_of_short hk hl
    exact ⟨_, hs, .int hm⟩
  · exact ⟨_, (sniff?_of_long hk (Nat.not_lt.1 hl)).1 n rfl, .long⟩

theorem isInteger_ofNumeral (n : Int64) : (ofNumeral (integerText n.toInt)).IsInteger n := by
  have hpoint : '.' ∉ integerDigits n.toInt := fun hc ↦
    absurd (toNat_of_mem_integerDigits hc) (by decide)
  unfold ofNumeral
  dsimp only
  rw [toList_integerText, if_neg hpoint, integer?_integerDigits]
  dsimp only
  split
  next hf => exact .int (isWord_int32.toInt_ofInt hf)
  next =>
    rw [if_pos (isWord_int64.fits n), n.ofInt_toInt]
    exact .long

end Value

namespace Shorthand

theorem markless_integerText (k : Int) : Markless (integerText k) := by
  rw [Markless, toList_integerText]
  constructor
  all_goals
    intro hc
    have hn := toNat_of_mem_integerDigits hc
    simp at hn

theorem comparison_integerText {m : String} {o : Operator}
    (h : (m, o) ∈ ("", Operator.equal) :: comparisonMarks) (k : Int) :
    comparison (m ++ integerText k) = (o, integerText k) := by
  have hk := markless_integerText k
  have hequals : '=' ∉ (integerText k).toList.head? := by
    intro hc
    rw [toList_integerText] at hc
    have hn := toNat_of_mem_integerDigits (List.mem_of_mem_head? hc)
    simp at hn
  have hw : Writes o (integerText k) (m ++ integerText k) := by
    rcases List.mem_cons.1 h with h | h
    · cases h
      rw [String.empty_append]
      exact .equality hk
    · have hw := Writes.marked "" m (integerText k) h (by simp [Markless]) hk fun _ ↦ hequals
      rwa [String.empty_append, String.empty_append] at hw
  rw [comparison_of_writes hw, trim_integerText]

end Shorthand

namespace FilterKind

/-- Texts in which a filter of a kind finds this one, with the operator that it compares it by. -/
inductive Finds (t : String) : FilterKind → String → Operator → Prop
  | exact : Finds t exact t .equal
  | comparison {m : String} {o : Operator}
      (h : (m, o) ∈ ("", Operator.equal) :: Shorthand.comparisonMarks) :
      Finds t comparison (m ++ t) o
  | greater (orEqual : Bool) :
      Finds t (greater orEqual) t (if orEqual then .greaterOrEqual else .greater)
  | less (orEqual : Bool) : Finds t (less orEqual) t (if orEqual then .lessOrEqual else .less)
  | among {delimiter raw : String} (h : t ∈ Shorthand.list delimiter raw) :
      Finds t (among delimiter) raw .among

end FilterKind

namespace Filter

theorem bound_integerText (f : Filter) (n : Int64) :
    f.bound (integerText n.toInt) = .ok (Value.ofNumeral (integerText n.toInt)) := by
  rw [bound, trim_integerText, isEmpty_integerText]
  rfl

end Filter

end Listing
