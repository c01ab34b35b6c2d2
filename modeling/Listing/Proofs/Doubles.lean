import Listing.Number.Double
import Listing.Proofs.Rounding
import Mathlib.Algebra.Order.Field.Power

namespace Listing.Number

def sign (negative : Bool) : ℚ := if negative then -1 else 1

theorem abs_sign_mul (n : Bool) (a : ℚ) : |sign n * a| = |a| := by
  cases n <;> simp [sign]

theorem abs_sign_mul_sub (n : Bool) (a b : ℚ) : |sign n * a - sign n * b| = |a - b| := by
  rw [← mul_sub, abs_sign_mul]

theorem abs_sub_le_sign_mul_sub {a b : ℚ} (ha : 0 ≤ a) (hb : 0 ≤ b) (m n : Bool) :
    |a - b| ≤ |sign m * a - sign n * b| := by
  have h := abs_abs_sub_abs_le_abs_sub (sign m * a) (sign n * b)
  rwa [abs_sign_mul, abs_sign_mul, abs_of_nonneg ha, abs_of_nonneg hb] at h

theorem sign_mul_eq_of_abs_sub {a b : ℚ} (ha : 0 ≤ a) (hb : 0 ≤ b) {m n : Bool}
    (h : |sign m * a - sign n * b| = |a - b|) (h0 : b = 0 → a = 0) : sign m * a = sign n * a := by
  by_cases hmn : m = n
  · rw [hmn]
  have hsum : |sign m * a - sign n * b| = a + b := by
    have hs : sign m * a - sign n * b = sign m * (a + b) := by
      cases m <;> cases n <;> simp [sign] at hmn ⊢
      ring
    rw [hs, abs_sign_mul, abs_of_nonneg (add_nonneg ha hb)]
  have hz : a = 0 := by
    rcases abs_cases (a - b) with ⟨he, -⟩ | ⟨he, -⟩
    · exact h0 (by linarith)
    · linarith
  rw [hz, mul_zero, mul_zero]

def Literal.value (l : Literal) : ℚ := sign l.negative * (l.coefficient * 10 ^ l.exponent)

namespace Double

/-- The number that the bits of a finite double stand for: a sign, eleven bits of exponent and
fifty-two of fraction. With the least exponent there is no leading one before the fraction. -/
def value (x : Double) : ℚ :=
  let exponent : ℕ := x.bits.toNat / 2 ^ 52 % 2 ^ 11
  let fraction : ℚ := (x.bits.toNat % 2 ^ 52 : ℕ) / 2 ^ 52
  sign x.isNegative *
    if exponent = 0 then fraction * 2 ^ (-1022 : ℤ) else (1 + fraction) * 2 ^ (exponent - 1023 : ℤ)

/-- A number rounds to the nearest finite double, and if two are equally near, to the one whose last
bit is zero. From halfway between the largest double and the power of two behind it on, it rounds to
infinity. -/
inductive Rounds (x : Double) (v : ℚ) : Prop
  | finite (hf : x.isFinite = true) (hv : |v| < 2 ^ 1024 - 2 ^ 970)
      (nearest : ∀ y : Double, y.isFinite = true → |x.value - v| ≤ |y.value - v|)
      (even : ∀ y : Double, y.isFinite = true → y.value ≠ x.value →
        |y.value - v| = |x.value - v| → x.bits.toNat % 2 = 0)
  | infinite (hx : x.isInfinite = true) (hv : 2 ^ 1024 - 2 ^ 970 ≤ |v|)

open BinaryFormat (double)

theorem minExponent_double : double.minExponent = -1074 := rfl

theorem value_eq (x : Double) :
    x.value = sign x.isNegative * double.value x.magnitude := by
  have he : x.bits.toNat / 2 ^ 52 % 2 ^ 11 = x.magnitude / 2 ^ 52 := by
    have h : x.magnitude = x.bits.toNat % 2 ^ 63 := rfl
    omega
  have hr : x.bits.toNat % 2 ^ 52 = x.magnitude % 2 ^ 52 := by
    have h : x.magnitude = x.bits.toNat % 2 ^ 63 := rfl
    omega
  have hp : Nat.pow 2 double.fractionBits = 2 ^ 52 := rfl
  simp only [value, he, hr, BinaryFormat.value, BinaryFormat.decode, hp, minExponent_double]
  congr 1
  split
  next =>
    have hz : (2 : ℚ) ^ (-1022 : ℤ) = 2 ^ 52 * 2 ^ (-1074 : ℤ) := by
      rw [← zpow_natCast, ← zpow_add₀ (by norm_num)]
      rfl
    rw [hz, ← mul_assoc, div_mul_cancel₀ _ (by norm_num)]
  next h =>
    have hz : (2 : ℚ) ^ ((x.magnitude / 2 ^ 52 : ℕ) - 1023 : ℤ) =
        2 ^ 52 * 2 ^ (-1074 + (x.magnitude / 2 ^ 52 - 1 : ℕ) : ℤ) := by
      rw [← zpow_natCast, ← zpow_add₀ (by norm_num)]
      congr 1
      omega
    rw [hz, ← mul_assoc, add_mul, div_mul_cancel₀ _ (by norm_num), one_mul]
    push_cast
    rfl

theorem overflow_double : double.overflow = 2 ^ 1024 - 2 ^ 970 := by
  have hp : Nat.pow 2 double.fractionBits = 2 ^ 52 := rfl
  have hi : double.infinity = 2045 * 2 ^ 52 + 2 * 2 ^ 52 := rfl
  have hl : double.infinity - 1 = 2045 * 2 ^ 52 + (2 * 2 ^ 52 - 1) := rfl
  have hvi := BinaryFormat.value_add (f := double) (k := 2045) (m := 2 * 2 ^ 52)
    (Nat.mul_le_mul_left 2 hp.ge) (.inr (by omega))
  have hvl := BinaryFormat.value_add (f := double) (k := 2045) (m := 2 * 2 ^ 52 - 1)
    (by omega) (.inr (by omega))
  have hunit : (2 : ℚ) ^ (double.minExponent + (2045 : ℕ)) = 2 * 2 ^ 970 := by
    rw [← pow_succ', ← zpow_natCast]
    rfl
  have htop : (2 : ℚ) ^ 1024 = 2 ^ 54 * 2 ^ 970 := by rw [← pow_add]
  rw [hp, hunit] at hvi hvl
  rw [BinaryFormat.overflow, hl, hi, hvi, hvl, htop]
  generalize (2 : ℚ) ^ 970 = u
  push_cast
  ring

theorem toNat_ofParts (negative : Bool) {bits : ℕ} (h : bits < 2 ^ 63) :
    (ofParts negative bits).bits.toNat = (if negative then 2 ^ 63 else 0) + bits := by
  refine UInt64.toNat_ofNat_of_lt' ?_
  have hs : UInt64.size = 2 ^ 64 := rfl
  have hb : signBit = 2 ^ 63 := rfl
  rw [hs, hb]
  split <;> omega

theorem magnitude_ofParts (negative : Bool) {bits : ℕ} (h : bits < 2 ^ 63) :
    (ofParts negative bits).magnitude = bits := by
  have hb : signBit = 2 ^ 63 := rfl
  rw [magnitude, toNat_ofParts negative h, hb]
  split <;> omega

theorem isNegative_ofParts (negative : Bool) {bits : ℕ} (h : bits < 2 ^ 63) :
    (ofParts negative bits).isNegative = negative := by
  have hb : signBit = 2 ^ 63 := rfl
  rw [isNegative, toNat_ofParts negative h, hb]
  cases negative <;> simp
  omega

theorem ofParts_magnitude (x : Double) : ofParts x.isNegative x.magnitude = x := by
  have hb : signBit = 2 ^ 63 := rfl
  have hx := x.bits.toNat_lt
  have hm : x.magnitude < 2 ^ 63 := Nat.mod_lt _ (by decide)
  rcases x with ⟨bits⟩
  refine congrArg Double.mk (UInt64.toNat_inj.1 ?_)
  refine (toNat_ofParts _ hm).trans ?_
  simp only [isNegative, magnitude, hb, decide_eq_true_eq] at hx ⊢
  split <;> omega

theorem magnitude_mod_two (x : Double) : x.bits.toNat % 2 = x.magnitude % 2 := by
  have hm : x.magnitude = x.bits.toNat % 2 ^ 63 := rfl
  omega

theorem abs_value_sub (x : Double) (a : ℚ) :
    |x.value - sign x.isNegative * a| = |double.value x.magnitude - a| := by
  rw [x.value_eq, abs_sign_mul_sub]

theorem abs_sub_le_value_sub (x : Double) {a : ℚ} (ha : 0 ≤ a) (n : Bool) :
    |double.value x.magnitude - a| ≤ |x.value - sign n * a| := by
  rw [x.value_eq]
  exact abs_sub_le_sign_mul_sub (double.value_nonneg _) ha _ _

variable {x : Double} {a : ℚ}

theorem Rounds.magnitude (ha : 0 ≤ a) (h : x.Rounds (sign x.isNegative * a)) :
    double.Rounds a x.magnitude := by
  have hof {c : ℕ} (hc : c < double.infinity) : ∃ y : Double, y.isFinite = true ∧
      y.magnitude = c ∧ y.isNegative = x.isNegative := by
    have hbits : c < 2 ^ 63 := hc.trans (by decide)
    have hm := magnitude_ofParts x.isNegative hbits
    exact ⟨_, decide_eq_true (hm.symm ▸ hc), hm, isNegative_ofParts _ hbits⟩
  cases h with
  | finite hf hv hnear heven =>
    rw [abs_sign_mul, abs_of_nonneg ha, ← overflow_double] at hv
    refine .finite ⟨of_decide_eq_true hf, fun c hc ↦ ?_, fun c hc hne he ↦ ?_⟩ hv
    · obtain ⟨y, hy, rfl, hs⟩ := hof hc
      rw [← abs_value_sub, ← abs_value_sub, hs]
      exact hnear y hy
    · obtain ⟨y, hy, rfl, hs⟩ := hof hc
      rw [← abs_value_sub, ← abs_value_sub, hs] at he
      rw [← magnitude_mod_two]
      refine heven y hy (fun hval ↦ hne ?_) he
      have habs := congrArg abs hval
      rw [y.value_eq, x.value_eq, abs_sign_mul, abs_sign_mul, abs_of_nonneg (double.value_nonneg _),
        abs_of_nonneg (double.value_nonneg _)] at habs
      exact double.value_strictMono.injective habs
  | infinite hx hv =>
    rw [abs_sign_mul, abs_of_nonneg ha, ← overflow_double] at hv
    rw [of_decide_eq_true hx]
    exact .infinite hv

theorem rounds_of_magnitude (ha : 0 ≤ a) (h : double.Rounds a x.magnitude) :
    x.Rounds (sign x.isNegative * a) := by
  have habs : |sign x.isNegative * a| = a := by rw [abs_sign_mul, abs_of_nonneg ha]
  generalize hm : x.magnitude = m at h
  cases h with
  | finite hn hv =>
    rw [← hm] at hn
    rw [overflow_double, ← habs] at hv
    refine .finite (decide_eq_true hn.lt) hv (fun y hy ↦ ?_) fun y hy hne he ↦ ?_
    · rw [abs_value_sub]
      exact (hn.le _ (of_decide_eq_true hy)).trans (abs_sub_le_value_sub y ha _)
    · rw [magnitude_mod_two]
      rw [abs_value_sub] at he
      have hle := hn.le _ (of_decide_eq_true hy)
      by_cases hym : y.magnitude = x.magnitude
      · have hzero : a = 0 → double.value x.magnitude = 0 := by
          rintro rfl
          have h0 := hn.le 0 (by decide)
          rw [double.value_zero, sub_zero, sub_zero, abs_zero] at h0
          exact abs_nonpos_iff.1 h0
        rw [y.value_eq, hym] at he
        have hval := sign_mul_eq_of_abs_sub (double.value_nonneg _) ha he hzero
        rw [← hym, ← y.value_eq, hym, ← x.value_eq] at hval
        exact absurd hval hne
      · exact hn.even _ (of_decide_eq_true hy) hym
          (le_antisymm (he ▸ abs_sub_le_value_sub y ha _) hle)
  | infinite hv =>
    rw [overflow_double, ← habs] at hv
    exact .infinite (decide_eq_true hm) hv

theorem two_pow_le_ten_pow {m n : ℕ} (h : m ≤ 3 * n) : (2 : ℚ) ^ m ≤ 10 ^ n :=
  calc (2 : ℚ) ^ m ≤ 2 ^ (3 * n) := pow_le_pow_right₀ (by norm_num) h
    _ = 8 ^ n := by rw [pow_mul]; norm_num
    _ ≤ 10 ^ n := pow_le_pow_left₀ (by norm_num) (by norm_num) n

theorem digits_bounds {n : ℕ} (h : n ≠ 0) :
    (10 : ℚ) ^ ((digits n).length - 1 : ℤ) ≤ n ∧ (n : ℚ) < 10 ^ ((digits n).length : ℤ) := by
  have hl : 0 < (digits n).length := List.length_pos_iff.2 Nat.toDigits_ne_nil
  obtain ⟨k, hk⟩ := Nat.exists_eq_succ_of_ne_zero hl.ne'
  have hu : n < 10 ^ (k + 1) :=
    (Nat.length_toDigits_le_iff (by decide) (Nat.succ_pos k)).1 hk.le
  have hn : 10 ^ k ≤ n := by
    refine Nat.not_lt.1 fun hlt ↦ ?_
    rcases Nat.eq_zero_or_pos k with rfl | hpos
    · omega
    · have hle := (Nat.length_toDigits_le_iff (by decide) hpos).2 hlt
      rw [digits] at hk
      omega
  rw [hk]
  constructor
  · rw [Nat.cast_succ, add_sub_cancel_right, zpow_natCast]
    exact_mod_cast hn
  · rw [zpow_natCast]
    exact_mod_cast hu

theorem literal_bounds {l : Literal} (h : l.coefficient ≠ 0) {top : ℤ}
    (ht : top = (digits l.coefficient).length + l.exponent) :
    (10 : ℚ) ^ (top - 1) ≤ l.coefficient * 10 ^ l.exponent ∧
      (l.coefficient : ℚ) * 10 ^ l.exponent < 10 ^ top := by
  obtain ⟨hl, hu⟩ := digits_bounds h
  have hpos : (0 : ℚ) < 10 ^ l.exponent := by positivity
  rw [ht, add_sub_right_comm, zpow_add₀ (by norm_num), zpow_add₀ (by norm_num)]
  exact ⟨mul_le_mul_of_nonneg_right hl hpos.le, mul_lt_mul_of_pos_right hu hpos⟩

theorem value_double_one : double.value 1 = (2 ^ 1074)⁻¹ := by
  have hv := BinaryFormat.value_add (f := double) (k := 0) (m := 1) (by decide) (.inl rfl)
  rw [Nat.zero_mul, Nat.zero_add, minExponent_double] at hv
  rw [hv, Nat.cast_one, one_mul, ← zpow_natCast, ← zpow_neg]
  rfl

theorem one_le_overflow_double : 1 ≤ double.overflow := by
  have hone : (1 : ℚ) ≤ 2 ^ 970 := one_le_pow₀ (by norm_num)
  have hle : (2 : ℚ) ^ 970 + 2 ^ 970 ≤ 2 ^ 1024 := by
    rw [← mul_two, ← pow_succ]
    exact pow_le_pow_right₀ (by norm_num) (by norm_num)
  rw [overflow_double]
  exact hone.trans (le_sub_iff_add_le.2 hle)

theorem rounds_tiny (h0 : 0 ≤ a) (h : a < 10 ^ (-400 : ℤ)) : double.Rounds a 0 := by
  have hpow : (2 : ℚ) ^ 1074 * 2 ≤ 10 ^ 400 := by
    rw [← pow_succ]
    exact two_pow_le_ten_pow (by norm_num)
  have hinv : (10 : ℚ) ^ (-400 : ℤ) ≤ (2 ^ 1074)⁻¹ / 2 := by
    rw [zpow_neg, zpow_ofNat, div_eq_mul_inv, ← mul_inv]
    exact inv_anti₀ (by positivity) hpow
  have hone : (10 : ℚ) ^ (-400 : ℤ) ≤ 1 := zpow_le_one_of_nonpos₀ (by norm_num) (by norm_num)
  refine BinaryFormat.rounds_zero h0 ?_ (by decide)
    ((h.trans_le hone).trans_le one_le_overflow_double)
  rw [value_double_one, mul_comm]
  exact (lt_div_iff₀ (by norm_num)).1 (h.trans_le hinv)

theorem rounds_huge (h : 10 ^ (400 : ℤ) ≤ a) : double.Rounds a double.infinity := by
  refine .infinite ?_
  rw [overflow_double]
  calc (2 : ℚ) ^ 1024 - 2 ^ 970 ≤ 2 ^ 1024 := sub_le_self _ (by positivity)
    _ ≤ 10 ^ 400 := two_pow_le_ten_pow (by norm_num)
    _ = 10 ^ (400 : ℤ) := (zpow_natCast _ _).symm
    _ ≤ a := h

theorem exists_ofLiteral_eq (l : Literal) : ∃ bits, ofLiteral l = ofParts l.negative bits ∧
    double.Rounds (l.coefficient * 10 ^ l.exponent) bits := by
  have hratio {num den : ℕ} (hl : ofLiteral l = ofRatio l.negative num den) (hd : 0 < den)
      (h : (l.coefficient : ℚ) * 10 ^ l.exponent = num / den) : ∃ bits,
        ofLiteral l = ofParts l.negative bits ∧
          double.Rounds (l.coefficient * 10 ^ l.exponent) bits :=
    ⟨_, hl, h ▸ BinaryFormat.rounds_round (by decide) (by decide) hd⟩
  have hmono {b c : ℤ} (h : b ≤ c) : (10 : ℚ) ^ b ≤ 10 ^ c := zpow_le_zpow_right₀ (by norm_num) h
  let top : ℤ := (digits l.coefficient).length + l.exponent
  by_cases hz : (decide (l.coefficient = 0) || decide (top < -400)) = true
  · refine ⟨0, if_pos hz, rounds_tiny (by positivity) ?_⟩
    by_cases hc : l.coefficient = 0
    · rw [hc, Nat.cast_zero, zero_mul]
      positivity
    · have ht : top < -400 := by simpa [hc] using hz
      exact (literal_bounds hc rfl).2.trans_le (hmono ht.le)
  have hc : l.coefficient ≠ 0 := fun hc ↦ hz (by simp [hc])
  by_cases ht : top > 400
  · exact ⟨double.infinity, (if_neg hz).trans (if_pos ht),
      rounds_huge ((hmono (Int.le_sub_one_of_lt ht)).trans (literal_bounds hc rfl).1)⟩
  · cases hk : l.exponent with
    | ofNat k =>
      have hl : ofLiteral l = ofRatio l.negative (l.coefficient * Nat.pow 10 k) 1 := by
        refine (if_neg hz).trans ((if_neg ht).trans ?_)
        rw [hk]
      rw [← hk]
      refine hratio hl Nat.one_pos ?_
      rw [hk]
      simp
    | negSucc k =>
      have hl : ofLiteral l = ofRatio l.negative l.coefficient (Nat.pow 10 (k + 1)) := by
        refine (if_neg hz).trans ((if_neg ht).trans ?_)
        rw [hk]
      rw [← hk]
      refine hratio hl (Nat.pow_pos (by decide)) ?_
      rw [hk]
      simp [zpow_negSucc, div_eq_mul_inv]

/-- A literal is read as the one double that has its sign and that its number rounds to. -/
theorem eq_ofLiteral_iff {l : Literal} :
    x = ofLiteral l ↔ x.isNegative = l.negative ∧ x.Rounds l.value := by
  obtain ⟨bits, hl, hr⟩ := exists_ofLiteral_eq l
  have hnonneg : (0 : ℚ) ≤ l.coefficient * 10 ^ l.exponent := by positivity
  have hbits : bits < 2 ^ 63 := hr.le.trans_lt (by decide)
  have hm : (ofLiteral l).magnitude = bits := hl ▸ magnitude_ofParts _ hbits
  constructor
  · rintro rfl
    have hs : (ofLiteral l).isNegative = l.negative := hl ▸ isNegative_ofParts _ hbits
    refine ⟨hs, ?_⟩
    rw [Literal.value, ← hs]
    exact rounds_of_magnitude hnonneg (hm ▸ hr)
  · rintro ⟨hs, hx⟩
    rw [Literal.value, ← hs] at hx
    rw [← x.ofParts_magnitude, hs, (hx.magnitude hnonneg).unique hr, hl]

end Double

end Listing.Number
