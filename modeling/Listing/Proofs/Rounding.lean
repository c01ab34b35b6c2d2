import Listing.Number.Binary
import Mathlib.Algebra.Order.Field.Power
import Mathlib.Data.Rat.Floor
import Mathlib.Tactic.FieldSimp
import Mathlib.Tactic.Linarith
import Mathlib.Tactic.NormNum

namespace Listing.Number

variable {v : ℕ → ℚ} {x : ℚ} {N b c r : ℕ}

/-- Among the first terms of a sequence this one is the nearest to a number, and if another is as
near, this one has the even index. -/
structure IsNearest (v : ℕ → ℚ) (N : ℕ) (x : ℚ) (b : ℕ) : Prop where
  lt : b < N
  le : ∀ c < N, |v b - x| ≤ |v c - x|
  even : ∀ c < N, c ≠ b → |v c - x| = |v b - x| → b % 2 = 0

inductive GoesTo (v : ℕ → ℚ) (x : ℚ) (b : ℕ) : ℕ → Prop
  | down (hl : v b ≤ x) (h : x - v b ≤ v (b + 1) - x)
      (ht : x - v b = v (b + 1) - x → b % 2 = 0) : GoesTo v x b b
  | up (hu : x ≤ v (b + 1)) (h : v (b + 1) - x ≤ x - v b)
      (ht : v (b + 1) - x = x - v b → (b + 1) % 2 = 0) : GoesTo v x b (b + 1)

theorem IsNearest.not_lt (hv : StrictMono v) (hb : IsNearest v N x b) (hc : IsNearest v N x c) :
    ¬ b < c := by
  intro h
  have hd : |v c - x| = |v b - x| := le_antisymm (hc.le b hb.lt) (hb.le c hc.lt)
  have hbc := hv h
  have hmid : v c - x = x - v b := by
    rcases abs_eq_abs.1 hd with he | he <;> linarith
  rcases Nat.lt_or_ge (b + 1) c with hnext | hnext
  · have hle := hb.le (b + 1) (hnext.trans hc.lt)
    have hl := hv (Nat.lt_succ_self b)
    have hu := hv hnext
    rw [abs_of_neg (by linarith : v b - x < 0)] at hle
    rcases abs_cases (v (b + 1) - x) with ⟨he, -⟩ | ⟨he, -⟩ <;> linarith
  · have hbe := hb.even c hc.lt h.ne' hd
    have hce := hc.even b hb.lt h.ne hd.symm
    omega

theorem IsNearest.unique (hv : StrictMono v) (hb : IsNearest v N x b) (hc : IsNearest v N x c) :
    b = c :=
  le_antisymm (Nat.not_lt.1 (hc.not_lt hv hb)) (Nat.not_lt.1 (hb.not_lt hv hc))

theorem GoesTo.isNearest (hv : StrictMono v) (h : GoesTo v x b r) (hr : r < N) :
    IsNearest v N x r := by
  have hlow (c : ℕ) (hc : c ≤ b) : v c ≤ v b := hv.monotone hc
  have hhigh (c : ℕ) (hc : b + 1 ≤ c) : v (b + 1) ≤ v c := hv.monotone hc
  cases h with
  | down hl h ht =>
    have hd : |v b - x| = x - v b := by rw [abs_sub_comm, abs_of_nonneg (by linarith)]
    refine ⟨hr, fun c _ ↦ ?_, fun c _ hne he ↦ ?_⟩
    · rw [hd]
      rcases Nat.lt_or_ge b c with hc | hc
      · exact (h.trans (by linarith [hhigh c hc])).trans (le_abs_self _)
      · exact (by linarith [hlow c hc] : x - v b ≤ -(v c - x)).trans (neg_le_abs _)
    · rw [hd] at he
      rcases Nat.lt_or_gt_of_ne hne with hc | hc
      · have hlt := hv hc
        rw [abs_sub_comm, abs_of_nonneg (by linarith)] at he
        linarith
      · have hle := hhigh c hc
        rw [abs_of_nonneg (by linarith)] at he
        exact ht (by linarith)
  | up hu h ht =>
    have hd : |v (b + 1) - x| = v (b + 1) - x := abs_of_nonneg (by linarith)
    refine ⟨hr, fun c _ ↦ ?_, fun c _ hne he ↦ ?_⟩
    · rw [hd]
      rcases Nat.lt_or_ge b c with hc | hc
      · exact (by linarith [hhigh c hc] : v (b + 1) - x ≤ v c - x).trans (le_abs_self _)
      · exact (by linarith [hlow c hc] : v (b + 1) - x ≤ -(v c - x)).trans (neg_le_abs _)
    · rw [hd] at he
      rcases Nat.lt_or_gt_of_ne hne with hc | hc
      · have hle := hlow c (Nat.le_of_lt_succ hc)
        rw [abs_sub_comm, abs_of_nonneg (by linarith)] at he
        exact ht (by linarith)
      · have hlt := hv hc
        rw [abs_of_nonneg (by linarith)] at he
        linarith

theorem GoesTo.scale {y s : ℚ} {m o : ℕ} (h : GoesTo (fun m ↦ (m : ℚ)) y m r) (hs : 0 < s)
    (ho : o % 2 = 0) (hl : v (o + m) = m * s) (hu : v (o + m + 1) = (m + 1 : ℕ) * s) :
    GoesTo v (y * s) (o + m) (o + r) := by
  have hcancel (p q : ℚ) : p * s = q * s → p = q := mul_right_cancel₀ hs.ne'
  cases h with
  | down h0 h ht =>
    refine .down ?_ ?_ fun he ↦ ?_
    · rw [hl]
      exact mul_le_mul_of_nonneg_right h0 hs.le
    · rw [hl, hu, ← sub_mul, ← sub_mul]
      exact mul_le_mul_of_nonneg_right h hs.le
    · rw [hl, hu, ← sub_mul, ← sub_mul] at he
      have hm := ht (hcancel _ _ he)
      omega
  | up h1 h ht =>
    refine .up ?_ ?_ fun he ↦ ?_
    · rw [hu]
      exact mul_le_mul_of_nonneg_right h1 hs.le
    · rw [hl, hu, ← sub_mul, ← sub_mul]
      exact mul_le_mul_of_nonneg_right h hs.le
    · rw [hl, hu, ← sub_mul, ← sub_mul] at he
      have hm := ht (hcancel _ _ he)
      omega

theorem goesTo_roundHalfEven {num den : ℕ} (hd : 0 < den) :
    GoesTo (fun m ↦ (m : ℚ)) (num / den) (num / den) (roundHalfEven num den) := by
  have hden : (0 : ℚ) < den := Nat.cast_pos.2 hd
  let rest : ℚ := (num % den : ℕ) / den
  have hsplit : (num : ℚ) / den = (num / den : ℕ) + rest := by
    have h : (num : ℚ) = den * (num / den : ℕ) + (num % den : ℕ) := by
      exact_mod_cast (Nat.div_add_mod num den).symm
    rw [div_eq_iff hden.ne', add_mul, div_mul_cancel₀ _ hden.ne', mul_comm _ (den : ℚ)]
    exact h
  have hmul : rest * den = (num % den : ℕ) := div_mul_cancel₀ _ hden.ne'
  have hrest : 0 ≤ rest := by positivity
  have hone : rest ≤ 1 := by
    rw [div_le_one hden]
    exact_mod_cast (Nat.mod_lt num hd).le
  have hlt : 2 * (num % den) < den ↔ 2 * rest < 1 := by
    rw [← mul_lt_mul_iff_of_pos_right hden, mul_assoc, hmul, one_mul]
    exact_mod_cast Iff.rfl
  have heq : 2 * (num % den) = den ↔ 2 * rest = 1 := by
    rw [← mul_left_inj' hden.ne', mul_assoc, hmul, one_mul]
    exact_mod_cast Iff.rfl
  rw [hsplit]
  unfold roundHalfEven
  simp only [Bool.or_eq_true, Bool.and_eq_true, decide_eq_true_eq, hlt, heq]
  split
  next h =>
    refine .down (by linarith) ?_ fun he ↦ ?_
    · rcases h with h | ⟨h, -⟩ <;> push_cast <;> linarith
    · rcases h with h | ⟨-, h⟩
      · push_cast at he
        linarith
      · exact h
  next h =>
    obtain ⟨h, hodd⟩ := not_or.1 h
    refine .up ?_ ?_ fun he ↦ ?_
    · push_cast
      linarith
    · push_cast
      linarith
    · push_cast at he
      have hm : ¬ (num / den) % 2 = 0 := fun hm ↦ hodd ⟨by linarith, hm⟩
      omega

namespace BinaryFormat

def value (f : BinaryFormat) (bits : ℕ) : ℚ := (f.decode bits).1 * 2 ^ (f.decode bits).2

def overflow (f : BinaryFormat) : ℚ := (f.value (f.infinity - 1) + f.value f.infinity) / 2

/-- The bits are those of the nearest number, or of infinity if there is too far to the largest. -/
inductive Rounds (f : BinaryFormat) (x : ℚ) : ℕ → Prop
  | finite {bits : ℕ} (h : IsNearest f.value f.infinity x bits) (hx : x < f.overflow) :
      Rounds f x bits
  | infinite (hx : f.overflow ≤ x) : Rounds f x f.infinity

variable {f : BinaryFormat}

theorem cast_pow_fractionBits : ((Nat.pow 2 f.fractionBits : ℕ) : ℚ) = 2 ^ f.fractionBits :=
  Nat.cast_pow 2 _

theorem value_add {k m : ℕ} (hm : m ≤ 2 * Nat.pow 2 f.fractionBits)
    (hk : k = 0 ∨ Nat.pow 2 f.fractionBits ≤ m) :
    f.value (k * Nat.pow 2 f.fractionBits + m) = m * 2 ^ (f.minExponent + k) := by
  have hp : 0 < Nat.pow 2 f.fractionBits := Nat.pow_pos (by decide)
  have hc := cast_pow_fractionBits (f := f)
  unfold value decode
  generalize Nat.pow 2 f.fractionBits = p at hm hk hp hc ⊢
  rcases Nat.lt_or_ge m p with hlt | hge
  · obtain rfl : k = 0 := by omega
    have he : (0 * p + m) / p = 0 := by rw [Nat.zero_mul, Nat.zero_add, Nat.div_eq_of_lt hlt]
    rw [if_pos he]
    simp [Nat.mod_eq_of_lt hlt]
  · obtain ⟨n, rfl⟩ := Nat.exists_eq_add_of_le hge
    rcases Nat.lt_or_ge n p with hn | hn
    · have he : (k * p + (p + n)) / p = k + 1 := by
        rw [← Nat.add_assoc, ← Nat.succ_mul, Nat.add_comm, Nat.add_mul_div_right _ _ hp,
          Nat.div_eq_of_lt hn, Nat.zero_add]
      have hr : (k * p + (p + n)) % p = n := by
        rw [← Nat.add_assoc, ← Nat.succ_mul, Nat.add_comm, Nat.add_mul_mod_self_right,
          Nat.mod_eq_of_lt hn]
      simp only [he, hr]
      simp
    · obtain rfl : n = p := by omega
      have he : (k * n + (n + n)) / n = k + 2 := by
        rw [← Nat.two_mul, ← Nat.add_mul, Nat.mul_div_cancel _ hp]
      have hr : (k * n + (n + n)) % n = 0 := by
        rw [← Nat.two_mul, ← Nat.add_mul, Nat.mul_mod_left]
      simp only [he, hr]
      have hz : (2 : ℚ) ^ (f.minExponent + (k + 1)) = 2 * 2 ^ (f.minExponent + k) := by
        rw [← add_assoc, zpow_add_one₀ (by norm_num), mul_comm]
      simp [hz]
      ring

theorem exists_eq_add (f : BinaryFormat) (bits : ℕ) : ∃ k m, m < 2 * Nat.pow 2 f.fractionBits ∧
    (k = 0 ∨ Nat.pow 2 f.fractionBits ≤ m) ∧ bits = k * Nat.pow 2 f.fractionBits + m := by
  have hp : 0 < Nat.pow 2 f.fractionBits := Nat.pow_pos (by decide)
  generalize Nat.pow 2 f.fractionBits = p at hp ⊢
  have hb := Nat.div_add_mod' bits p
  have hr := Nat.mod_lt bits hp
  cases he : bits / p with
  | zero =>
    rw [he, Nat.zero_mul, Nat.zero_add] at hb
    exact ⟨0, bits, by omega, .inl rfl, by omega⟩
  | succ k =>
    rw [he, Nat.succ_mul] at hb
    exact ⟨k, p + bits % p, by omega, .inr (by omega), by omega⟩

theorem value_strictMono (f : BinaryFormat) : StrictMono f.value := by
  refine strictMono_nat_of_lt_succ fun bits ↦ ?_
  obtain ⟨k, m, hm, hk, rfl⟩ := f.exists_eq_add bits
  have hunit : (0 : ℚ) < 2 ^ (f.minExponent + k) := by positivity
  rw [Nat.add_assoc, value_add hm.le hk, value_add hm (hk.imp_right Nat.le_succ_of_le)]
  exact mul_lt_mul_of_pos_right (Nat.cast_lt.2 (Nat.lt_succ_self m)) hunit

theorem value_nonneg (f : BinaryFormat) (bits : ℕ) : 0 ≤ f.value bits :=
  mul_nonneg (Nat.cast_nonneg _) (by positivity)

theorem value_zero (f : BinaryFormat) : f.value 0 = 0 := by
  have h := value_add (f := f) (k := 0) (m := 0) (Nat.zero_le _) (.inl rfl)
  rw [Nat.zero_mul, Nat.zero_add] at h
  rw [h]
  simp

theorem scaled_eq {num den : ℕ} (hd : 0 < den) (q : ℤ) : 0 < (scaled num den q).2 ∧
    ((scaled num den q).1 : ℚ) / (scaled num den q).2 = num / den / 2 ^ q := by
  cases q with
  | ofNat k =>
    refine ⟨Nat.mul_pos hd (Nat.pow_pos (by decide)), ?_⟩
    simp [scaled, div_div]
  | negSucc k =>
    refine ⟨hd, ?_⟩
    simp [scaled, zpow_negSucc]
    ring

theorem lt_zpow_log2 {n : ℕ} (h : n ≠ 0) :
    (2 : ℚ) ^ (n.log2 : ℤ) ≤ n ∧ (n : ℚ) < 2 ^ ((n.log2 : ℤ) + 1) := by
  constructor
  · rw [zpow_natCast]
    exact_mod_cast Nat.log2_self_le h
  · rw [← Nat.cast_succ, zpow_natCast]
    exact_mod_cast Nat.lt_log2_self

theorem ratio_between {num den : ℕ} (hn : num ≠ 0) (hd : den ≠ 0) :
    (2 : ℚ) ^ ((num.log2 : ℤ) - den.log2 - 1) < num / den ∧
      (num : ℚ) / den < 2 ^ ((num.log2 : ℤ) - den.log2 + 1) := by
  obtain ⟨hnl, hnu⟩ := lt_zpow_log2 hn
  obtain ⟨hdl, hdu⟩ := lt_zpow_log2 hd
  have hden : (0 : ℚ) < den := Nat.cast_pos.2 (Nat.pos_of_ne_zero hd)
  have hsplit (a b c : ℤ) (h : a = b + c) : (2 : ℚ) ^ a = 2 ^ b * 2 ^ c := by
    rw [h, zpow_add₀ (by norm_num)]
  rw [lt_div_iff₀ hden, div_lt_iff₀ hden]
  constructor
  · calc (2 : ℚ) ^ ((num.log2 : ℤ) - den.log2 - 1) * den
        < 2 ^ ((num.log2 : ℤ) - den.log2 - 1) * 2 ^ ((den.log2 : ℤ) + 1) :=
          mul_lt_mul_of_pos_left hdu (by positivity)
      _ = 2 ^ (num.log2 : ℤ) := (hsplit _ _ _ (by ring)).symm
      _ ≤ num := hnl
  · calc (num : ℚ) < 2 ^ ((num.log2 : ℤ) + 1) := hnu
      _ = 2 ^ ((num.log2 : ℤ) - den.log2 + 1) * 2 ^ (den.log2 : ℤ) := hsplit _ _ _ (by ring)
      _ ≤ 2 ^ ((num.log2 : ℤ) - den.log2 + 1) * den :=
          mul_le_mul_of_nonneg_left hdl (by positivity)

theorem div_lt_iff_cast {a b n : ℕ} (hb : 0 < b) : a / b < n ↔ (a : ℚ) / b < n := by
  rw [Nat.div_lt_iff_lt_mul hb, div_lt_iff₀ (Nat.cast_pos.2 hb)]
  exact_mod_cast Iff.rfl

theorem div_zpow_lt_iff {q c : ℤ} : x / 2 ^ q < 2 ^ c ↔ x < 2 ^ (q + c) := by
  rw [div_lt_iff₀ (by positivity), ← zpow_add₀ (by norm_num), add_comm]

theorem scaled_div_lt_iff {num den : ℕ} (hd : 0 < den) (q : ℤ) (n : ℕ) :
    (scaled num den q).1 / (scaled num den q).2 < Nat.pow 2 n ↔ (num : ℚ) / den < 2 ^ (q + n) := by
  obtain ⟨hb, he⟩ := scaled_eq hd q
  have hpow : ((Nat.pow 2 n : ℕ) : ℚ) = 2 ^ (n : ℤ) := by
    rw [zpow_natCast]
    exact Nat.cast_pow 2 n
  rw [div_lt_iff_cast hb, he, hpow, div_zpow_lt_iff]

/-- The units in which a ratio is counted: those of the least exponent, if that is large enough, or
those for which the significand gets its leading bit. -/
theorem exists_exponent (f : BinaryFormat) {num den : ℕ} (hn : num ≠ 0) (hd : 0 < den) :
    ∃ (k : ℕ) (q : ℤ), q = f.minExponent + k ∧
      (scaled num den q).1 / (scaled num den q).2 < 2 * Nat.pow 2 f.fractionBits ∧
      (k = 0 ∨ Nat.pow 2 f.fractionBits ≤ (scaled num den q).1 / (scaled num den q).2) ∧
      f.round num den = min f.infinity (k * Nat.pow 2 f.fractionBits +
        roundHalfEven (scaled num den q).1 (scaled num den q).2) := by
  obtain ⟨hlow, hhigh⟩ := ratio_between hn hd.ne'
  let guess : ℤ := max f.minExponent ((num.log2 : ℤ) - den.log2 - f.fractionBits - 1)
  have hle : f.minExponent ≤ guess := le_max_left _ _
  have hge : (num.log2 : ℤ) - den.log2 - f.fractionBits - 1 ≤ guess := le_max_right _ _
  have hmono {a b : ℤ} (h : a ≤ b) : (2 : ℚ) ^ a ≤ 2 ^ b := zpow_le_zpow_right₀ (by norm_num) h
  have htwo : Nat.pow 2 (f.fractionBits + 1) = 2 * Nat.pow 2 f.fractionBits := Nat.mul_comm _ _
  have hround (q : ℤ) (hq : q = if (scaled num den guess).1 / (scaled num den guess).2 <
      Nat.pow 2 (f.fractionBits + 1) then guess else guess + 1) : f.round num den =
        min f.infinity ((q - f.minExponent).toNat * Nat.pow 2 f.fractionBits +
          roundHalfEven (scaled num den q).1 (scaled num den q).2) := by
    rw [round, if_neg hn, hq]
  by_cases hg : (scaled num den guess).1 / (scaled num den guess).2 < Nat.pow 2 (f.fractionBits + 1)
  · obtain ⟨k, hk⟩ := Int.eq_ofNat_of_zero_le (sub_nonneg.2 hle)
    refine ⟨k, guess, by omega, htwo ▸ hg, ?_, ?_⟩
    · rcases max_choice f.minExponent ((num.log2 : ℤ) - den.log2 - f.fractionBits - 1) with hm | hm
      · exact .inl (by omega)
      · refine .inr (Nat.not_lt.1 fun hs ↦ ?_)
        have hs := (scaled_div_lt_iff hd guess f.fractionBits).1 hs
        have hu := hmono (by omega : guess + f.fractionBits ≤ (num.log2 : ℤ) - den.log2 - 1)
        linarith
    · rw [hround guess (by rw [if_pos hg]), hk]
      rfl
  · obtain ⟨k, hk⟩ := Int.eq_ofNat_of_zero_le (sub_nonneg.2 (Int.le_add_one hle))
    have hl := not_lt.1 (mt (scaled_div_lt_iff hd guess (f.fractionBits + 1)).2 hg)
    refine ⟨k, guess + 1, by omega, ?_, .inr (Nat.not_lt.1 fun hs ↦ ?_), ?_⟩
    · rw [← htwo, scaled_div_lt_iff hd]
      exact hhigh.trans_le (hmono (by push_cast; omega))
    · have hs := (scaled_div_lt_iff hd (guess + 1) f.fractionBits).1 hs
      have he : guess + 1 + (f.fractionBits : ℤ) = guess + (f.fractionBits + 1 : ℕ) := by
        push_cast
        ring
      rw [he] at hs
      exact absurd hs (not_lt.2 hl)
    · rw [hround (guess + 1) (by rw [if_neg hg]), hk]
      rfl

variable (hf : 0 < f.fractionBits) (hw : 0 < f.exponentBits)
include hf

theorem pow_fractionBits_mod : Nat.pow 2 f.fractionBits % 2 = 0 := by
  obtain ⟨n, hn⟩ := Nat.exists_eq_succ_of_ne_zero hf.ne'
  rw [hn]
  exact Nat.mul_mod_left _ _

theorem exists_goesTo_round {num den : ℕ} (hd : 0 < den) :
    ∃ b r, GoesTo f.value (num / den) b r ∧ f.round num den = min f.infinity r := by
  by_cases hn : num = 0
  · have hpos := f.value_strictMono Nat.one_pos
    rw [f.value_zero] at hpos
    refine ⟨0, 0, .down ?_ ?_ fun _ ↦ rfl, ?_⟩
    · simp [hn, f.value_zero]
    · simp [hn, f.value_zero, hpos.le]
    · rw [round, if_pos hn, Nat.min_zero]
  obtain ⟨k, q, hq, hlt, hk, hround⟩ := f.exists_exponent hn hd
  obtain ⟨hb, he⟩ := scaled_eq hd q
  have hunit : (0 : ℚ) < 2 ^ q := by positivity
  have heven : k * Nat.pow 2 f.fractionBits % 2 = 0 := by
    rw [Nat.mul_mod, pow_fractionBits_mod hf, Nat.mul_zero]
  have hgoes := (goesTo_roundHalfEven hb).scale hunit heven (v := f.value)
    (by rw [value_add hlt.le hk, hq])
    (by rw [Nat.add_assoc, value_add hlt (hk.imp_right Nat.le_succ_of_le), hq])
  rw [he, div_mul_cancel₀ _ hunit.ne'] at hgoes
  exact ⟨_, _, hgoes, hround⟩

include hw

theorem rounds_round {num den : ℕ} (hd : 0 < den) :
    f.Rounds (num / den) (f.round num den) := by
  obtain ⟨b, r, h, hround⟩ := exists_goesTo_round hf hd
  have hv := f.value_strictMono
  have hpos : 0 < f.infinity :=
    Nat.mul_pos (Nat.sub_pos_of_lt (Nat.one_lt_two_pow hw.ne')) (Nat.pow_pos (by decide))
  have heven : f.infinity % 2 = 0 := by
    rw [infinity, Nat.mul_mod, pow_fractionBits_mod hf, Nat.mul_zero]
  have hlast : f.value (f.infinity - 1) < f.value f.infinity := hv (Nat.sub_lt hpos Nat.one_pos)
  have hmono {i j : ℕ} (hij : i ≤ j) : f.value i ≤ f.value j := hv.monotone hij
  rw [hround]
  rcases Nat.lt_or_ge r f.infinity with hr | hr
  · rw [Nat.min_eq_right hr.le]
    refine .finite (h.isNearest hv hr) ?_
    unfold overflow
    cases h with
    | down hl h ht =>
      have hb := hmono (Nat.le_sub_one_of_lt hr)
      have hb' := hmono hr
      refine lt_of_le_of_ne (by linarith) fun he ↦ ?_
      have hodd := ht (by linarith)
      rcases (Nat.le_sub_one_of_lt hr).lt_or_eq with hlt | heq
      · have hlt := hv hlt
        linarith
      · omega
    | up hu h ht =>
      have hb := hmono (Nat.le_sub_one_of_lt hr)
      linarith
  · rw [Nat.min_eq_left hr]
    refine .infinite ?_
    unfold overflow
    cases h with
    | down hl h ht =>
      have hb := hmono hr
      linarith
    | up hu h ht =>
      have hb := hmono hr
      have hb' := hmono (Nat.sub_le_of_le_add hr)
      linarith

omit hf hw in
theorem Rounds.unique {bits bits' : ℕ} (h : f.Rounds x bits) (h' : f.Rounds x bits') :
    bits = bits' := by
  cases h with
  | finite hn hx =>
    cases h' with
    | finite hn' _ => exact hn.unique f.value_strictMono hn'
    | infinite hx' => exact absurd hx (not_lt.2 hx')
  | infinite hx =>
    cases h' with
    | finite _ hx' => exact absurd hx' (not_lt.2 hx)
    | infinite _ => rfl

omit hf hw in
theorem Rounds.le {bits : ℕ} (h : f.Rounds x bits) : bits ≤ f.infinity := by
  cases h with
  | finite hn _ => exact hn.lt.le
  | infinite _ => exact le_rfl

omit hf hw in
theorem rounds_zero (h0 : 0 ≤ x) (hx : 2 * x < f.value 1) (h : 0 < f.infinity)
    (hu : x < f.overflow) : f.Rounds x 0 := by
  have hgoes : GoesTo f.value x 0 0 := by
    refine .down ?_ ?_ fun _ ↦ rfl <;> rw [f.value_zero] <;> linarith
  exact .finite (hgoes.isNearest f.value_strictMono h) hu

end BinaryFormat

end Listing.Number
