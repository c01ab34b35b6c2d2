import Listing.Proofs.Doubles
import Listing.Proofs.Sql.Name
import Listing.Proofs.Text
import Listing.Value
import Mathlib.Data.List.Induction

namespace Listing

namespace Number

/-- One or more digits, with zeros in front or without, and the number that they write. -/
inductive Numeral : List Char → Nat → Prop
  | digit {d : Nat} (h : d < 10) : Numeral [Nat.digitChar d] d
  | append {s : List Char} {n d : Nat} (hs : Numeral s n) (h : d < 10) :
      Numeral (s ++ [Nat.digitChar d]) (10 * n + d)

inductive SignedNumeral : List Char → Int → Prop
  | natural {s : List Char} {n : Nat} (h : Numeral s n) : SignedNumeral s n
  | negative {s : List Char} {n : Nat} (h : Numeral s n) : SignedNumeral ('-' :: s) (-n)

/-- Numerals on both sides of a point, with an optional minus sign. Each digit behind the point
counts a tenth of what the one before it counts. -/
inductive PointNumeral : List Char → Literal → Prop
  | positive {whole fraction : List Char} {n m : Nat} (hw : Numeral whole n)
      (hf : Numeral fraction m) : PointNumeral (whole ++ '.' :: fraction)
        ⟨false, n * Nat.pow 10 fraction.length + m, -fraction.length⟩
  | negative {whole fraction : List Char} {n m : Nat} (hw : Numeral whole n)
      (hf : Numeral fraction m) : PointNumeral ('-' :: (whole ++ '.' :: fraction))
        ⟨true, n * Nat.pow 10 fraction.length + m, -fraction.length⟩

theorem isDigit_iff_exists {c : Char} : c.isDigit = true ↔ ∃ d < 10, c = Nat.digitChar d := by
  constructor
  · intro h
    have hn := Sql.isDigit_iff.1 h
    refine ⟨c.toNat - 48, by omega, Char.toNat_inj.1 ?_⟩
    rw [Nat.toNat_digitChar_of_lt_ten (by omega)]
    omega
  · rintro ⟨d, hd, rfl⟩
    rw [Sql.isDigit_iff, Nat.toNat_digitChar_of_lt_ten hd]
    omega

theorem digitValue_digitChar {d : Nat} (h : d < 10) : digitValue (Nat.digitChar d) = d :=
  Nat.toNat_digitChar_sub_48_of_lt_ten h

theorem ofDigits_append (s t : List Char) :
    ofDigits (s ++ t) = ofDigits s * Nat.pow 10 t.length + ofDigits t := by
  have h : Nat.ofDigitChars 10 (s ++ t) 0 =
      Nat.ofDigitChars 10 s 0 * Nat.pow 10 t.length + Nat.ofDigitChars 10 t 0 := by
    rw [Nat.ofDigitChars_append, Nat.ofDigitChars_eq_ofDigitChars_zero, Nat.mul_comm]
    rfl
  exact h

theorem isDigits_iff {s : List Char} :
    isDigits s = true ↔ s ≠ [] ∧ ∀ c ∈ s, c.isDigit = true := by
  simp [isDigits]

namespace Numeral

variable {s : List Char} {n : Nat}

theorem isDigits (h : Numeral s n) : isDigits s = true := by
  induction h with
  | digit h => simpa [isDigits_iff] using isDigit_iff_exists.2 ⟨_, h, rfl⟩
  | append _ h ih =>
    rw [isDigits_iff] at ih ⊢
    refine ⟨by simp, List.forall_mem_append.2 ⟨ih.2, ?_⟩⟩
    exact List.forall_mem_singleton.2 (isDigit_iff_exists.2 ⟨_, h, rfl⟩)

theorem ofDigits_eq (h : Numeral s n) : ofDigits s = n := by
  induction h with
  | digit h =>
    rw [ofDigits, List.foldl_cons, digitValue_digitChar h]
    simp
  | append _ h ih =>
    rw [ofDigits, List.foldl_append, List.foldl_cons, digitValue_digitChar h, List.foldl_nil]
    rw [ofDigits] at ih
    rw [ih]

theorem lt (h : Numeral s n) : n < Nat.pow 10 s.length := by
  induction h with
  | digit h => exact h
  | append _ h ih =>
    rw [List.length_append, List.length_singleton]
    change _ < Nat.pow 10 _ * 10
    omega

theorem isDigit (h : Numeral s n) : ∀ c ∈ s, c.isDigit = true := (isDigits_iff.1 h.isDigits).2

theorem ne_nil (h : Numeral s n) : s ≠ [] := (isDigits_iff.1 h.isDigits).1

theorem notMem (h : Numeral s n) {c : Char} (hc : c.isDigit = false) : c ∉ s := fun hm ↦ by
  rw [h.isDigit c hm] at hc
  cases hc

end Numeral

theorem numeral_ofDigits {s : List Char} (h : isDigits s = true) : Numeral s (ofDigits s) := by
  rw [isDigits_iff] at h
  induction s using List.reverseRecOn with
  | nil => exact absurd rfl h.1
  | append_singleton s c ih =>
    obtain ⟨d, hd, rfl⟩ := isDigit_iff_exists.1 (h.2 c (by simp))
    by_cases hs : s = []
    · subst hs
      have hn := (Numeral.digit hd).ofDigits_eq
      rw [List.nil_append, hn]
      exact .digit hd
    · have hn := ih ⟨hs, fun c hc ↦ h.2 c (List.mem_append_left _ hc)⟩
      have hn' := hn.append hd
      rwa [hn'.ofDigits_eq]

theorem SignedNumeral.toNat_of_mem {s : List Char} {k : Int} (h : SignedNumeral s k) {c : Char}
    (hc : c ∈ s) : c.toNat = 45 ∨ 48 ≤ c.toNat ∧ c.toNat ≤ 57 := by
  cases h with
  | natural h => exact .inr (Sql.isDigit_iff.1 (h.isDigit c hc))
  | negative h =>
    rcases List.mem_cons.1 hc with rfl | hc
    · exact .inl rfl
    · exact .inr (Sql.isDigit_iff.1 (h.isDigit c hc))

/-- The words of a type are the integers that fit in so many bits. -/
structure IsWord {α : Type} (bits : Nat) (toInt : α → Int) (ofInt : Int → α) : Prop where
  fits (m : α) : fitsSigned bits (toInt m) = true
  toInt_ofInt {k : Int} (h : fitsSigned bits k = true) : toInt (ofInt k) = k
  ofInt_toInt (m : α) : ofInt (toInt m) = m

theorem fitsSigned_iff {bits : Nat} {k : Int} :
    fitsSigned bits k = true ↔
      -(Nat.pow 2 (bits - 1) : Int) ≤ k ∧ k < (Nat.pow 2 (bits - 1) : Int) := by
  rw [fitsSigned, Bool.and_eq_true, decide_eq_true_eq, decide_eq_true_eq]

theorem isWord_int16 : IsWord 16 Int16.toInt Int16.ofInt where
  fits m := fitsSigned_iff.2 ⟨m.le_toInt, m.toInt_lt⟩
  toInt_ofInt h := Int16.toInt_ofInt_of_le (fitsSigned_iff.1 h).1 (fitsSigned_iff.1 h).2
  ofInt_toInt := Int16.ofInt_toInt

theorem isWord_int32 : IsWord 32 Int32.toInt Int32.ofInt where
  fits m := fitsSigned_iff.2 ⟨m.le_toInt, m.toInt_lt⟩
  toInt_ofInt h := Int32.toInt_ofInt_of_le (fitsSigned_iff.1 h).1 (fitsSigned_iff.1 h).2
  ofInt_toInt := Int32.ofInt_toInt

theorem isWord_int64 : IsWord 64 Int64.toInt Int64.ofInt where
  fits m := fitsSigned_iff.2 ⟨m.le_toInt, m.toInt_lt⟩
  toInt_ofInt h := Int64.toInt_ofInt_of_le (fitsSigned_iff.1 h).1 (fitsSigned_iff.1 h).2
  ofInt_toInt := Int64.ofInt_toInt

theorem IsWord.narrow {α β : Type} {bits : Nat} {toInt : α → Int} {ofInt : Int → α}
    (h : IsWord bits toInt ofInt) (f : α → β) (k : Int) :
    (∀ m, toInt m = k →
      ((some k).filter (fitsSigned bits)).map (fun n ↦ f (ofInt n)) = some (f m)) ∧
    ((∀ m, toInt m ≠ k) →
      ((some k).filter (fitsSigned bits)).map (fun n ↦ f (ofInt n)) = none) := by
  rw [Option.filter_some]
  constructor
  · rintro m rfl
    rw [if_pos (h.fits m), Option.map_some, h.ofInt_toInt]
  · intro hn
    have hf : ¬ fitsSigned bits k = true := fun hf ↦ hn (ofInt k) (h.toInt_ofInt hf)
    rw [if_neg hf, Option.map_none]

end Number

open Number Text

namespace Value

variable {s : List Char}

theorem dropMinus_of_notMem (h : '-' ∉ s) : dropMinus s = s := by
  unfold dropMinus
  split
  next => simp at h
  next => rfl

theorem eq_or_eq_cons_dropMinus (s : List Char) : s = dropMinus s ∨ s = '-' :: dropMinus s := by
  unfold dropMinus
  split
  next => exact .inr rfl
  next => exact .inl rfl

theorem isIntegerLiteral_iff : isIntegerLiteral s = true ↔ ∃ k, SignedNumeral s k := by
  constructor
  · intro h
    have hn := numeral_ofDigits h
    rcases eq_or_eq_cons_dropMinus s with hs | hs
    · rw [hs]
      exact ⟨_, .natural hn⟩
    · rw [hs]
      exact ⟨_, .negative hn⟩
  · rintro ⟨k, h | h⟩
    · rw [isIntegerLiteral, dropMinus_of_notMem (h.notMem rfl), h.isDigits]
    · exact h.isDigits

theorem notMem_point {whole fraction : List Char} {n m : Nat} (hw : Numeral whole n)
    (hf : Numeral fraction m) {c : Char} (hc : c.isDigit = false) (hp : c ≠ '.') :
    c ∉ whole ++ '.' :: fraction := by
  simp [hw.notMem hc, hf.notMem hc, hp]

theorem cut?_point {whole fraction : List Char} {n : Nat} (hw : Numeral whole n) :
    cut? ['.'] (whole ++ '.' :: fraction) = some (whole, fraction) := by
  have hl := leftmostIn_of_notMem (hw.notMem (c := '.') rfl) [] fraction
  rw [List.append_assoc] at hl
  exact cut?_eq_some_iff.2 hl

theorem isDecimalLiteral_iff : isDecimalLiteral s = true ↔ ∃ l, PointNumeral s l := by
  constructor
  · intro h
    unfold isDecimalLiteral at h
    split at h
    next whole fraction hc =>
      rw [Bool.and_eq_true] at h
      have hw := numeral_ofDigits h.1
      have hf := numeral_ofDigits h.2
      have he := eq_append_of_cut? hc
      rw [List.append_assoc, List.singleton_append] at he
      rcases eq_or_eq_cons_dropMinus s with hs | hs
      · rw [hs, he]
        exact ⟨_, .positive hw hf⟩
      · rw [hs, he]
        exact ⟨_, .negative hw hf⟩
    next => cases h
  · rintro ⟨l, @⟨whole, fraction, n, m, hw, hf⟩ | ⟨hw, hf⟩⟩
    · have hm := notMem_point hw hf (c := '-') rfl (by decide)
      rw [isDecimalLiteral, dropMinus_of_notMem hm, cut?_point hw]
      exact Bool.and_eq_true_iff.2 ⟨hw.isDigits, hf.isDigits⟩
    · rw [isDecimalLiteral, dropMinus, cut?_point hw]
      exact Bool.and_eq_true_iff.2 ⟨hw.isDigits, hf.isDigits⟩

theorem integer?_of_signedNumeral {k : Int} (h : SignedNumeral s k) : integer? s = some k := by
  cases h with
  | natural h =>
    unfold integer?
    split
    next => exact absurd List.mem_cons_self (h.notMem rfl)
    next => exact absurd List.mem_cons_self (h.notMem rfl)
    next => rw [if_pos h.isDigits, h.ofDigits_eq]
  | negative h => rw [integer?, if_pos h.isDigits, h.ofDigits_eq]

theorem unsignedLiteral?_point (negative : Bool) {whole fraction : List Char} {n m : Nat}
    (hw : Numeral whole n) (hf : Numeral fraction m) :
    unsignedLiteral? negative (whole ++ '.' :: fraction) =
      some ⟨negative, n * Nat.pow 10 fraction.length + m, -fraction.length⟩ := by
  have hpoint : Char.isDigit '.' = false := rfl
  have htake : (whole ++ '.' :: fraction).takeWhile Char.isDigit = whole := by
    simp [List.takeWhile_append_of_pos hw.isDigit, hpoint]
  have hdrop : (whole ++ '.' :: fraction).dropWhile Char.isDigit = '.' :: fraction := by
    simp [List.dropWhile_append_of_pos hw.isDigit, hpoint]
  have htake' : fraction.takeWhile Char.isDigit = fraction :=
    List.takeWhile_eq_self_iff.2 hf.isDigit
  have hdrop' : fraction.dropWhile Char.isDigit = [] := List.dropWhile_eq_nil_iff.2 hf.isDigit
  unfold unsignedLiteral?
  simp only [htake, hdrop, htake', hdrop']
  rw [if_neg (by simp [hw.ne_nil]), ofDigits_append, hw.ofDigits_eq, hf.ofDigits_eq]
  simp [exponent?]

theorem ofText?_of_pointNumeral {l : Literal} (h : PointNumeral s l) :
    Double.ofText? s = some (Double.ofLiteral l) := by
  have hl : literal? s = some l := by
    cases h with
    | @positive whole fraction n m hw hf =>
      have hplus := notMem_point hw hf (c := '+') rfl (by decide)
      have hminus := notMem_point hw hf (c := '-') rfl (by decide)
      unfold literal?
      split
      next he => exact absurd (he ▸ List.mem_cons_self) hminus
      next he => exact absurd (he ▸ List.mem_cons_self) hplus
      next => exact unsignedLiteral?_point false hw hf
    | negative hw hf => exact unsignedLiteral?_point true hw hf
  rw [Double.ofText?, hl]

/-- What a raw text is by its looks. -/
inductive Looks (raw : String) : Option Value → Prop
  | true (h : InAnyCase "true" raw) : Looks raw (some (bool true))
  | false (h : InAnyCase "false" raw) : Looks raw (some (bool false))
  | int {m : Int32} (h : SignedNumeral raw.toList m.toInt) (hl : raw.toList.length < 10) :
      Looks raw (some (int m))
  | long {m : Int64} (h : SignedNumeral raw.toList m.toInt) (hl : 10 ≤ raw.toList.length) :
      Looks raw (some (long m))
  | beyond {k : Int} (h : SignedNumeral raw.toList k) (hl : 10 ≤ raw.toList.length)
      (hk : ¬ (Int64.minValue.toInt ≤ k ∧ k ≤ Int64.maxValue.toInt)) : Looks raw none
  | float {l : Literal} {x : Double} (h : PointNumeral raw.toList l)
      (hs : x.isNegative = l.negative) (hx : x.Rounds l.value) : Looks raw (some (float x))
  | string (ht : ¬ InAnyCase "true" raw) (hf : ¬ InAnyCase "false" raw)
      (hi : ∀ k, ¬ SignedNumeral raw.toList k) (hp : ∀ l, ¬ PointNumeral raw.toList l) :
      Looks raw (some (string raw))

theorem toNat_le_of_isDigit {c : Char} (h : c.isDigit = true) : c.toNat ≤ 57 :=
  (Sql.isDigit_iff.1 h).2

theorem toNat_le_of_signedNumeral {k : Int} (h : SignedNumeral s k) :
    ∀ c ∈ s, c.toNat ≤ 57 := by
  intro c hc
  have hn := h.toNat_of_mem hc
  omega

theorem toNat_le_of_pointNumeral {l : Literal} (h : PointNumeral s l) :
    ∀ c ∈ s, c.toNat ≤ 57 := by
  have hp {whole fraction : List Char} {n m : Nat} (hw : Numeral whole n)
      (hf : Numeral fraction m) : ∀ c ∈ whole ++ '.' :: fraction, c.toNat ≤ 57 :=
    List.forall_mem_append.2 ⟨fun c hc ↦ toNat_le_of_isDigit (hw.isDigit c hc),
      List.forall_mem_cons.2 ⟨by decide, fun c hc ↦ toNat_le_of_isDigit (hf.isDigit c hc)⟩⟩
  cases h with
  | positive hw hf => exact hp hw hf
  | negative hw hf => exact List.forall_mem_cons.2 ⟨by decide, hp hw hf⟩

theorem not_pointNumeral_of_signedNumeral {k : Int} (h : SignedNumeral s k) (l : Literal) :
    ¬ PointNumeral s l := by
  have hs : '.' ∉ s := fun hm ↦ absurd (h.toNat_of_mem hm) (by decide)
  rintro (_ | _) <;> simp at hs

variable {raw : String}

theorem not_word (h : ∀ c ∈ raw.toList, c.toNat ≤ 57) :
    sameLetters raw "true" = false ∧ sameLetters raw "false" = false :=
  ⟨sameLetters_of_forall (c := 't') (by decide) (by decide) h,
    sameLetters_of_forall (c := 'f') (by decide) (by decide) h⟩

theorem sniff?_of_pointNumeral {l : Literal} (h : PointNumeral raw.toList l) :
    sniff? raw = some (float (Double.ofLiteral l)) := by
  obtain ⟨ht, hf⟩ := not_word (toNat_le_of_pointNumeral h)
  have hi : isIntegerLiteral raw.toList = false := by
    rw [← Bool.not_eq_true, isIntegerLiteral_iff]
    rintro ⟨k, hk⟩
    exact not_pointNumeral_of_signedNumeral hk l h
  have hd : isDecimalLiteral raw.toList = true := isDecimalLiteral_iff.2 ⟨l, h⟩
  simp only [sniff?, ht, hf, hi, hd, ofText?_of_pointNumeral h, Bool.false_eq_true, if_false,
    if_true]

variable {k : Int}

theorem sniff?_of_signedNumeral (h : SignedNumeral raw.toList k) : sniff? raw =
    if raw.toList.length < longLength then
      ((some k).filter (fitsSigned 32)).map fun n ↦ int (Int32.ofInt n)
    else ((some k).filter (fitsSigned 64)).map fun n ↦ long (Int64.ofInt n) := by
  obtain ⟨ht, hf⟩ := not_word (toNat_le_of_signedNumeral h)
  have hi : isIntegerLiteral raw.toList = true := isIntegerLiteral_iff.2 ⟨k, h⟩
  simp only [sniff?, ht, hf, hi, int32?, int64?, signed?, integer?_of_signedNumeral h,
    Option.map_map, Bool.false_eq_true, if_false, if_true]
  rfl

theorem fitsSigned_of_length (h : SignedNumeral s k) (hl : s.length < longLength) :
    fitsSigned 32 k = true := by
  have hk : k.natAbs < Nat.pow 10 9 := by
    cases h with
    | natural h => exact h.lt.trans_le (Nat.pow_le_pow_right (by decide) (Nat.le_of_lt_succ hl))
    | negative h =>
      rw [Int.natAbs_neg]
      exact h.lt.trans (Nat.pow_lt_pow_right (by decide) (Nat.lt_of_succ_lt_succ hl))
  have hpow : Nat.pow 10 9 = 1000000000 := by decide
  have hbound : Nat.pow 2 (32 - 1) = 2147483648 := by decide
  rw [fitsSigned_iff, hbound]
  omega

theorem sniff?_of_short (h : SignedNumeral raw.toList k) (hl : raw.toList.length < longLength) :
    ∃ m : Int32, m.toInt = k ∧ sniff? raw = some (int m) := by
  have hf := fitsSigned_of_length h hl
  refine ⟨Int32.ofInt k, isWord_int32.toInt_ofInt hf, ?_⟩
  rw [sniff?_of_signedNumeral h, if_pos hl, Option.filter_some, if_pos hf, Option.map_some]

theorem sniff?_of_long (h : SignedNumeral raw.toList k) (hl : longLength ≤ raw.toList.length) :
    (∀ m : Int64, m.toInt = k → sniff? raw = some (long m)) ∧
    ((∀ m : Int64, m.toInt ≠ k) → sniff? raw = none) := by
  rw [sniff?_of_signedNumeral h, if_neg (Nat.not_lt.2 hl)]
  exact isWord_int64.narrow long k

theorem exists_toInt_eq_iff : (∃ m : Int64, m.toInt = k) ↔
    Int64.minValue.toInt ≤ k ∧ k ≤ Int64.maxValue.toInt := by
  constructor
  · rintro ⟨m, rfl⟩
    exact ⟨m.minValue_le_toInt, m.toInt_le⟩
  · rintro ⟨hlo, hhi⟩
    refine ⟨Int64.ofInt k, isWord_int64.toInt_ofInt (fitsSigned_iff.2 ⟨hlo, ?_⟩)⟩
    exact Int.lt_add_one_of_le hhi

theorem sniff?_of_true (h : InAnyCase "true" raw) : sniff? raw = some (bool true) := by
  have ht : sameLetters raw "true" = true := (sameLetters_iff (by decide)).2 h
  simp only [sniff?, ht, if_true]

theorem sniff?_of_false (h : InAnyCase "false" raw) : sniff? raw = some (bool false) := by
  have hf : sameLetters raw "false" = true := (sameLetters_iff (by decide)).2 h
  have ht : sameLetters raw "true" = false := by
    rw [sameLetters, beq_iff_eq] at hf
    rw [sameLetters, beq_eq_false_iff_ne, hf]
    decide
  simp only [sniff?, ht, hf, Bool.false_eq_true, if_false, if_true]

theorem sniff?_of_string (ht : ¬ InAnyCase "true" raw) (hf : ¬ InAnyCase "false" raw)
    (hi : ∀ k, ¬ SignedNumeral raw.toList k) (hp : ∀ l, ¬ PointNumeral raw.toList l) :
    sniff? raw = some (string raw) := by
  rw [← sameLetters_iff (by decide), Bool.not_eq_true] at ht hf
  rw [← not_exists, ← isIntegerLiteral_iff, Bool.not_eq_true] at hi
  rw [← not_exists, ← isDecimalLiteral_iff, Bool.not_eq_true] at hp
  simp only [sniff?, ht, hf, hi, hp, Bool.false_eq_true, if_false]

theorem looks_sniff? (raw : String) : Looks raw (sniff? raw) := by
  by_cases hi : ∃ k, SignedNumeral raw.toList k
  · obtain ⟨k, hk⟩ := hi
    by_cases hl : raw.toList.length < longLength
    · obtain ⟨m, rfl, hs⟩ := sniff?_of_short hk hl
      exact hs ▸ .int hk hl
    · obtain ⟨hlong, hnone⟩ := sniff?_of_long hk (Nat.not_lt.1 hl)
      by_cases hm : ∃ m : Int64, m.toInt = k
      · obtain ⟨m, rfl⟩ := hm
        exact hlong m rfl ▸ .long hk (Nat.not_lt.1 hl)
      · exact hnone (not_exists.1 hm) ▸ .beyond hk (Nat.not_lt.1 hl) (mt exists_toInt_eq_iff.2 hm)
  by_cases hp : ∃ l, PointNumeral raw.toList l
  · obtain ⟨l, hl⟩ := hp
    obtain ⟨hs, hx⟩ := Double.eq_ofLiteral_iff.1 (rfl : Double.ofLiteral l = _)
    exact sniff?_of_pointNumeral hl ▸ .float hl hs hx
  by_cases ht : InAnyCase "true" raw
  · exact sniff?_of_true ht ▸ .true ht
  by_cases hf : InAnyCase "false" raw
  · exact sniff?_of_false hf ▸ .false hf
  have hi := not_exists.1 hi
  have hp := not_exists.1 hp
  exact sniff?_of_string ht hf hi hp ▸ .string ht hf hi hp

theorem sniff?_of_looks {r : Option Value} (h : Looks raw r) : sniff? raw = r := by
  cases h with
  | true h => exact sniff?_of_true h
  | false h => exact sniff?_of_false h
  | int h hl =>
    obtain ⟨m, hm, hs⟩ := sniff?_of_short h hl
    rw [hs, Int32.toInt_inj.1 hm]
  | long h hl => exact (sniff?_of_long h hl).1 _ rfl
  | beyond h hl hk => exact (sniff?_of_long h hl).2 (not_exists.1 (mt exists_toInt_eq_iff.1 hk))
  | float h hs hx => rw [sniff?_of_pointNumeral h, ← Double.eq_ofLiteral_iff.2 ⟨hs, hx⟩]
  | string ht hf hi hp => exact sniff?_of_string ht hf hi hp

/-- Every text has one look, and it is read by that. An integer of less than ten characters is
always a number of 32 bits, a decimal number is the double that it rounds to, and only a longer
integer outside the range of 64 bits has no value. -/
theorem sniff?_classifies (raw : String) :
    (∀ r, sniff? raw = r ↔ Looks raw r) ∧
    (∀ k, SignedNumeral raw.toList k → raw.toList.length < 10 →
      ∃ m : Int32, m.toInt = k ∧ sniff? raw = some (int m)) ∧
    (∀ l, PointNumeral raw.toList l →
      ∃ x : Double, x.isNegative = l.negative ∧ x.Rounds l.value ∧ sniff? raw = some (float x)) ∧
    (sniff? raw = none ↔ ∃ k, SignedNumeral raw.toList k ∧ 10 ≤ raw.toList.length ∧
      ¬ (Int64.minValue.toInt ≤ k ∧ k ≤ Int64.maxValue.toInt)) := by
  have hlooks (r : Option Value) : sniff? raw = r ↔ Looks raw r :=
    ⟨fun h ↦ h ▸ looks_sniff? raw, sniff?_of_looks⟩
  refine ⟨hlooks, fun k hk hl ↦ sniff?_of_short hk hl, fun l hl ↦ ?_,
    (hlooks none).trans ⟨?_, ?_⟩⟩
  · obtain ⟨hs, hx⟩ := Double.eq_ofLiteral_iff.1 (rfl : Double.ofLiteral l = _)
    exact ⟨_, hs, hx, sniff?_of_pointNumeral hl⟩
  · intro h
    cases h with
    | beyond hk hl hr => exact ⟨_, hk, hl, hr⟩
  · rintro ⟨k, hk, hl, hr⟩
    exact .beyond hk hl hr

theorem sniff?_classifies_at_the_bounds :
    sniff? "-0000009223372036854775808" = some (long Int64.minValue) ∧
    sniff? "-9223372036854775809" = none ∧
    (∃ m : Int32, m.toInt = -7 ∧ sniff? "-00000007" = some (int m)) ∧
    sniff? "FaLSE" = some (bool false) ∧
    sniff? "-0.250" = some (float ⟨0xBFD0000000000000⟩) ∧
    sniff? "0.1" = some (float ⟨0x3FB999999999999A⟩) ∧
    sniff? "1." = some (string "1.") := by
  have numeral {s : String} (h : isDigits s.toList = true) : Numeral s.toList (ofDigits s.toList) :=
    numeral_ofDigits h
  have hmin : SignedNumeral "-0000009223372036854775808".toList Int64.minValue.toInt :=
    .negative (numeral (s := "0000009223372036854775808") (by decide))
  have hbelow : SignedNumeral "-9223372036854775809".toList (-9223372036854775809) :=
    .negative (numeral (s := "9223372036854775809") (by decide))
  have hshort : SignedNumeral "-00000007".toList (-7) :=
    .negative (numeral (s := "00000007") (by decide))
  have hexact : PointNumeral "-0.250".toList ⟨true, 250, -3⟩ :=
    .negative (numeral (s := "0") (by decide)) (numeral (s := "250") (by decide))
  have hrounded : PointNumeral "0.1".toList ⟨false, 1, -1⟩ :=
    .positive (numeral (s := "0") (by decide)) (numeral (s := "1") (by decide))
  have hquarter : ⟨0xBFD0000000000000⟩ = Double.ofLiteral ⟨true, 250, -3⟩ := by decide
  have htenth : ⟨0x3FB999999999999A⟩ = Double.ofLiteral ⟨false, 1, -1⟩ := by decide
  refine ⟨?_, ?_, ?_, ?_, ?_, ?_, ?_⟩
  · exact ((sniff?_classifies _).1 _).2 (.long hmin (by decide))
  · exact (sniff?_classifies _).2.2.2.2 ⟨_, hbelow, by decide, by decide⟩
  · exact (sniff?_classifies _).2.1 _ hshort (by decide)
  · exact ((sniff?_classifies _).1 _).2 (.false (by simp [InAnyCase]))
  · obtain ⟨hs, hx⟩ := Double.eq_ofLiteral_iff.1 hquarter
    exact ((sniff?_classifies _).1 _).2 (.float hexact hs hx)
  · obtain ⟨hs, hx⟩ := Double.eq_ofLiteral_iff.1 htenth
    exact ((sniff?_classifies _).1 _).2 (.float hrounded hs hx)
  · have hi : ∀ k, ¬ SignedNumeral "1.".toList k :=
      not_exists.1 (mt isIntegerLiteral_iff.2 (by decide))
    have hp : ∀ l, ¬ PointNumeral "1.".toList l :=
      not_exists.1 (mt isDecimalLiteral_iff.2 (by decide))
    exact ((sniff?_classifies _).1 _).2 (.string (by simp [InAnyCase]) (by simp [InAnyCase]) hi hp)

end Value

end Listing
