import Listing.Proofs.Pieces
import Listing.Shorthand
import Mathlib.Data.List.DropRight
import Mathlib.Data.List.Forall2

namespace Listing

namespace Text

section

/-- A text is this word of small letters, or has capitals in place of some of them. -/
def InAnyCase (word s : String) : Prop :=
  List.Forall₂ (fun c d ↦ d = c ∨ d = c.toUpper) word.toList s.toList

theorem isLower_iff {c : Char} : c.isLower = true ↔ 97 ≤ c.toNat ∧ c.toNat ≤ 122 := by
  change (decide ('a' ≤ c) && decide (c ≤ 'z')) = true ↔ _
  simp only [Bool.and_eq_true, decide_eq_true_eq, Char.le_def, UInt32.le_iff_toNat_le]
  rfl

theorem toNat_toUpper {c : Char} (h : c.isLower = true) : c.toUpper.toNat = c.toNat - 32 := by
  have hn := isLower_iff.1 h
  have hv : c.val ≥ 'a'.val ∧ c.val ≤ 'z'.val := by
    rw [ge_iff_le, UInt32.le_iff_toNat_le, UInt32.le_iff_toNat_le]
    exact hn
  delta Char.toUpper
  rw [dif_pos hv]
  change (c.val + ('A'.val - 'a'.val)).toNat = c.toNat - 32
  rw [UInt32.toNat_add]
  change (c.toNat + 4294967264) % 4294967296 = c.toNat - 32
  omega

theorem toNat_asciiLower (c : Char) : (asciiLower c).toNat =
    if 65 ≤ c.toNat ∧ c.toNat ≤ 90 then c.toNat + 32 else c.toNat := by
  have hc : 'A' ≤ c ∧ c ≤ 'Z' ↔ 65 ≤ c.toNat ∧ c.toNat ≤ 90 := by
    simp only [Char.le_def, UInt32.le_iff_toNat_le]
    rfl
  simp only [asciiLower, hc]
  split
  next h =>
    rw [Char.ofNat, dif_pos (.inl (by omega))]
    rfl
  next => rfl

theorem asciiLower_eq_iff {c d : Char} (hc : c.isLower = true) :
    asciiLower d = c ↔ d = c ∨ d = c.toUpper := by
  have hn := isLower_iff.1 hc
  rw [← Char.toNat_inj, ← Char.toNat_inj, ← Char.toNat_inj, toNat_asciiLower, toNat_toUpper hc]
  split <;> omega

variable {word s : String}

theorem inAnyCase_iff (hw : word.toList.all Char.isLower = true) :
    InAnyCase word s ↔ s.toList.map asciiLower = word.toList := by
  rw [List.all_eq_true] at hw
  rw [InAnyCase]
  generalize word.toList = w at hw ⊢
  generalize s.toList = s
  induction w generalizing s with
  | nil => simp
  | cons c w ih =>
    have hc : c.isLower = true := hw c List.mem_cons_self
    cases s with
    | nil => simp
    | cons d s =>
      rw [List.map_cons, List.cons_eq_cons, asciiLower_eq_iff hc, List.forall₂_cons,
        ih fun c hc ↦ hw c (List.mem_cons_of_mem _ hc)]

theorem sameLetters_iff (hw : word.toList.all Char.isLower = true) :
    sameLetters s word = true ↔ InAnyCase word s := by
  have hword : word.toList.map asciiLower = word.toList :=
    (inAnyCase_iff hw).1 (List.forall₂_same.2 fun _ _ ↦ .inl rfl)
  rw [sameLetters, hword, beq_iff_eq, inAnyCase_iff hw]

theorem sameLetters_of_forall {c : Char} (hc : c ∈ word.toList) (hl : c.isLower = true)
    (h : ∀ d ∈ s.toList, d.toNat ≤ 57) : sameLetters s word = false := by
  rw [sameLetters, beq_eq_false_iff_ne]
  intro he
  have hm : asciiLower c ∈ s.toList.map asciiLower := he ▸ List.mem_map_of_mem hc
  obtain ⟨d, hd, he⟩ := List.mem_map.1 hm
  have hn := congrArg Char.toNat he
  have hd := h d hd
  have hl := isLower_iff.1 hl
  rw [toNat_asciiLower, toNat_asciiLower, if_neg (by omega), if_neg (by omega)] at hn
  omega

end

theorem trimBoth_trimBoth (s : List Char) : trimBoth (trimBoth s) = trimBoth s := by
  have hstart : trimStart (trimBoth s) = trimBoth s := by
    rw [trimStart, List.dropWhile_eq_self_iff]
    intro hl
    have hp : trimBoth s <+: trimStart s := List.rdropWhile_prefix isBlank (trimStart s)
    rw [hp.getElem hl]
    exact List.dropWhile_get_zero_not isBlank s _
  rw [trimBoth, hstart]
  exact List.rdropWhile_idempotent isBlank (trimStart s)

theorem trimStart_eq_self_iff {s : List Char} :
    trimStart s = s ↔ ∀ c, s.head? = some c → isBlank c = false := by
  cases s with
  | nil => simp [trimStart]
  | cons c s =>
    rw [trimStart, List.dropWhile_eq_self_iff]
    simp

theorem trimEnd_eq_self_iff {s : List Char} :
    trimEnd s = s ↔ ∀ c, s.getLast? = some c → isBlank c = false := by
  rw [trimEnd, List.reverse_eq_iff, ← List.head?_reverse]
  exact trimStart_eq_self_iff

theorem trimBoth_eq_self_iff {s : List Char} : trimBoth s = s ↔
    (∀ c, s.head? = some c → isBlank c = false) ∧ ∀ c, s.getLast? = some c → isBlank c = false := by
  rw [← trimStart_eq_self_iff, ← trimEnd_eq_self_iff]
  constructor
  · intro h
    have hs : trimStart s = s := by
      refine (List.dropWhile_suffix isBlank).eq_of_length_le ?_
      have hp : trimBoth s <+: trimStart s := List.rdropWhile_prefix isBlank (trimStart s)
      rw [h] at hp
      exact hp.length_le
    refine ⟨hs, ?_⟩
    rwa [trimBoth, hs] at h
  · rintro ⟨hs, he⟩
    rw [trimBoth, hs, he]

theorem trimBoth_of_forall {s : List Char} (h : ∀ c ∈ s, isBlank c = false) : trimBoth s = s :=
  trimBoth_eq_self_iff.2
    ⟨fun c hc ↦ h c (List.mem_of_mem_head? hc), fun c hc ↦ h c (List.mem_of_getLast? hc)⟩

theorem trimStart_append {before : List Char} (h : ∀ c ∈ before, isBlank c = true) (s : List Char) :
    trimStart (before ++ s) = trimStart s := List.dropWhile_append_of_pos h

theorem trimEnd_append {after : List Char} (h : ∀ c ∈ after, isBlank c = true) (s : List Char) :
    trimEnd (s ++ after) = trimEnd s := by
  rw [trimEnd, List.reverse_append, List.dropWhile_append_of_pos, trimEnd]
  exact fun c hc ↦ h c (List.mem_reverse.1 hc)

theorem trimBoth_append_append {before after : List Char} (hb : ∀ c ∈ before, isBlank c = true)
    (ha : ∀ c ∈ after, isBlank c = true) (s : List Char) :
    trimBoth (before ++ s ++ after) = trimBoth s := by
  rw [trimBoth, List.append_assoc, trimStart_append hb]
  by_cases h : ∀ c ∈ s, isBlank c = true
  · have hs : trimStart (s ++ after) = [] := by
      rw [trimStart_append h]
      exact List.dropWhile_eq_nil_iff.2 ha
    have ht : trimStart s = [] := List.dropWhile_eq_nil_iff.2 h
    rw [hs, trimBoth, ht]
  · have hs : trimStart (s ++ after) = trimStart s ++ after := by
      rw [trimStart, List.dropWhile_append, if_neg]
      · rfl
      · simpa using h
    rw [hs, trimEnd_append ha, trimBoth]

theorem trimBoth_blank_append {b : List Char} (hb : ∀ d ∈ b, isBlank d = true) (s : List Char) :
    trimBoth (b ++ s) = trimBoth s := by
  simpa using trimBoth_append_append hb (List.forall_mem_nil _) s

theorem trimBoth_append_blank {a : List Char} (ha : ∀ d ∈ a, isBlank d = true) (s : List Char) :
    trimBoth (s ++ a) = trimBoth s := by
  simpa using trimBoth_append_append (List.forall_mem_nil _) ha s

theorem exists_blanks (s : List Char) : ∃ before after, s = before ++ trimBoth s ++ after ∧
    (∀ c ∈ before, isBlank c = true) ∧ ∀ c ∈ after, isBlank c = true := by
  refine ⟨s.takeWhile isBlank, (trimStart s).rtakeWhile isBlank, ?_,
    fun _ ↦ List.mem_takeWhile_imp, fun _ ↦ List.mem_rtakeWhile_imp⟩
  have hend : trimBoth s ++ (trimStart s).rtakeWhile isBlank = trimStart s :=
    List.rdropWhile_append_rtakeWhile
  rw [List.append_assoc, hend, trimStart, List.takeWhile_append_dropWhile]

theorem trimBoth_isInfix (s : List Char) : trimBoth s <:+: s := by
  obtain ⟨before, after, hs, -, -⟩ := exists_blanks s
  exact ⟨before, after, hs.symm⟩

theorem trimBoth_subset (s : List Char) : trimBoth s ⊆ s := (trimBoth_isInfix s).subset

theorem trimBoth_eq_nil_iff {s : List Char} : trimBoth s = [] ↔ ∀ c ∈ s, isBlank c = true := by
  constructor
  · intro h
    obtain ⟨before, after, hs, hb, ha⟩ := exists_blanks s
    rw [hs, h, List.append_nil]
    intro c hc
    exact (List.mem_append.1 hc).elim (hb c) (ha c)
  · intro h
    have ht : trimBoth (s ++ []) = [] := trimBoth_blank_append h []
    rwa [List.append_nil] at ht

theorem isEmpty_trim (s : String) : (trim s).isEmpty = isBlankText s := by
  rw [Bool.eq_iff_iff, isBlankText, List.all_eq_true, ← trimBoth_eq_nil_iff]
  simp [trim]

theorem count_trimBoth {c : Char} (hc : isBlank c = false) (s : List Char) :
    (trimBoth s).count c = s.count c := by
  have hblank : ∀ {b : List Char}, (∀ d ∈ b, isBlank d = true) → b.count c = 0 := by
    intro b hb
    refine List.count_eq_zero.2 fun h ↦ ?_
    rw [hb c h] at hc
    cases hc
  obtain ⟨before, after, hs, hb, ha⟩ := exists_blanks s
  calc (trimBoth s).count c
      = (before ++ trimBoth s ++ after).count c := by
        rw [List.count_append, List.count_append, hblank hb, hblank ha]
        omega
    _ = s.count c := by rw [← hs]

theorem mem_trimBoth_iff {c : Char} {s : List Char} (hc : isBlank c = false) :
    c ∈ trimBoth s ↔ c ∈ s := by
  rw [← List.count_pos_iff, count_trimBoth hc, List.count_pos_iff]

theorem nonBlank?_eq_some {s t : List Char} : nonBlank? s = some t ↔ trimBoth s = t ∧ t ≠ [] := by
  unfold nonBlank?
  split
  next h =>
    simp only [h, reduceCtorEq, false_iff, not_and, not_not]
    exact Eq.symm
  next c r h =>
    rw [h, Option.some_inj]
    constructor
    · rintro rfl
      exact ⟨rfl, List.cons_ne_nil c r⟩
    · exact And.left

theorem toList_join (separator : String) (texts : List String) :
    (join separator texts).toList = separator.toList.intercalate (texts.map String.toList) := by
  induction texts with
  | nil => rfl
  | cons s r ih =>
    cases r with
    | nil => simp [join]
    | cons t r =>
      rw [List.map_cons] at ih
      rw [join, String.toList_append, String.toList_append, ih, List.map_cons, List.map_cons,
        List.intercalate_cons_cons (l := s.toList)]

theorem piecesAt_intercalate {c : Char} {ps : List (List Char)} (hne : ps ≠ [])
    (h : ∀ p ∈ ps, c ∉ p) : piecesAt c ([c].intercalate ps) = ps := by
  induction ps with
  | nil => exact absurd rfl hne
  | cons p ps ih =>
    obtain ⟨hp, hps⟩ := List.forall_mem_cons.1 h
    cases ps with
    | nil => rw [List.intercalate_singleton, piecesAt_of_notMem hp]
    | cons q ps =>
      rw [List.intercalate_cons_cons, List.append_assoc, List.singleton_append,
        piecesAt_append_cons hp, ih (List.cons_ne_nil q ps) hps]

theorem intercalate_piecesAt (c : Char) (s : List Char) : [c].intercalate (piecesAt c s) = s :=
  intercalate_pieces [c] s

theorem count_intercalate (c : Char) (d : List Char) (ps : List (List Char)) :
    (d.intercalate ps).count c = ps.flatten.count c + (ps.length - 1) * d.count c := by
  induction ps with
  | nil => simp
  | cons p ps ih =>
    cases ps with
    | nil => simp
    | cons q ps =>
      have hlen : (p :: q :: ps).length - 1 = ((q :: ps).length - 1) + 1 := rfl
      have hp : (p :: q :: ps).flatten.count c = p.count c + (q :: ps).flatten.count c :=
        List.count_append
      rw [List.intercalate_cons_cons, List.count_append, List.count_append, ih, hlen, hp,
        Nat.add_mul]
      omega

theorem mem_or_mem_of_mem_intercalate {c : Char} {d : List Char} {ps : List (List Char)}
    (h : c ∈ d.intercalate ps) : c ∈ d ∨ c ∈ ps.flatten := by
  rw [← List.count_pos_iff, count_intercalate] at h
  by_contra hne
  simp only [not_or, ← List.count_eq_zero] at hne
  simp [hne] at h

theorem mem_intercalate_of_mem {c : Char} {d p : List Char} {ps : List (List Char)} (hp : p ∈ ps)
    (hc : c ∈ p) : c ∈ d.intercalate ps := by
  have hpos : 0 < ps.flatten.count c := List.count_pos_iff.2 (List.mem_flatten.2 ⟨p, hp, hc⟩)
  rw [← List.count_pos_iff, count_intercalate]
  omega

theorem filter_intercalate {p : Char → Bool} {c : Char} (hc : p c = true) (ps : List (List Char)) :
    ([c].intercalate ps).filter p = [c].intercalate (ps.map (List.filter p)) := by
  induction ps with
  | nil => rfl
  | cons s ps ih =>
    cases ps with
    | nil => simp
    | cons t ps =>
      rw [List.map_cons] at ih
      rw [List.map_cons, List.map_cons, List.intercalate_cons_cons, List.intercalate_cons_cons,
        List.filter_append, List.filter_append, ih, List.filter_singleton, hc]
      rfl

theorem piecesAt_join {c : Char} {items : List String} (hne : items ≠ [])
    (h : ∀ s ∈ items, c ∉ s.toList) :
    piecesAt c (join (String.singleton c) items).toList = items.map String.toList := by
  rw [toList_join, String.toList_singleton]
  exact piecesAt_intercalate (mt List.map_eq_nil_iff.1 hne) (List.forall_mem_map.2 h)

theorem piecesAt_append_left {c : Char} {t : List Char} (h : c ∉ t) (s : List Char) :
    ∃ p ps, piecesAt c s = p :: ps ∧ piecesAt c (t ++ s) = (t ++ p) :: ps := by
  induction t with
  | nil =>
    obtain ⟨p, ps, hs⟩ := List.exists_cons_of_ne_nil (piecesAt_ne_nil c s)
    exact ⟨p, ps, hs, hs⟩
  | cons d t ih =>
    simp only [List.mem_cons, not_or] at h
    obtain ⟨p, ps, hs, ht⟩ := ih h.2
    refine ⟨p, ps, hs, ?_⟩
    rw [List.cons_append, piecesAt_cons, if_neg (fun e ↦ h.1 e.symm), ht]
    rfl

theorem piecesAt_append_right {c : Char} {t : List Char} (h : c ∉ t) (s : List Char) :
    ∃ ps p, piecesAt c s = ps ++ [p] ∧ piecesAt c (s ++ t) = ps ++ [p ++ t] := by
  induction s with
  | nil => exact ⟨[], [], rfl, piecesAt_of_notMem h⟩
  | cons d s ih =>
    obtain ⟨ps, p, hs, ht⟩ := ih
    rw [List.cons_append, piecesAt_cons, piecesAt_cons, hs, ht]
    split
    next => exact ⟨[] :: ps, p, rfl, rfl⟩
    next =>
      cases ps with
      | nil => exact ⟨[], d :: p, rfl, rfl⟩
      | cons q ps => exact ⟨(d :: q) :: ps, p, rfl, rfl⟩

theorem eq_or_mem_piecesAt {c d : Char} {s : List Char} (h : d ∈ s) :
    d = c ∨ ∃ p ∈ piecesAt c s, d ∈ p := by
  induction s with
  | nil => cases h
  | cons e s ih =>
    rw [piecesAt_cons]
    by_cases he : e = c
    · rw [if_pos he]
      rcases List.mem_cons.1 h with rfl | h
      · exact .inl he
      · exact (ih h).imp_right fun ⟨p, hp, hd⟩ ↦ ⟨p, List.mem_cons_of_mem _ hp, hd⟩
    · rw [if_neg he]
      cases hs : piecesAt c s with
      | nil => exact absurd hs (piecesAt_ne_nil c s)
      | cons q qs =>
        rw [hs] at ih
        rcases List.mem_cons.1 h with rfl | h
        · exact .inr ⟨d :: q, List.mem_cons_self, List.mem_cons_self⟩
        · refine (ih h).imp_right fun ⟨p, hp, hd⟩ ↦ ?_
          rcases List.mem_cons.1 hp with rfl | hp
          · exact ⟨e :: p, List.mem_cons_self, List.mem_cons_of_mem e hd⟩
          · exact ⟨p, List.mem_cons_of_mem _ hp, hd⟩

end Text

namespace Shorthand

open Text

theorem of_mem_list {delimiter value s : String} (hd : delimiter ≠ "")
    (h : s ∈ list delimiter value) :
    s ≠ "" ∧ trim s = s ∧ ¬ delimiter.toList <:+: s.toList := by
  obtain ⟨t, ht, rfl⟩ := List.mem_map.1 h
  obtain ⟨p, hp, ht⟩ := List.mem_filterMap.1 ht
  obtain ⟨rfl, hne⟩ := nonBlank?_eq_some.1 ht
  have hdelimiter : delimiter.toList ≠ [] := by simpa using hd
  have hparted := parted_pieces hdelimiter value.toList
  refine ⟨by simpa using hne, ?_, ?_⟩
  · rw [trim, String.toList_ofList, trimBoth_trimBoth]
  · rw [String.toList_ofList]
    intro hi
    exact hparted.not_isInfix hdelimiter p hp (hi.trans (trimBoth_isInfix p))

theorem trim_eq_and_notMem_of_mem_list {value s : String} (h : s ∈ list "," value) :
    trim s = s ∧ ',' ∉ s.toList := by
  obtain ⟨-, ht, hi⟩ := of_mem_list (by decide) h
  exact ⟨ht, fun hc ↦ hi ((List.singleton_infix_iff _ _).2 hc)⟩

end Shorthand

end Listing
