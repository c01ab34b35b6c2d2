import Listing.Text.Pieces
import Mathlib.Data.List.Infix

namespace Listing.Text

variable {needle s before after : List Char}

/-- What is in front of the leftmost occurrence of a text, and what follows that occurrence. -/
structure LeftmostIn (needle s before after : List Char) : Prop where
  eq : s = before ++ needle ++ after
  length_le {before' after' : List Char} (h : s = before' ++ needle ++ after') :
    before.length ≤ before'.length

theorem LeftmostIn.unique {before' after' : List Char} (h : LeftmostIn needle s before after)
    (h' : LeftmostIn needle s before' after') : before = before' ∧ after = after' := by
  have hl : before.length = before'.length := (h.length_le h'.eq).antisymm (h'.length_le h.eq)
  have heq := h.eq.symm.trans h'.eq
  rw [List.append_assoc, List.append_assoc] at heq
  obtain ⟨hb, ht⟩ := List.append_inj heq hl
  exact ⟨hb, List.append_cancel_left ht⟩

theorem leftmostIn_of_cut? (h : cut? needle s = some (before, after)) :
    LeftmostIn needle s before after := by
  refine ⟨eq_append_of_cut? h, fun {before' after'} hs ↦ ?_⟩
  induction s generalizing before before' with
  | nil =>
    unfold cut? at h
    split at h
    next =>
      cases h
      exact Nat.zero_le _
    next => cases h
  | cons c s ih =>
    unfold cut? at h
    split at h
    next =>
      cases h
      exact Nat.zero_le _
    next hp =>
      obtain ⟨p, hp', he⟩ := Option.map_eq_some_iff.1 h
      cases he
      cases before' with
      | nil =>
        refine absurd (List.isPrefixOf_iff_prefix.2 ?_) hp
        exact ⟨after', hs.symm⟩
      | cons d before' =>
        have hs : s = before' ++ needle ++ after' := (List.cons.inj hs).2
        exact Nat.succ_le_succ (ih hp' hs)

theorem cut?_eq_some_iff :
    cut? needle s = some (before, after) ↔ LeftmostIn needle s before after := by
  refine ⟨leftmostIn_of_cut?, fun h ↦ ?_⟩
  obtain ⟨⟨before', after'⟩, hp⟩ := Option.isSome_iff_exists.1
    (occurs_iff.2 ⟨before, after, h.eq.symm⟩)
  obtain ⟨rfl, rfl⟩ := (leftmostIn_of_cut? hp).unique h
  exact hp

theorem cut?_eq_none_iff : cut? needle s = none ↔ ¬ needle <:+: s := by
  rw [← occurs_iff, occurs, Option.not_isSome_iff_eq_none]

theorem not_infix_of_notMem {c : Char} (hc : c ∈ needle) (hs : c ∉ s) : ¬ needle <:+: s :=
  fun h ↦ hs (h.subset hc)

theorem infix_append_iff_of_notMem {c : Char} (h : c ∉ before) (needle s : List Char) :
    c :: needle <:+: before ++ s ↔ c :: needle <:+: s := by
  induction before with
  | nil => rfl
  | cons d before ih =>
    simp only [List.mem_cons, not_or] at h
    rw [List.cons_append, List.infix_cons_iff, List.cons_prefix_cons, ih h.2]
    exact or_iff_right fun hp ↦ h.1 hp.1

theorem not_infix_pair {c d : Char} (hb : c ∉ before) (ha : c ∉ after) (hd : d ∉ after.head?) :
    ¬ [c, d] <:+: before ++ c :: after := by
  rw [infix_append_iff_of_notMem hb, List.infix_cons_iff, List.cons_prefix_cons]
  rintro (⟨-, t, rfl⟩ | h)
  · exact hd rfl
  · exact ha (h.subset List.mem_cons_self)

theorem leftmostIn_of_notMem {c : Char} (h : c ∉ before) (needle after : List Char) :
    LeftmostIn (c :: needle) (before ++ c :: needle ++ after) before after := by
  refine ⟨rfl, fun {before' after'} hs ↦ ?_⟩
  rw [List.append_assoc, List.append_assoc] at hs
  rcases List.append_eq_append_iff.1 hs with ⟨t, rfl, -⟩ | ⟨t, rfl, ht⟩
  · simp
  · cases t with
    | nil => simp
    | cons d t =>
      obtain rfl : c = d := (List.cons.inj ht).1
      exact absurd (List.mem_append_right _ List.mem_cons_self) h

theorem exists_leftmostIn (h : needle <:+: s) :
    ∃ before after, LeftmostIn needle s before after := by
  obtain ⟨⟨before, after⟩, hp⟩ := Option.isSome_iff_exists.1 (occurs_iff.2 h)
  exact ⟨before, after, leftmostIn_of_cut? hp⟩

theorem LeftmostIn.eraseFirst_eq (h : LeftmostIn needle s before after) :
    eraseFirst needle s = before ++ after := by
  rw [eraseFirst, cut?_eq_some_iff.2 h]

theorem LeftmostIn.not_isInfix (hne : needle ≠ []) (h : LeftmostIn needle s before after) :
    ¬ needle <:+: before := by
  rintro ⟨t, u, ht⟩
  have hs : s = t ++ needle ++ (u ++ needle ++ after) := by
    rw [h.eq, ← ht]
    simp
  have hle := h.length_le hs
  have hpos := List.length_pos_of_ne_nil hne
  rw [← ht, List.length_append, List.length_append] at hle
  omega

/-- The pieces of a text: what is in front of the leftmost occurrence of a delimiter, then the
pieces of what follows it. -/
inductive Parted (delimiter : List Char) : List Char → List (List Char) → Prop
  | last {s : List Char} (h : ¬ delimiter <:+: s) : Parted delimiter s [s]
  | cons {s p rest : List Char} {ps : List (List Char)} (h : LeftmostIn delimiter s p rest)
      (hr : Parted delimiter rest ps) : Parted delimiter s (p :: ps)

variable {delimiter : List Char}

theorem Parted.not_isInfix (hne : delimiter ≠ []) {ps : List (List Char)}
    (h : Parted delimiter s ps) : ∀ p ∈ ps, ¬ delimiter <:+: p := by
  induction h with
  | last h => exact List.forall_mem_singleton.2 h
  | cons h _ ih => exact List.forall_mem_cons.2 ⟨h.not_isInfix hne, ih⟩

theorem Parted.ne_nil {ps : List (List Char)} (h : Parted delimiter s ps) : ps ≠ [] := by
  cases h <;> simp

theorem Parted.intercalate_eq {ps : List (List Char)} (h : Parted delimiter s ps) :
    delimiter.intercalate ps = s := by
  induction h with
  | last => exact List.intercalate_singleton
  | cons h hr ih => rw [List.intercalate_cons_of_ne_nil hr.ne_nil, ih, h.eq]

theorem Parted.one_lt_length {ps : List (List Char)} (h : Parted delimiter s ps)
    (hi : delimiter <:+: s) : 1 < ps.length := by
  cases h with
  | last h => exact absurd hi h
  | cons _ hr => simpa using List.length_pos_of_ne_nil hr.ne_nil

theorem Parted.eq_singleton {ps : List (List Char)} (h : Parted delimiter s ps)
    (hi : ¬ delimiter <:+: s) : ps = [s] := by
  cases h with
  | last => rfl
  | cons h _ => exact absurd ⟨_, _, h.eq.symm⟩ hi

theorem piecesAfter_eq_drop (skip : Nat) (s : List Char) :
    piecesAfter delimiter skip s = piecesAfter delimiter 0 (s.drop skip) := by
  induction s generalizing skip with
  | nil => cases skip <;> rfl
  | cons c s ih =>
    cases skip with
    | zero => rfl
    | succ skip => exact ih skip

theorem piecesAfter_of_cut? (hne : delimiter ≠ []) (s : List Char) :
    piecesAfter delimiter 0 s =
      match cut? delimiter s with
      | some (p, rest) => p :: piecesAfter delimiter 0 rest
      | none => [s] := by
  induction s with
  | nil => simp [cut?, piecesAfter, hne]
  | cons c s ih =>
    rw [piecesAfter, cut?]
    split
    next =>
      obtain ⟨n, hn⟩ := Nat.exists_eq_add_one.2 (List.length_pos_of_ne_nil hne)
      rw [piecesAfter_eq_drop, hn]
      rfl
    next =>
      rw [ih]
      cases cut? delimiter s <;> rfl

theorem parted_piecesAfter (hne : delimiter ≠ []) (s : List Char) :
    Parted delimiter s (piecesAfter delimiter 0 s) := by
  induction hn : s.length using Nat.strong_induction_on generalizing s with
  | _ n ih =>
    rw [piecesAfter_of_cut? hne]
    cases hc : cut? delimiter s with
    | none => exact .last (cut?_eq_none_iff.1 hc)
    | some p =>
      have h := leftmostIn_of_cut? hc
      refine .cons h (ih p.2.length ?_ p.2 rfl)
      have hpos := List.length_pos_of_ne_nil hne
      have hlen := congrArg List.length h.eq
      rw [List.length_append, List.length_append] at hlen
      omega

theorem parted_pieces (hne : delimiter ≠ []) (s : List Char) :
    Parted delimiter s (pieces delimiter s) := by
  cases delimiter with
  | nil => exact absurd rfl hne
  | cons => exact parted_piecesAfter hne s

theorem nil_intercalate (ps : List (List Char)) : [].intercalate ps = ps.flatten := by
  induction ps with
  | nil => rfl
  | cons p ps ih =>
    cases ps with
    | nil => simp
    | cons q ps =>
      rw [List.intercalate_cons_cons, ih, List.append_nil]
      rfl

theorem intercalate_pieces (delimiter s : List Char) :
    delimiter.intercalate (pieces delimiter s) = s := by
  cases delimiter with
  | nil =>
    rw [nil_intercalate]
    simp [pieces, ← List.flatMap_def]
  | cons c delimiter => exact (parted_pieces (List.cons_ne_nil c delimiter) s).intercalate_eq

end Listing.Text
