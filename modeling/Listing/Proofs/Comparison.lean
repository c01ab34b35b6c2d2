import Listing.Proofs.Atomicity
import Listing.Proofs.Pieces

namespace Listing

open Text

namespace Shorthand

def Markless (s : String) : Prop := '<' ∉ s.toList ∧ '>' ∉ s.toList

/-- Ways to write a comparison with an operand. An equals sign does not follow a mark that has none
of its own, since it would be read as a part of the mark. -/
inductive Writes : Operator → String → String → Prop
  | equality {operand : String} (h : Markless operand) : Writes .equal operand operand
  | marked (before m after : String) {o : Operator} (hm : (m, o) ∈ comparisonMarks)
      (hb : Markless before) (ha : Markless after)
      (he : m ∈ ["<>", ">", "<"] → '=' ∉ after.toList.head?) :
      Writes o (before ++ after) (before ++ m ++ after)

/-- The first in the order of marks of those that occur anywhere in a text. -/
def IsFirstMark (s m : String) (o : Operator) : Prop :=
  ∃ earlier later, comparisonMarks = earlier ++ (m, o) :: later ∧
    (∀ q ∈ earlier, ¬ q.1.toList <:+: s.toList) ∧ m.toList <:+: s.toList

variable {s m : String} {o : Operator}

theorem mark?_eq_some_iff : mark? s = some (m, o) ↔ IsFirstMark s m o := by
  rw [mark?, List.find?_eq_some_iff_append]
  simp only [Bool.not_eq_true', ← Bool.not_eq_true, occurs_iff]
  constructor
  · rintro ⟨hm, earlier, later, hs, he⟩
    exact ⟨earlier, later, hs, he, hm⟩
  · rintro ⟨earlier, later, hs, he, hm⟩
    exact ⟨hm, earlier, later, hs, he⟩

theorem mark?_eq_none_iff : mark? s = none ↔ ∀ q ∈ comparisonMarks, ¬ q.1.toList <:+: s.toList := by
  rw [mark?, List.find?_eq_none]
  simp only [occurs_iff]

theorem Markless.notMem_of_mem_marks (h : Markless s) {q : String × Operator}
    (hq : q ∈ comparisonMarks) : ∃ c r, q.1.toList = c :: r ∧ c ∉ s.toList := by
  have hall : ∀ q ∈ comparisonMarks,
      q.1.toList = '<' :: q.1.toList.tail ∨ q.1.toList = '>' :: q.1.toList.tail := by
    simp [comparisonMarks]
  rcases hall q hq with hr | hr
  · exact ⟨'<', _, hr, h.1⟩
  · exact ⟨'>', _, hr, h.2⟩

theorem mark?_of_markless (h : Markless s) : mark? s = none := by
  refine mark?_eq_none_iff.2 fun q hq ↦ ?_
  obtain ⟨c, r, hr, hc⟩ := h.notMem_of_mem_marks hq
  exact not_infix_of_notMem (hr ▸ List.mem_cons_self) hc

theorem isFirstMark_of_writes {before after : String} (hm : (m, o) ∈ comparisonMarks)
    (hb : Markless before) (ha : Markless after)
    (he : m ∈ ["<>", ">", "<"] → '=' ∉ after.toList.head?) :
    IsFirstMark (before ++ m ++ after) m o := by
  have hs : (before ++ m ++ after).toList = before.toList ++ (m.toList ++ after.toList) := by simp
  have hm' : m.toList <:+: (before ++ m ++ after).toList :=
    ⟨before.toList, after.toList, by simp⟩
  have hless : '<' ∉ m.toList → ∀ t, '<' ∈ t → ¬ t <:+: (before ++ m ++ after).toList := by
    intro h t ht
    apply not_infix_of_notMem ht
    simp [hb.1, ha.1, h]
  have hgreater : '>' ∉ m.toList → ∀ t, '>' ∈ t → ¬ t <:+: (before ++ m ++ after).toList := by
    intro h t ht
    apply not_infix_of_notMem ht
    simp [hb.2, ha.2, h]
  simp only [comparisonMarks, List.mem_cons, Prod.mk.injEq, List.not_mem_nil, or_false] at hm
  -- an earlier mark has a character that is missing here, or an equals sign where none follows
  rcases hm with ⟨rfl, rfl⟩ | ⟨rfl, rfl⟩ | ⟨rfl, rfl⟩ | ⟨rfl, rfl⟩ | ⟨rfl, rfl⟩
  · exact ⟨[], _, rfl, nofun, hm'⟩
  · refine ⟨comparisonMarks.take 1, _, rfl, List.forall_mem_singleton.2 ?_, hm'⟩
    exact hgreater (by decide) _ (by decide)
  · refine ⟨comparisonMarks.take 2, _, rfl, List.forall_mem_cons.2 ⟨?_,
      List.forall_mem_singleton.2 ?_⟩, hm'⟩
    · have hbefore : '>' ∉ before.toList ++ ['<'] := by simp [hb.2]
      have hp := not_infix_pair hbefore ha.2 (he (by decide))
      simpa using hp
    · have hafter : '<' ∉ '>' :: after.toList := by simp [ha.1]
      have hp := not_infix_pair (d := '=') hb.1 hafter (by simp)
      simpa using hp
  · refine ⟨comparisonMarks.take 3, _, rfl, List.forall_mem_cons.2 ⟨?_, List.forall_mem_cons.2
      ⟨?_, List.forall_mem_singleton.2 ?_⟩⟩, hm'⟩
    · rw [hs]
      exact not_infix_pair hb.2 ha.2 (he (by decide))
    · exact hless (by decide) _ (by decide)
    · exact hless (by decide) _ (by decide)
  · refine ⟨comparisonMarks.take 4, _, rfl, List.forall_mem_cons.2 ⟨?_, List.forall_mem_cons.2
      ⟨?_, List.forall_mem_cons.2 ⟨?_, List.forall_mem_singleton.2 ?_⟩⟩⟩, hm'⟩
    · exact hgreater (by decide) _ (by decide)
    · rw [hs]
      exact not_infix_pair hb.1 ha.1 (he (by decide))
    · exact hgreater (by decide) _ (by decide)
    · exact hgreater (by decide) _ (by decide)

theorem comparisonOperator_of_isFirstMark (h : IsFirstMark s m o) : comparisonOperator s = o := by
  rw [comparisonOperator, mark?_eq_some_iff.2 h]

theorem toList_withoutMark {before after : List Char} (h : IsFirstMark s m o)
    (hl : LeftmostIn m.toList s.toList before after) :
    (withoutMark s).toList = before ++ after := by
  rw [withoutMark, mark?_eq_some_iff.2 h]
  simp only [hl.eraseFirst_eq, String.toList_ofList]

theorem comparison_of_writes {operand : String} (h : Writes o operand s) :
    comparison s = (o, trim operand) := by
  cases h with
  | equality h =>
    rw [comparison, comparisonOperator, withoutMark, mark?_of_markless h]
  | marked before m after hm hb ha he =>
    have hf := isFirstMark_of_writes hm hb ha he
    obtain ⟨c, r, hr, hc⟩ := hb.notMem_of_mem_marks hm
    have hl : LeftmostIn m.toList (before ++ m ++ after).toList before.toList after.toList := by
      rw [String.toList_append, String.toList_append, hr]
      exact leftmostIn_of_notMem hc r after.toList
    have hw : withoutMark (before ++ m ++ after) = before ++ after := by
      rw [← String.toList_inj, toList_withoutMark hf hl, String.toList_append]
    rw [comparison, comparisonOperator_of_isFirstMark hf, hw]

end Shorthand

open Shorthand

namespace Filter

variable {f : Filter}

theorem emits_comparison (hk : f.kind = .comparison) {raw : String} (h : (comparison raw).2 ≠ "") :
    f.Emits raw [f.own (comparison raw).1 (.string (comparison raw).2)] := by
  rw [emits_iff (by rw [hk]; rfl)]
  simp [predicates, hk, h]

theorem refuses_comparison_iff (hk : f.kind = .comparison) {raw : String} :
    f.Refuses raw (Problem.emptyValue f.param f.kind.name).toError ↔ (comparison raw).2 = "" := by
  rw [refuses_iff (by rw [hk]; rfl)]
  by_cases h : (comparison raw).2 = "" <;> simp [predicates, hk, h]

/-- A comparison is read back as it is written, and a filter compares its field by just that, unless
there is nothing to compare with. The mark that counts is taken out of a text once, at its leftmost
occurrence. -/
theorem comparison_reads_first_mark (hk : f.kind = .comparison) (raw : String) :
    (∀ o operand, Writes o operand raw → comparison raw = (o, trim operand)) ∧
    ((comparison raw).2 ≠ "" →
      f.Emits raw [f.own (comparison raw).1 (.string (comparison raw).2)]) ∧
    (f.Refuses raw (Problem.emptyValue f.param f.kind.name).toError ↔ (comparison raw).2 = "") ∧
    ((∃ m o before after, IsFirstMark raw m o ∧ LeftmostIn m.toList raw.toList before after ∧
        comparisonOperator raw = o ∧ (withoutMark raw).toList = before ++ after) ∨
      (∀ q ∈ comparisonMarks, ¬ q.1.toList <:+: raw.toList) ∧
        comparisonOperator raw = .equal ∧ withoutMark raw = raw) := by
  refine ⟨fun o operand h ↦ comparison_of_writes h, emits_comparison hk,
    refuses_comparison_iff hk, ?_⟩
  cases hm : mark? raw with
  | none =>
    right
    refine ⟨mark?_eq_none_iff.1 hm, ?_, ?_⟩
    · rw [comparisonOperator, hm]
    · rw [withoutMark, hm]
  | some q =>
    left
    have hf : IsFirstMark raw q.1 q.2 := mark?_eq_some_iff.1 hm
    obtain ⟨before, after, hl⟩ : ∃ before after, LeftmostIn q.1.toList raw.toList before after := by
      obtain ⟨earlier, later, -, -, h⟩ := hf
      exact exists_leftmostIn h
    exact ⟨q.1, q.2, before, after, hf, hl, comparisonOperator_of_isFirstMark hf,
      toList_withoutMark hf hl⟩

theorem comparison_reads_first_mark_among_several :
    let f : Filter := { param := "age", internalName := "user.age", kind := .comparison }
    f.Emits " =1<>8 " [.and "user.age" .diff (.string "=18")] ∧
    f.Refuses " > " (Problem.emptyValue "age" "comparison").toError ∧
    f.Emits ">5<>=" [.and "user.age" .greaterOrEqual (.string ">5<")] := by
  intro f
  obtain ⟨hw, he, -, -⟩ := comparison_reads_first_mark (f := f) rfl " =1<>8 "
  have hdiff : Writes .diff " =18 " " =1<>8 " :=
    .marked " =1" "<>" "8 " (by decide) (by simp [Markless]) (by simp [Markless]) (by decide)
  have htrim : trim " =18 " = "=18" := by decide
  rw [hw _ _ hdiff, htrim] at he
  obtain ⟨-, -, hr, -⟩ := comparison_reads_first_mark (f := f) rfl " > "
  obtain ⟨-, hs, -, -⟩ := comparison_reads_first_mark (f := f) rfl ">5<>="
  exact ⟨he (by decide), hr.2 (by decide), hs (by decide)⟩

end Filter

end Listing
