import Listing.Proofs.Sql.Name
import Listing.Sql.Condition
import Mathlib.Data.List.TakeWhile

namespace Listing.Sql

/-- The placeholders of a text from left to right: its question marks, and its dollar signs with
the digits that follow them. -/
def placeholdersIn : List Char → List String
  | [] => []
  | c :: s =>
    if c = '?' then "?" :: placeholdersIn s
    else if c = '$' then String.ofList ('$' :: s.takeWhile Char.isDigit) :: placeholdersIn s
    else placeholdersIn s

def Unmarked (w : List Char) : Prop := ∀ c ∈ w, c ≠ '?' ∧ c ≠ '$'

instance (w : List Char) : Decidable (Unmarked w) :=
  List.decidableBAll (fun c ↦ c ≠ '?' ∧ c ≠ '$') w

def NoDigit (rest : List Char) : Prop := ∀ c ∈ rest.head?, c.isDigit = false

variable {d : Dialect}

theorem noDigit_nil : NoDigit [] := fun _ hc ↦ nomatch hc

theorem noDigit_cons {c : Char} (h : c.isDigit = false) (rest : List Char) :
    NoDigit (c :: rest) := by
  intro c' hc'
  cases hc'
  exact h

theorem NoDigit.append {w w' : List Char} (h : NoDigit w) (h' : NoDigit w') :
    NoDigit (w ++ w') := by
  cases w with
  | nil => exact h'
  | cons c w => exact noDigit_cons (h c rfl) _

theorem unmarked_append {w w' : List Char} : Unmarked (w ++ w') ↔ Unmarked w ∧ Unmarked w' :=
  List.forall_mem_append

theorem unmarked_toList_append {s t : String} :
    Unmarked (s ++ t).toList ↔ Unmarked s.toList ∧ Unmarked t.toList := by
  rw [String.toList_append, unmarked_append]

theorem placeholdersIn_unmarked_append {w : List Char} (h : Unmarked w) (rest : List Char) :
    placeholdersIn (w ++ rest) = placeholdersIn rest := by
  induction w with
  | nil => rfl
  | cons c w ih =>
    have hc := h c List.mem_cons_self
    rw [List.cons_append, placeholdersIn, if_neg hc.1, if_neg hc.2]
    exact ih fun c' hc' ↦ h c' (List.mem_cons_of_mem c hc')

theorem placeholdersIn_of_unmarked {w : List Char} (h : Unmarked w) : placeholdersIn w = [] := by
  have hw := placeholdersIn_unmarked_append h []
  rwa [List.append_nil] at hw

theorem takeWhile_digits_append (w : List Char) {rest : List Char} (h : NoDigit rest) :
    (w ++ rest).takeWhile Char.isDigit = w.takeWhile Char.isDigit := by
  induction w with
  | nil =>
    cases rest with
    | nil => rfl
    | cons c rest => simp [h c rfl]
  | cons c w ih => simp only [List.cons_append, List.takeWhile_cons, ih]

theorem placeholdersIn_append (w : List Char) {rest : List Char} (h : NoDigit rest) :
    placeholdersIn (w ++ rest) = placeholdersIn w ++ placeholdersIn rest := by
  induction w with
  | nil => rfl
  | cons c w ih =>
    rw [List.cons_append, placeholdersIn, placeholdersIn, ih, takeWhile_digits_append w h]
    by_cases hq : c = '?'
    · simp only [if_pos hq, List.cons_append]
    · by_cases hm : c = '$'
      · simp only [if_neg hq, if_pos hm, List.cons_append]
      · simp only [if_neg hq, if_neg hm]

theorem unmarked_digits (n : Nat) : Unmarked (Number.digits n) := by
  intro c hc
  have hn := isDigit_iff.1 (isDigit_of_mem_digits c hc)
  constructor <;> rintro rfl <;> simp at hn

theorem placeholdersIn_placeholder (d : Dialect) (index : Nat) :
    placeholdersIn (d.placeholder index).toList = [d.placeholder index] := by
  cases d with
  | mySql => simp [Dialect.placeholder, placeholdersIn]
  | sqlite => simp [Dialect.placeholder, placeholdersIn]
  | postgres =>
    have ht : (Dialect.postgres.placeholder index).toList = '$' :: Number.digits index := by
      simp [Dialect.placeholder, Number.naturalText]
    rw [ht, placeholdersIn, placeholdersIn_of_unmarked (unmarked_digits index),
      List.takeWhile_eq_self_iff.2 isDigit_of_mem_digits, ← ht]
    simp

theorem placeholdersIn_join (separator : String) (hu : Unmarked separator.toList)
    (hd : ∀ rest, NoDigit (separator.toList ++ rest)) (ss : List String) :
    placeholdersIn (Text.join separator ss).toList =
      ss.flatMap fun s ↦ placeholdersIn s.toList := by
  induction ss with
  | nil => rfl
  | cons s ss ih =>
    cases ss with
    | nil => simp [Text.join]
    | cons s' ss =>
      rw [Text.join, String.toList_append, String.toList_append, List.append_assoc,
        placeholdersIn_append _ (hd _), placeholdersIn_unmarked_append hu, ih]
      rfl

theorem unmarked_join (separator : String) (hu : Unmarked separator.toList) {ss : List String}
    (h : ∀ s ∈ ss, Unmarked s.toList) : Unmarked (Text.join separator ss).toList := by
  induction ss with
  | nil => exact nofun
  | cons s ss ih =>
    have hs := h s List.mem_cons_self
    have hss := ih fun s' hs' ↦ h s' (List.mem_cons_of_mem s hs')
    cases ss with
    | nil => exact hs
    | cons s' ss =>
      exact unmarked_toList_append.2 ⟨unmarked_toList_append.2 ⟨hs, hu⟩, hss⟩

theorem unmarked_quoteName {w : List Char} (h : isName w = true) : Unmarked (d.quoteName w) := by
  have hw : Unmarked w := by
    intro c hc
    have hc' := isNameChar_of_isName h c hc
    constructor <;> rintro rfl <;> cases hc'
  have hq : Unmarked [d.quoteMark] := by
    intro c hc
    rw [List.mem_singleton.1 hc]
    cases d <;> decide
  unfold Dialect.quoteName
  split
  next => exact unmarked_append.2 ⟨unmarked_append.2 ⟨hq, hw⟩, hq⟩
  next => exact hw

theorem unmarked_quote {path : String} (h : isIdentifier path = true) :
    Unmarked (d.quote path).toList := by
  refine unmarked_join "." (by decide) fun s hs ↦ ?_
  obtain ⟨w, hw, rfl⟩ := List.mem_map.1 hs
  rw [String.toList_ofList]
  exact unmarked_quoteName (List.all_eq_true.1 h w hw)

theorem placeholders_add (d : Dialect) (used m n : Nat) :
    placeholders d used (m + n) = placeholders d used m ++ placeholders d (used + m) n := by
  simp only [placeholders, List.range_add, List.map_append, List.map_map]
  congr 1
  refine List.map_congr_left fun k _ ↦ ?_
  simp only [Function.comp_apply, Nat.add_assoc]

theorem placeholdersIn_join_placeholders (d : Dialect) (used count : Nat) :
    placeholdersIn (Text.join ", " (placeholders d used count)).toList =
      placeholders d used count := by
  rw [placeholdersIn_join ", " (by decide) fun rest ↦ noDigit_cons rfl _,
    placeholders, List.flatMap_map]
  simp only [placeholdersIn_placeholder]
  exact List.map_eq_flatMap.symm

theorem unmarked_sql (o : Operator) : Unmarked o.sql.toList := by cases o <;> decide

theorem placeholdersIn_text {c : Condition} (h : isIdentifier c.column = true) (d : Dialect)
    (used : Nat) :
    placeholdersIn (c.text d used).toList = placeholders d used c.operand.values.length := by
  rcases c with ⟨column, o, operand, connector⟩
  have hq : Unmarked (d.quote column).toList := unmarked_quote h
  have ho := unmarked_sql o
  have hfirst := placeholdersIn_placeholder d (used + 1)
  cases operand with
  | none =>
    have hw : Unmarked ((d.quote column).toList ++ ' ' :: o.sql.toList) :=
      unmarked_append.2 ⟨hq, List.forall_mem_cons.2 ⟨by decide, ho⟩⟩
    simpa [Condition.text, Operand.values, placeholders] using placeholdersIn_of_unmarked hw
  | single v =>
    have hw : Unmarked ((d.quote column).toList ++ ' ' :: (o.sql.toList ++ [' '])) :=
      unmarked_append.2 ⟨hq, List.forall_mem_cons.2
        ⟨by decide, unmarked_append.2 ⟨ho, by decide⟩⟩⟩
    have hp := placeholdersIn_unmarked_append hw (d.placeholder (used + 1)).toList
    rw [hfirst] at hp
    simpa [Condition.text, Operand.values, placeholders] using hp
  | many vs =>
    cases vs with
    | nil =>
      simp only [Condition.text]
      split <;> rfl
    | cons v vs =>
      have hw : Unmarked ((d.quote column).toList ++ ' ' :: (o.sql.toList ++ [' ', '('])) :=
        unmarked_append.2 ⟨hq, List.forall_mem_cons.2
          ⟨by decide, unmarked_append.2 ⟨ho, by decide⟩⟩⟩
      have hj := placeholdersIn_join_placeholders d used (vs.length + 1)
      have hp := placeholdersIn_unmarked_append hw
        ((Text.join ", " (placeholders d used (vs.length + 1))).toList ++ [')'])
      rw [placeholdersIn_append _ (noDigit_cons rfl []), hj] at hp
      simpa [Condition.text, Operand.values, placeholdersIn] using hp
  | range low high =>
    have hw : Unmarked ((d.quote column).toList ++ " BETWEEN ".toList) :=
      unmarked_append.2 ⟨hq, by decide⟩
    have hand : NoDigit (" AND ".toList ++ (d.placeholder (used + 2)).toList) :=
      noDigit_cons rfl _
    have hp := placeholdersIn_unmarked_append hw ((d.placeholder (used + 1)).toList ++
      (" AND ".toList ++ (d.placeholder (used + 2)).toList))
    have hu : Unmarked " AND ".toList := by decide
    rw [placeholdersIn_append _ hand, placeholdersIn_unmarked_append hu, hfirst,
      placeholdersIn_placeholder] at hp
    simpa [Condition.text, Operand.values, placeholders, List.range_succ] using hp

theorem conditionValues_cons (c : Condition) (cs : List Condition) :
    conditionValues (c :: cs) = c.operand.values ++ conditionValues cs := rfl

theorem placeholdersIn_conditionTexts {cs : List Condition}
    (h : ∀ c ∈ cs, isIdentifier c.column = true) (d : Dialect) (used : Nat) :
    (conditionTexts d used cs).flatMap (fun c ↦ placeholdersIn c.2.toList) =
      placeholders d used (conditionValues cs).length := by
  induction cs generalizing used with
  | nil => rfl
  | cons c cs ih =>
    rw [conditionTexts, List.flatMap_cons, placeholdersIn_text (h c List.mem_cons_self),
      ih fun c' hc' ↦ h c' (List.mem_cons_of_mem c hc'), conditionValues_cons, List.length_append,
      placeholders_add]

theorem placeholdersIn_groupText (ss : List String) :
    placeholdersIn (groupText ss).toList = ss.flatMap fun s ↦ placeholdersIn s.toList := by
  have hj := placeholdersIn_join " OR " (by decide)
    (fun rest ↦ noDigit_cons rfl _) ss
  have hp : placeholdersIn ("(" ++ Text.join " OR " ss ++ ")").toList =
      placeholdersIn (Text.join " OR " ss).toList := by
    have ha := placeholdersIn_append (Text.join " OR " ss).toList (noDigit_cons (c := ')') rfl [])
    rw [String.toList_append, String.toList_append, List.append_assoc,
      placeholdersIn_unmarked_append (by decide)]
    exact ha.trans (List.append_nil _)
  unfold groupText
  split
  next => simp
  next => rw [hp, hj]

/-- The conditions have one placeholder for each of their values, and nothing else is marked. -/
theorem placeholdersIn_conditionsText? {cs : List Condition}
    (h : ∀ c ∈ cs, isIdentifier c.column = true) (d : Dialect) (used : Nat) :
    placeholdersIn ((conditionsText? d used cs).getD "").toList =
      placeholders d used (conditionValues cs).length := by
  have ht := placeholdersIn_conditionTexts h d used
  have hj := placeholdersIn_join " AND " (by decide) (fun rest ↦ noDigit_cons rfl _)
    ((orGroups (conditionTexts d used cs)).map groupText)
  have hs : (conditionsText? d used cs).getD "" =
      Text.join " AND " ((orGroups (conditionTexts d used cs)).map groupText) := by
    unfold conditionsText?
    cases orGroups (conditionTexts d used cs) <;> rfl
  have hf := List.flatMap_assoc (l := orGroups (conditionTexts d used cs)) (f := id)
    (g := fun s ↦ placeholdersIn s.toList)
  rw [List.flatMap_id, flatten_orGroups, List.flatMap_map, ht] at hf
  rw [hs, hj, List.flatMap_map, hf]
  simp only [placeholdersIn_groupText, id]

theorem unmarked_limitClause? {d : Dialect} {limit : Option UInt32} {offset : Option UInt64}
    {s : String} (h : d.limitClause? limit offset = some s) : Unmarked s.toList := by
  have hn : ∀ {s : String} (n : Nat), Unmarked s.toList →
      Unmarked (s ++ Number.naturalText n).toList := fun n hs ↦ by
    rw [unmarked_toList_append, Number.naturalText, String.toList_ofList]
    exact ⟨hs, unmarked_digits n⟩
  cases limit with
  | none =>
    cases offset with
    | none => cases h
    | some m => cases d <;> cases h <;> exact hn _ (by decide)
  | some n =>
    cases offset with
    | none =>
      cases h
      exact hn _ (by decide)
    | some m =>
      cases h
      exact hn _ (unmarked_toList_append.2 ⟨hn _ (by decide), by decide⟩)

end Listing.Sql
