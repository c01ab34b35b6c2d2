import Listing.Proofs.Sql.Placeholders
import Listing.Proofs.Sql.Reachable
import Listing.Proofs.Sql.Watched

namespace Listing.Sql

def Condition.boundValues (c : Condition) : List Value :=
  match c.operator, c.operand with
  | .isNull, _ => []
  | .isNotNull, _ => []
  | .among, .many vs => vs
  | .notAmong, .many vs => vs
  | .between, .range low high => [low, high]
  | _, .single v => [v]
  | _, _ => []

/-- A statement with these values and one placeholder for each, in order. -/
structure Statement.Aligned (s : Statement) (d : Dialect) (vs : List Value) : Prop where
  params : s.params = vs
  placeholders :
    placeholdersIn s.sql.toList = (List.range vs.length).map fun k ↦ d.placeholder (k + 1)

theorem Condition.boundValues_eq {c : Condition} (h : c.Valid) :
    c.boundValues = c.operand.values := by
  rcases c with ⟨column, o, operand, connector⟩
  have hs := h.operand
  cases operand with
  | none => cases o <;> rfl
  | single v =>
    cases o <;> first | rfl | simp [Operand.Fits, Operator.isNullCheck, Operator.takesList] at hs
  | many vs => cases o <;> first | rfl | cases hs
  | range low high => cases hs; rfl

namespace Query

variable {ε row : Type}

def source (q : Query ε) : String :=
  " FROM " ++ q.dialect.quote q.table ++
    if q.conditions.isEmpty then "" else " WHERE " ++ q.whereClause.sql

def boundValues (q : Query ε) : List Value := q.conditions.flatMap Condition.boundValues

/-- A statement that fetches the rows of a query within these bounds. -/
structure Selects (q : Query ε) (bounds : String) (s : Statement) : Prop where
  aligned : s.Aligned q.dialect q.boundValues
  text : ∃ projection, q.projection = .ok projection ∧
    s.sql = "SELECT " ++ projection ++ q.source ++ q.orderText ++ bounds

theorem whereText_eq (q : Query ε) :
    q.whereText = if q.conditions.isEmpty then "" else " WHERE " ++ q.whereClause.sql := by
  unfold whereText whereClause
  cases hc : conditionsText? q.dialect 0 q.conditions with
  | none => simp [conditionsText?_eq_none.1 hc]
  | some s =>
    have hne : q.conditions ≠ [] := by
      intro he
      rw [conditionsText?_eq_none.2 he] at hc
      cases hc
    simp [hne]

theorem boundValues_eq {q : Query ε} (h : q.WellFormed) :
    q.boundValues = conditionValues q.conditions :=
  List.flatMap_congr fun c hc ↦ Condition.boundValues_eq (h.conditions c hc)

theorem unmarked_orderText {q : Query ε} (h : q.WellFormed) : Unmarked q.orderText.toList := by
  have hs : Unmarked " ".toList := by decide
  have hd : ∀ d : SortDirection, Unmarked d.name.toList := fun d ↦ by cases d <;> decide
  unfold orderText
  split
  next => exact nofun
  next =>
    refine unmarked_toList_append.2 ⟨by decide, unmarked_join ", " (by decide) fun s hm ↦ ?_⟩
    obtain ⟨o, ho, rfl⟩ := List.mem_map.1 hm
    exact unmarked_toList_append.2
      ⟨unmarked_toList_append.2 ⟨unmarked_quote (h.orders o ho), hs⟩, hd o.2⟩

theorem unmarked_limitText (q : Query ε) : Unmarked q.limitText.toList := by
  unfold limitText
  split
  next s hs => exact unmarked_toList_append.2 ⟨by decide, unmarked_limitClause? hs⟩
  next => exact nofun

theorem noDigit_orderText (q : Query ε) : NoDigit q.orderText.toList := by
  unfold orderText
  split
  next => exact noDigit_nil
  next =>
    rw [String.toList_append]
    exact noDigit_cons rfl _

theorem noDigit_limitText (q : Query ε) : NoDigit q.limitText.toList := by
  unfold limitText
  split
  next =>
    rw [String.toList_append]
    exact noDigit_cons rfl _
  next => exact noDigit_nil

theorem unmarked_projection {q : Query ε} {s : String} (h : q.projection = .ok s) :
    Unmarked s.toList := by
  unfold projection at h
  split at h
  next =>
    cases h
    decide
  next =>
    obtain ⟨quoted, hq, h⟩ := Outcome.bind_eq_ok.1 h
    cases h
    refine unmarked_join ", " (by decide) fun s hs ↦ ?_
    obtain ⟨c, -, hc⟩ := Outcome.exists_of_mem_mapM hq hs
    obtain ⟨_, hv, hc⟩ := Outcome.bind_eq_ok.1 hc
    cases hc
    exact unmarked_quote (validate_eq_ok.1 hv)

theorem aligned_of_unmarked {q : Query ε} (h : q.WellFormed) {front tail : List Char}
    (hf : Unmarked front) (ht : Unmarked tail) (hn : NoDigit tail) {s : Statement}
    (hp : s.params = conditionValues q.conditions)
    (hs : s.sql.toList = front ++ q.whereClause.sql.toList ++ tail) :
    s.Aligned q.dialect q.boundValues where
  params := hp.trans (boundValues_eq h).symm
  placeholders := by
    have hc := placeholdersIn_conditionsText? (fun c hc ↦ (h.conditions c hc).column) q.dialect 0
    rw [hs, List.append_assoc, placeholdersIn_unmarked_append hf, placeholdersIn_append _ hn,
      placeholdersIn_of_unmarked ht, List.append_nil, boundValues_eq h, whereClause, hc]
    simp [placeholders]

theorem source_eq {q : Query ε} (h : q.WellFormed) :
    ∃ front, Unmarked front ∧ q.source.toList = front ++ q.whereClause.sql.toList := by
  have hq : Unmarked (" FROM " ++ q.dialect.quote q.table).toList :=
    unmarked_toList_append.2 ⟨by decide, unmarked_quote h.table⟩
  unfold source
  split
  next he =>
    have hw : q.whereClause.sql = "" := by
      rw [List.isEmpty_iff] at he
      rw [whereClause, conditionsText?_eq_none.2 he]
      rfl
    exact ⟨_, hq, by rw [hw, String.toList_append]⟩
  next =>
    refine ⟨_, unmarked_append.2 ⟨hq, (by decide : Unmarked " WHERE ".toList)⟩, ?_⟩
    simp only [String.toList_append, List.append_assoc]

theorem aligned_whereClause {q : Query ε} (h : q.WellFormed) :
    q.whereClause.Aligned q.dialect q.boundValues :=
  aligned_of_unmarked h (by decide : Unmarked []) (by decide : Unmarked []) noDigit_nil rfl
    (by simp)

theorem countStatement_sql (q : Query ε) :
    q.countStatement.sql = "SELECT COUNT(*)" ++ q.source := by
  have hs : q.countStatement.sql =
      "SELECT COUNT(*) FROM " ++ q.dialect.quote q.table ++ q.whereText := rfl
  rw [hs, whereText_eq, source]
  generalize (if q.conditions.isEmpty then "" else " WHERE " ++ q.whereClause.sql) = w
  generalize q.dialect.quote q.table = t
  rw [← String.toList_inj]
  simp

theorem aligned_countStatement {q : Query ε} (h : q.WellFormed) :
    q.countStatement.Aligned q.dialect q.boundValues := by
  obtain ⟨front, hf, hs⟩ := source_eq h
  refine aligned_of_unmarked h (unmarked_append.2 ⟨(by decide : Unmarked "SELECT COUNT(*)".toList),
    hf⟩) (by decide : Unmarked []) noDigit_nil rfl ?_
  rw [countStatement_sql, String.toList_append, hs]
  simp

theorem selects_of_selectStatement {q : Query ε} (h : q.WellFormed) {s : Statement}
    (hs : q.selectStatement = .ok s) : q.Selects q.limitText s := by
  obtain ⟨projection, hp, hs⟩ := Outcome.bind_eq_ok.1 hs
  cases hs
  obtain ⟨front, hf, hw⟩ := source_eq h
  have hsql : "SELECT " ++ projection ++ " FROM " ++ q.dialect.quote q.table ++ q.whereText ++
      q.orderText ++ q.limitText =
        "SELECT " ++ projection ++ q.source ++ q.orderText ++ q.limitText := by
    rw [whereText_eq, source]
    simp only [String.append_assoc]
  have hselect : Unmarked ("SELECT " ++ projection).toList :=
    unmarked_toList_append.2 ⟨by decide, unmarked_projection hp⟩
  refine ⟨aligned_of_unmarked h (unmarked_append.2 ⟨hselect, hf⟩)
    (unmarked_toList_append.2 ⟨unmarked_orderText h, unmarked_limitText q⟩) ?_ rfl ?_,
    projection, hp, hsql⟩
  · rw [String.toList_append]
    exact (noDigit_orderText q).append (noDigit_limitText q)
  · rw [hsql]
    simp [hw]

variable [Executor ε row]

/-- Every statement of a query has the values of its conditions, one placeholder for each, and the
conditions of the others. A page counts and fetches under the same conditions. -/
theorem Reachable.statements_aligned {q : Query ε} (h : q.Reachable) :
    q.whereClause.Aligned q.dialect q.boundValues ∧
    (q.countStatement.Aligned q.dialect q.boundValues ∧
      q.countStatement.sql = "SELECT COUNT(*)" ++ q.source) ∧
    (∀ s, q.selectStatement = .ok s → q.Selects q.limitText s) ∧
    ∀ n m,
      (q.watched.page n m).result = (q.page n m).result ∧
      ((∃ e, (q.page n m).result = .error e) ∧
        (q.watched.page n m).state.executor.calls = [.count q.countStatement] ∨
      ∃ s, (q.watched.page n m).state.executor.calls = [.count q.countStatement, .fetch s] ∧
        q.Selects (q.bounded n m).limitText s) := by
  have hw := h.wellFormed
  refine ⟨aligned_whereClause hw, ⟨aligned_countStatement hw, countStatement_sql q⟩,
    fun s hs ↦ selects_of_selectStatement hw hs, fun n m ↦ ?_⟩
  have hr : (q.watched.page n m).result = (q.page n m).result :=
    result_page_unwatched q.watched n m
  refine ⟨hr, ?_⟩
  rw [← hr]
  rcases calls_page q.watched n m with ⟨he, hc⟩ | ⟨s, hs, hc⟩
  · exact .inl ⟨he, hc⟩
  · have hb : (q.bounded n m).WellFormed := ⟨hw.table, hw.conditions, hw.orders⟩
    obtain ⟨ha, ht⟩ := selects_of_selectStatement (s := s) hb hs
    exact .inr ⟨s, hc, ⟨ha, ht⟩⟩

theorem Reachable.statements_aligned_range_and_list :
    ∃ q : Query (Script Call), q.Reachable ∧
      q.boundValues = [.int 18, .int 30, .string "a", .string "b"] ∧
      placeholdersIn q.countStatement.sql.toList = ["$1", "$2", "$3", "$4"] ∧
      q.countStatement.params = q.boundValues := by
  have hon : Query.on ({} : Script Call) "users" = .ok { executor := {}, table := "users" } := rfl
  have hq := ((Reachable.on hon).perform
    (.predicate (.and "age" .between (.list [.int 18, .int 30])))).perform
      (.predicate (.or "role" .among (.list [.string "a", .string "b"])))
  obtain ⟨-, ⟨hc, -⟩, -⟩ := hq.statements_aligned
  exact ⟨_, hq, rfl, hc.placeholders.trans (by decide), hc.params⟩

end Query

end Listing.Sql
