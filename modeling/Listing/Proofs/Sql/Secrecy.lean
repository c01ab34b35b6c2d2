import Listing.Proofs.Sql.Shape
import Listing.Proofs.Trace
import Listing.Sql.Scripted

namespace Listing

/-- Values that are both null, both scalars or lists of the same length. -/
inductive Value.SameShape : Value → Value → Prop
  | null : SameShape .null .null
  | scalar {v w : Value} : v.isScalar = true → w.isScalar = true → SameShape v w
  | list {vs ws : List Value} : vs.length = ws.length → SameShape (.list vs) (.list ws)

namespace ClauseCall

inductive SameShape : ClauseCall → ClauseCall → Prop
  | predicate {v w : Value} (field : String) (o : Operator) (k : Combinator) : v.SameShape w →
      SameShape (.predicate ⟨field, o, v, k⟩) (.predicate ⟨field, o, w, k⟩)
  | order (field : String) (direction : SortDirection) :
      SameShape (.order field direction) (.order field direction)

def perform {β : Type} [ClauseBuilder β] (q : β) : ClauseCall → Run β Unit
  | predicate p => ClauseBuilder.addPredicate q p
  | order field direction => ClauseBuilder.addOrder q field direction

end ClauseCall

theorem Value.SameShape.length_members {v w : Value} (h : v.SameShape w) :
    v.members.length = w.members.length := by
  cases h with
  | null => rfl
  | scalar hv hw => cases v <;> cases hv <;> cases w <;> cases hw <;> rfl
  | list hl => exact hl

namespace Sql

inductive Operand.SameShape : Operand → Operand → Prop
  | none : SameShape .none .none
  | single (v w : Value) : SameShape (.single v) (.single w)
  | many {vs ws : List Value} : vs.length = ws.length → SameShape (.many vs) (.many ws)
  | range (low high low' high' : Value) : SameShape (.range low high) (.range low' high')

structure Condition.SameShape (c c' : Condition) : Prop where
  column : c.column = c'.column
  operator : c.operator = c'.operator
  operand : c.operand.SameShape c'.operand
  connector : c.connector = c'.connector

theorem Operand.SameShape.length_values {a b : Operand} (h : a.SameShape b) :
    a.values.length = b.values.length := by
  cases h with
  | many hl => exact hl
  | _ => rfl

theorem Condition.SameShape.text_eq {c c' : Condition} (h : c.SameShape c') (d : Dialect)
    (used : Nat) : c.text d used = c'.text d used := by
  rcases c with ⟨column, o, operand, connector⟩
  rcases c' with ⟨column', o', operand', connector'⟩
  obtain ⟨rfl, rfl, ho, rfl⟩ := h
  cases ho with
  | none => rfl
  | single v w => rfl
  | range low high low' high' => rfl
  | @many vs ws hl =>
    cases vs with
    | nil =>
      cases ws with
      | nil => rfl
      | cons w ws => cases hl
    | cons v vs =>
      cases ws with
      | nil => cases hl
      | cons w ws => simp only [text, hl]

theorem conditionTexts_eq_of_sameShape {cs cs' : List Condition}
    (h : List.Forall₂ Condition.SameShape cs cs') (d : Dialect) (used : Nat) :
    conditionTexts d used cs = conditionTexts d used cs' := by
  induction h generalizing used with
  | nil => rfl
  | cons hc _ ih =>
    rw [conditionTexts, conditionTexts, hc.text_eq, hc.connector, hc.operand.length_values, ih]

theorem operandOf_of_sameShape {v w : Value} (h : v.SameShape w) (field : String) (o : Operator) :
    (∃ a b, Condition.operandOf field o v = .ok a ∧ Condition.operandOf field o w = .ok b ∧
      a.SameShape b) ∨
    ∃ e e', Condition.operandOf field o v = .error e ∧
      Condition.operandOf field o w = .error e' := by
  cases o with
  | isNull => exact .inl ⟨_, _, rfl, rfl, .none⟩
  | isNotNull => exact .inl ⟨_, _, rfl, rfl, .none⟩
  | among => exact .inl ⟨_, _, rfl, rfl, .many h.length_members⟩
  | notAmong => exact .inl ⟨_, _, rfl, rfl, .many h.length_members⟩
  | between =>
    cases h with
    | null => exact .inr ⟨_, _, rfl, rfl⟩
    | scalar hv hw =>
      have he := Condition.operandOf_between_of_isScalar hv field
      have he' := Condition.operandOf_between_of_isScalar hw field
      exact .inr ⟨_, _, he, he'⟩
    | @list vs ws hl =>
      rcases vs with _ | ⟨a, _ | ⟨b, _ | ⟨c, vs⟩⟩⟩ <;>
      rcases ws with _ | ⟨a', _ | ⟨b', _ | ⟨c', ws⟩⟩⟩ <;>
      simp at hl
      case cons.cons.nil.cons.cons.nil => exact .inl ⟨_, _, rfl, rfl, .range a b a' b'⟩
      all_goals exact .inr ⟨_, _, rfl, rfl⟩
  | _ => exact .inl ⟨_, _, rfl, rfl, .single v w⟩

theorem ofPredicate_of_sameShape {v w : Value} (h : v.SameShape w) (field : String) (o : Operator)
    (k : Combinator) :
    (∃ c c', Condition.ofPredicate ⟨field, o, v, k⟩ = .ok c ∧
      Condition.ofPredicate ⟨field, o, w, k⟩ = .ok c' ∧ c.SameShape c') ∨
    ∃ e e', Condition.ofPredicate ⟨field, o, v, k⟩ = .error e ∧
      Condition.ofPredicate ⟨field, o, w, k⟩ = .error e' := by
  unfold Condition.ofPredicate
  dsimp only
  cases validate field with
  | error e => exact .inr ⟨e, e, rfl, rfl⟩
  | ok _ =>
    rcases operandOf_of_sameShape h field o with ⟨a, b, ha, hb, hab⟩ | ⟨e, e', he, he'⟩
    · rw [ha, hb]
      exact .inl ⟨_, _, rfl, rfl, ⟨rfl, rfl, hab, rfl⟩⟩
    · rw [he, he']
      exact .inr ⟨e, e', rfl, rfl⟩

namespace Query

variable {ε ε' row row' : Type}

/-- Queries that differ in the contents of their values, and in what executes them, only. -/
structure Alike (q : Query ε) (q' : Query ε') : Prop where
  table : q.table = q'.table
  dialect : q.dialect = q'.dialect
  columns : q.columns = q'.columns
  conditions : List.Forall₂ Condition.SameShape q.conditions q'.conditions
  orders : q.orders = q'.orders
  limit : q.limit = q'.limit
  offset : q.offset = q'.offset

theorem Alike.conditionsText?_eq {q : Query ε} {q' : Query ε'} (h : q.Alike q') :
    conditionsText? q.dialect 0 q.conditions = conditionsText? q'.dialect 0 q'.conditions := by
  unfold conditionsText?
  rw [h.dialect, conditionTexts_eq_of_sameShape h.conditions]

theorem Alike.whereText_eq {q : Query ε} {q' : Query ε'} (h : q.Alike q') :
    q.whereText = q'.whereText := by
  rw [whereText, whereText, h.conditionsText?_eq]

theorem Alike.selectStatement_eq {q : Query ε} {q' : Query ε'} (h : q.Alike q') :
    q.selectStatement.map Statement.sql = q'.selectStatement.map Statement.sql := by
  have hp : q.projection = q'.projection := by
    rw [projection, projection, h.columns, h.dialect]
  have ho : q.orderText = q'.orderText := by
    rw [orderText, orderText, h.orders, h.dialect]
  have hl : q.limitText = q'.limitText := by
    rw [limitText, limitText, h.dialect, h.limit, h.offset]
  unfold selectStatement
  rw [hp, h.whereText_eq, ho, hl, h.dialect, h.table]
  cases q'.projection <;> rfl

variable [Executor ε row] [Executor ε' row']

theorem Alike.perform {q : Query ε} {q' : Query ε'} (h : q.Alike q') {c c' : ClauseCall}
    (hc : c.SameShape c') :
    ((c.perform q).result = .ok () ↔ (c'.perform q').result = .ok ()) ∧
      (c.perform q).state.Alike (c'.perform q').state := by
  cases hc with
  | predicate field o k hv =>
    simp only [ClauseCall.perform, ClauseBuilder.addPredicate, addPredicate]
    rcases ofPredicate_of_sameShape hv field o k with ⟨c, c', hc, hc', hcc⟩ | ⟨e, e', he, he'⟩
    · rw [hc, hc']
      have hcs := List.rel_append h.conditions (.cons hcc .nil)
      exact ⟨Iff.rfl, { h with conditions := hcs }⟩
    · rw [he, he']
      exact ⟨⟨nofun, nofun⟩, h⟩
  | order field direction =>
    simp only [ClauseCall.perform, ClauseBuilder.addOrder, addOrder]
    cases validate field with
    | ok _ => exact ⟨Iff.rfl, { h with orders := congrArg (· ++ [(field, direction)]) h.orders }⟩
    | error e => exact ⟨⟨nofun, nofun⟩, h⟩

theorem Alike.performAll {q : Query ε} {q' : Query ε'} (h : q.Alike q') {cs cs' : List ClauseCall}
    (hcs : List.Forall₂ ClauseCall.SameShape cs cs') :
    ((Run.each ClauseCall.perform q cs).result = .ok () ↔
      (Run.each ClauseCall.perform q' cs').result = .ok ()) ∧
    (Run.each ClauseCall.perform q cs).state.Alike (Run.each ClauseCall.perform q' cs').state := by
  induction hcs generalizing q q' with
  | nil => exact ⟨Iff.rfl, h⟩
  | @cons c c' cs cs' hc _ ih =>
    obtain ⟨hr, hs⟩ := h.perform hc
    rw [Run.each, Run.each]
    revert hr hs
    rcases c.perform q with ⟨r, e | a⟩ <;> rcases c'.perform q' with ⟨r', e' | a'⟩ <;> intro hr hs
    · exact ⟨hr, hs⟩
    · exact absurd (hr.2 rfl) nofun
    · exact absurd (hr.1 rfl) nofun
    · exact ih hs

/-- The contents of values are in no text. Calls on two new queries with the same table, dialect,
projection and bounds are accepted or refused together and lead to the same texts if they differ
in the contents of values only. -/
theorem texts_eq_of_sameShape (executor : ε) (executor' : ε') (table : String) (d : Dialect)
    (columns : List String) (limit : Option UInt32) (offset : Option UInt64)
    {cs cs' : List ClauseCall} (h : List.Forall₂ ClauseCall.SameShape cs cs') :
    let q : Query ε := { executor, table, dialect := d, columns, limit, offset }
    let q' : Query ε' := { executor := executor', table, dialect := d, columns, limit, offset }
    let r := Run.each ClauseCall.perform q cs
    let r' := Run.each ClauseCall.perform q' cs'
    (r.result = .ok () ↔ r'.result = .ok ()) ∧
      r.state.whereClause.sql = r'.state.whereClause.sql ∧
      r.state.countStatement.sql = r'.state.countStatement.sql ∧
      r.state.selectStatement.map Statement.sql = r'.state.selectStatement.map Statement.sql := by
  intro q q' r r'
  have hq : q.Alike q' := ⟨rfl, rfl, rfl, .nil, rfl, rfl, rfl⟩
  obtain ⟨hr, hs⟩ := hq.performAll h
  refine ⟨hr, ?_, ?_, hs.selectStatement_eq⟩
  · exact congrArg (·.getD "") hs.conditionsText?_eq
  · have hw := hs.whereText_eq
    unfold countStatement
    dsimp only
    rw [hs.dialect, hs.table, hw]

theorem texts_eq_of_sameShape_quoted :
    let cs : List ClauseCall := [.predicate (.and "name" .equal (.string "a")),
      .predicate (.or "id" .among (.list [.int 1, .int 2]))]
    let cs' : List ClauseCall := [.predicate (.and "name" .equal (.string "' OR 1 = 1 --")),
      .predicate (.or "id" .among (.list [.string "$1", .null]))]
    let q : Query (Script Call) := { executor := {}, table := "users" }
    List.Forall₂ ClauseCall.SameShape cs cs' ∧
      (Run.each ClauseCall.perform q cs').result = .ok () ∧
      (Run.each ClauseCall.perform q cs).state.countStatement.sql =
        (Run.each ClauseCall.perform q cs').state.countStatement.sql := by
  intro cs cs' q
  have h : List.Forall₂ ClauseCall.SameShape cs cs' :=
    .cons (.predicate _ _ _ (.scalar rfl rfl)) (.cons (.predicate _ _ _ (.list rfl)) .nil)
  obtain ⟨hr, -, hc, -⟩ := texts_eq_of_sameShape ({} : Script Call) ({} : Script Call) "users"
    .postgres [] none none h
  exact ⟨h, hr.1 rfl, hc⟩

end Query

end Sql

end Listing
