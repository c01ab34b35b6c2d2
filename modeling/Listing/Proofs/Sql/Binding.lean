import Listing.Proofs.Sql.Alignment
import Listing.Proofs.Sql.Meaning
import Listing.Sql.Parameter

namespace Listing.Sql

def Parameter.IsOf : Parameter → ColumnType → Prop
  | bool _, .bool => True
  | int2 _, .int2 => True
  | int4 _, .int4 => True
  | int8 _, .int8 => True
  | float4 _, .float4 => True
  | float8 _, .float8 => True
  | numeric _, .numeric => True
  | text _, .text _ => True
  | date _, .date => True
  | timestamp _, .timestamp => True
  | timestamptz _, .timestamptz => True
  | uuid _, .uuid => True
  | plain _, .other _ => True
  | _, _ => False

def Parameter.isNull : Parameter → Bool
  | bool v => v.isNone
  | int2 v => v.isNone
  | int4 v => v.isNone
  | int8 v => v.isNone
  | float4 v => v.isNone
  | float8 v => v.isNone
  | numeric v => v.isNone
  | text v => v.isNone
  | date v => v.isNone
  | timestamp v => v.isNone
  | timestamptz v => v.isNone
  | uuid v => v.isNone
  | plain v => v.isNull

/-- The value with this index is the first one that its type does not take. -/
structure FirstRefused (values : List Value) (types : List ColumnType) (i : Nat) (v : Value)
    (t : ColumnType) : Prop where
  value : values[i]? = some v
  type : types[i]? = some t
  refused : coerce? v t = none
  before : ∀ j < i, ∀ w u, values[j]? = some w → types[j]? = some u → (coerce? w u).isSome = true

def Term.parameters : Term → List (Option Nat)
  | parameter index => [index]
  | _ => []

def Relation.parameters : Relation → List (Option Nat)
  | compare _ right => right.parameters
  | like _ pattern => pattern.parameters
  | null _ => []
  | among _ item items => item.parameters ++ items.flatMap Term.parameters
  | between _ low high => low.parameters ++ high.parameters

def Test.parameters (t : Test) : List (Option Nat) := t.subject.parameters ++ t.relation.parameters

variable {ε row : Type}

inductive Query.Compiles (q : Query ε) : Statement → Prop
  | conditions : q.Compiles q.whereClause
  | count : q.Compiles q.countStatement
  | selection {s : Statement} (h : q.selectStatement = .ok s) : q.Compiles s

/-- The text of the statement refers to the value by this number: nothing around the conditions has
placeholders, and in the reading of the conditions the test that stands for the one with the value
is about its column and has the number in the place of the value. -/
def Query.RefersTo (q : Query ε) (s : Statement) (number : Nat) (v : Value) : Prop :=
  (∃ front back, s.sql.toList = front ++ q.whereClause.sql.toList ++ back ∧
    Unmarked front ∧ Unmarked back) ∧
  ∃ e, ReadsOnly q.dialect q.whereClause.sql e ∧ ∃ (i j : Nat) (c : Condition) (t : Test),
    q.conditions[i]? = some c ∧ c.boundValues[j]? = some v ∧
    e.tests[i]? = some t ∧ t.subject = .ofPath c.column ∧ t.parameters[j]? = some (some number)

theorem typedNull_isOf (t : ColumnType) : (typedNull t).IsOf t ∧ (typedNull t).isNull = true := by
  cases t <;> exact ⟨trivial, rfl⟩

theorem isOf_of_typed? {v : Value} {t : ColumnType} {p : Parameter} (hv : v.isNull = false)
    (h : typed? v t = some p) : p.IsOf t ∧ p.isNull = false := by
  cases t with
  | text name =>
    cases h
    exact ⟨trivial, rfl⟩
  | other name =>
    cases h
    exact ⟨trivial, hv⟩
  | _ =>
    obtain ⟨a, -, rfl⟩ := Option.map_eq_some_iff.1 h
    exact ⟨trivial, rfl⟩

theorem isOf_of_coerce? {v : Value} {t : ColumnType} {p : Parameter} (h : coerce? v t = some p) :
    p.IsOf t ∧ p.isNull = v.isNull := by
  cases v with
  | list items => cases h
  | null =>
    cases h
    exact typedNull_isOf t
  | _ => exact isOf_of_typed? rfl h

theorem bindFrom_eq_ok {n : Nat} {vs : List (Value × ColumnType)} {ps : List Parameter} :
    bindFrom n vs = .ok ps ↔ List.Forall₂ (fun v p ↦ coerce? v.1 v.2 = some p) vs ps := by
  induction vs generalizing n ps with
  | nil =>
    rw [List.forall₂_nil_left_iff]
    exact ⟨fun h ↦ (Except.ok.inj h).symm, fun h ↦ congrArg Except.ok h.symm⟩
  | cons v vs ih =>
    rw [bindFrom, List.forall₂_cons_left_iff]
    cases hv : coerce? v.1 v.2 with
    | none => exact ⟨nofun, fun ⟨_, _, h, _⟩ ↦ nomatch h⟩
    | some p =>
      rw [Outcome.map_eq_ok]
      constructor
      · rintro ⟨qs, h, rfl⟩
        exact ⟨p, qs, rfl, ih.1 h, rfl⟩
      · rintro ⟨p', qs, hp, h, rfl⟩
        cases hp
        exact ⟨qs, ih.2 h, rfl⟩

theorem FirstRefused.cons {values : List Value} {types : List ColumnType} {i : Nat} {v w : Value}
    {t u : ColumnType} (h : FirstRefused values types i v t) (hw : (coerce? w u).isSome = true) :
    FirstRefused (w :: values) (u :: types) (i + 1) v t where
  value := h.value
  type := h.type
  refused := h.refused
  before j hj w' u' hw' hu' := by
    cases j with
    | zero =>
      cases hw'
      cases hu'
      exact hw
    | succ j => exact h.before j (Nat.lt_of_succ_lt_succ hj) w' u' hw' hu'

theorem firstRefused_of_bindFrom {n : Nat} {values : List Value} {types : List ColumnType}
    {e : SqlError} (h : bindFrom n (values.zip types) = .error e) :
    ∃ i v t, FirstRefused values types i v t ∧ e = .parameter (n + i) t.name v.text := by
  induction values generalizing n types with
  | nil => cases h
  | cons w values ih =>
    cases types with
    | nil => cases h
    | cons u types =>
      rw [List.zip_cons_cons, bindFrom] at h
      cases hw : coerce? w u with
      | none =>
        rw [hw] at h
        cases h
        exact ⟨0, w, u, ⟨rfl, rfl, hw, nofun⟩, rfl⟩
      | some p =>
        rw [hw] at h
        obtain ⟨i, v, t, hi, rfl⟩ := ih (Outcome.map_eq_error.1 h)
        exact ⟨i + 1, v, t, hi.cons (by rw [hw]; rfl), by rw [Nat.add_assoc, Nat.add_comm 1]⟩

theorem getElem?_of_bindFrom {n i : Nat} {values : List Value} {types : List ColumnType}
    {ps : List Parameter} {v : Value} {t : ColumnType} (h : bindFrom n (values.zip types) = .ok ps)
    (hv : values[i]? = some v) (ht : types[i]? = some t) : ps[i]? = coerce? v t := by
  have hf := bindFrom_eq_ok.1 h
  have hz : (values.zip types)[i]? = some (v, t) := List.getElem?_zip_eq_some.2 ⟨hv, ht⟩
  obtain ⟨hi, hz⟩ := List.getElem?_eq_some_iff.1 hz
  have hlt : i < ps.length := hf.length_eq ▸ hi
  have hp := (List.forall₂_iff_get.1 hf).2 i hi hlt
  rw [List.get_eq_getElem, hz] at hp
  rw [List.getElem?_eq_getElem hlt]
  exact hp.symm

theorem bindParams_of_length_eq {values : List Value} {types : List ColumnType}
    (h : values.length = types.length) : bindParams values types = bindFrom 1 (values.zip types) :=
  if_neg (not_not_intro h)

theorem firstRefused_of_bindParams {values : List Value} {types : List ColumnType} {e : SqlError}
    (hl : values.length = types.length) (h : bindParams values types = .error e) :
    ∃ i v t, FirstRefused values types i v t ∧ e = .parameter (i + 1) t.name v.text := by
  rw [bindParams_of_length_eq hl] at h
  obtain ⟨i, v, t, hi, rfl⟩ := firstRefused_of_bindFrom h
  exact ⟨i, v, t, hi, by rw [Nat.add_comm]⟩

theorem bindParams_eq_internal {values : List Value} {types : List ColumnType} :
    (∃ m, bindParams values types = .error (.internal m)) ↔ values.length ≠ types.length := by
  constructor
  · rintro ⟨m, hm⟩ h
    obtain ⟨i, v, t, -, he⟩ := firstRefused_of_bindParams h hm
    cases he
  · intro h
    exact ⟨_, if_pos h⟩

theorem getElem?_of_bindParams {values : List Value} {types : List ColumnType}
    {ps : List Parameter} (hl : values.length = types.length)
    (h : bindParams values types = .ok ps) : ps.length = values.length ∧
      ∀ (i : Nat) v t, values[i]? = some v → types[i]? = some t → ps[i]? = coerce? v t := by
  rw [bindParams_of_length_eq hl] at h
  refine ⟨?_, fun i v t hv ht ↦ getElem?_of_bindFrom h hv ht⟩
  rw [← (bindFrom_eq_ok.1 h).length_eq, List.length_zip, hl, Nat.min_self]

theorem exists_bindParams_iff {values : List Value} {types : List ColumnType}
    (hl : values.length = types.length) : (∃ ps, bindParams values types = .ok ps) ↔
      ∀ (i : Nat) v t, values[i]? = some v → types[i]? = some t → (coerce? v t).isSome = true := by
  constructor
  · rintro ⟨ps, hp⟩ i v t hv ht
    obtain ⟨hlen, hps⟩ := getElem?_of_bindParams hl hp
    have hi : i < ps.length := hlen ▸ (List.getElem?_eq_some_iff.1 hv).1
    rw [← hps i v t hv ht, List.getElem?_eq_getElem hi]
    rfl
  · intro hc
    cases hb : bindParams values types with
    | ok ps => exact ⟨ps, rfl⟩
    | error e =>
      obtain ⟨i, v, t, hi, -⟩ := firstRefused_of_bindParams hl hb
      have hv := hc i v t hi.value hi.type
      rw [hi.refused] at hv
      cases hv

theorem Condition.subject_test {c : Condition} (hne : c.operand.values ≠ []) (d : Dialect)
    (used : Nat) : (c.test d used).subject = .ofPath c.column := by
  rcases c with ⟨column, o, _ | _ | ⟨_ | _⟩ | _, connector⟩
  case many.nil => exact absurd rfl hne
  all_goals rfl

theorem Condition.parameters_test {c : Condition} (h : c.Valid) (hne : c.operand.values ≠ [])
    (d : Dialect) (used : Nat) : (c.test d used).parameters =
      (List.range' 1 c.operand.values.length).map fun k ↦ d.reference (used + k) := by
  rcases c with ⟨column, o, operand, connector⟩
  have hs := h.operand
  cases operand with
  | none => exact absurd rfl hne
  | single v =>
    cases o <;> first | rfl | simp [Operand.Fits, Operator.isNullCheck, Operator.takesList] at hs
  | many vs =>
    cases vs with
    | nil => exact absurd rfl hne
    | cons v vs =>
      have hp : ((List.range' 2 vs.length).map (d.value used)).flatMap Term.parameters =
          (List.range' 2 vs.length).map fun k ↦ d.reference (used + k) := by
        rw [List.flatMap_map, List.map_eq_flatMap]
        rfl
      cases o <;> first | exact congrArg _ hp | cases hs
  | range low high =>
    cases hs
    rfl

theorem getElem?_conditionTests (d : Dialect) (used : Nat) (cs : List Condition) (i : Nat) :
    (conditionTests d used cs)[i]? =
      cs[i]?.map fun c ↦ c.test d (used + (conditionValues (cs.take i)).length) := by
  induction cs generalizing used i with
  | nil => rfl
  | cons c cs ih =>
    cases i with
    | zero => rfl
    | succ i =>
      rw [conditionTests, List.getElem?_cons_succ, List.getElem?_cons_succ, ih, List.take_succ_cons,
        conditionValues_cons, List.length_append, Nat.add_assoc]

theorem exists_of_getElem?_conditionValues {cs : List Condition} {n : Nat} {v : Value}
    (h : (conditionValues cs)[n]? = some v) :
    ∃ i j c, cs[i]? = some c ∧ c.operand.values[j]? = some v ∧
      n = (conditionValues (cs.take i)).length + j := by
  induction cs generalizing n with
  | nil => cases h
  | cons c cs ih =>
    rw [conditionValues_cons] at h
    by_cases hn : n < c.operand.values.length
    · rw [List.getElem?_append_left hn] at h
      exact ⟨0, n, c, rfl, h, (Nat.zero_add n).symm⟩
    · rw [List.getElem?_append_right (Nat.le_of_not_lt hn)] at h
      obtain ⟨i, j, c', hc, hv, he⟩ := ih h
      refine ⟨i + 1, j, c', hc, hv, ?_⟩
      rw [List.take_succ_cons, conditionValues_cons, List.length_append]
      omega

namespace Query

theorem aligned_of_compiles {q : Query ε} (h : q.WellFormed) {s : Statement} (hs : q.Compiles s) :
    s.Aligned q.dialect q.boundValues := by
  cases hs with
  | conditions => exact aligned_whereClause h
  | count => exact aligned_countStatement h
  | selection hs => exact (selects_of_selectStatement h hs).aligned

theorem exists_around_whereClause {q : Query ε} (h : q.WellFormed) {s : Statement}
    (hs : q.Compiles s) : ∃ front back, s.sql.toList = front ++ q.whereClause.sql.toList ++ back ∧
      Unmarked front ∧ Unmarked back := by
  have hnil : Unmarked [] := nofun
  obtain ⟨front, hf, hw⟩ := source_eq h
  cases hs with
  | conditions => exact ⟨[], [], by simp, hnil, hnil⟩
  | count =>
    refine ⟨"SELECT COUNT(*)".toList ++ front, [], ?_, unmarked_append.2 ⟨by decide, hf⟩, hnil⟩
    rw [countStatement_sql, String.toList_append, hw]
    simp
  | selection hs =>
    obtain ⟨projection, hp, hsql⟩ := (selects_of_selectStatement h hs).text
    refine ⟨("SELECT " ++ projection).toList ++ front, (q.orderText ++ q.limitText).toList, ?_,
      unmarked_append.2 ⟨unmarked_toList_append.2 ⟨by decide, unmarked_projection hp⟩, hf⟩,
      unmarked_toList_append.2 ⟨unmarked_orderText h, unmarked_limitText q⟩⟩
    rw [hsql]
    simp [hw]

theorem exists_reading {q : Query ε} (h : q.WellFormed) (hne : q.conditions ≠ []) :
    ∃ e, ReadsOnly q.dialect q.whereClause.sql e ∧
      e.tests = conditionTests q.dialect 0 q.conditions := by
  cases hs : conditionsText? q.dialect 0 q.conditions with
  | none => exact absurd (conditionsText?_eq_none.1 hs) hne
  | some s =>
    obtain ⟨e, he, hc⟩ := clauses_conditionsText? h.conditions hs
    have hw : q.whereClause.sql = s := congrArg (·.getD "") hs
    refine ⟨e, hw ▸ he, ?_⟩
    rw [Formula.tests_of_clauses? hc, ← List.map_flatten, flatten_orGroups, conditionTests_eq,
      List.map_map]
    rfl

theorem refersTo_of_getElem? {q : Query ε} (h : q.WellFormed) (hd : q.dialect = .postgres)
    {s : Statement} (hs : q.Compiles s) {n : Nat} {v : Value} (hv : s.params[n]? = some v) :
    q.RefersTo s (n + 1) v := by
  rw [(aligned_of_compiles h hs).params, boundValues_eq h] at hv
  obtain ⟨i, j, c, hc, hj, rfl⟩ := exists_of_getElem?_conditionValues hv
  have hvalid := h.conditions c (List.mem_of_getElem? hc)
  have hne : c.operand.values ≠ [] := List.ne_nil_of_mem (List.mem_of_getElem? hj)
  obtain ⟨e, he, ht⟩ := exists_reading h (List.ne_nil_of_mem (List.mem_of_getElem? hc))
  let used := (conditionValues (q.conditions.take i)).length
  have htest : e.tests[i]? = some (c.test q.dialect (0 + used)) := by
    rw [ht, getElem?_conditionTests, hc, Option.map_some]
  have hlt : j < c.operand.values.length := (List.getElem?_eq_some_iff.1 hj).1
  have hnumber : (c.test q.dialect (0 + used)).parameters[j]? = some (some (used + j + 1)) := by
    rw [Condition.parameters_test hvalid hne, hd, List.getElem?_map, List.getElem?_range' hlt,
      Option.map_some, Dialect.reference]
    congr 2
    omega
  exact ⟨exists_around_whereClause h hs, e, he, i, j, c, _, hc,
    (Condition.boundValues_eq hvalid).symm ▸ hj, htest, Condition.subject_test hne _ _, hnumber⟩

variable [Executor ε row]

/-- Values are bound to their types by position. If there are as many types as values, only a value
that its type does not take stands in the way, and the first such value is reported with the number
by which the text of the statement refers to it. Every type takes null, as its own null and nothing
else so, and none takes a list. -/
theorem Reachable.parameters_bind_in_order {q : Query ε} (h : q.Reachable)
    (hd : q.dialect = .postgres) {s : Statement} (hs : q.Compiles s) (types : List ColumnType) :
    ((∃ m, bindParams s.params types = .error (.internal m)) ↔ s.params.length ≠ types.length) ∧
    (s.params.length = types.length →
      ((∃ ps, bindParams s.params types = .ok ps) ↔
        ∀ (i : Nat) v t, s.params[i]? = some v → types[i]? = some t → (coerce? v t).isSome = true) ∧
      (∀ ps : List Parameter, bindParams s.params types = .ok ps → ps.length = s.params.length ∧
        ∀ (i : Nat) v t, s.params[i]? = some v → types[i]? = some t → ps[i]? = coerce? v t) ∧
      ∀ e, bindParams s.params types = .error e → ∃ i v t,
        FirstRefused s.params types i v t ∧ e = .parameter (i + 1) t.name v.text ∧
        q.RefersTo s (i + 1) v ∧
        (placeholdersIn s.sql.toList)[i]? = some ("$" ++ Number.naturalText (i + 1))) ∧
    (∀ t, ∃ p, coerce? .null t = some p ∧ p.IsOf t ∧ p.isNull = true) ∧
    (∀ v t p, coerce? v t = some p → p.IsOf t ∧ p.isNull = v.isNull) ∧
    ∀ items t, coerce? (.list items) t = none := by
  have hw := h.wellFormed
  have ha := aligned_of_compiles hw hs
  refine ⟨bindParams_eq_internal, fun hl ↦ ⟨exists_bindParams_iff hl,
    fun ps ↦ getElem?_of_bindParams hl, fun e he ↦ ?_⟩, fun t ↦ ⟨_, rfl, typedNull_isOf t⟩,
    fun _ _ _ ↦ isOf_of_coerce?, fun _ _ ↦ rfl⟩
  obtain ⟨i, v, t, hi, he⟩ := firstRefused_of_bindParams hl he
  have hlt : i < q.boundValues.length := ha.params ▸ (List.getElem?_eq_some_iff.1 hi.value).1
  have hplaceholder : (placeholdersIn s.sql.toList)[i]? =
      some ("$" ++ Number.naturalText (i + 1)) := by
    rw [ha.placeholders, List.getElem?_map, List.getElem?_range hlt, hd]
    rfl
  exact ⟨i, v, t, hi, he, refersTo_of_getElem? hw hd hs hi.value, hplaceholder⟩

theorem Reachable.parameters_bind_in_order_refused_in_list :
    ∃ q : Query (Script Call), q.Reachable ∧ q.dialect = .postgres ∧ q.Compiles q.countStatement ∧
      q.countStatement.params = [.int 18, .int 30, .null, .string "a", .string "b"] ∧
      bindParams q.countStatement.params [.int4, .int4, .uuid, .text "text", .int4] =
        .error (.parameter 5 "int4" "b") ∧
      q.RefersTo q.countStatement 5 (.string "b") := by
  have hon : Query.on ({} : Script Call) "users" = .ok { executor := {}, table := "users" } := rfl
  have hq := ((Reachable.on hon).perform
    (.predicate (.and "age" .between (.list [.int 18, .int 30])))).perform
      (.predicate (.or "role" .among (.list [.null, .string "a", .string "b"])))
  have hb : bindParams [.int 18, .int 30, .null, .string "a", .string "b"]
      [.int4, .int4, .uuid, .text "text", .int4] = .error (.parameter 5 "int4" "b") := rfl
  obtain ⟨-, hall, -⟩ :=
    hq.parameters_bind_in_order rfl .count [.int4, .int4, .uuid, .text "text", .int4]
  obtain ⟨i, v, t, hi, he, hr, -⟩ := (hall rfl).2.2 _ hb
  obtain ⟨hn, -, -⟩ := SqlError.parameter.inj he
  obtain rfl : i = 4 := by omega
  cases hi.value
  exact ⟨_, hq, rfl, .count, rfl, hb, hr⟩

end Query

end Listing.Sql
