import Listing.Document.Scripted
import Listing.Proofs.Document.Where

namespace Listing.Document

mutual

def hasDocument : Bson → Bool
  | .document _ => true
  | .array items => haveDocument items
  | _ => false

def haveDocument : List Bson → Bool
  | [] => false
  | b :: r => hasDocument b || haveDocument r

end

mutual

theorem hasDocument_bsonOf (identifiers : Bool) : ∀ v, hasDocument (bsonOf identifiers v) = false
  | .list items => by rw [bsonOf, hasDocument, haveDocument_bsonsOf identifiers items]
  | .string s => by
    rw [bsonOf]
    split <;> rfl
  | .null | .bool _ | .int _ | .long _ | .float _ | .date _ | .dateTime _ | .timestamp _ => rfl

theorem haveDocument_bsonsOf (identifiers : Bool) :
    ∀ vs, haveDocument (bsonsOf identifiers vs) = false
  | [] => rfl
  | v :: r => by
    rw [bsonsOf, haveDocument, hasDocument_bsonOf identifiers v, haveDocument_bsonsOf identifiers r]
    rfl

end

/-- What an operator compares a field with: the document form of the value, of its items or of its
lower bound, the expression of a pattern, or null. -/
inductive OperandFor (identifiers : Bool) : Operator → Value → Bson → Prop
  | value {o : Operator} (v : Value)
      (h : o ∈ [.equal, .diff, .greater, .greaterOrEqual, .less, .lessOrEqual]) :
      OperandFor identifiers o v (bsonOf identifiers v)
  | items {o : Operator} (v : Value) (h : o ∈ [.among, .notAmong]) :
      OperandFor identifiers o v (.array (v.members.map (bsonOf identifiers)))
  | lower (low : Value) (r : List Value) :
      OperandFor identifiers .between (.list (low :: r)) (bsonOf identifiers low)
  | only {v : Value} (h : v.asList? = none) :
      OperandFor identifiers .between v (bsonOf identifiers v)
  | like (v : Value) : OperandFor identifiers .like v (.string (likeRegex v.text))
  | notLike (v : Value) : OperandFor identifiers .notLike v (.regex (likeRegex v.text))
  | null {o : Operator} (v : Value) (h : o ∈ [.isNull, .isNotNull]) :
      OperandFor identifiers o v .null

theorem bsonsOf_eq_map (identifiers : Bool) (vs : List Value) :
    bsonsOf identifiers vs = vs.map (bsonOf identifiers) := by
  induction vs with
  | nil => rfl
  | cons v vs ih => rw [bsonsOf, ih, List.map_cons]

theorem OperandFor.hasDocument_eq {identifiers : Bool} {o : Operator} {v : Value} {operand : Bson}
    (h : OperandFor identifiers o v operand) : hasDocument operand = false := by
  cases h with
  | value | lower | only => exact hasDocument_bsonOf identifiers _
  | items v =>
    rw [← bsonsOf_eq_map]
    exact haveDocument_bsonsOf identifiers v.members
  | like | notLike | null => rfl

theorem operandFor_of_operandOf {identifiers : Bool} {field : String} {o : Operator} {v : Value}
    {operand : Bson} (h : Condition.operandOf identifiers field o v = .ok operand) :
    OperandFor identifiers o v operand := by
  have hitems := bsonsOf_eq_map identifiers v.members
  cases o with
  | between =>
    cases v with
    | list items =>
      cases items with
      | nil => cases h
      | cons low r =>
        cases h
        exact .lower low r
    | _ =>
      cases h
      exact .only rfl
  | among | notAmong =>
    cases h
    rw [hitems]
    exact .items v (by decide)
  | isNull | isNotNull =>
    cases h
    exact .null v (by decide)
  | like =>
    cases h
    exact .like v
  | notLike =>
    cases h
    exact .notLike v
  | _ =>
    cases h
    exact .value v (by decide)

structure Comparison where
  field : String
  key : String
  operand : Bson

namespace Comparison

def toBson (c : Comparison) : Bson := .document [(c.field, .document [(c.key, c.operand)])]

/-- What a comparison has of the predicate that asked for it. -/
structure AskedBy (c : Comparison) (p : Predicate) : Prop where
  field : c.field = p.field
  path : isFieldPath c.field = true
  head : c.field.toList.head? ≠ some '$'
  key : c.key = (FieldOperator.ofOperator p.operator).key
  operand : ∃ identifiers, OperandFor identifiers p.operator p.value c.operand
  hasDocument_eq : hasDocument c.operand = false

def ofMember? : String × Bson → Option Comparison
  | (field, .document [(key, operand)]) => some ⟨field, key, operand⟩
  | _ => none

end Comparison

/-- The part of a filter document for a group: a single comparison, or a choice between at least
two. -/
inductive IsClause : List Comparison → Bson → Prop
  | single (c : Comparison) : IsClause [c] c.toBson
  | choice {cs : List Comparison} (h : 2 ≤ cs.length) :
      IsClause cs (.document [("$or", .array (cs.map Comparison.toBson))])

def groups? (filter : List (String × Bson)) : Option (List (List Comparison)) := do
  let s ← Selector.ofDocument? filter
  let clauses ← s.clauses?
  clauses.mapM fun g ↦ g.mapM Comparison.ofMember?

namespace Condition

def comparison (c : Condition) : Comparison := ⟨c.field, c.operator.key, c.operand⟩

theorem askedBy_of_ofPredicate {identifiers : Bool} {p : Predicate} {c : Condition}
    (h : ofPredicate identifiers p = .ok c) : c.comparison.AskedBy p := by
  obtain ⟨hf, operand, ho, rfl⟩ := ofPredicate_eq_ok.1 h
  have hop := operandFor_of_operandOf ho
  exact ⟨rfl, hf, head_of_isFieldPath hf, rfl, ⟨_, hop⟩, hop.hasDocument_eq⟩

theorem isClause_groupBson {g : List Condition} (h : g ≠ []) :
    IsClause (g.map comparison) (groupBson g) := by
  rcases g with _ | ⟨c, _ | ⟨c', g⟩⟩
  · exact absurd rfl h
  · exact .single c.comparison
  · have hl : 2 ≤ ((c :: c' :: g).map comparison).length := by simp
    have hc := IsClause.choice hl
    rwa [List.map_map] at hc

end Condition

namespace Query

variable {ε row : Type}

def groups (q : Query ε) : List (List Comparison) :=
  groupsInOrder ((q.conditions.map Condition.connector).zip
    (q.conditions.map Condition.comparison))

theorem groups_eq (q : Query ε) :
    q.groups = (orGroups (q.conditions.map fun c ↦ (c.connector, c))).map
      (List.map Condition.comparison) := by
  rw [groups, List.zip_map', groupsInOrder_eq, ← orGroups_map, List.map_map]
  rfl

theorem groups?_filter {q : Query ε} (h : ∀ c ∈ q.conditions, isFieldPath c.field = true) :
    groups? q.filter = some q.groups := by
  obtain ⟨s, hs, hc⟩ := Selector.reads_filterDocument h
  have hm : q.conditions.map (fun c ↦ (c.connector, c.entry)) =
      (q.conditions.map fun c ↦ (c.connector, c)).map fun c ↦ (c.1, c.2.entry) := by
    rw [List.map_map]
    rfl
  have hg (g : List Condition) :
      (g.map Condition.entry).mapM Comparison.ofMember? = some (g.map Condition.comparison) := by
    rw [List.mapM_map]
    exact List.mapM_pure
  rw [groups?, filter, hs, Option.bind_eq_bind, Option.bind_some, hc, Option.bind_eq_bind,
    Option.bind_some, hm, orGroups_map, List.mapM_map, groups_eq]
  simp only [Function.comp_def, hg]
  exact List.mapM_pure

theorem filter_eq_nil {q : Query ε} (h : q.conditions = []) : q.filter = [] := by
  rw [filter, h]
  rfl

theorem exists_filter_eq {q : Query ε} (h : q.conditions ≠ []) :
    ∃ clauses, q.filter = [("$and", .array clauses)] ∧ List.Forall₂ IsClause q.groups clauses := by
  have hne : orGroups (q.conditions.map fun c ↦ (c.connector, c)) ≠ [] :=
    orGroups_ne_nil (by simpa using h)
  refine ⟨(orGroups (q.conditions.map fun c ↦ (c.connector, c))).map groupBson, ?_, ?_⟩
  · unfold filter filterDocument
    split
    next h => exact absurd h hne
    next => rfl
  · rw [groups_eq, List.forall₂_map_left_iff, List.forall₂_map_right_iff, List.forall₂_same]
    exact fun g hg ↦ Condition.isClause_groupBson (ne_nil_of_mem_orGroups hg)

/-- What happens to a query: fields are registered for identifiers, or it is called. -/
inductive Step
  | identifiers (fields : List String)
  | call (o : Operation)

variable [Executor ε row]

namespace Step

def perform (q : Query ε) : Step → Query ε
  | identifiers fields => { q with identifierFields := q.identifierFields ++ fields }
  | call o => o.perform q

def taken (q : Query ε) : Step → List Predicate
  | call (.predicate p) =>
    match (p.addTo q).result with
    | .ok () => [p]
    | .error _ => []
  | _ => []

end Step

def performAll (q : Query ε) (steps : List Step) : Query ε := steps.foldl Step.perform q

def takenIn (q : Query ε) : List Step → List Predicate
  | [] => []
  | s :: r => s.taken q ++ takenIn (s.perform q) r

theorem compiled_perform {q : Query ε} {ps : List Predicate} (h : Compiled ps q.conditions)
    (s : Step) : Compiled (ps ++ s.taken q) (s.perform q).conditions := by
  have hn : Compiled (ps ++ []) q.conditions := (List.append_nil ps).symm ▸ h
  cases s with
  | identifiers fields => exact hn
  | call o =>
    cases o with
    | predicate p =>
      dsimp only [Step.taken]
      cases hp : (p.addTo q).result with
      | ok u =>
        obtain ⟨c, hc, hq⟩ := conditions_of_accepted hp
        exact hq ▸ List.rel_append h (.cons ⟨_, hc⟩ .nil)
      | error e => exact (conditions_of_refused hp).symm ▸ hn
    | order field direction => exact (conditions_addOrder q field direction).symm ▸ hn
    | get => exact (conditions_get q).symm ▸ hn
    | page n m => exact (conditions_page q n m).symm ▸ hn
    | findFirst => exact (conditions_findFirst q).symm ▸ hn
    | _ => exact hn

theorem compiled_performAll {q : Query ε} {ps : List Predicate} (h : Compiled ps q.conditions)
    (steps : List Step) : Compiled (ps ++ takenIn q steps) (q.performAll steps).conditions := by
  induction steps generalizing q ps with
  | nil => rwa [takenIn, List.append_nil]
  | cons s steps ih =>
    rw [takenIn, ← List.append_assoc]
    exact ih (compiled_perform h s)

/-- Whatever is done to a query, its filter document holds the comparisons that the predicates it
took asked for and nothing else: none if it took none, and otherwise one part for each group. The
groups can be read off the document, so that queries with other groups have another document. -/
theorem filter_performAll (executor : ε) (steps : List Step) :
    let q := performAll { executor } steps
    let ps := takenIn ({ executor } : Query ε) steps
    (∃ cs, List.Forall₂ Comparison.AskedBy cs ps ∧
      q.groups = groupsInOrder ((ps.map Predicate.combinator).zip cs)) ∧
    (ps = [] → q.filter = []) ∧
    (ps ≠ [] → ∃ clauses, q.filter = [("$and", .array clauses)] ∧
      List.Forall₂ IsClause q.groups clauses) ∧
    groups? q.filter = some q.groups ∧
    ∀ (other : ε) (steps' : List Step),
      (performAll { executor := other } steps').filter = q.filter →
        (performAll { executor := other } steps').groups = q.groups := by
  have hstart (executor : ε) : Compiled [] ({ executor } : Query ε).conditions := .nil
  have hread (executor : ε) (steps : List Step) : groups? (performAll { executor } steps).filter =
      some (performAll { executor } steps).groups :=
    groups?_filter (compiled_performAll (hstart executor) steps).isFieldPath
  have hc := compiled_performAll (hstart executor) steps
  rw [List.nil_append] at hc
  dsimp only
  generalize takenIn ({ executor } : Query ε) steps = ps at hc ⊢
  refine ⟨⟨(performAll { executor } steps).conditions.map Condition.comparison, ?_, ?_⟩, ?_, ?_,
    hread executor steps, fun other steps' h ↦ ?_⟩
  · rw [List.forall₂_map_left_iff]
    exact hc.flip.imp fun _ _ ⟨_, h⟩ ↦ Condition.askedBy_of_ofPredicate h
  · rw [groups, hc.connectors]
  · rintro rfl
    exact filter_eq_nil (List.forall₂_nil_left_iff.1 hc)
  · intro hne
    refine exists_filter_eq fun h ↦ hne ?_
    rw [h] at hc
    exact List.forall₂_nil_right_iff.1 hc
  · have hr := hread other steps'
    rw [h, hread executor steps] at hr
    exact (Option.some.inj hr).symm

theorem filter_performAll_with_refused_calls :
    let q : Query (Script Call) := { executor := {} }
    let owner : Predicate := .and "owner" .among
      (.list [.string "0123456789abcdef01234567", .list [.string "$gt", .null]])
    let price : Predicate := .or "price" .between (.list [.int 1, .int 5])
    let steps : List Step := [.identifiers ["owner"], .call (.predicate owner),
      .call (.predicate (.and "$where" .equal (.string "1"))),
      .call (.predicate (.and "price" .between (.list []))), .call (.predicate price)]
    let steps' : List Step := [.identifiers ["owner"], .call (.predicate owner),
      .call (.predicate price)]
    takenIn q steps = [owner, price] ∧
      (∃ clauses, (q.performAll steps).filter = [("$and", .array clauses)] ∧
        List.Forall₂ IsClause (q.performAll steps).groups clauses) ∧
      (q.performAll steps').groups = (q.performAll steps).groups ∧
      groups? (q.performAll steps).filter = some [[⟨"owner", "$in",
        .array [.objectId "0123456789abcdef01234567", .array [.string "$gt", .null]]⟩,
        ⟨"price", "$gte", .int32 1⟩]] := by
  dsimp only
  exact ⟨rfl, (filter_performAll ({} : Script Call) _).2.2.1 nofun,
    (filter_performAll ({} : Script Call) _).2.2.2.2 {} _ rfl,
    (filter_performAll ({} : Script Call) _).2.2.2.1⟩

end Query

end Listing.Document
