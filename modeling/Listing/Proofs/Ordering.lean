import Listing.Document.Scripted
import Listing.Proofs.Document.Reachable
import Listing.Proofs.Sql.Clauses
import Listing.Proofs.Success
import Listing.Sql.Scripted
import Mathlib.Data.Bool.Basic
import Mathlib.Data.List.Induction
import Mathlib.Data.Nat.Basic

namespace Listing

open Listing.Filter (distinct mem_distinct)

namespace SortDirection

def orient : SortDirection → Ordering → Ordering
  | asc, o => o
  | desc, o => o.swap

theorem orient_eq_eq {d : SortDirection} {o : Ordering} : d.orient o = .eq ↔ o = .eq := by
  cases d <;> cases o <;> decide

theorem orient_lt_inj {d d' : SortDirection} : d.orient .lt = d'.orient .lt ↔ d = d' := by
  cases d <;> cases d' <;> decide

end SortDirection

section

theorem then_congr {o p q : Ordering} (h : o = .eq → p = q) : o.then p = o.then q := by
  cases o with
  | eq => exact h rfl
  | lt | gt => rfl

variable {ρ : Type} {value : String → Type} [∀ field, LinearOrder (value field)]

/-- Compares records by fields, the earlier fields first. -/
def compareBy (get : (field : String) → ρ → value field) (a b : ρ) :
    List (String × SortDirection) → Ordering
  | [] => .eq
  | (field, d) :: r => (d.orient (compare (get field a) (get field b))).then (compareBy get a b r)

variable {get : (field : String) → ρ → value field} {a b : ρ}

theorem compareBy_filter {field : String} (h : get field a = get field b)
    (os : List (String × SortDirection)) :
    compareBy get a b (os.filter fun o ↦ o.1 != field) = compareBy get a b os := by
  induction os with
  | nil => rfl
  | cons o os ih =>
    rcases o with ⟨f, d⟩
    rw [List.filter_cons]
    split
    next => rw [compareBy, compareBy, ih]
    next hf =>
      obtain rfl : f = field := by simpa using hf
      rw [ih, compareBy, SortDirection.orient_eq_eq.2 (compare_eq_iff_eq.2 h)]
      rfl

theorem compareBy_cons_filter (field : String) (d : SortDirection)
    (os : List (String × SortDirection)) :
    compareBy get a b ((field, d) :: os.filter fun o ↦ o.1 != field) =
      compareBy get a b ((field, d) :: os) :=
  then_congr fun h ↦ compareBy_filter (compare_eq_iff_eq.1 (SortDirection.orient_eq_eq.1 h)) os

end

/-- The fields of orders, each once, in the order in which they are first named. -/
def fieldsOf (os : List (String × SortDirection)) : List String := distinct (os.map Prod.fst)

def firstDirection (os : List (String × SortDirection)) (field : String) : SortDirection :=
  (os.lookup field).getD .asc

def lastDirection (os : List (String × SortDirection)) (field : String) : SortDirection :=
  firstDirection os.reverse field

def directed (direction : String → SortDirection) (fields : List String) :
    List (String × SortDirection) := fields.map fun f ↦ (f, direction f)

theorem mem_fieldsOf {os : List (String × SortDirection)} {field : String} :
    field ∈ fieldsOf os ↔ ∃ d, (field, d) ∈ os := by
  rw [fieldsOf, mem_distinct, List.mem_map]
  exact ⟨fun ⟨⟨_, d⟩, h, rfl⟩ ↦ ⟨d, h⟩, fun ⟨d, h⟩ ↦ ⟨_, h, rfl⟩⟩

theorem firstDirection_cons (o : String × SortDirection) (os : List (String × SortDirection))
    (field : String) : firstDirection (o :: os) field =
      if field = o.1 then o.2 else firstDirection os field := by
  rcases o with ⟨f, d⟩
  rw [firstDirection, List.lookup_cons]
  by_cases h : field = f
  · simp [h]
  · rw [beq_false_of_ne h, if_neg h]
    rfl

theorem lastDirection_concat (os : List (String × SortDirection)) (o : String × SortDirection)
    (field : String) : lastDirection (os ++ [o]) field =
      if field = o.1 then o.2 else lastDirection os field := by
  rw [lastDirection, List.reverse_concat, firstDirection_cons]
  rfl

theorem directed_congr {direction direction' : String → SortDirection} {fields : List String}
    (h : ∀ f ∈ fields, direction f = direction' f) :
    directed direction fields = directed direction' fields :=
  List.map_congr_left fun f hf ↦ congrArg (f, ·) (h f hf)

section

variable {ρ : Type} {value : String → Type} [∀ field, LinearOrder (value field)]

/-- A list of orders sorts by the first direction of each of its fields. -/
theorem compareBy_firstDirection (get : (field : String) → ρ → value field) (a b : ρ)
    (os : List (String × SortDirection)) :
    compareBy get a b (directed (firstDirection os) (fieldsOf os)) = compareBy get a b os := by
  induction os with
  | nil => rfl
  | cons o os ih =>
    rcases o with ⟨f, d⟩
    have hr : directed (firstDirection ((f, d) :: os)) ((fieldsOf os).filter (· != f)) =
        (directed (firstDirection os) (fieldsOf os)).filter fun o ↦ o.1 != f := by
      have hc : ∀ g ∈ (fieldsOf os).filter (· != f),
          firstDirection ((f, d) :: os) g = firstDirection os g := by
        intro g hg
        rw [firstDirection_cons, if_neg (bne_iff_ne.1 (List.mem_filter.1 hg).2)]
      rw [directed_congr hc, directed, directed, List.filter_map]
      rfl
    calc
      compareBy get a b (directed (firstDirection ((f, d) :: os)) (fieldsOf ((f, d) :: os)))
        = compareBy get a b ((f, d) ::
            (directed (firstDirection os) (fieldsOf os)).filter fun o ↦ o.1 != f) := by
          rw [← hr, fieldsOf, List.map_cons, distinct, directed, List.map_cons, firstDirection_cons,
            if_pos rfl]
          rfl
      _ = compareBy get a b ((f, d) :: directed (firstDirection os) (fieldsOf os)) :=
          compareBy_cons_filter f d _
      _ = compareBy get a b ((f, d) :: os) := by rw [compareBy, ih, compareBy]

end

def onlyIn (field f : String) (b : Bool) : Bool := f = field && b

theorem compareBy_onlyIn {field : String} {fields : List String} (h : field ∈ fields)
    (direction : String → SortDirection) :
    compareBy (onlyIn field) false true (directed direction fields) =
      (direction field).orient .lt := by
  induction fields with
  | nil => cases h
  | cons f fields ih =>
    change ((direction f).orient _).then (compareBy _ _ _ (directed direction fields)) = _
    by_cases hf : f = field
    · subst hf
      have hc : compare (onlyIn f f false) (onlyIn f f true) = .lt := by
        simp only [onlyIn, decide_true, Bool.true_and]
        rfl
      rw [hc]
      cases direction f <;> rfl
    · have hc : compare (onlyIn field f false) (onlyIn field f true) = .eq := by
        simp only [onlyIn, hf, decide_false, Bool.false_and]
        rfl
      rw [hc, SortDirection.orient_eq_eq.2 rfl]
      exact ih ((List.mem_cons.1 h).resolve_left (Ne.symm hf))

theorem firstDirection_of_notMem {os : List (String × SortDirection)} {field : String}
    (h : field ∉ fieldsOf os) : firstDirection os field = .asc := by
  induction os with
  | nil => rfl
  | cons o os ih =>
    rw [mem_fieldsOf] at h
    have ho : field ≠ o.1 := by
      rintro rfl
      exact h ⟨o.2, List.mem_cons_self⟩
    rw [firstDirection_cons, if_neg ho]
    exact ih fun hm ↦ h ((mem_fieldsOf.1 hm).imp fun _ hd ↦ List.mem_cons_of_mem o hd)

theorem mem_fieldsOf_reverse {os : List (String × SortDirection)} {field : String} :
    field ∈ fieldsOf os.reverse ↔ field ∈ fieldsOf os := by
  simp only [mem_fieldsOf, List.mem_reverse]

/-- Fields in one precedence but in two sets of directions sort alike just if each has the same
direction twice. -/
theorem forall_compareBy_directed_iff (os : List (String × SortDirection)) :
    (∀ (ρ : Type) (value : String → Type) [∀ field, LinearOrder (value field)]
      (get : (field : String) → ρ → value field) (a b : ρ),
      compareBy get a b os = compareBy get a b (directed (lastDirection os) (fieldsOf os))) ↔
    ∀ field, firstDirection os field = lastDirection os field := by
  constructor
  · intro h field
    by_cases hf : field ∈ fieldsOf os
    · have hb := h Bool (fun _ ↦ Bool) (onlyIn field) false true
      rw [← compareBy_firstDirection, compareBy_onlyIn hf, compareBy_onlyIn hf] at hb
      exact SortDirection.orient_lt_inj.1 hb
    · have hr : field ∉ fieldsOf os.reverse := fun hm ↦ hf (mem_fieldsOf_reverse.1 hm)
      rw [firstDirection_of_notMem hf, lastDirection, firstDirection_of_notMem hr]
  · intro h ρ value _ get a b
    rw [← compareBy_firstDirection, directed_congr fun f _ ↦ h f]

theorem distinct_concat (texts : List String) (s : String) :
    distinct (texts ++ [s]) = if s ∈ texts then distinct texts else distinct texts ++ [s] := by
  induction texts with
  | nil => rfl
  | cons t r ih =>
    rw [List.cons_append, distinct, distinct, ih]
    by_cases hr : s ∈ r
    · rw [if_pos hr, if_pos (List.mem_cons_of_mem t hr)]
    · rw [if_neg hr, List.filter_append]
      by_cases ht : s = t
      · simp [ht]
      · simp [ht, hr]

theorem fieldsOf_concat (os : List (String × SortDirection)) (o : String × SortDirection) :
    fieldsOf (os ++ [o]) =
      if o.1 ∈ fieldsOf os then fieldsOf os else fieldsOf os ++ [o.1] := by
  rw [fieldsOf, List.map_append, List.map_singleton, distinct_concat]
  simp only [fieldsOf, mem_distinct]

theorem nodup_fieldsOf (os : List (String × SortDirection)) : (fieldsOf os).Nodup := by
  rw [fieldsOf]
  induction os.map Prod.fst with
  | nil => exact List.nodup_nil
  | cons t r ih => exact List.nodup_cons.2 ⟨by simp, ih.filter _⟩

namespace Document

theorem put_directed {fields : List String} (hn : fields.Nodup) (direction : String → SortDirection)
    (field : String) (d : SortDirection) : put field d (directed direction fields) =
      directed (fun f ↦ if f = field then d else direction f)
        (if field ∈ fields then fields else fields ++ [field]) := by
  induction fields with
  | nil => simp [directed, put]
  | cons f fields ih =>
    obtain ⟨hnf, hn⟩ := List.nodup_cons.1 hn
    have hput : put field d (directed direction (f :: fields)) = if f = field then
        (f, d) :: directed direction fields else
        (f, direction f) :: put field d (directed direction fields) := rfl
    rw [hput]
    by_cases hf : f = field
    · subst hf
      have hr : directed direction fields =
          directed (fun g ↦ if g = f then d else direction g) fields := by
        refine directed_congr fun g hg ↦ (if_neg ?_).symm
        rintro rfl
        exact hnf hg
      rw [if_pos rfl, if_pos List.mem_cons_self, hr]
      simp [directed]
    · have hm : field ∈ f :: fields ↔ field ∈ fields := by
        simp [Ne.symm hf]
      rw [if_neg hf, ih hn, if_congr hm rfl rfl]
      split <;> simp [directed, hf]

/-- In a sort document each field has its last direction. -/
theorem foldl_put_eq (os : List (String × SortDirection)) :
    os.foldl (fun d o ↦ put o.1 o.2 d) [] = directed (lastDirection os) (fieldsOf os) := by
  induction os using List.reverseRecOn with
  | nil => rfl
  | append_singleton os o ih =>
    rw [List.foldl_append, ih, List.foldl_cons, List.foldl_nil, put_directed (nodup_fieldsOf os),
      fieldsOf_concat]
    exact directed_congr fun f _ ↦ (lastDirection_concat os o f).symm

def order? : String × Bson → Option (String × SortDirection)
  | (field, .int32 n) => (sortOf? n).map fun d ↦ (field, d)
  | _ => none

/-- The orders that a sort document asks for; no document asks for none. -/
def orders? (sort : Option (List (String × Bson))) : Option (List (String × SortDirection)) :=
  (sort.getD []).mapM order?

theorem order?_sortValue (o : String × SortDirection) :
    order? (o.1, .int32 (sortValue o.2)) = some o := by
  rcases o with ⟨field, _ | _⟩ <;> rfl

namespace Query

variable {ε row : Type}

theorem orders?_findSpec {q : Query ε} (h : q.projection = []) :
    ∃ spec, q.findSpec = .ok spec ∧ orders? spec.sort = some q.sorts := by
  unfold findSpec
  rw [h]
  refine ⟨_, rfl, ?_⟩
  dsimp only
  cases q.sorts with
  | nil => rfl
  | cons o os =>
    rw [List.isEmpty_cons, if_neg Bool.false_ne_true, orders?, Option.getD_some, List.mapM_map]
    simp only [Function.comp_def, order?_sortValue]
    exact (List.mapM_pure (m := Option) (f := id)).trans (congrArg some (List.map_id _))

variable [Executor ε row]

theorem state_addOrders {q : Query ε} {os : List (String × SortDirection)}
    (hr : (addOrders q os).result = .ok ()) : (addOrders q os).state =
      { q with sorts := os.foldl (fun sorts o ↦ put o.1 o.2 sorts) q.sorts } := by
  have hstep (q : Query ε) (o : String × SortDirection)
      (h : (ClauseBuilder.addOrder q o.1 o.2).result = .ok ()) :
      (ClauseBuilder.addOrder q o.1 o.2).state = { q with sorts := put o.1 o.2 q.sorts } := by
    simp only [ClauseBuilder.addOrder, addOrder] at h ⊢
    cases hv : validate o.1 with
    | ok u => rfl
    | error e =>
      rw [hv] at h
      cases h
  rw [addOrders, Run.state_each_of_ok hstep hr]
  clear hr
  induction os generalizing q with
  | nil => rfl
  | cons o os ih => rw [List.foldl_cons, ih, List.foldl_cons]

end Query

end Document

namespace Sql.Query

variable {ε row : Type} [Executor ε row]

theorem state_addOrders {q : Query ε} {os : List (String × SortDirection)}
    (hr : (addOrders q os).result = .ok ()) :
    (addOrders q os).state = { q with orders := q.orders ++ os } := by
  rw [addOrders, Run.state_each_of_ok (fun _ _ ↦ addOrder_of_accepted) hr]
  clear hr
  induction os generalizing q with
  | nil => rw [List.foldl_nil, List.append_nil]
  | cons o os ih => rw [List.foldl_cons, ih, List.append_assoc, List.singleton_append]

theorem WellFormed.addOrders {q : Query ε} (h : q.WellFormed) {os : List (String × SortDirection)}
    (hr : (addOrders q os).result = .ok ()) : (addOrders q os).state.WellFormed := by
  have hstep (q : Query ε) (o : String × SortDirection) :
      (ClauseBuilder.addOrder q o.1 o.2).state = (Operation.order o.1 o.2).perform q := rfl
  rw [Listing.addOrders, Run.state_each_of_ok (fun q o _ ↦ hstep q o) hr]
  clear hr
  induction os generalizing q with
  | nil => exact h
  | cons o os ih => exact ih (h.perform _)

theorem exists_sorted_of_on {executor : ε} {table : String} {q : Query ε}
    (hq : on executor table = .ok q) {os : List (String × SortDirection)}
    (hr : (Listing.addOrders q os).result = .ok ()) : ∃ rest statement clause,
      q.selectStatement = .ok rest ∧ (Listing.addOrders q os).state.selectStatement = .ok statement ∧
      statement.sql = rest.sql ++ clause ∧
      ordersIn? (Listing.addOrders q os).state.dialect clause = some os := by
  have hwell := (Reachable.on hq).wellFormed.addOrders hr
  obtain ⟨-, rfl⟩ := on_eq_ok hq
  rw [state_addOrders hr] at hwell ⊢
  let q : Query ε := { executor := executor, table := table }
  obtain ⟨rest, hrest⟩ : ∃ rest, q.selectStatement = .ok rest := ⟨_, rfl⟩
  obtain ⟨statement, clause, hs⟩ := exists_sorted hrest rfl rfl rfl hwell
  exact ⟨rest, statement, clause, hrest, hs⟩

end Sql.Query

variable {ε δ row document : Type} [Sql.Executor ε row] [Document.Executor δ document]

/-- Two new queries that take the same orders sort by the same fields, one after the other, but the
document query by the last direction of each and not by the first. They sort alike if no field is
named in one direction first and in the other one last, and only then. -/
theorem orders_agree_iff {executor : ε} {table : String} {sq : Sql.Query ε}
    (hsq : Sql.Query.on executor table = .ok sq) (executor' : δ)
    {os : List (String × SortDirection)} (hs : (addOrders sq os).result = .ok ())
    (hd : (addOrders ({ executor := executor' } : Document.Query δ) os).result = .ok ()) :
    let s := (addOrders sq os).state
    let d := (addOrders ({ executor := executor' } : Document.Query δ) os).state
    (∃ rest statement clause, sq.selectStatement = .ok rest ∧ s.selectStatement = .ok statement ∧
      statement.sql = rest.sql ++ clause ∧ Sql.ordersIn? s.dialect clause = some os) ∧
    ∃ spec sorts, d.findSpec = .ok spec ∧ Document.orders? spec.sort = some sorts ∧
      s.orders = os ∧ sorts = directed (lastDirection os) (fieldsOf os) ∧
      ((∀ (ρ : Type) (value : String → Type) [∀ field, LinearOrder (value field)]
        (get : (field : String) → ρ → value field) (a b : ρ),
        compareBy get a b s.orders = compareBy get a b sorts) ↔
      ∀ field, firstDirection os field = lastDirection os field) := by
  intro s d
  have hstatement := Sql.Query.exists_sorted_of_on hsq hs
  have hso : s.orders = os := by
    obtain ⟨-, rfl⟩ := Sql.Query.on_eq_ok hsq
    exact congrArg Sql.Query.orders (Sql.Query.state_addOrders hs)
  have hdq : d = { executor := executor', sorts := directed (lastDirection os) (fieldsOf os) } := by
    rw [← Document.foldl_put_eq]
    exact Document.Query.state_addOrders hd
  obtain ⟨spec, hspec, horders⟩ := Document.Query.orders?_findSpec (q := d) (by rw [hdq])
  rw [hdq] at horders
  refine ⟨hstatement, spec, _, hspec, horders, hso, rfl, ?_⟩
  rw [hso]
  exact forall_compareBy_directed_iff os

theorem orders_agree_same_direction_again :
    let os : List (String × SortDirection) :=
      [("age", .desc), ("name", .asc), ("age", .desc), ("id", .asc)]
    let sq : Sql.Query (Script Sql.Call) := { executor := {}, table := "users" }
    let sorts :=
      [("age", SortDirection.desc), ("name", SortDirection.asc), ("id", SortDirection.asc)]
    (addOrders sq os).state.orderText = " ORDER BY age DESC, name ASC, age DESC, id ASC" ∧
    ∀ (get : (field : String) → (Nat × Nat) → Nat) (a b : Nat × Nat),
      compareBy get a b (addOrders sq os).state.orders = compareBy get a b sorts := by
  intro os sq sorts
  have hsq : Sql.Query.on ({} : Script Sql.Call) "users" = .ok sq := rfl
  have hs : (addOrders sq os).result = .ok () := by decide +kernel
  have hd : (addOrders ({ executor := {} } : Document.Query (Script Document.Call)) os).result =
      .ok () := by decide +kernel
  obtain ⟨-, _, sorts', -, -, -, hl, h⟩ := orders_agree_iff hsq ({} : Script Document.Call) hs hd
  obtain rfl : sorts' = sorts := hl.trans (by decide)
  have hos : ∀ field, firstDirection os field = lastDirection os field := by
    intro field
    by_cases hf : field ∈ fieldsOf os
    · have hfields : fieldsOf os = ["age", "name", "id"] := by decide
      rw [hfields, List.mem_cons, List.mem_pair] at hf
      rcases hf with rfl | rfl | rfl <;> decide
    · rw [firstDirection_of_notMem hf, lastDirection,
        firstDirection_of_notMem (mt mem_fieldsOf_reverse.1 hf)]
  exact ⟨by decide +kernel, fun get a b ↦ h.2 hos _ (fun _ ↦ Nat) get a b⟩

/-- A field that is named again in the other direction turns a document query round, but not an SQL
query. -/
theorem repeated_field_turns_documents_only :
    let os : List (String × SortDirection) := [("a", .asc), ("a", .desc)]
    let sq : Sql.Query (Script Sql.Call) := { executor := {}, table := "users" }
    let dq : Document.Query (Script Document.Call) := { executor := {} }
    let get : String → Nat → Nat := fun _ ↦ id
    Sql.Query.on ({} : Script Sql.Call) "users" = .ok sq ∧
    (addOrders sq os).result = .ok () ∧ (addOrders dq os).result = .ok () ∧
    ∃ spec sorts, (addOrders dq os).state.findSpec = .ok spec ∧
      Document.orders? spec.sort = some sorts ∧
      compareBy get 1 2 (addOrders sq os).state.orders = .lt ∧ compareBy get 1 2 sorts = .gt := by
  refine ⟨rfl, by decide +kernel, by decide +kernel, _, [("a", .desc)], rfl, rfl, ?_, ?_⟩
  · decide +kernel
  · decide +kernel

end Listing
