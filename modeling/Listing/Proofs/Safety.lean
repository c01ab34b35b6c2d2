import Listing.Document.Scripted
import Listing.Proofs.Acceptance
import Listing.Proofs.Document.Reachable
import Listing.Proofs.Sql.Name
import Listing.Proofs.Sql.Reachable
import Listing.Proofs.Sql.Shape
import Listing.Proofs.Text
import Listing.Sql.Scripted

namespace Listing

open Outcome

variable {ε δ row document : Type}

namespace Sql

theorem isFieldPath_of_isIdentifier {path : String} (h : isIdentifier path = true) :
    Document.isFieldPath path = true := by
  have hp : ∀ p ∈ Text.piecesAt '.' path.toList, isName p = true := List.all_eq_true.1 h
  have hc : ∀ c ∈ path.toList, c = '.' ∨ isNameChar c = true := fun c hc ↦
    (Text.eq_or_mem_piecesAt hc).imp_right
      fun ⟨p, hmem, hcp⟩ ↦ isNameChar_of_isName (hp p hmem) c hcp
  have hhead : path.toList.head? ≠ some '$' := fun he ↦
    absurd (hc '$' (List.mem_of_mem_head? he)) (by decide)
  have hnull : Char.ofNat 0 ∉ path.toList := fun he ↦ absurd (hc _ he) (by decide)
  have hne : ∀ p ∈ Text.piecesAt '.' path.toList, p ≠ [] := by
    rintro p hmem rfl
    cases hp [] hmem
  simp only [Document.isFieldPath, Bool.and_eq_true, bne_iff_ne, Bool.not_eq_true',
    List.all_eq_true, List.isEmpty_eq_false_iff]
  exact ⟨⟨hhead, by simpa using hnull⟩, hne⟩

namespace Query

variable [Executor ε row]

theorem addTo_eq_ok {q : Query ε} {p : Predicate} (hf : isIdentifier p.field = true)
    (h : p.IsPlain) : (p.addTo q).result = .ok () := by
  obtain ⟨operand, ho, -⟩ := Condition.exists_operandOf h.takes h.ne_between p.field
  rw [addTo_eq, q.addPredicate_of_operand hf ho]
  rfl

theorem addOrder_eq_ok {q : Query ε} {field : String} (hf : isIdentifier field = true)
    (d : SortDirection) : (ClauseBuilder.addOrder q field d).result = .ok () := by
  rw [addOrder_eq, addOrder, validate_eq_ok.2 hf]
  rfl

/-- All values that are to be sent are scalars, and all columns are selected. -/
structure SendsScalars (q : Query ε) : Prop where
  columns : q.columns = []
  conditions : ∀ c ∈ q.conditions, ∀ v ∈ c.operand.values, v.isScalar = true

theorem SendsScalars.addTo {q : Query ε} (h : q.SendsScalars) {p : Predicate} (hp : p.IsPlain) :
    (p.addTo q).state.SendsScalars := by
  rw [addTo_eq, addPredicate]
  cases hc : Condition.ofPredicate p with
  | error e => exact h
  | ok c =>
    obtain ⟨-, operand, ho, rfl⟩ := Condition.ofPredicate_eq_ok.1 hc
    obtain ⟨operand', ho', hv⟩ := Condition.exists_operandOf hp.takes hp.ne_between p.field
    cases ho.symm.trans ho'
    exact ⟨h.columns, List.forall_mem_append.2 ⟨h.conditions, List.forall_mem_singleton.2 hv⟩⟩

theorem SendsScalars.addOrder {q : Query ε} (h : q.SendsScalars) (field : String)
    (d : SortDirection) : (ClauseBuilder.addOrder q field d).state.SendsScalars := by
  rw [addOrder_eq, Query.addOrder]
  cases validate field with
  | error e => exact h
  | ok u => exact ⟨h.columns, h.conditions⟩

theorem SendsScalars.statements {q : Query ε} (h : q.SendsScalars) :
    ∃ select, q.selectStatement = .ok select ∧
      ∀ s ∈ [q.whereClause, q.countStatement, select], ∀ v ∈ s.params, v.isScalar = true := by
  have hp : q.projection = .ok "*" := by
    rw [projection, h.columns]
    rfl
  have hv : ∀ v ∈ conditionValues q.conditions, v.isScalar = true := by
    intro v hv
    obtain ⟨c, hc, hv⟩ := List.mem_flatMap.1 hv
    exact h.conditions c hc v hv
  rw [selectStatement, hp]
  refine ⟨_, rfl, ?_⟩
  rw [List.forall_mem_cons, List.forall_mem_cons, List.forall_mem_singleton]
  exact ⟨hv, hv, hv⟩

end Query

end Sql

namespace Document

theorem Condition.exists_operandOf (identifiers : Bool) (field : String) {o : Operator} {v : Value}
    (h : o.Takes v) : ∃ operand, operandOf identifiers field o v = .ok operand := by
  cases o with
  | between =>
    have hv := h.isScalar rfl rfl
    cases v <;> first | cases hv; done | exact ⟨_, rfl⟩
  | _ => exact ⟨_, rfl⟩

namespace Query

variable [Executor δ document]

theorem addTo_eq_ok {q : Query δ} {p : Predicate} (hf : isFieldPath p.field = true)
    (h : p.operator.Takes p.value) : (p.addTo q).result = .ok () := by
  obtain ⟨operand, ho⟩ := Condition.exists_operandOf (q.isIdentifierField p.field) p.field h
  rw [addTo_eq, q.addPredicate_of_operand hf ho]
  rfl

theorem addOrder_eq_ok {q : Query δ} {field : String} (hf : isFieldPath field = true)
    (d : SortDirection) : (ClauseBuilder.addOrder q field d).result = .ok () := by
  change (Run.ofStep q (q.addOrder field d)).result = .ok ()
  rw [addOrder, validate_eq_ok.2 hf]
  rfl

end Query

end Document

section

variable {β : Type} [ClauseBuilder β]

def applyParamsAndSort (c : FilterCatalog) (s : SortCatalog) (params : Params)
    (sort : Option String) (q : β) : Run β Unit :=
  (c.applyParams q params).andThen fun q _ ↦ s.applyOptional q sort

variable {c : FilterCatalog} {s : SortCatalog} {params : Params} {sort : Option String} {q : β}

theorem applyParamsAndSort_induction (hc : ∀ f ∈ c, f.kind.isCustom = false)
    (invariant : β → Prop)
    (hp : ∀ p, c.Makes p → ∀ q, invariant q → invariant (p.addTo q).state)
    (hs : ∀ k ∈ s, ∀ d q, invariant q → invariant (ClauseBuilder.addOrder q k.internal d).state)
    (hq : invariant q) : invariant (applyParamsAndSort c s params sort q).state := by
  have hf : invariant (c.applyParams q params).state :=
    FilterCatalog.applyLookup_induction hc invariant hp hq
  unfold applyParamsAndSort
  revert hf
  rcases c.applyParams q params with ⟨q', e | u⟩ <;> intro hf
  · exact hf
  · rw [Run.andThen_ok, SortCatalog.applyOptional_eq]
    exact SortCatalog.applyOrders_induction invariant hs hf

theorem applyParamsAndSort_ok_or_error (hc : ∀ f ∈ c, f.kind.isCustom = false)
    (hp : ∀ p, c.Makes p → ∀ q : β, (p.addTo q).result = .ok ())
    (hs : ∀ k ∈ s, ∀ d, ∀ q : β, (ClauseBuilder.addOrder q k.internal d).result = .ok ())
    (q : β) : (applyParamsAndSort c s params sort q).result = .ok () ∨
      ∃ e, (applyParamsAndSort c s params sort q).result = .error e ∧ e.category ≠ .backend := by
  have hf {e : QueryError} (h : (c.applyParams q params).result = .error e) :
      e.category = .value := FilterCatalog.category_of_applyLookup hc hp h
  unfold applyParamsAndSort
  revert hf
  rcases c.applyParams q params with ⟨q', e | u⟩ <;> intro hf
  · refine .inr ⟨e, rfl, ?_⟩
    rw [hf rfl]
    decide
  · rw [Run.andThen_ok, SortCatalog.applyOptional_eq]
    cases hr : (s.applyOrders q' (SortCatalog.instructions sort)).result with
    | ok u => exact .inl rfl
    | error e =>
      refine .inr ⟨e, rfl, ?_⟩
      rw [SortCatalog.category_of_applyOrders hs hr]
      decide

end

theorem FilterCatalog.Makes.isPlain {c : FilterCatalog} {p : Predicate} (h : c.Makes p) :
    p.IsPlain := by
  obtain ⟨f, -, raw, ps, hps, hp⟩ := h
  exact Filter.isPlain_of_mem_predicates hps p hp

theorem FilterCatalog.Makes.isIdentifier {c : FilterCatalog}
    (hf : ∀ f ∈ c, ∀ field, f.Compares field → Sql.isIdentifier field = true) {p : Predicate}
    (h : c.Makes p) : Sql.isIdentifier p.field = true := by
  obtain ⟨f, hmem, raw, ps, hps, hp⟩ := h
  exact hf f hmem p.field (Filter.compares_of_mem_predicates hps p hp)

variable [Sql.Executor ε row] [Document.Executor δ document]

/-- Parameters and a sort text that a new query does not take are themselves at fault, if no filter
is one of the application's own and all fields are identifiers. Every value in the statements of an
SQL query is a scalar, whether or not all parameters were taken, so that it is read as the type of
its placeholder or sent without one, and never refused for being a list. -/
theorem parameters_never_fail_in_backend {c : FilterCatalog} {s : SortCatalog}
    (hc : ∀ f ∈ c, f.kind.isCustom = false)
    (hf : ∀ f ∈ c, ∀ field, f.Compares field → Sql.isIdentifier field = true)
    (hs : ∀ k ∈ s, Sql.isIdentifier k.internal = true) (params : Params) (sort : Option String) :
    (∀ (executor : ε) (table : String) (d : Sql.Dialect) (q : Sql.Query ε),
      Sql.Query.on executor table = .ok q →
      let r := applyParamsAndSort c s params sort { q with dialect := d }
      (r.result = .ok () ∨ ∃ e, r.result = .error e ∧ e.category ≠ .backend) ∧
      ∃ select, r.state.selectStatement = .ok select ∧
        ∀ t ∈ [r.state.whereClause, r.state.countStatement, select], ∀ v ∈ t.params,
          v.isScalar = true ∧ Sql.sendValue v = .ok () ∧ ∀ type, Sql.coerce? v type =
            Sql.typed? v type ∧ ∀ x, Sql.coerce? v type = some x → x.send = .ok ()) ∧
    ∀ (executor : δ) (fields : List String),
      let q : Document.Query δ := { executor, identifierFields := fields }
      let r := applyParamsAndSort c s params sort q
      r.result = .ok () ∨ ∃ e, r.result = .error e ∧ e.category ≠ .backend := by
  have hp {p : Predicate} (h : c.Makes p) : Sql.isIdentifier p.field = true := h.isIdentifier hf
  have hpath {field : String} (h : Sql.isIdentifier field = true) :
      Document.isFieldPath field = true := Sql.isFieldPath_of_isIdentifier h
  refine ⟨fun executor table d q hq ↦ ⟨?_, ?_⟩, fun executor fields ↦ ?_⟩
  · exact applyParamsAndSort_ok_or_error hc
      (fun p h q ↦ Sql.Query.addTo_eq_ok (hp h) h.isPlain)
      (fun k hk d q ↦ Sql.Query.addOrder_eq_ok (hs k hk) d) _
  · obtain ⟨-, rfl⟩ := Sql.Query.on_eq_ok hq
    have hscalars : (applyParamsAndSort c s params sort
        ({ executor, table, dialect := d } : Sql.Query ε)).state.SendsScalars :=
      applyParamsAndSort_induction hc _ (fun p h q hq ↦ hq.addTo h.isPlain)
        (fun k _ d q hq ↦ hq.addOrder k.internal d) ⟨rfl, nofun⟩
    obtain ⟨select, hselect, hv⟩ := hscalars.statements
    refine ⟨select, hselect, fun t ht v hvt ↦ ⟨hv t ht v hvt, ?_⟩⟩
    exact Sql.sendable_of_isScalar (hv t ht v hvt)
  · exact applyParamsAndSort_ok_or_error hc
      (fun p h q ↦ Document.Query.addTo_eq_ok (hpath (hp h)) h.isPlain.takes)
      (fun k hk d q ↦ Document.Query.addOrder_eq_ok (hpath (hs k hk)) d) _

theorem parameters_never_fail_in_backend_search_and_list :
    let c : FilterCatalog := [.ofKind "q" (.search ["name", "person.mail"] .final),
      .ofKind "ids" (.among ","), .ofKind "at" (.date ⟨.date, none⟩), .ofKind "deleted" .isNull]
    let s : SortCatalog := [⟨"age", "person.age"⟩]
    let params : Params := [("q", "jo"), ("ids", "1, 2"), ("at", "2024-01-31|"), ("deleted", "no")]
    let sq : Sql.Query (Script Sql.Call) := { executor := {}, table := "users" }
    let dq : Document.Query (Script Document.Call) := { executor := {} }
    (∀ f ∈ c, f.kind.isCustom = false) ∧
    (∀ f ∈ c, ∀ field, f.Compares field → Sql.isIdentifier field = true) ∧
    (∀ k ∈ s, Sql.isIdentifier k.internal = true) ∧
    Sql.Query.on ({} : Script Sql.Call) "users" = .ok sq ∧
    (∃ select, (applyParamsAndSort c s params (some "-age") sq).state.selectStatement = .ok select ∧
      select.params.length = 5 ∧ ∀ v ∈ select.params, v.isScalar = true) ∧
    ∃ e, (applyParamsAndSort c s params (some "-age,size") dq).result = .error e ∧
      e.category ≠ .backend := by
  intro c s params sq dq
  have hc : ∀ f ∈ c, f.kind.isCustom = false := by decide
  have hf : ∀ f ∈ c, ∀ field, f.Compares field → Sql.isIdentifier field = true := by
    have hown : ∀ f ∈ c, Sql.isIdentifier f.internalName = true := by decide
    rintro f hmem field (rfl | ⟨fields, strategy, hk, hfield⟩)
    · exact hown f hmem
    · have hfields : ∀ field ∈ ["name", "person.mail"], Sql.isIdentifier field = true := by decide
      simp only [c, List.mem_cons, List.not_mem_nil, or_false] at hmem
      rcases hmem with rfl | rfl | rfl | rfl <;> cases hk
      exact hfields field hfield
  have hs : ∀ k ∈ s, Sql.isIdentifier k.internal = true := by decide
  have hon : Sql.Query.on ({} : Script Sql.Call) "users" = .ok sq := rfl
  refine ⟨hc, hf, hs, hon, ?_, ?_⟩
  · obtain ⟨-, select, hselect, hv⟩ :=
      (parameters_never_fail_in_backend (δ := Script Document.Call) hc hf hs params (some "-age")).1
        {} "users" .postgres sq hon
    refine ⟨select, hselect, ?_, fun v hvs ↦ (hv select (by simp) v hvs).1⟩
    have hn : (applyParamsAndSort c s params (some "-age") sq).state.selectStatement.map
        (fun t ↦ t.params.length) = .ok 5 := by decide +kernel
    rw [hselect] at hn
    exact Except.ok.inj hn
  · rcases (parameters_never_fail_in_backend (ε := Script Sql.Call) hc hf hs params
      (some "-age,size")).2 ({} : Script Document.Call) [] with hr | he
    · have hne : (applyParamsAndSort c s params (some "-age,size") dq).result ≠ .ok () := by
        decide +kernel
      exact absurd hr hne
    · exact he

end Listing
