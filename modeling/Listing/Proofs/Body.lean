import Listing.Document.Scripted
import Listing.Proofs.Brackets
import Listing.Proofs.Document.Where
import Listing.Proofs.Sql.Where
import Listing.Proofs.Success
import Listing.Sql.Scripted

namespace Listing

theorem getElem?_append_of_forall₂ {α β : Type} {R : α → β → Prop} {xs ys : List α} {x : α}
    {bs : List β} (h : List.Forall₂ R (xs ++ x :: ys) bs) (cs : List β) :
    ∃ b, (cs ++ bs)[cs.length + xs.length]? = some b ∧ R x b := by
  rw [List.getElem?_append_right (Nat.le_add_right _ _), Nat.add_sub_cancel_left]
  induction xs generalizing bs with
  | nil =>
    obtain ⟨b, bs, hb, -, rfl⟩ := List.forall₂_cons_left_iff.1 h
    exact ⟨b, rfl, hb⟩
  | cons x' xs ih =>
    obtain ⟨b, bs, -, hbs, rfl⟩ := List.forall₂_cons_left_iff.1 h
    exact ih hbs

namespace FilterCatalog

open FilterNode Outcome

variable {c : FilterCatalog} {ls : List FilterNode}

theorem predicatesOf_append (c : FilterCatalog) (ls ms : List FilterNode) :
    c.predicatesOf (ls ++ ms) = c.predicatesOf ls ++ c.predicatesOf ms := List.filterMap_append

theorem predicatesOf_cons_of_ok {l : FilterNode} {o : Option Predicate}
    (h : c.predicateOf l = .ok o) (ls : List FilterNode) :
    c.predicatesOf (l :: ls) = o.toList ++ c.predicatesOf ls := by
  have hl : (c.predicateOf l).toOption.join = o := by
    rw [h]
    rfl
  cases o with
  | none => exact List.filterMap_cons_none hl
  | some p => exact List.filterMap_cons_some hl

theorem combinators_predicatesOf (h : ∀ l ∈ ls, ∃ o, c.predicateOf l = .ok o) :
    (c.predicatesOf ls).map Predicate.combinator =
      (ls.filter fun l ↦ !c.ignores l).map FilterNode.combinator := by
  induction ls with
  | nil => rfl
  | cons l ls ih =>
    obtain ⟨⟨o, hl⟩, hls⟩ := List.forall_mem_cons.1 h
    rw [predicatesOf_cons_of_ok hl, List.map_append, ih hls, List.filter_cons]
    rcases predicateOf_eq_ok hl with ⟨hi, rfl⟩ | ⟨hi, p, rfl, hp⟩
    · simp [hi]
    · simp [hi, hp]

theorem length_predicatesOf (h : ∀ l ∈ ls, ∃ o, c.predicateOf l = .ok o) :
    (c.predicatesOf ls).length = (ls.filter fun l ↦ !c.ignores l).length := by
  have hj := congrArg List.length (combinators_predicatesOf h)
  rwa [List.length_map, List.length_map] at hj

theorem members_ne_nil_of_bodyValue {f : Filter} {o : Operator} {raw : String} {v : Value}
    (h : bodyValue f o raw = .ok v) (ho : o.takesList = true) : v.members ≠ [] := by
  unfold bodyValue at h
  rw [if_pos ho] at h
  obtain ⟨items, hi, h⟩ := bind_eq_ok.1 h
  cases h
  have hl := (mapM_eq_ok.1 hi).length_eq
  intro hnil
  rw [Value.members] at hnil
  rw [hnil, List.length_nil, List.length_eq_zero_iff] at hl
  exact Text.piecesAt_ne_nil _ _ hl

theorem members_ne_nil_of_mem_predicatesOf :
    ∀ p ∈ c.predicatesOf ls, p.operator.takesList = true → p.value.members ≠ [] := by
  intro p hp ht
  obtain ⟨l, -, hl⟩ := List.mem_filterMap.1 hp
  have hl : c.predicateOf l = .ok (some p) := by
    cases h : c.predicateOf l with
    | error e =>
      rw [h] at hl
      cases hl
    | ok o =>
      rw [h] at hl
      exact congrArg _ hl
  obtain ⟨name, f, -, -, -, -, ho, -, hv⟩ := leafPredicate_eq_some hl
  rw [ho] at ht
  rcases hv with ⟨hn, -⟩ | ⟨-, raw, -, -, hv⟩
  · rw [Operator.takesList_of_isNullCheck hn] at ht
    cases ht
  · exact members_ne_nil_of_bodyValue hv ht

theorem head?_combinators_predicatesOf (h : ∀ l ∈ ls, ∃ o, c.predicateOf l = .ok o)
    (hnext : ∀ m ∈ ls.find? fun m ↦ !c.ignores m, m.combinator = .and) :
    ((c.predicatesOf ls).map Predicate.combinator).head? ≠ some .or := by
  rw [combinators_predicatesOf h, List.head?_map, List.head?_filter]
  cases hf : ls.find? fun m ↦ !c.ignores m with
  | none => nofun
  | some m =>
    rw [Option.map_some, hnext m (Option.mem_def.2 hf)]
    nofun

theorem exists_predicatesOf_split {before after : List FilterNode} {l : FilterNode}
    (h : ∀ m ∈ before ++ l :: after, ∃ o, c.predicateOf m = .ok o) (hi : c.ignores l = false) :
    ∃ p, c.predicateOf l = .ok (some p) ∧ p.combinator = l.combinator ∧
      c.predicatesOf (before ++ l :: after) =
        c.predicatesOf before ++ p :: c.predicatesOf after := by
  obtain ⟨o, ho⟩ := h l (List.mem_append_right _ List.mem_cons_self)
  rcases predicateOf_eq_ok ho with ⟨hi', -⟩ | ⟨-, p, rfl, hp⟩
  · rw [hi] at hi'
    cases hi'
  · refine ⟨p, ho, hp, ?_⟩
    rw [predicatesOf_append, predicatesOf_cons_of_ok ho]
    rfl

theorem mandatory_of_leaves {before after : List FilterNode} {l : FilterNode}
    (hok : ∀ m ∈ before ++ l :: after, ∃ o, c.predicateOf m = .ok o) (hi : c.ignores l = false)
    (hl : l.combinator = .and)
    (hnext : ∀ m ∈ after.find? fun m ↦ !c.ignores m, m.combinator = .and) :
    ∃ p, c.predicateOf l = .ok (some p) ∧
      c.predicatesOf (before ++ l :: after) =
        c.predicatesOf before ++ p :: c.predicatesOf after ∧
      ∀ ps v, allHold v (ps ++ c.predicatesOf (before ++ l :: after)) = true →
        v (ps.length + (c.predicatesOf before).length) = true := by
  obtain ⟨p, hp, hj, hsplit⟩ := exists_predicatesOf_split hok hi
  have hafter := head?_combinators_predicatesOf
    (fun m hm ↦ hok m (List.mem_append_right _ (List.mem_cons_of_mem _ hm))) hnext
  have hmember : p ∈ c.predicatesOf (before ++ l :: after) := by
    rw [hsplit]
    exact List.mem_append_right _ List.mem_cons_self
  refine ⟨p, hp, hsplit, fun ps v hv ↦ ?_⟩
  rw [hsplit, ← List.append_assoc] at hv
  rw [← List.length_append]
  exact mandatory_of_allHold (hj.trans hl) (members_ne_nil_of_mem_predicatesOf p hmember) hafter hv

theorem forall₂_predicatesOf (hok : ∀ l ∈ ls, ∃ o, c.predicateOf l = .ok o)
    (hi : ∀ l ∈ ls, c.ignores l = false) :
    List.Forall₂ (fun l p ↦ c.predicateOf l = .ok (some p)) ls (c.predicatesOf ls) := by
  induction ls with
  | nil => exact .nil
  | cons l ls ih =>
    obtain ⟨⟨o, ho⟩, hok⟩ := List.forall_mem_cons.1 hok
    obtain ⟨hl, hi⟩ := List.forall_mem_cons.1 hi
    rw [predicatesOf_cons_of_ok ho]
    rcases predicateOf_eq_ok ho with ⟨hl', -⟩ | ⟨-, p, rfl, -⟩
    · rw [hl] at hl'
      cases hl'
    · exact .cons ho (ih hok hi)

theorem valuesFrom_eq_flat {ps : List Predicate}
    (h : List.Forall₂ (fun l p ↦ c.predicateOf l = .ok (some p)) ls ps)
    (hm : ∀ p ∈ ps, p.operator.takesList = true → p.value.members ≠ []) (v : Nat → Bool) (n : Nat) :
    valuesFrom v n ps = flat v n ls := by
  induction h generalizing n with
  | nil => rfl
  | @cons l p ls ps hl _ ih =>
    obtain ⟨hp, hps⟩ := List.forall_mem_cons.1 hm
    rcases predicateOf_eq_ok hl with ⟨-, hl⟩ | ⟨-, p', hl, hj⟩
    · cases hl
    · cases hl
      rw [flat_cons, ← hj, ← ih hps, valuesFrom, List.zipIdx_cons, List.map_cons,
        Predicate.verdict_eq_self hp]
      rfl

theorem forall_allHold_eq_iff {ns : List FilterNode}
    (hok : ∀ l ∈ leavesOf ns, ∃ o, c.predicateOf l = .ok o)
    (hi : ∀ l ∈ leavesOf ns, c.ignores l = false) :
    (∀ v, allHold v (c.predicatesOf (leavesOf ns)) = reading v ns) ↔ Bracketed ns := by
  have hps := forall₂_predicatesOf hok hi
  simp only [allHold, groupsInOrder_eq, valuesFrom_eq_flat hps members_ne_nil_of_mem_predicatesOf]
  exact forall_reading_eq_iff

variable {ε δ row document : Type} [Sql.Executor ε row] [Document.Executor δ document]

theorem exists_sqlConditions_of_applyBody {ns : List FilterNode} {q : Sql.Query ε}
    {ps : List Predicate} (h : Sql.Compiled ps q.conditions)
    (hr : (c.applyBody q ns).result = .ok ()) :
    ∃ added, Sql.Compiled (c.predicatesOf (leavesOf ns)) added ∧
      (c.applyBody q ns).state.conditions = q.conditions ++ added ∧
      Sql.Means q.dialect (c.applyBody q ns).state.whereClause.sql (c.applyBody q ns).state.clauses
        fun v ↦ allHold v (ps ++ c.predicatesOf (leavesOf ns)) := by
  obtain ⟨-, happly⟩ := applyBody_eq_of_ok hr
  rw [happly] at hr ⊢
  obtain ⟨added, ha, hconditions, -⟩ := Sql.Query.exists_conditions_added hr
  exact ⟨added, ha, hconditions, Sql.Query.means_addPredicates h hr⟩

theorem exists_documentConditions_of_applyBody {ns : List FilterNode} {q : Document.Query δ}
    {ps : List Predicate} (h : Document.Compiled ps q.conditions)
    (hr : (c.applyBody q ns).result = .ok ()) :
    ∃ added, Document.Compiled (c.predicatesOf (leavesOf ns)) added ∧
      (c.applyBody q ns).state.conditions = q.conditions ++ added ∧
      Document.Means (c.applyBody q ns).state.filter (c.applyBody q ns).state.clauses
        fun v ↦ allHold v (ps ++ c.predicatesOf (leavesOf ns)) := by
  obtain ⟨-, happly⟩ := applyBody_eq_of_ok hr
  rw [happly] at hr ⊢
  obtain ⟨added, ha, hconditions⟩ := Document.Query.exists_conditions_added hr
  exact ⟨added, ha, hconditions, Document.Query.means_addPredicates h hr⟩

/-- A leaf that is joined with AND stays mandatory unless the next leaf that is not ignored is
joined with OR. -/
theorem applyBody_keeps_mandatory {ns before after : List FilterNode} {l : FilterNode}
    (hns : leavesOf ns = before ++ l :: after) (hi : c.ignores l = false)
    (hl : l.combinator = .and)
    (hnext : ∀ m ∈ after.find? fun m ↦ !c.ignores m, m.combinator = .and) :
    let n := (before.filter fun m ↦ !c.ignores m).length
    (∀ q : Sql.Query ε, q.Reachable → (c.applyBody q ns).result = .ok () →
      let q' := (c.applyBody q ns).state
      ∃ truth p condition, c.predicateOf l = .ok (some p) ∧
        Sql.Condition.ofPredicate p = .ok condition ∧
        q'.conditions[q.conditions.length + n]? = some condition ∧
        Sql.Means q.dialect q'.whereClause.sql q'.clauses truth ∧
        ∀ v, truth v = true → v (q.conditions.length + n) = true) ∧
    ∀ q : Document.Query δ, q.Reachable → (c.applyBody q ns).result = .ok () →
      let q' := (c.applyBody q ns).state
      ∃ truth p condition identifiers, c.predicateOf l = .ok (some p) ∧
        Document.Condition.ofPredicate identifiers p = .ok condition ∧
        q'.conditions[q.conditions.length + n]? = some condition ∧
        Document.Means q'.filter q'.clauses truth ∧
        ∀ v, truth v = true → v (q.conditions.length + n) = true := by
  intro n
  have hn (hok : ∀ m ∈ before ++ l :: after, ∃ o, c.predicateOf m = .ok o) :
      (c.predicatesOf before).length = n :=
    length_predicatesOf fun m hm ↦ hok m (List.mem_append_left _ hm)
  refine ⟨fun q hq hr ↦ ?_, fun q hq hr ↦ ?_⟩
  · obtain ⟨ps, hps⟩ := Sql.exists_compiled hq.wellFormed.conditions
    obtain ⟨added, ha, hconditions, hmeans⟩ := exists_sqlConditions_of_applyBody hps hr
    have hok := (applyBody_eq_of_ok hr).1
    rw [hns] at hok ha hmeans
    obtain ⟨p, hp, hsplit, hmandatory⟩ := mandatory_of_leaves hok hi hl hnext
    rw [hsplit] at ha
    obtain ⟨condition, hget, hcondition⟩ := getElem?_append_of_forall₂ ha q.conditions
    rw [← hconditions, hn hok] at hget
    rw [hn hok] at hmandatory
    refine ⟨_, p, condition, hp, hcondition, hget, hmeans, fun v hv ↦ ?_⟩
    rw [← hps.length_eq]
    exact hmandatory ps v hv
  · obtain ⟨ps, hps⟩ := hq.compiled
    obtain ⟨added, ha, hconditions, hmeans⟩ := exists_documentConditions_of_applyBody hps hr
    have hok := (applyBody_eq_of_ok hr).1
    rw [hns] at hok ha hmeans
    obtain ⟨p, hp, hsplit, hmandatory⟩ := mandatory_of_leaves hok hi hl hnext
    rw [hsplit] at ha
    obtain ⟨condition, hget, identifiers, hcondition⟩ :=
      getElem?_append_of_forall₂ ha q.conditions
    rw [← hconditions, hn hok] at hget
    rw [hn hok] at hmandatory
    refine ⟨_, p, condition, identifiers, hp, hcondition, hget, hmeans, fun v hv ↦ ?_⟩
    rw [← hps.length_eq]
    exact hmandatory ps v hv

theorem applyBody_keeps_mandatory_before_ignored_or :
    let c : FilterCatalog := [.ofKind "a" .exact, (Filter.ofKind "b" .exact).withIgnored ["ALL"],
      .ofKind "c" .exact]
    let l : FilterNode := .mk (some "a") (some "1") .equal .and []
    let passed : FilterNode := .mk (some "b") (some "ALL") .equal .or []
    let next : FilterNode := .mk (some "b") (some "2") .equal .and []
    let last : FilterNode := .mk (some "c") (some "3") .equal .or []
    let ns : List FilterNode := [l, .mk none none .equal .and [passed, next], last]
    let sq : Sql.Query (Script Sql.Call) := { executor := {}, table := "users" }
    let dq : Document.Query (Script Document.Call) := { executor := {} }
    leavesOf ns = [] ++ l :: [passed, next, last] ∧ c.ignores l = false ∧ l.combinator = .and ∧
    (∀ m ∈ [passed, next, last].find? fun m ↦ !c.ignores m, m.combinator = .and) ∧
    sq.Reachable ∧ dq.Reachable ∧
    (c.applyBody sq ns).result = .ok () ∧ (c.applyBody dq ns).result = .ok () ∧
    ∃ truth truth', Sql.Means .postgres "a = $1 AND (b = $2 OR c = $3)"
        (c.applyBody sq ns).state.clauses truth ∧ (∀ v, truth v = true → v 0 = true) ∧
      Document.Means (c.applyBody dq ns).state.filter (c.applyBody dq ns).state.clauses truth' ∧
        ∀ v, truth' v = true → v 0 = true := by
  intro c l passed next last ns sq dq
  have hsq : sq.Reachable := .on (show Sql.Query.on ({} : Script Sql.Call) "users" = .ok sq from rfl)
  have hdq : dq.Reachable := .new ({} : Script Document.Call)
  have hns : leavesOf ns = [] ++ l :: [passed, next, last] := rfl
  have hi : c.ignores l = false := by decide +kernel
  have hnext : ∀ m ∈ [passed, next, last].find? fun m ↦ !c.ignores m, m.combinator = .and := by
    have hf : ([passed, next, last].find? fun m ↦ !c.ignores m) = some next := by cbv
    rw [hf]
    rintro m ⟨⟩
    rfl
  have hsr : (c.applyBody sq ns).result = .ok () := by decide +kernel
  have hdr : (c.applyBody dq ns).result = .ok () := by decide +kernel
  have htext : (c.applyBody sq ns).state.whereClause.sql = "a = $1 AND (b = $2 OR c = $3)" := by
    decide +kernel
  obtain ⟨hs, hd⟩ := applyBody_keeps_mandatory (ε := Script Sql.Call) (δ := Script Document.Call)
    hns hi rfl hnext
  obtain ⟨truth, -, -, -, -, -, hsm, hsv⟩ := hs sq hsq hsr
  obtain ⟨truth', -, -, -, -, -, -, hdm, hdv⟩ := hd dq hdq hdr
  rw [htext] at hsm
  exact ⟨hns, hi, rfl, hnext, hsq, hdq, hsr, hdr, truth, truth', hsm, hsv, hdm, hdv⟩

/-- The leaf in the middle is ignored, so the last one becomes an alternative to the first. -/
theorem ignored_leaf_makes_first_optional :
    let c : FilterCatalog := [.ofKind "a" .exact, (Filter.ofKind "b" .exact).withIgnored ["ALL"],
      .ofKind "c" .exact]
    let l : FilterNode := .mk (some "a") (some "1") .equal .and []
    let passed : FilterNode := .mk (some "b") (some "ALL") .equal .and []
    let last : FilterNode := .mk (some "c") (some "2") .equal .or []
    let sq : Sql.Query (Script Sql.Call) := { executor := {}, table := "users" }
    let dq : Document.Query (Script Document.Call) := { executor := {} }
    let ns := [l, passed, last]
    leavesOf ns = [l, passed, last] ∧ c.ignores l = false ∧ l.combinator = .and ∧
    c.ignores passed = true ∧ passed.combinator = .and ∧
    (c.applyBody sq ns).result = .ok () ∧ (c.applyBody dq ns).result = .ok () ∧
    ∃ truth, Sql.Means .postgres "(a = $1 OR c = $2)" (c.applyBody sq ns).state.clauses truth ∧
      Document.Means (c.applyBody dq ns).state.filter (c.applyBody dq ns).state.clauses truth ∧
      ∃ v, truth v = true ∧ v 0 = false := by
  intro c l passed last sq dq ns
  have hsr : (c.applyBody sq ns).result = .ok () := by decide +kernel
  have hdr : (c.applyBody dq ns).result = .ok () := by decide +kernel
  have htext : (c.applyBody sq ns).state.whereClause.sql = "(a = $1 OR c = $2)" := by
    decide +kernel
  have hv : allHold (fun i ↦ i == 1) ([] ++ c.predicatesOf (leavesOf ns)) = true := by
    decide +kernel
  have hsn : Sql.Compiled [] sq.conditions := .nil
  have hdn : Document.Compiled [] dq.conditions := .nil
  obtain ⟨-, -, -, hsm⟩ := exists_sqlConditions_of_applyBody hsn hsr
  obtain ⟨-, -, -, hdm⟩ := exists_documentConditions_of_applyBody hdn hdr
  rw [htext] at hsm
  exact ⟨rfl, by decide +kernel, rfl, by decide +kernel, rfl, hsr, hdr, _, hsm, hdm, _, hv, rfl⟩

/-- Groups are brackets for a query just if no OR reaches over the border of one. -/
theorem applyBody_keeps_brackets_iff {ns : List FilterNode}
    (hi : ∀ l ∈ leavesOf ns, c.ignores l = false) :
    (∀ q : Sql.Query ε, q.conditions = [] → (c.applyBody q ns).result = .ok () →
      let q' := (c.applyBody q ns).state
      ∃ truth ps, List.Forall₂ (fun l p ↦ c.predicateOf l = .ok (some p)) (leavesOf ns) ps ∧
        Sql.Compiled ps q'.conditions ∧
        Sql.Means q.dialect q'.whereClause.sql q'.clauses truth ∧
        ((∀ v, truth v = reading v ns) ↔ Bracketed ns)) ∧
    ∀ q : Document.Query δ, q.conditions = [] → (c.applyBody q ns).result = .ok () →
      let q' := (c.applyBody q ns).state
      ∃ truth ps, List.Forall₂ (fun l p ↦ c.predicateOf l = .ok (some p)) (leavesOf ns) ps ∧
        Document.Compiled ps q'.conditions ∧
        Document.Means q'.filter q'.clauses truth ∧
        ((∀ v, truth v = reading v ns) ↔ Bracketed ns) := by
  refine ⟨fun q hq hr ↦ ?_, fun q hq hr ↦ ?_⟩
  · have hnone : Sql.Compiled [] q.conditions := hq ▸ .nil
    obtain ⟨added, ha, hconditions, hmeans⟩ := exists_sqlConditions_of_applyBody hnone hr
    have hok := (applyBody_eq_of_ok hr).1
    rw [hq, List.nil_append] at hconditions
    exact ⟨_, _, forall₂_predicatesOf hok hi, hconditions ▸ ha, hmeans, forall_allHold_eq_iff hok hi⟩
  · have hnone : Document.Compiled [] q.conditions := hq ▸ .nil
    obtain ⟨added, ha, hconditions, hmeans⟩ := exists_documentConditions_of_applyBody hnone hr
    have hok := (applyBody_eq_of_ok hr).1
    rw [hq, List.nil_append] at hconditions
    exact ⟨_, _, forall₂_predicatesOf hok hi, hconditions ▸ ha, hmeans, forall_allHold_eq_iff hok hi⟩

theorem applyBody_keeps_brackets_iff_two_groups :
    let c : FilterCatalog := [.ofKind "a" .exact, .ofKind "b" .exact]
    let a (joint : Combinator) : FilterNode := .mk (some "a") (some "1") .equal joint []
    let b (joint : Combinator) : FilterNode := .mk (some "b") (some "2") .equal joint []
    let ns : List FilterNode := [a .and, b .or, .mk none none .equal .or [b .and, a .or]]
    let sq : Sql.Query (Script Sql.Call) := { executor := {}, table := "users" }
    let dq : Document.Query (Script Document.Call) := { executor := {} }
    (∀ l ∈ leavesOf ns, c.ignores l = false) ∧ sq.conditions = [] ∧ dq.conditions = [] ∧
    (c.applyBody sq ns).result = .ok () ∧ (c.applyBody dq ns).result = .ok () ∧ Bracketed ns ∧
    (∀ v, reading v ns = ((v 0 || v 1) && (v 2 || v 3))) ∧
    ∃ truth truth',
      Sql.Means .postgres "(a = $1 OR b = $2) AND (b = $3 OR a = $4)"
        (c.applyBody sq ns).state.clauses truth ∧ (∀ v, truth v = reading v ns) ∧
      Document.Means (c.applyBody dq ns).state.filter (c.applyBody dq ns).state.clauses truth' ∧
        ∀ v, truth' v = reading v ns := by
  intro c a b ns sq dq
  have hi : ∀ l ∈ leavesOf ns, c.ignores l = false := by decide +kernel
  have hsr : (c.applyBody sq ns).result = .ok () := by decide +kernel
  have hdr : (c.applyBody dq ns).result = .ok () := by decide +kernel
  have htext : (c.applyBody sq ns).state.whereClause.sql =
      "(a = $1 OR b = $2) AND (b = $3 OR a = $4)" := by decide +kernel
  have hb : Bracketed ns := by decide
  have hreading : ∀ v, reading v ns = ((v 0 || v 1) && (v 2 || v 3)) := by
    intro v
    change ((v 0 || (v 1 || false)) && (((v 2 || (v 3 || false)) && true || false) && true)) = _
    simp only [Bool.or_false, Bool.and_true]
  obtain ⟨hs, hd⟩ := applyBody_keeps_brackets_iff (ε := Script Sql.Call)
    (δ := Script Document.Call) hi
  obtain ⟨truth, -, -, -, hsm, hst⟩ := hs sq rfl hsr
  obtain ⟨truth', -, -, -, hdm, hdt⟩ := hd dq rfl hdr
  rw [htext] at hsm
  exact ⟨hi, rfl, rfl, hsr, hdr, hb, hreading, truth, truth', hsm, hst.2 hb, hdm, hdt.2 hb⟩

/-- A group that opens with OR does not keep its leaf to itself. -/
theorem group_opened_with_or_is_dissolved :
    let c : FilterCatalog := [.ofKind "a" .exact, .ofKind "b" .exact]
    let a : FilterNode := .mk (some "a") (some "1") .equal .and []
    let b : FilterNode := .mk (some "b") (some "2") .equal .or []
    let ns : List FilterNode := [a, .mk none none .equal .and [b]]
    let sq : Sql.Query (Script Sql.Call) := { executor := {}, table := "users" }
    let dq : Document.Query (Script Document.Call) := { executor := {} }
    (∀ l ∈ leavesOf ns, c.ignores l = false) ∧
    (c.applyBody sq ns).result = .ok () ∧ (c.applyBody dq ns).result = .ok () ∧
    ∃ truth, Sql.Means .postgres "(a = $1 OR b = $2)" (c.applyBody sq ns).state.clauses truth ∧
      Document.Means (c.applyBody dq ns).state.filter (c.applyBody dq ns).state.clauses truth ∧
      ∃ v, truth v = true ∧ reading v ns = false := by
  intro c a b ns sq dq
  have hsr : (c.applyBody sq ns).result = .ok () := by decide +kernel
  have hdr : (c.applyBody dq ns).result = .ok () := by decide +kernel
  have htext : (c.applyBody sq ns).state.whereClause.sql = "(a = $1 OR b = $2)" := by
    decide +kernel
  have hv : allHold (fun i ↦ i == 1) ([] ++ c.predicatesOf (leavesOf ns)) = true := by
    decide +kernel
  have hsn : Sql.Compiled [] sq.conditions := .nil
  have hdn : Document.Compiled [] dq.conditions := .nil
  obtain ⟨-, -, -, hsm⟩ := exists_sqlConditions_of_applyBody hsn hsr
  obtain ⟨-, -, -, hdm⟩ := exists_documentConditions_of_applyBody hdn hdr
  rw [htext] at hsm
  exact ⟨by decide +kernel, hsr, hdr, _, hsm, hdm, _, hv, by decide⟩

end FilterCatalog

end Listing
