import Listing.Document.Scripted
import Listing.Proofs.Document.Where
import Listing.Proofs.Sql.Where
import Listing.Proofs.Success
import Listing.Sql.Scripted

namespace Listing

namespace Filter

variable {α : Type} {f : Filter} {raw : String} {ps : List Predicate}

/-- The conditions of a filter in groups. Those of a search are alternatives, all those of another
filter must hold. -/
def groupsOf (f : Filter) (xs : List α) : List (List α) :=
  match f.kind with
  | .search (_ :: _) _ => [xs]
  | _ => xs.map fun x ↦ [x]

def satisfiedBy (f : Filter) (values : List Bool) : Bool :=
  match f.kind with
  | .search (_ :: _) _ => values.any id
  | _ => values.all id

theorem holds_groupsOf (f : Filter) (values : List Bool) :
    holds (f.groupsOf values) = f.satisfiedBy values := by
  unfold groupsOf satisfiedBy
  split
  next => simp [holds]
  next =>
    rw [holds, List.all_map]
    congr 1
    funext b
    exact Bool.or_false b

theorem combinators_searchPredicates (pattern g : String) (fields : List String) :
    (searchPredicates pattern (g :: fields)).map Predicate.combinator =
      .and :: List.replicate fields.length .or := by
  rw [searchPredicates, List.map_cons, List.map_map]
  exact congrArg _ (List.map_eq_replicate_iff.2 fun _ _ ↦ rfl)

theorem combinators_of_isOwn (h : ∀ p ∈ ps, f.IsOwn p) :
    ps.map Predicate.combinator = List.replicate ps.length .and :=
  List.map_eq_replicate_iff.2 fun p hp ↦ congrArg Predicate.combinator (h p hp).eq

theorem groupsInOrder_of_predicates (h : f.predicates raw = .ok ps) {xs : List α}
    (hx : xs.length = ps.length) :
    groupsInOrder ((ps.map Predicate.combinator).zip xs) = f.groupsOf xs := by
  rw [groupsInOrder_eq]
  rcases search_or_isOwn_of_predicates h with ⟨fields, strategy, hk, rfl⟩ | ⟨hk, ho⟩
  · unfold groupsOf
    rw [hk]
    cases fields with
    | nil =>
      rw [List.eq_nil_of_length_eq_zero hx]
      rfl
    | cons g fields =>
      obtain ⟨x, xs, rfl⟩ := List.exists_cons_of_length_eq_add_one hx
      have hl : xs.length = fields.length := by simpa [searchPredicates] using hx
      rw [combinators_searchPredicates, ← hl, orGroups_zip_replicate_or]
  · have hg : f.groupsOf xs = xs.map fun x ↦ [x] := by
      unfold groupsOf
      split
      next hs => exact absurd hs (hk _ _)
      next => rfl
    rw [hg, combinators_of_isOwn ho, ← hx, orGroups_zip_replicate_and]

theorem head?_combinators_of_predicates (h : f.predicates raw = .ok ps) :
    (ps.map Predicate.combinator).head? ≠ some .or := by
  rcases search_or_isOwn_of_predicates h with ⟨fields, strategy, -, rfl⟩ | ⟨-, ho⟩
  · cases fields <;> nofun
  · rw [combinators_of_isOwn ho]
    cases ps <;> nofun

theorem members_ne_nil_of_mem_predicates (h : f.predicates raw = .ok ps) :
    ∀ p ∈ ps, p.operator.takesList = true → p.value.members ≠ [] := by
  intro p hp ht
  rcases search_or_isOwn_of_predicates h with ⟨fields, strategy, -, rfl⟩ | ⟨-, ho⟩
  · cases fields with
    | nil => cases hp
    | cons g fields =>
      rcases List.mem_cons.1 hp with rfl | hp
      · cases ht
      · obtain ⟨g', -, rfl⟩ := List.mem_map.1 hp
        cases ht
  · exact (ho p hp).members_ne_nil ht

end Filter

section

variable {α : Type}

def groupsOfFilters : List (Filter × List Predicate) → List α → List (List α)
  | [], _ => []
  | (f, ps) :: r, xs => f.groupsOf (xs.take ps.length) ++ groupsOfFilters r (xs.drop ps.length)

def allSatisfied : List (Filter × List Predicate) → List Bool → Bool
  | [], _ => true
  | (f, ps) :: r, bs => f.satisfiedBy (bs.take ps.length) && allSatisfied r (bs.drop ps.length)

theorem holds_groupsOfFilters (as : List (Filter × List Predicate)) (values : List Bool) :
    holds (groupsOfFilters as values) = allSatisfied as values := by
  induction as generalizing values with
  | nil => rfl
  | cons a as ih => rw [groupsOfFilters, holds_append, Filter.holds_groupsOf, ih, allSatisfied]

variable {as : List (Filter × List Predicate)}

theorem head?_combinators_of_filters (h : ∀ a ∈ as, ∃ raw, a.1.predicates raw = .ok a.2) :
    ((as.flatMap Prod.snd).map Predicate.combinator).head? ≠ some .or := by
  induction as with
  | nil => nofun
  | cons a as ih =>
    obtain ⟨⟨raw, ha⟩, has⟩ := List.forall_mem_cons.1 h
    rw [List.flatMap_cons, List.map_append]
    have hhead := Filter.head?_combinators_of_predicates ha
    cases hp : a.2.map Predicate.combinator with
    | nil => exact ih has
    | cons c cs =>
      rw [hp] at hhead
      exact hhead

theorem groupsInOrder_of_filters (h : ∀ a ∈ as, ∃ raw, a.1.predicates raw = .ok a.2) {xs : List α}
    (hx : xs.length = (as.flatMap Prod.snd).length) :
    groupsInOrder (((as.flatMap Prod.snd).map Predicate.combinator).zip xs) =
      groupsOfFilters as xs := by
  induction as generalizing xs with
  | nil => rfl
  | cons a as ih =>
    obtain ⟨⟨raw, ha⟩, has⟩ := List.forall_mem_cons.1 h
    rw [List.flatMap_cons, List.length_append] at hx
    have htake : (xs.take a.2.length).length = a.2.length := by
      rw [List.length_take]
      omega
    have hdrop : (xs.drop a.2.length).length = (as.flatMap Prod.snd).length := by
      rw [List.length_drop]
      omega
    -- the filters that come later do not open with OR, so the groups are cut where they begin
    nth_rewrite 1 [← List.take_append_drop a.2.length xs]
    rw [List.flatMap_cons, List.map_append,
      List.zip_append ((List.length_map _).trans htake.symm), groupsInOrder_eq,
      orGroups_append _ (continues_zip (head?_combinators_of_filters has) _), ← groupsInOrder_eq,
      ← groupsInOrder_eq, ih has hdrop, Filter.groupsInOrder_of_predicates ha htake]
    rfl

theorem allHold_append_filters (h : ∀ a ∈ as, ∃ raw, a.1.predicates raw = .ok a.2)
    (ps : List Predicate) (v : Nat → Bool) :
    allHold v (ps ++ as.flatMap Prod.snd) =
      (allHold v ps &&
        allSatisfied as ((List.range' ps.length (as.flatMap Prod.snd).length).map v)) := by
  have hplain : ∀ p ∈ as.flatMap Prod.snd, p.operator.takesList = true → p.value.members ≠ [] := by
    intro p hp
    obtain ⟨a, ha, hp⟩ := List.mem_flatMap.1 hp
    obtain ⟨raw, ha⟩ := h a ha
    exact Filter.members_ne_nil_of_mem_predicates ha p hp
  rw [allHold, valuesFrom_append, Nat.zero_add, valuesFrom_eq_zip hplain, groupsInOrder_eq,
    orGroups_append _ (continues_zip (head?_combinators_of_filters h) _), ← groupsInOrder_eq,
    ← groupsInOrder_eq, groupsInOrder_of_filters h (by simp), holds_append, holds_groupsOfFilters,
    allHold]

end

namespace FilterCatalog

variable {ε δ row document : Type} [Sql.Executor ε row] [Document.Executor δ document]

/-- Filters leave the clauses of a query alone and add those that each of them asks for. -/
theorem applyParams_narrows {c : FilterCatalog} (hc : ∀ f ∈ c, f.kind.isCustom = false)
    (params : Params) :
    let fs := c.applied params.get?
    (∀ q : Sql.Query ε, q.Reachable → (c.applyParams q params).result = .ok () →
      let q' := (c.applyParams q params).state
      ∃ before added own, Sql.Compiled (fs.flatMap Prod.snd) added ∧
        q'.conditions = q.conditions ++ added ∧ own.length = added.length ∧
        q'.clauses = q.clauses ++ groupsOfFilters fs own ∧
        Sql.Means q.dialect q.whereClause.sql q.clauses before ∧
        Sql.Means q.dialect q'.whereClause.sql q'.clauses fun v ↦
          before v && allSatisfied fs ((List.range' q.conditions.length added.length).map v)) ∧
    ∀ q : Document.Query δ, q.Reachable → (c.applyParams q params).result = .ok () →
      let q' := (c.applyParams q params).state
      ∃ before added own, Document.Compiled (fs.flatMap Prod.snd) added ∧
        q'.conditions = q.conditions ++ added ∧ own.length = added.length ∧
        q'.clauses = q.clauses ++ groupsOfFilters fs own ∧
        Document.Means q.filter q.clauses before ∧
        Document.Means q'.filter q'.clauses fun v ↦
          before v && allSatisfied fs ((List.range' q.conditions.length added.length).map v) := by
  intro fs
  have hfs : ∀ a ∈ fs, ∃ raw, a.1.predicates raw = .ok a.2 :=
    fun a ha ↦ (predicates_of_mem_applied ha).2
  have hj := head?_combinators_of_filters hfs
  refine ⟨fun q hq hr ↦ ?_, fun q hq hr ↦ ?_⟩
  · obtain ⟨ps, hps⟩ := Sql.exists_compiled hq.wellFormed.conditions
    have happly : c.applyParams q params = addPredicates q (fs.flatMap Prod.snd) :=
      applyLookup_eq_of_ok hc hr
    rw [happly] at hr ⊢
    obtain ⟨added, ha, hconditions, -⟩ := Sql.Query.exists_conditions_added hr
    obtain ⟨own, hown, hclauses⟩ := Sql.Query.clauses_addPredicates hj hr
    rw [groupsInOrder_of_filters hfs hown] at hclauses
    have hmeans := Sql.Query.means_addPredicates hps hr
    simp only [allHold_append_filters hfs, hps.length_eq, ha.length_eq] at hmeans
    exact ⟨fun v ↦ allHold v ps, added, own, ha, hconditions, hown.trans ha.length_eq, hclauses,
      Sql.Query.means_whereClause hps, hmeans⟩
  · obtain ⟨ps, hps⟩ := hq.compiled
    have happly : c.applyParams q params = addPredicates q (fs.flatMap Prod.snd) :=
      applyLookup_eq_of_ok hc hr
    rw [happly] at hr ⊢
    obtain ⟨added, ha, hconditions⟩ := Document.Query.exists_conditions_added hr
    obtain ⟨own, hown, hclauses⟩ := Document.Query.clauses_addPredicates hj hr
    rw [groupsInOrder_of_filters hfs hown] at hclauses
    have hmeans := Document.Query.means_addPredicates hps hr
    simp only [allHold_append_filters hfs, hps.length_eq, ha.length_eq] at hmeans
    exact ⟨fun v ↦ allHold v ps, added, own, ha, hconditions, hown.trans ha.length_eq, hclauses,
      Document.Query.means_filter hps, hmeans⟩

theorem applyParams_narrows_search_and_interval :
    let c : FilterCatalog := [.ofKind "q" (.search ["name", "mail"] .final),
      .ofKind "tag" (.search [] .final), .ofKind "age" .interval]
    let params : Params := [("q", "jo"), ("tag", "x"), ("age", "18-30")]
    let first := Operation.predicate (.and "a" .equal (.int 1))
    let second := Operation.predicate (.or "b" .equal (.int 2))
    let sq : Sql.Query (Script Sql.Call) :=
      second.perform (first.perform { executor := {}, table := "users" })
    let dq : Document.Query (Script Document.Call) := second.perform (first.perform { executor := {} })
    let sq' := (c.applyParams sq params).state
    let dq' := (c.applyParams dq params).state
    (∀ f ∈ c, f.kind.isCustom = false) ∧ sq.Reachable ∧ dq.Reachable ∧
    (c.applyParams sq params).result = .ok () ∧ (c.applyParams dq params).result = .ok () ∧
    ∃ before before',
      Sql.Means .postgres "(a = $1 OR b = $2)" sq.clauses before ∧
      Sql.Means .postgres
        "(a = $1 OR b = $2) AND (name LIKE $3 OR mail LIKE $4) AND age >= $5 AND age <= $6"
        sq'.clauses
        (fun v ↦ before v && allSatisfied (c.applied params.get?) [v 2, v 3, v 4, v 5]) ∧
      Document.Means dq.filter dq.clauses before' ∧
      Document.Means dq'.filter dq'.clauses
        (fun v ↦ before' v && allSatisfied (c.applied params.get?) [v 2, v 3, v 4, v 5]) := by
  intro c params first second sq dq sq' dq'
  have hc : ∀ f ∈ c, f.kind.isCustom = false := by decide
  have hon : Sql.Query.on ({} : Script Sql.Call) "users" =
      .ok { executor := {}, table := "users" } := rfl
  have hsq : sq.Reachable := ((Sql.Query.Reachable.on hon).perform first).perform second
  have hdq : dq.Reachable :=
    ((Document.Query.Reachable.new ({} : Script Document.Call)).perform first).perform second
  have hsr : (c.applyParams sq params).result = .ok () := by decide +kernel
  have hdr : (c.applyParams dq params).result = .ok () := by decide +kernel
  have hcount : ((c.applied params.get?).flatMap Prod.snd).length = 4 := by decide +kernel
  have hbefore : sq.whereClause.sql = "(a = $1 OR b = $2)" := by decide +kernel
  have hafter : sq'.whereClause.sql =
      "(a = $1 OR b = $2) AND (name LIKE $3 OR mail LIKE $4) AND age >= $5 AND age <= $6" := by
    decide +kernel
  obtain ⟨hs, hd⟩ :=
    applyParams_narrows (ε := Script Sql.Call) (δ := Script Document.Call) hc params
  obtain ⟨before, added, -, ha, -, -, -, hsb, hsa⟩ := hs sq hsq hsr
  obtain ⟨before', added', -, ha', -, -, -, hdb, hda⟩ := hd dq hdq hdr
  rw [← ha.length_eq, hcount, hafter] at hsa
  rw [← ha'.length_eq, hcount] at hda
  rw [hbefore] at hsb
  exact ⟨hc, hsq, hdq, hsr, hdr, before, before', hsb, hsa, hdb, hda⟩

/-- A search without fields is applied and asks for nothing, although none of its conditions
holds. -/
theorem search_without_fields_narrows_nothing :
    let c : FilterCatalog := [.ofKind "q" (.search [] .complete)]
    let params : Params := [("q", "ann")]
    let sq : Sql.Query (Script Sql.Call) := { executor := {}, table := "users" }
    let dq : Document.Query (Script Document.Call) := { executor := {} }
    let alternatives (v : Nat → Bool) : Bool :=
      (c.applied params.get?).all fun a ↦ a.2.zipIdx.any fun p ↦ v p.2
    (∀ f ∈ c, f.kind.isCustom = false) ∧ (c.applied params.get?).map (·.1.param) = ["q"] ∧
    (c.applyParams sq params).result = .ok () ∧ (c.applyParams dq params).result = .ok () ∧
    ∃ before after, Sql.Means .postgres sq.whereClause.sql [] before ∧
      Sql.Means .postgres (c.applyParams sq params).state.whereClause.sql [] after ∧
      Document.Means dq.filter [] before ∧
      Document.Means (c.applyParams dq params).state.filter [] after ∧
      ∀ v, after v ≠ (before v && alternatives v) := by
  intro c params sq dq alternatives
  have hs : (c.applyParams sq params).state.whereClause.sql = "" := by decide +kernel
  have hd : (c.applyParams dq params).state.filter = [] := by decide +kernel
  have hnone : ((c.applied params.get?).any fun a ↦ a.2.isEmpty) = true := by decide +kernel
  have ha : ∀ v, alternatives v = false := by
    intro v
    obtain ⟨a, ha, hempty⟩ := List.any_eq_true.1 hnone
    refine List.all_eq_false.2 ⟨a, ha, ?_⟩
    simp [List.isEmpty_iff.1 hempty]
  refine ⟨by decide, by decide +kernel, by decide +kernel, by decide +kernel, fun _ ↦ true,
    fun _ ↦ true, .inl ⟨rfl, rfl, fun _ ↦ rfl⟩, .inl ⟨hs, rfl, fun _ ↦ rfl⟩,
    ⟨.all [], rfl, rfl, fun _ ↦ rfl⟩, ?_, fun v ↦ ?_⟩
  · rw [hd]
    exact ⟨.all [], rfl, rfl, fun _ ↦ rfl⟩
  · rw [ha]
    nofun

end FilterCatalog

end Listing
