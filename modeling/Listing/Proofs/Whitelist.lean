import Listing.Proofs.Emission
import Listing.Proofs.Leaves
import Listing.Proofs.Sorts
import Listing.Proofs.Trace
import Listing.Recording

namespace Listing

open Outcome

section

variable {β : Type} [ClauseBuilder β]

theorem untraced_run (program : ClauseProgram) (q : Traced β) :
    (program.run q).untraced = program.run q.builder := by
  induction program generalizing q with
  | done => rfl
  | fail e => rfl
  | predicate p next ih => exact ih _ _
  | order field direction next ih => exact ih _ _

namespace Filter

theorem untraced_apply (f : Filter) (q : Traced β) (raw : String) :
    (f.apply q raw).untraced = f.apply q.builder raw := by
  unfold apply
  split
  next => exact untraced_run _ q
  next =>
    split
    next => exact untraced_addPredicates q _
    next => rfl

theorem tells_apply {f : Filter} (hf : f.kind.isCustom = false) (q : Traced β) (raw : String) :
    Run.Tells q (((f.predicates raw).toOption.getD []).map .predicate) (f.apply q raw) := by
  unfold apply
  split
  next program hk => rw [hk] at hf; cases hf
  next =>
    split
    next ps hp => rw [hp]; exact tells_addPredicates q ps
    next e he => exact Run.tells_error q _ e

end Filter

namespace FilterCatalog

open FilterNode

def predicatesFor (lookup : String → Option String) (f : Filter) : List Predicate :=
  match effective? f (lookup f.param) with
  | none => []
  | some raw => if f.isIgnored raw then [] else (f.predicates raw).toOption.getD []

def flatOrigins (c : FilterCatalog) (lookup : String → Option String) :
    List (Filter × Predicate) :=
  c.flatMap fun f ↦ (predicatesFor lookup f).map (f, ·)

theorem predicates_of_mem_predicatesFor {lookup : String → Option String} {f : Filter}
    {p : Predicate} (h : p ∈ predicatesFor lookup f) :
    ∃ raw ps, f.predicates raw = .ok ps ∧ p ∈ ps := by
  unfold predicatesFor at h
  split at h
  next => cases h
  next raw _ =>
    split at h
    next => cases h
    next =>
      cases hp : f.predicates raw with
      | error e =>
        rw [hp] at h
        cases h
      | ok ps =>
        rw [hp] at h
        exact ⟨raw, ps, hp, h⟩

theorem untraced_applyLookup (c : FilterCatalog) (q : Traced β) (lookup : String → Option String) :
    (c.applyLookup q lookup).untraced = c.applyLookup q.builder lookup := by
  refine Run.untraced_each (fun q f ↦ ?_) q c
  unfold applyFilter
  split
  next => rfl
  next =>
    split
    next => rfl
    next => rw [Run.untraced_mapError, Filter.untraced_apply]

theorem tells_applyFilter {lookup : String → Option String} {f : Filter}
    (hf : f.kind.isCustom = false) (q : Traced β) :
    Run.Tells q ((predicatesFor lookup f).map .predicate) (applyFilter lookup q f) := by
  unfold applyFilter predicatesFor
  cases effective? f (lookup f.param) with
  | none => exact Run.tells_ok q ()
  | some raw =>
    by_cases hi : f.isIgnored raw = true
    · simp only [hi, if_true]
      exact Run.tells_ok q ()
    · simp only [hi]
      exact (Filter.tells_apply hf q raw).mapError _

theorem tells_applyLookup {c : FilterCatalog} (hc : ∀ f ∈ c, f.kind.isCustom = false)
    (q : Traced β) (lookup : String → Option String) :
    Run.Tells q ((c.flatOrigins lookup).map fun t ↦ .predicate t.2) (c.applyLookup q lookup) := by
  have hm : (c.flatOrigins lookup).map (fun t ↦ ClauseCall.predicate t.2) =
      c.flatMap fun f ↦ (predicatesFor lookup f).map .predicate := by
    simp only [flatOrigins, List.map_flatMap, List.map_map, Function.comp_def]
  rw [hm]
  exact Run.tells_each (fun f hf q ↦ tells_applyFilter (hc f hf) q) q

/-- A leaf, the filter that its field names and what becomes of the leaf. -/
structure LeafOrigin (c : FilterCatalog) (n : FilterNode) (f : Filter) (p : Predicate) : Prop where
  named : n.field = some f.param
  first : ∃ before after, c = before ++ f :: after ∧ ∀ g ∈ before, g.param ≠ f.param
  capable : f.supportsBody = true
  field : p.field = f.internalName
  operator : p.operator = n.operator
  combinator : p.combinator = n.combinator
  declared : f.Declares p.value

theorem declares_of_bodyValue {f : Filter} {operator : Operator} {raw : String} {v : Value}
    (h : bodyValue f operator raw = .ok v) : f.Declares v := by
  unfold bodyValue at h
  split at h
  next =>
    obtain ⟨items, hi, h⟩ := bind_eq_ok.1 h
    cases h
    refine Filter.declares_list fun v hv ↦ ?_
    obtain ⟨s, -, hs⟩ := exists_of_mem_mapM hi hv
    exact Filter.declares_of_transform hs
  next => exact Filter.declares_of_transform h

def leafOrigin? (c : FilterCatalog) (n : FilterNode) : Option (FilterNode × Filter × Predicate) :=
  match c.predicateOf n with
  | .ok (some p) => (n.field.bind c.find?).map fun f ↦ (n, f, p)
  | _ => none

def leafOrigins (c : FilterCatalog) (ns : List FilterNode) :
    List (FilterNode × Filter × Predicate) := (leavesOf ns).filterMap c.leafOrigin?

theorem leafPredicate_eq_some {c : FilterCatalog} {field value : Option String}
    {operator : Operator} {combinator : Combinator} {p : Predicate}
    (h : c.leafPredicate field value operator combinator = .ok (some p)) :
    ∃ name f, field = some name ∧ c.find? name = some f ∧ f.supportsBody = true ∧
      p.field = f.internalName ∧ p.operator = operator ∧ p.combinator = combinator ∧
      (operator.isNullCheck = true ∧ p.value = .null ∨
        operator.isNullCheck = false ∧ ∃ raw, value = some raw ∧ f.isIgnored raw = false ∧
          bodyValue f operator raw = .ok p.value) := by
  unfold leafPredicate at h
  split at h
  next => cases h
  next name =>
    split at h
    next => cases h
    next f hf =>
      split at h
      next => cases h
      next hb =>
        have hb : f.supportsBody = true := by simpa using hb
        refine ⟨name, f, rfl, hf, hb, ?_⟩
        split at h
        next hn =>
          cases h
          exact ⟨rfl, rfl, rfl, .inl ⟨hn, rfl⟩⟩
        next hn =>
          split at h
          next => cases h
          next raw =>
            split at h
            next => cases h
            next hi =>
              obtain ⟨v, hv, hp⟩ := map_eq_ok.1 h
              cases hp
              exact ⟨rfl, rfl, rfl, .inr ⟨by simpa using hn, raw, rfl, by simpa using hi, hv⟩⟩

theorem leafOrigin?_eq_some {c : FilterCatalog} {n : FilterNode}
    {t : FilterNode × Filter × Predicate} (h : c.leafOrigin? n = some t) :
    t.1 = n ∧ c.LeafOrigin n t.2.1 t.2.2 := by
  unfold leafOrigin? at h
  split at h
  next p hp =>
    obtain ⟨name, f, hn, hf, hb, hfield, ho, hc, hv⟩ := leafPredicate_eq_some hp
    rw [hn, Option.bind_some, hf] at h
    cases h
    obtain ⟨hparam, before, after, he, hfirst⟩ := List.find?_eq_some_iff_append.1 hf
    have hparam : f.param = name := by simpa using hparam
    refine ⟨rfl, hn.trans (congrArg some hparam.symm), ⟨before, after, he, fun g' hg' ↦ ?_⟩, hb,
      hfield, ho, hc, ?_⟩
    · rw [hparam]
      simpa using hfirst g' hg'
    · rcases hv with ⟨-, hv⟩ | ⟨-, raw, -, -, hv⟩
      · rw [hv]
        exact Filter.declares_of_strings_eq_nil rfl
      · exact declares_of_bodyValue hv
  next => cases h

theorem untraced_applyAsLeaf (c : FilterCatalog) (q : Traced β) (n : FilterNode) :
    (c.applyAsLeaf q n).untraced = c.applyAsLeaf q.builder n := by
  unfold applyAsLeaf applyLeaf
  split <;> rfl

theorem untraced_applyBody (c : FilterCatalog) (q : Traced β) (ns : List FilterNode) :
    (c.applyBody q ns).untraced = c.applyBody q.builder ns := by
  rw [applyBody_eq_each, applyBody_eq_each]
  exact Run.untraced_each (c.untraced_applyAsLeaf) q _

theorem tells_applyAsLeaf (c : FilterCatalog) (q : Traced β) (n : FilterNode) :
    Run.Tells q ((c.leafOrigin? n).toList.map fun t ↦ .predicate t.2.2) (c.applyAsLeaf q n) := by
  unfold applyAsLeaf applyLeaf
  split
  next e _ => exact Run.tells_error q _ e
  next hp =>
    have ht : c.leafOrigin? n = none := by rw [leafOrigin?, show c.predicateOf n = _ from hp]
    rw [ht]
    exact Run.tells_ok q ()
  next p hp =>
    obtain ⟨name, f, hn, hf, -⟩ := leafPredicate_eq_some hp
    have ht : c.leafOrigin? n = some (n, f, p) := by
      rw [leafOrigin?, show c.predicateOf n = _ from hp, hn]
      simp only [Option.bind_some, hf, Option.map_some]
    rw [ht]
    exact Run.tells_told q _ _

theorem tells_applyBody (c : FilterCatalog) (q : Traced β) (ns : List FilterNode) :
    Run.Tells q ((c.leafOrigins ns).map fun t ↦ .predicate t.2.2) (c.applyBody q ns) := by
  have hm : (c.leafOrigins ns).map (fun t ↦ ClauseCall.predicate t.2.2) =
      (leavesOf ns).flatMap fun n ↦ (c.leafOrigin? n).toList.map fun t ↦ .predicate t.2.2 := by
    rw [leafOrigins, List.filterMap_eq_flatMap_toList, List.map_flatMap]
  rw [hm, applyBody_eq_each]
  exact Run.tells_each (fun n _ q ↦ c.tells_applyAsLeaf q n) q

end FilterCatalog

namespace SortCatalog

def resolved (c : SortCatalog) (orders : List OrderRequest) : List (String × SortDirection) :=
  (orders.mapM c.resolve).toOption.getD []

theorem internal_of_mem_resolved {c : SortCatalog} {orders : List OrderRequest}
    {o : String × SortDirection} (h : o ∈ c.resolved orders) : ∃ k ∈ c, o.1 = k.internal := by
  unfold resolved at h
  cases hm : orders.mapM c.resolve with
  | error e =>
    rw [hm] at h
    cases h
  | ok os =>
    rw [hm] at h
    obtain ⟨r, -, hr⟩ := exists_of_mem_mapM hm h
    obtain ⟨before, k, after, rfl, -, -, rfl⟩ := resolve_eq_ok.1 hr
    exact ⟨k, List.mem_append_right before List.mem_cons_self, rfl⟩

theorem untraced_applyOrders (c : SortCatalog) (q : Traced β) (orders : List OrderRequest) :
    (c.applyOrders q orders).untraced = c.applyOrders q.builder orders := by
  unfold applyOrders
  split
  next => rfl
  next os _ => exact untraced_addOrders q os

theorem tells_applyOrders (c : SortCatalog) (q : Traced β) (orders : List OrderRequest) :
    Run.Tells q ((c.resolved orders).map fun o ↦ .order o.1 o.2) (c.applyOrders q orders) := by
  unfold applyOrders resolved
  cases orders.mapM c.resolve with
  | error e => exact Run.tells_error q _ e
  | ok os => exact tells_addOrders q os

def instructions : Option String → List OrderRequest
  | none => []
  | some raw => if Text.isBlankText raw then [] else parse raw

theorem applyOptional_eq (c : SortCatalog) (q : β) (text : Option String) :
    c.applyOptional q text = c.applyOrders q (instructions text) := by
  cases text with
  | none => rfl
  | some raw =>
    rw [applyOptional, instructions]
    split
    next => rfl
    next => rfl

end SortCatalog

theorem exists_map_append_of_prefix {α γ δ : Type} {xs : List α} {ys : List γ} {f : α → δ}
    {g : γ → δ} {l : List δ} (h : l <+: xs.map f ++ ys.map g) :
    ∃ as bs, as <+: xs ∧ bs <+: ys ∧ l = as.map f ++ bs.map g := by
  refine ⟨xs.take l.length, ys.take (l.length - (xs.map f).length), List.take_prefix _ _,
    List.take_prefix _ _, ?_⟩
  rw [List.map_take, List.map_take, ← List.take_append]
  exact List.prefix_iff_eq_take.1 h

namespace Endpoint

def traced (e : Endpoint β) : Endpoint (Traced β) := { e with builder := { builder := e.builder } }

/-- Predicates that the filters make of named texts, then orders by registered keys. -/
def NamedCalls (e : Endpoint β) (lookup : String → Option String) (calls : List ClauseCall) :
    Prop :=
  ∃ (told : List (Filter × Predicate)) (orders : List (String × SortDirection)),
    calls = told.map (fun t ↦ .predicate t.2) ++ orders.map (fun o ↦ .order o.1 o.2) ∧
    told <+: e.filters.flatOrigins lookup ∧
    (∀ t ∈ told, t.1 ∈ e.filters ∧ t.1.Compares t.2.field ∧ t.1.Declares t.2.value) ∧
    ∀ o ∈ orders, ∃ k ∈ e.sorts, o.1 = k.internal

/-- Predicates that leaves of a body stand for, then orders by registered keys. -/
def BodyCalls (e : Endpoint β) (b : Body) (calls : List ClauseCall) : Prop :=
  ∃ (told : List (FilterNode × Filter × Predicate)) (orders : List (String × SortDirection)),
    calls = told.map (fun t ↦ .predicate t.2.2) ++ orders.map (fun o ↦ .order o.1 o.2) ∧
    told <+: e.filters.leafOrigins b.filters ∧
    (∀ t ∈ told, t.1 ∈ FilterNode.leavesOf b.filters ∧ e.filters.LeafOrigin t.1 t.2.1 t.2.2) ∧
    ∀ o ∈ orders, ∃ k ∈ e.sorts, o.1 = k.internal

theorem untraced_applyNamed (e : Endpoint β) (lookup : String → Option String) :
    (e.traced.applyNamed lookup).untraced = e.applyNamed lookup := by
  unfold applyNamed
  rw [Run.untraced_andThen (fun q _ ↦ e.sorts.applyOptional q (lookup e.config.sortParam)),
    FilterCatalog.untraced_applyLookup]
  · rfl
  · intro q _
    rw [SortCatalog.applyOptional_eq, SortCatalog.applyOptional_eq]
    exact SortCatalog.untraced_applyOrders _ _ _

theorem untraced_applyBody (e : Endpoint β) (b : Body) :
    (e.traced.applyBody b).untraced = e.applyBody b := by
  unfold applyBody
  rw [Run.untraced_andThen (fun q _ ↦ e.sorts.applyOrders q b.sorts),
    FilterCatalog.untraced_applyBody]
  · rfl
  · exact fun q _ ↦ SortCatalog.untraced_applyOrders _ _ _

theorem namedCalls_applyNamed {e : Endpoint β} (h : ∀ f ∈ e.filters, f.kind.isCustom = false)
    (lookup : String → Option String) :
    e.NamedCalls lookup (e.traced.applyNamed lookup).state.calls := by
  have ht := (FilterCatalog.tells_applyLookup h e.traced.builder lookup).andThen
    (fun q _ ↦ e.sorts.applyOptional q (lookup e.config.sortParam)) fun q _ ↦ by
      rw [SortCatalog.applyOptional_eq]
      exact e.sorts.tells_applyOrders q _
  obtain ⟨told, orders, htold, horders, hc⟩ := exists_map_append_of_prefix (ht.calls_prefix rfl)
  refine ⟨told, orders, hc, htold, fun t hm ↦ ?_, fun o ho ↦
    SortCatalog.internal_of_mem_resolved (horders.subset ho)⟩
  obtain ⟨f, hf, ht⟩ := List.mem_flatMap.1 (htold.subset hm)
  obtain ⟨p, hp, rfl⟩ := List.mem_map.1 ht
  obtain ⟨raw, ps, hps, hp⟩ := FilterCatalog.predicates_of_mem_predicatesFor hp
  exact ⟨hf, Filter.compares_of_mem_predicates hps p hp,
    Filter.declares_of_mem_predicates hps p hp⟩

theorem bodyCalls_applyBody (e : Endpoint β) (b : Body) :
    e.BodyCalls b (e.traced.applyBody b).state.calls := by
  have ht := (e.filters.tells_applyBody e.traced.builder b.filters).andThen
    (fun q _ ↦ e.sorts.applyOrders q b.sorts) fun q _ ↦ e.sorts.tells_applyOrders q _
  obtain ⟨told, orders, htold, horders, hc⟩ := exists_map_append_of_prefix (ht.calls_prefix rfl)
  refine ⟨told, orders, hc, htold, fun t hm ↦ ?_, fun o ho ↦
    SortCatalog.internal_of_mem_resolved (horders.subset ho)⟩
  obtain ⟨n, hn, ho⟩ := List.mem_filterMap.1 (htold.subset hm)
  obtain ⟨rfl, horigin⟩ := FilterCatalog.leafOrigin?_eq_some ho
  exact ⟨hn, horigin⟩

theorem apply_eq (e : Endpoint β) :
    (∃ r, e.apply = ⟨e.builder, r⟩ ∧ e.traced.apply = ⟨e.traced.builder, r⟩) ∨
    (∃ lookup, e.apply = e.applyNamed lookup ∧ e.traced.apply = e.traced.applyNamed lookup) ∨
    ∃ b, e.apply = e.applyBody b ∧ e.traced.apply = e.traced.applyBody b := by
  have hs : e.traced.inputSource = e.inputSource := rfl
  unfold apply
  rw [hs]
  cases e.inputSource with
  | error err => exact .inl ⟨.error err, rfl, rfl⟩
  | ok source =>
    cases source with
    | params => exact .inr (.inl ⟨_, rfl, rfl⟩)
    | request => exact .inr (.inl ⟨_, rfl, rfl⟩)
    | nothing => exact .inl ⟨.ok (), rfl, rfl⟩
    | body =>
      have hr : e.traced.request = e.request := rfl
      simp only [hr]
      cases (e.request.map RequestSource.body).getD (.ok {}) with
      | error err => exact .inl ⟨.error err, rfl, rfl⟩
      | ok b => exact .inr (.inr ⟨b, rfl, rfl⟩)

/-- Whatever the input and however the run ends, a builder hears of nothing but what the endpoint
allows. -/
theorem calls_whitelisted (e : Endpoint β) (h : ∀ f ∈ e.filters, f.kind.isCustom = false) :
    (∀ lookup, (e.traced.applyNamed lookup).untraced = e.applyNamed lookup ∧
      e.NamedCalls lookup (e.traced.applyNamed lookup).state.calls) ∧
    (∀ b, (e.traced.applyBody b).untraced = e.applyBody b ∧
      e.BodyCalls b (e.traced.applyBody b).state.calls) ∧
    e.traced.apply.untraced = e.apply ∧
    (e.traced.apply.state.calls = [] ∨ (∃ lookup, e.NamedCalls lookup e.traced.apply.state.calls) ∨
      ∃ b, e.BodyCalls b e.traced.apply.state.calls) := by
  refine ⟨fun lookup ↦ ⟨e.untraced_applyNamed lookup, namedCalls_applyNamed h lookup⟩,
    fun b ↦ ⟨e.untraced_applyBody b, e.bodyCalls_applyBody b⟩, ?_⟩
  rcases e.apply_eq with ⟨r, hr, ht⟩ | ⟨lookup, hr, ht⟩ | ⟨b, hr, ht⟩
  · rw [hr, ht]
    exact ⟨rfl, .inl rfl⟩
  · rw [hr, ht]
    exact ⟨e.untraced_applyNamed lookup, .inr (.inl ⟨lookup, namedCalls_applyNamed h lookup⟩)⟩
  · rw [hr, ht]
    exact ⟨e.untraced_applyBody b, .inr (.inr ⟨b, e.bodyCalls_applyBody b⟩)⟩

theorem calls_whitelisted_status_and_search :
    let e : Endpoint (Recording Unit) := {
      builder := {}
      filters := [.ofKind "status" (.enumeration ["ACTIVE", "DONE"]),
        .ofKind "q" (.search ["name", "mail"] .final)]
      sorts := [⟨"age", "person.age"⟩] }
    let lookup := Params.get? [("status", "DONE, ACTIVE"), ("q", "jo"), ("sort", "-age")]
    (∀ f ∈ e.filters, f.kind.isCustom = false) ∧
    (e.traced.applyNamed lookup).state.calls = [
      .predicate (.and "status" .among (.list [.string "DONE", .string "ACTIVE"])),
      .predicate (.and "name" .like (.string "jo%")), .predicate (.or "mail" .like (.string "jo%")),
      .order "person.age" .desc] ∧
    e.NamedCalls lookup (e.traced.applyNamed lookup).state.calls := by
  intro e lookup
  have h : ∀ f ∈ e.filters, f.kind.isCustom = false := by decide
  exact ⟨h, rfl, ((e.calls_whitelisted h).1 lookup).2⟩

end Endpoint

end

end Listing
