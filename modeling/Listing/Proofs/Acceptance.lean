import Listing.Proofs.Atomicity

namespace Listing

open Outcome

namespace Run

variable {β γ : Type}

theorem result_each {step : β → γ → Run β Unit} {outcome : γ → Except QueryError Unit}
    {xs : List γ} (h : ∀ x ∈ xs, ∀ q, (step q x).result = outcome x) (q : β) :
    (each step q xs).result = (xs.mapM outcome).map fun _ ↦ () := by
  induction xs generalizing q with
  | nil => rfl
  | cons x xs ih =>
    obtain ⟨hx, hxs⟩ := List.forall_mem_cons.1 h
    have ih := ih hxs (step q x).state
    rw [each, List.mapM_cons, ← hx q]
    revert ih
    rcases step q x with ⟨q', e | u⟩ <;> intro ih
    · rfl
    · rw [andThen_ok, ih]
      cases xs.mapM outcome <;> rfl

theorem result_each_of_ok {step : β → γ → Run β Unit} {xs : List γ}
    (h : ∀ x ∈ xs, ∀ q, (step q x).result = .ok ()) (q : β) : (each step q xs).result = .ok () := by
  have hm : (xs.mapM fun _ ↦ (.ok () : Except QueryError Unit)) = .ok (xs.map fun _ ↦ ()) :=
    List.mapM_pure
  rw [result_each h q, hm]
  rfl

/-- What every step preserves, a run preserves, however it ends. -/
theorem each_induction {step : β → γ → Run β Unit} (invariant : β → Prop) {xs : List γ}
    (h : ∀ x ∈ xs, ∀ q, invariant q → invariant (step q x).state) {q : β} (hq : invariant q) :
    invariant (each step q xs).state := by
  induction xs generalizing q with
  | nil => exact hq
  | cons x xs ih =>
    obtain ⟨hx, hxs⟩ := List.forall_mem_cons.1 h
    have hx := hx q hq
    rw [each]
    revert hx
    rcases step q x with ⟨q', e | u⟩ <;> intro hx
    · exact hx
    · exact ih hxs hx

end Run

variable {β : Type} [ClauseBuilder β]

namespace FilterCatalog

open FilterNode

theorem category_of_predicateOf {c : FilterCatalog} {n : FilterNode} {e : QueryError}
    (h : c.predicateOf n = .error e) : e.category = .configuration ∨ e.category = .value := by
  unfold predicateOf leafPredicate at h
  split at h
  next => cases h; exact .inl rfl
  split at h
  next => cases h; exact .inl rfl
  next f _ =>
    split at h
    next => cases h; exact .inl rfl
    split at h
    next => cases h
    split at h
    next => cases h; exact .inr rfl
    next raw =>
      split at h
      next => cases h
      have hv := map_eq_error.1 h
      unfold bodyValue at hv
      split at hv
      next =>
        rcases bind_eq_error.1 hv with hv | ⟨items, -, hv⟩
        · obtain ⟨-, s, -, -, -, -, hs⟩ := mapM_eq_error.1 hv
          exact .inr (Filter.blames_of_transform hs).category
        · cases hv
      next => exact .inr (Filter.blames_of_transform hv).category

/-- The predicates that registered filters make of parameters. -/
def Makes (c : FilterCatalog) (p : Predicate) : Prop :=
  ∃ f ∈ c, ∃ raw ps, f.predicates raw = .ok ps ∧ p ∈ ps

theorem makes_of_mem_made {c : FilterCatalog} {lookup : String → Option String}
    {t : Filter × Predicate} (h : t ∈ made (c.active lookup)) : c.Makes t.2 := by
  obtain ⟨a, ha, ht⟩ := List.mem_flatMap.1 h
  obtain ⟨p, hp, rfl⟩ := List.mem_map.1 ht
  have ha := (List.takeWhile_prefix readable).subset ha
  obtain ⟨f, hf, ha⟩ := List.mem_filterMap.1 ha
  obtain ⟨raw, -, rfl⟩ := Option.map_eq_some_iff.1 ha
  cases hps : f.predicates raw with
  | error e =>
    rw [hps] at hp
    cases hp
  | ok ps =>
    rw [hps] at hp
    exact ⟨f, hf, raw, ps, hps, hp⟩

theorem applyLookup_eq_each_made {c : FilterCatalog} (hc : ∀ f ∈ c, f.kind.isCustom = false) (q : β)
    (lookup : String → Option String) : c.applyLookup q lookup =
      (Run.each addFor q (made (c.active lookup))).andThen
        fun q _ ↦ ⟨q, ending (c.active lookup)⟩ := by
  rw [applyLookup_eq_each_active]
  refine each_applyActive (fun a ha ↦ ?_) q
  obtain ⟨f, hf, ha⟩ := List.mem_filterMap.1 ha
  obtain ⟨raw, -, rfl⟩ := Option.map_eq_some_iff.1 ha
  exact hc f hf

theorem category_of_ending {as : List (Filter × String)} {e : QueryError}
    (h : ending as = .error e) : e.category = .value := by
  unfold ending at h
  cases hu : unreadable? as with
  | none =>
    rw [hu] at h
    cases h
  | some a =>
    rw [hu] at h
    cases hp : a.1.predicates a.2 with
    | ok ps =>
      simp only [hp] at h
      cases h
    | error e' =>
      simp only [hp] at h
      cases h
      exact (Filter.blames_of_predicates hp).category

variable {c : FilterCatalog} {lookup : String → Option String} {q : β}

theorem applyLookup_induction (hc : ∀ f ∈ c, f.kind.isCustom = false) (invariant : β → Prop)
    (h : ∀ p, c.Makes p → ∀ q, invariant q → invariant (p.addTo q).state) (hq : invariant q) :
    invariant (c.applyLookup q lookup).state := by
  have hs : invariant (Run.each addFor q (made (c.active lookup))).state :=
    Run.each_induction invariant (fun t ht q hq ↦ h t.2 (makes_of_mem_made ht) q hq) hq
  rw [applyLookup_eq_each_made hc]
  revert hs
  rcases Run.each addFor q (made (c.active lookup)) with ⟨q', e | u⟩ <;> exact id

theorem category_of_applyLookup (hc : ∀ f ∈ c, f.kind.isCustom = false)
    (h : ∀ p, c.Makes p → ∀ q : β, (p.addTo q).result = .ok ()) {e : QueryError}
    (he : (c.applyLookup q lookup).result = .error e) : e.category = .value := by
  have hr : (Run.each addFor q (made (c.active lookup))).result = .ok () := by
    refine Run.result_each_of_ok (fun t ht q ↦ ?_) q
    rw [addFor, Run.mapError, h t.2 (makes_of_mem_made ht) q]
    rfl
  rw [applyLookup_eq_each_made hc] at he
  revert hr he
  rcases Run.each addFor q (made (c.active lookup)) with ⟨q', e' | u⟩ <;> intro he hr
  · cases hr
  · exact category_of_ending he

end FilterCatalog

namespace SortCatalog

variable {c : SortCatalog} {orders : List OrderRequest} {q : β}

theorem mem_of_mapM_resolve {os : List (String × SortDirection)}
    (h : orders.mapM c.resolve = .ok os) : ∀ o ∈ os, ∃ k ∈ c, o.1 = k.internal := by
  intro o ho
  have ho : o ∈ c.resolved orders := by rwa [resolved, h]
  exact internal_of_mem_resolved ho

theorem applyOrders_induction (invariant : β → Prop)
    (h : ∀ k ∈ c, ∀ d q, invariant q → invariant (ClauseBuilder.addOrder q k.internal d).state)
    (hq : invariant q) : invariant (c.applyOrders q orders).state := by
  unfold applyOrders
  split
  next => exact hq
  next os hos =>
    refine Run.each_induction invariant (fun o ho q hq ↦ ?_) hq
    obtain ⟨k, hk, ho⟩ := mem_of_mapM_resolve hos o ho
    rw [ho]
    exact h k hk o.2 q hq

theorem category_of_applyOrders
    (h : ∀ k ∈ c, ∀ d, ∀ q : β, (ClauseBuilder.addOrder q k.internal d).result = .ok ())
    {e : QueryError} (he : (c.applyOrders q orders).result = .error e) :
    e.category = .configuration := by
  unfold applyOrders at he
  split at he
  next hm =>
    cases he
    obtain ⟨-, o, -, -, -, -, ho⟩ := mapM_eq_error.1 hm
    obtain ⟨-, rfl⟩ := resolve_eq_error.1 ho
    exact congrArg ErrorCode.category o.code_fault
  next os hos =>
    have hr : (addOrders q os).result = .ok () := by
      refine Run.result_each_of_ok (fun o ho q ↦ ?_) q
      obtain ⟨k, hk, ho⟩ := mem_of_mapM_resolve hos o ho
      rw [ho]
      exact h k hk o.2 q
    rw [hr] at he
    cases he

end SortCatalog

end Listing
