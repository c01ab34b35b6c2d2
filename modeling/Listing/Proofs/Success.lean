import Listing.Proofs.Predicates
import Listing.Proofs.Whitelist

namespace Listing

open Outcome

namespace Run

variable {α β γ δ : Type}

theorem andThen_eq_ok {r : Run β α} {next : β → α → Run β γ} {c : γ}
    (h : (r.andThen next).result = .ok c) :
    ∃ a, r.result = .ok a ∧ r.andThen next = next r.state a := by
  rcases r with ⟨q, e | a⟩
  · cases h
  · exact ⟨a, rfl, rfl⟩

theorem mapError_eq_of_ok {f : QueryError → QueryError} {r : Run β α} {a : α}
    (h : (r.mapError f).result = .ok a) : r.mapError f = r := by
  rcases r with ⟨q, e | a⟩
  · cases h
  · rfl

/-- If each step that succeeds adds up to some smaller steps, so do all of them. -/
theorem each_eq_of_ok {step : β → γ → Run β Unit} {step' : β → δ → Run β Unit} {f : γ → List δ}
    {xs : List γ} (h : ∀ x ∈ xs, ∀ q, (step q x).result = .ok () → step q x = each step' q (f x))
    {q : β} (hr : (each step q xs).result = .ok ()) :
    each step q xs = each step' q (xs.flatMap f) := by
  induction xs generalizing q with
  | nil => rfl
  | cons x xs ih =>
    rw [each] at hr ⊢
    obtain ⟨_, hx, hn⟩ := andThen_eq_ok hr
    have hs := h x List.mem_cons_self q hx
    rw [hn] at hr ⊢
    rw [List.flatMap_cons, each_append, ← hs,
      ih (fun y hy ↦ h y (List.mem_cons_of_mem x hy)) hr]
    rcases hq : step q x with ⟨q', e | u⟩
    · rw [hq] at hx
      cases hx
    · rfl

theorem state_each_of_ok {step : β → γ → Run β Unit} {f : β → γ → β}
    (h : ∀ q x, (step q x).result = .ok () → (step q x).state = f q x) {q : β} {xs : List γ}
    (hr : (each step q xs).result = .ok ()) : (each step q xs).state = xs.foldl f q := by
  induction xs generalizing q with
  | nil => rfl
  | cons x xs ih =>
    rw [each] at hr ⊢
    obtain ⟨_, hx, hn⟩ := andThen_eq_ok hr
    rw [hn] at hr ⊢
    rw [ih hr, h q x hx, List.foldl_cons]

theorem exists_ok_of_mem_each {step : β → γ → Run β Unit} {xs : List γ} {q : β}
    (hr : (each step q xs).result = .ok ()) {x : γ} (hx : x ∈ xs) :
    ∃ q', (step q' x).result = .ok () := by
  induction xs generalizing q with
  | nil => cases hx
  | cons y xs ih =>
    rw [each] at hr
    obtain ⟨_, hy, hn⟩ := andThen_eq_ok hr
    rcases List.mem_cons.1 hx with rfl | hx
    · exact ⟨q, hy⟩
    · rw [hn] at hr
      exact ih hr hx

end Run

namespace FilterCatalog

open FilterNode

def applied? (lookup : String → Option String) (f : Filter) : Option (Filter × List Predicate) :=
  match effective? f (lookup f.param) with
  | none => none
  | some raw => if f.isIgnored raw then none else (f.predicates raw).toOption.map fun ps ↦ (f, ps)

def applied (c : FilterCatalog) (lookup : String → Option String) :
    List (Filter × List Predicate) := c.filterMap (applied? lookup)

theorem predicates_of_mem_applied {c : FilterCatalog} {lookup : String → Option String}
    {a : Filter × List Predicate} (h : a ∈ c.applied lookup) :
    a.1 ∈ c ∧ ∃ raw, a.1.predicates raw = .ok a.2 := by
  obtain ⟨f, hf, h⟩ := List.mem_filterMap.1 h
  unfold applied? at h
  split at h
  next => cases h
  next raw _ =>
    split at h
    next => cases h
    next =>
      cases hp : f.predicates raw with
      | error e =>
        rw [hp] at h
        cases h
      | ok ps =>
        rw [hp] at h
        cases h
        exact ⟨hf, raw, hp⟩

def predicatesOf (c : FilterCatalog) (ls : List FilterNode) : List Predicate :=
  ls.filterMap fun l ↦ (c.predicateOf l).toOption.join

def ignores (c : FilterCatalog) (n : FilterNode) : Bool :=
  !n.operator.isNullCheck &&
    (n.field.bind c.find?).any fun f ↦ n.value.any fun raw ↦ f.isIgnored raw

theorem leafPredicate_eq_ok {c : FilterCatalog} {field value : Option String} {operator : Operator}
    {combinator : Combinator} {o : Option Predicate}
    (h : c.leafPredicate field value operator combinator = .ok o) :
    let ignored := !operator.isNullCheck &&
      (field.bind c.find?).any fun f ↦ value.any fun raw ↦ f.isIgnored raw
    ignored = true ∧ o = none ∨
      ignored = false ∧ ∃ p, o = some p ∧ p.combinator = combinator := by
  unfold leafPredicate at h
  split at h
  next => cases h
  next name =>
    rw [Option.bind_some]
    split at h
    next => cases h
    next f hf =>
      rw [hf, Option.any_some]
      split at h
      next => cases h
      next =>
        by_cases hn : operator.isNullCheck = true
        · rw [if_pos hn] at h
          cases h
          rw [hn]
          exact .inr ⟨rfl, _, rfl, rfl⟩
        · rw [if_neg hn] at h
          rw [Bool.eq_false_iff.2 hn, Bool.not_false, Bool.true_and]
          cases value with
          | none => cases h
          | some raw =>
            dsimp only at h
            rw [Option.any_some]
            split at h
            next hi =>
              cases h
              exact .inl ⟨hi, rfl⟩
            next hi =>
              obtain ⟨v, -, rfl⟩ := map_eq_ok.1 h
              exact .inr ⟨Bool.eq_false_iff.2 hi, _, rfl, rfl⟩

theorem predicateOf_eq_ok {c : FilterCatalog} {n : FilterNode} {o : Option Predicate}
    (h : c.predicateOf n = .ok o) :
    c.ignores n = true ∧ o = none ∨
      c.ignores n = false ∧ ∃ p, o = some p ∧ p.combinator = n.combinator :=
  leafPredicate_eq_ok h

variable {β : Type} [ClauseBuilder β]

theorem applyFilter_eq_of_ok {lookup : String → Option String} {f : Filter}
    (hf : f.kind.isCustom = false) {q : β} (hr : (applyFilter lookup q f).result = .ok ()) :
    applyFilter lookup q f = addPredicates q ((applied? lookup f).toList.flatMap Prod.snd) := by
  unfold applyFilter at hr ⊢
  unfold applied?
  cases he : effective? f (lookup f.param) with
  | none => rfl
  | some raw =>
    rw [he] at hr
    dsimp only at hr ⊢
    split
    next => rfl
    next hi =>
      rw [if_neg hi] at hr
      have hm := Run.mapError_eq_of_ok hr
      rw [hm] at hr ⊢
      unfold Filter.apply at hr ⊢
      cases hk : f.kind with
      | custom program =>
        rw [hk] at hf
        cases hf
      | _ =>
        rw [hk] at hr
        cases hp : f.predicates raw with
        | error e =>
          rw [hp] at hr
          cases hr
        | ok ps => simp [Except.toOption]

theorem applyLookup_eq_of_ok {c : FilterCatalog} (hc : ∀ f ∈ c, f.kind.isCustom = false)
    {lookup : String → Option String} {q : β} (hr : (c.applyLookup q lookup).result = .ok ()) :
    c.applyLookup q lookup = addPredicates q ((c.applied lookup).flatMap Prod.snd) := by
  have hm : (c.applied lookup).flatMap Prod.snd =
      c.flatMap fun f ↦ (applied? lookup f).toList.flatMap Prod.snd := by
    rw [applied, List.filterMap_eq_flatMap_toList, List.flatMap_assoc]
  rw [hm]
  exact Run.each_eq_of_ok (fun f hf q hq ↦ applyFilter_eq_of_ok (hc f hf) hq) hr

theorem applyAsLeaf_eq_of_ok {c : FilterCatalog} {n : FilterNode} {q : β}
    (hr : (c.applyAsLeaf q n).result = .ok ()) : (∃ o, c.predicateOf n = .ok o) ∧
    c.applyAsLeaf q n = addPredicates q (c.predicateOf n).toOption.join.toList := by
  unfold applyAsLeaf applyLeaf at hr ⊢
  rw [show c.leafPredicate n.field n.value n.operator n.combinator = c.predicateOf n from rfl]
    at hr ⊢
  cases hp : c.predicateOf n with
  | error e =>
    rw [hp] at hr
    cases hr
  | ok o =>
    refine ⟨⟨o, rfl⟩, ?_⟩
    cases o with
    | none => rfl
    | some p =>
      rw [hp] at hr
      dsimp only at hr
      simp only [Except.toOption, Option.join_some, Option.toList_some, addPredicates, Run.each]
      rcases hadd : p.addTo q with ⟨q', e | u⟩
      · rw [hadd] at hr
        cases hr
      · rfl

theorem applyBody_eq_of_ok {c : FilterCatalog} {ns : List FilterNode} {q : β}
    (hr : (c.applyBody q ns).result = .ok ()) :
    (∀ n ∈ leavesOf ns, ∃ o, c.predicateOf n = .ok o) ∧
    c.applyBody q ns = addPredicates q (c.predicatesOf (leavesOf ns)) := by
  rw [applyBody_eq_each] at hr ⊢
  rw [predicatesOf, List.filterMap_eq_flatMap_toList]
  refine ⟨fun n hn ↦ ?_,
    Run.each_eq_of_ok (f := fun n ↦ (c.predicateOf n).toOption.join.toList)
      (fun n _ q hq ↦ (applyAsLeaf_eq_of_ok hq).2) hr⟩
  obtain ⟨q', hq⟩ := Run.exists_ok_of_mem_each hr hn
  exact (applyAsLeaf_eq_of_ok hq).1

end FilterCatalog

end Listing
