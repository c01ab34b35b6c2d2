import Listing.Proofs.Acceptance
import Listing.Proofs.Text

namespace Listing

open Outcome Text

namespace Filter

def boundOperator? (f : Filter) : Option Operator :=
  match f.kind with
  | .greater orEqual => some (if orEqual then .greaterOrEqual else .greater)
  | .less orEqual => some (if orEqual then .lessOrEqual else .less)
  | _ => none

def HasBlankDefault (f : Filter) : Prop :=
  ∃ text, f.defaultValue = some text ∧ isBlankText text = true ∧ f.isIgnored text = false

variable {f : Filter} {raw : String} {o : Operator}

theorem bound_eq (f : Filter) (raw : String) : f.bound raw =
    if isBlankText raw then .error (Problem.emptyValue f.param f.kind.name).toError
    else .ok (Value.ofNumeral (trim raw)) := by
  rw [bound, isEmpty_trim]

theorem predicates_of_boundOperator? (h : f.boundOperator? = some o) (raw : String) :
    f.predicates raw = (f.bound raw).map fun v ↦ [f.own o v] := by
  unfold boundOperator? at h
  unfold predicates
  split at h
  next hk =>
    rw [hk]
    cases h
    rfl
  next hk =>
    rw [hk]
    cases h
    rfl
  next => cases h

theorem isCustom_of_boundOperator? (h : f.boundOperator? = some o) : f.kind.isCustom = false := by
  unfold boundOperator? at h
  cases hk : f.kind with
  | custom program => simp [hk] at h
  | _ => rfl

theorem emits_bound (h : f.boundOperator? = some o) (hb : isBlankText raw = false) :
    f.Emits raw [f.own o (Value.ofNumeral (trim raw))] := by
  rw [emits_iff (isCustom_of_boundOperator? h), predicates_of_boundOperator? h, bound_eq, hb]
  rfl

theorem refuses_bound_iff (h : f.boundOperator? = some o) :
    f.Refuses raw (Problem.emptyValue f.param f.kind.name).toError ↔ isBlankText raw = true := by
  rw [refuses_iff (isCustom_of_boundOperator? h), predicates_of_boundOperator? h, bound_eq]
  cases isBlankText raw <;> simp [Except.map]

end Filter

namespace FilterCatalog

variable {c : FilterCatalog} {f : Filter} {raw : String} {lookup : String → Option String}

/-- What a filter is applied to: a text that is given and not blank, else its default as it is. -/
inductive Reaches (lookup : String → Option String) (f : Filter) (raw : String) : Prop
  | given (h : lookup f.param = some raw) (hb : isBlankText raw = false)
  | default (h : f.defaultValue = some raw)
      (hb : ∀ text, lookup f.param = some text → isBlankText text = true)

theorem effective?_eq_some_iff :
    effective? f (lookup f.param) = some raw ↔ Reaches lookup f raw := by
  constructor
  · intro h
    unfold effective? at h
    split at h
    next text hl =>
      split at h
      next hb =>
        refine .default h fun text' ht ↦ ?_
        rw [hl] at ht
        cases ht
        exact hb
      next hb =>
        cases h
        exact .given hl (by simpa using hb)
    next hl =>
      refine .default h fun text ht ↦ ?_
      rw [hl] at ht
      cases ht
  · intro h
    cases h with
    | given h hb => simp [effective?, h, hb]
    | default h hb =>
      cases hl : lookup f.param with
      | none => exact h
      | some text =>
        simp only [effective?, hb text hl, if_true]
        exact h

theorem mem_active_iff : (f, raw) ∈ c.active lookup ↔
    f ∈ c ∧ Reaches lookup f raw ∧ f.isIgnored raw = false := by
  have ha (g : Filter) : activeText? lookup g = some raw ↔
      Reaches lookup g raw ∧ g.isIgnored raw = false := by
    rw [activeText?, ← effective?_eq, Option.filter_eq_some_iff, effective?_eq_some_iff]
    simp
  simp only [active, List.mem_filterMap, Option.map_eq_some_iff, Prod.mk.injEq]
  constructor
  · rintro ⟨g, hg, text, ht, rfl, rfl⟩
    exact ⟨hg, (ha g).1 ht⟩
  · intro h
    exact ⟨f, h.1, raw, (ha f).2 h.2, rfl, rfl⟩

theorem Reaches.of_isBlankText (h : Reaches lookup f raw) (hb : isBlankText raw = true) :
    f.defaultValue = some raw ∧ ∀ text, lookup f.param = some text → isBlankText text = true := by
  cases h with
  | given _ hn =>
    rw [hb] at hn
    cases hn
  | default h hd => exact ⟨h, hd⟩

/-- No parameters bring a blank text to a filter of a catalog unless the catalog itself does. -/
theorem forall_active_iff (c : FilterCatalog) :
    (∀ lookup, ∀ a ∈ c.active lookup, isBlankText a.2 = false) ↔ ∀ f ∈ c, ¬ f.HasBlankDefault := by
  constructor
  · rintro h f hf ⟨text, hd, hb, hi⟩
    have hr : Reaches (fun _ ↦ none) f text := .default hd (by simp)
    have ha := h _ (f, text) (mem_active_iff.2 ⟨hf, hr, hi⟩)
    rw [hb] at ha
    cases ha
  · intro h lookup a ha
    obtain ⟨hf, hr, hi⟩ := mem_active_iff.1 ha
    by_contra hb
    rw [Bool.not_eq_false] at hb
    exact h a.1 hf ⟨a.2, (hr.of_isBlankText hb).1, hb, hi⟩

variable {α : Type}

theorem unreadable?_eq_none_iff {as : List (Filter × String)} :
    unreadable? as = none ↔ ∀ a ∈ as, readable a = true := by
  simp [unreadable?]

theorem ending_eq_ok_iff {as : List (Filter × String)} :
    ending as = .ok () ↔ ∀ a ∈ as, readable a = true := by
  rw [← unreadable?_eq_none_iff, ending]
  cases hu : unreadable? as with
  | none => simp
  | some a =>
    have ha : readable a = false := by simpa using List.find?_some hu
    cases hp : a.1.predicates a.2 with
    | ok ps => simp [readable, hp, Except.isOk, Except.toBool] at ha
    | error e => simp [hp, Except.map, Except.mapError]

theorem result_applyLookup {q : Recording α} (hc : ∀ f ∈ c, f.kind.isCustom = false)
    (hq : q.refused = none) : (c.applyLookup q lookup).result = ending (c.active lookup) := by
  rw [applyLookup_eq_each_made hc, each_addFor_of_ne (by simp [hq])]
  rfl

theorem readable_iff {o : Operator} (h : f.boundOperator? = some o) :
    readable (f, raw) = true ↔ isBlankText raw = false := by
  cases hb : isBlankText raw with
  | false => simp [readable, (Filter.emits_bound h hb).predicates_eq, Except.isOk, Except.toBool]
  | true =>
    simp [readable, ((Filter.refuses_bound_iff h).2 hb).predicates_eq, Except.isOk, Except.toBool]

/-- A blank text is what a filter is applied to only if it is its default. A filter with one bound
does not understand such a text and understands every other. -/
theorem blanks_come_from_defaults (c : FilterCatalog) :
    (∀ lookup, (∀ (β : Type) [ClauseBuilder β] (q : β),
        c.applyLookup q lookup = Run.each applyActive q (c.active lookup)) ∧
      (∀ f raw, (f, raw) ∈ c.active lookup ↔
        f ∈ c ∧ Reaches lookup f raw ∧ f.isIgnored raw = false) ∧
      ∀ f raw o, (f, raw) ∈ c.active lookup → f.boundOperator? = some o →
        (isBlankText raw = false → f.Emits raw [f.own o (Value.ofNumeral (trim raw))]) ∧
        (f.Refuses raw (Problem.emptyValue f.param f.kind.name).toError ↔
          isBlankText raw = true) ∧
        (isBlankText raw = true → f.HasBlankDefault ∧ f.defaultValue = some raw ∧
          ∀ text, lookup f.param = some text → isBlankText text = true)) ∧
    ((∀ lookup, ∀ a ∈ c.active lookup, isBlankText a.2 = false) ↔
      ∀ f ∈ c, ¬ f.HasBlankDefault) ∧
    ((∀ f ∈ c, f.boundOperator?.isSome = true) →
      ∀ lookup (q : Recording α), q.refused = none →
        ((c.applyLookup q lookup).result = .ok () ↔
          ∀ a ∈ c.active lookup, isBlankText a.2 = false)) := by
  refine ⟨fun lookup ↦ ⟨fun β _ q ↦ c.applyLookup_eq_each_active q lookup,
    fun f raw ↦ mem_active_iff, fun f raw o ha ho ↦ ?_⟩, forall_active_iff c, ?_⟩
  · obtain ⟨-, hr, hi⟩ := mem_active_iff.1 ha
    refine ⟨Filter.emits_bound ho, Filter.refuses_bound_iff ho, fun hb ↦ ?_⟩
    obtain ⟨hd, hgiven⟩ := hr.of_isBlankText hb
    exact ⟨⟨raw, hd, hb, hi⟩, hd, hgiven⟩
  · intro hbounds lookup q hq
    have hcustom : ∀ f ∈ c, f.kind.isCustom = false := by
      intro f hf
      obtain ⟨o, ho⟩ := Option.isSome_iff_exists.1 (hbounds f hf)
      exact Filter.isCustom_of_boundOperator? ho
    rw [result_applyLookup hcustom hq, ending_eq_ok_iff]
    refine forall₂_congr fun a ha ↦ ?_
    obtain ⟨o, ho⟩ := Option.isSome_iff_exists.1 (hbounds a.1 (mem_active_iff.1 ha).1)
    exact readable_iff ho

theorem blanks_come_from_defaults_blank_parameters :
    let age : Filter := { Filter.ofKind "age" (.greater false) with defaultValue := some "18" }
    let size : Filter :=
      { Filter.ofKind "size" (.less true) with defaultValue := some " ", ignored := [""] }
    let params : Params := [("age", "\t"), ("size", "")]
    let q : Recording Unit := {}
    (applyParams [age, size] q params).result = .ok () ∧
    active [age, size] params.get? = [(age, "18")] ∧
    age.Emits "18" [.and "age" .greater (Value.ofNumeral "18")] := by
  intro age size params q
  obtain ⟨hreach, hiff, hrun⟩ := blanks_come_from_defaults (α := Unit) [age, size]
  have hdefaults : ∀ f ∈ [age, size], ¬ f.HasBlankDefault := by
    intro f hf ⟨text, hd, hb, hi⟩
    simp only [List.mem_cons, List.not_mem_nil, or_false] at hf
    obtain rfl | rfl := hf
    · cases hd
      exact absurd hb (by decide)
    · cases hd
      exact absurd hi (by decide)
  have hactive : active [age, size] params.get? = [(age, "18")] := by rfl
  have hbounds : ∀ f ∈ [age, size], f.boundOperator?.isSome = true :=
    List.forall_mem_cons.2 ⟨rfl, List.forall_mem_singleton.2 rfl⟩
  have hok := (hrun hbounds params.get? q rfl).2 (hiff.2 hdefaults params.get?)
  obtain ⟨-, -, hbound⟩ := hreach params.get?
  have hage : (age, "18") ∈ active [age, size] params.get? := by
    rw [hactive]
    exact List.mem_singleton_self _
  exact ⟨hok, hactive, (hbound age "18" .greater hage rfl).1 (by decide)⟩

/-- A blank default is applied when there is no parameter, and an error is what comes of it. -/
theorem blank_default_reaches_bound :
    let f : Filter := { Filter.ofKind "age" (.greater false) with defaultValue := some "  " }
    let q : Recording Unit := {}
    active [f] (Params.get? []) = [(f, "  ")] ∧ isBlankText "  " = true ∧
    (applyParams [f] q []).result =
      .error (inNameOf f (Problem.emptyValue "age" "greater").toError) := by
  intro f q
  exact ⟨by rfl, by decide, by rfl⟩

end FilterCatalog

end Listing
