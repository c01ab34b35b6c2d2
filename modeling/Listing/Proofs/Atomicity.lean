import Listing.Proofs.Recording
import Listing.Proofs.Success

namespace Listing

open Outcome

namespace Filter

variable {f : Filter} {raw : String} {e : QueryError}

/-- An error that is the fault of the value and names the filter's parameter. -/
structure Blames (f : Filter) (e : QueryError) : Prop where
  category : e.category = .value
  field : e.context.field = some f.param

theorem blames_of_allowedToken {allowed : List String} {token : String}
    (h : f.allowedToken allowed token = .error e) : f.Blames e := by
  unfold allowedToken at h
  split at h
  next => cases h
  next =>
    cases h
    exact ⟨rfl, rfl⟩

theorem blames_of_bound (h : f.bound raw = .error e) : f.Blames e := by
  unfold bound at h
  split at h
  next =>
    cases h
    exact ⟨rfl, rfl⟩
  next => cases h

theorem blames_of_nullCheck (h : f.nullCheck raw = .error e) : f.Blames e := by
  unfold nullCheck at h
  dsimp only at h
  split at h
  next => cases h
  next =>
    split at h
    next => cases h
    next =>
      cases h
      exact ⟨rfl, rfl⟩

theorem blames_of_sniffed (h : f.sniffed raw = .error e) : f.Blames e := by
  unfold sniffed at h
  split at h
  next => cases h
  next =>
    cases h
    exact ⟨rfl, rfl⟩

theorem blames_of_parse {spec : DateSpec} (h : spec.parse f.param raw = .error e) :
    f.Blames e := by
  unfold DateSpec.parse at h
  dsimp only at h
  split at h
  next => cases h
  next =>
    cases h
    exact ⟨rfl, rfl⟩

theorem blames_of_transform (h : f.transform raw = .error e) : f.Blames e := by
  unfold transform at h
  split at h
  next => exact blames_of_sniffed h
  next => cases h
  next => cases h
  next => exact blames_of_allowedToken (map_eq_error.1 h)
  next => exact blames_of_nullCheck (map_eq_error.1 h)
  next => exact blames_of_parse h
  next => cases h

theorem blames_of_enumerationPredicates {allowed : List String}
    (h : f.enumerationPredicates allowed raw = .error e) : f.Blames e := by
  unfold enumerationPredicates at h
  split at h
  next =>
    rcases bind_eq_error.1 h with h | ⟨tokens, -, h⟩
    · obtain ⟨-, token, -, -, -, -, ht⟩ := mapM_eq_error.1 h
      exact blames_of_allowedToken ht
    · split at h <;> cases h
  next =>
    rcases bind_eq_error.1 h with h | ⟨token, -, h⟩
    · exact blames_of_allowedToken h
    · cases h

theorem blames_of_dateSide {spec : DateSpec} {side : Option String}
    (h : f.dateSide spec side = .error e) : f.Blames e := by
  cases side with
  | none => cases h
  | some s => exact blames_of_parse (map_eq_error.1 h)

theorem blames_of_datePredicates {spec : DateSpec} (h : f.datePredicates spec raw = .error e) :
    f.Blames e := by
  unfold datePredicates at h
  split at h
  next =>
    rcases bind_eq_error.1 h with h | ⟨lo, -, h⟩
    · exact blames_of_dateSide h
    · rcases bind_eq_error.1 h with h | ⟨hi, -, h⟩
      · exact blames_of_dateSide h
      · cases h
  next =>
    rcases bind_eq_error.1 h with h | ⟨v, -, h⟩
    · exact blames_of_parse h
    · cases h

theorem blames_of_predicates (h : f.predicates raw = .error e) : f.Blames e := by
  unfold predicates at h
  split at h
  next => exact blames_of_sniffed (map_eq_error.1 h)
  next => cases h
  next => cases h
  next =>
    dsimp only at h
    split at h
    next =>
      cases h
      exact ⟨rfl, rfl⟩
    next => cases h
  next => exact blames_of_bound (map_eq_error.1 h)
  next => exact blames_of_bound (map_eq_error.1 h)
  next => split at h <;> cases h
  next =>
    split at h
    next =>
      cases h
      exact ⟨rfl, rfl⟩
    next => cases h
  next => exact blames_of_enumerationPredicates h
  next => exact blames_of_nullCheck (map_eq_error.1 h)
  next => exact blames_of_datePredicates h
  next => cases h

theorem apply_eq {β : Type} [ClauseBuilder β] (hf : f.kind.isCustom = false) (q : β)
    (raw : String) : f.apply q raw =
      match f.predicates raw with
      | .ok ps => addPredicates q ps
      | .error e => ⟨q, .error e⟩ := by
  unfold apply
  split
  next program hk =>
    rw [hk] at hf
    cases hf
  next => rfl

/-- A text stands for these predicates, and they are what a query is given for it. -/
structure Emits (f : Filter) (raw : String) (ps : List Predicate) : Prop where
  predicates_eq : f.predicates raw = .ok ps
  apply_eq_add (β : Type) [ClauseBuilder β] (q : β) : f.apply q raw = addPredicates q ps

/-- A text is no value of the filter, and a query is left as it is. -/
structure Refuses (f : Filter) (raw : String) (e : QueryError) : Prop where
  predicates_eq : f.predicates raw = .error e
  apply_eq_self (β : Type) [ClauseBuilder β] (q : β) : f.apply q raw = ⟨q, .error e⟩

theorem emits_iff {ps : List Predicate} (hf : f.kind.isCustom = false) :
    f.Emits raw ps ↔ f.predicates raw = .ok ps := by
  refine ⟨Emits.predicates_eq, fun h ↦ ⟨h, fun β _ q ↦ ?_⟩⟩
  rw [apply_eq hf, h]

theorem refuses_iff (hf : f.kind.isCustom = false) :
    f.Refuses raw e ↔ f.predicates raw = .error e := by
  refine ⟨Refuses.predicates_eq, fun h ↦ ⟨h, fun β _ q ↦ ?_⟩⟩
  rw [apply_eq hf, h]

end Filter

namespace FilterCatalog

/-- The text that a filter works on, unless it is ignored. -/
def activeText? (lookup : String → Option String) (f : Filter) : Option String :=
  (((lookup f.param).filter fun raw ↦ !Text.isBlankText raw).or f.defaultValue).filter
    fun raw ↦ !f.isIgnored raw

def active (c : FilterCatalog) (lookup : String → Option String) : List (Filter × String) :=
  c.filterMap fun f ↦ (activeText? lookup f).map (f, ·)

def readable (a : Filter × String) : Bool := (a.1.predicates a.2).isOk

/-- The predicates of the filters before the first that does not understand its text, each with the
filter that it comes from. -/
def made (as : List (Filter × String)) : List (Filter × Predicate) :=
  (as.takeWhile readable).flatMap fun a ↦ ((a.1.predicates a.2).toOption.getD []).map (a.1, ·)

def unreadable? (as : List (Filter × String)) : Option (Filter × String) :=
  as.find? fun a ↦ !readable a

def inNameOf (f : Filter) (e : QueryError) : QueryError :=
  e.withOperation ("Applying filter '" ++ f.param ++ "'")

def ending (as : List (Filter × String)) : Except QueryError Unit :=
  match unreadable? as with
  | none => .ok ()
  | some a => ((a.1.predicates a.2).map fun _ ↦ ()).mapError (inNameOf a.1)

theorem effective?_eq (f : Filter) (given : Option String) : effective? f given =
    (given.filter fun raw ↦ !Text.isBlankText raw).or f.defaultValue := by
  cases given with
  | none => rfl
  | some raw => by_cases hb : Text.isBlankText raw = true <;> simp [effective?, Option.filter, hb]

variable {β : Type} [ClauseBuilder β]

def applyActive (q : β) (a : Filter × String) : Run β Unit :=
  (a.1.apply q a.2).mapError (inNameOf a.1)

def addFor (q : β) (t : Filter × Predicate) : Run β Unit := (t.2.addTo q).mapError (inNameOf t.1)

theorem applyFilter_eq (lookup : String → Option String) (q : β) (f : Filter) :
    applyFilter lookup q f =
      match activeText? lookup f with
      | none => ⟨q, .ok ()⟩
      | some raw => applyActive q (f, raw) := by
  unfold applyFilter activeText?
  rw [← effective?_eq]
  cases effective? f (lookup f.param) with
  | none => rfl
  | some raw =>
    by_cases hi : f.isIgnored raw = true
    · simp [Option.filter, hi]
    · simp only [Option.filter, hi, applyActive]
      rfl

theorem applyLookup_eq_each_active (c : FilterCatalog) (q : β) (lookup : String → Option String) :
    c.applyLookup q lookup = Run.each applyActive q (c.active lookup) := by
  refine Run.each_filterMap (fun f _ hf q ↦ ?_) (fun f _ a hf q ↦ ?_) q
  · rw [applyFilter_eq, Option.map_eq_none_iff.1 hf]
  · obtain ⟨raw, hraw, rfl⟩ := Option.map_eq_some_iff.1 hf
    rw [applyFilter_eq, hraw]

theorem applyParams_singleton {f : Filter} {raw : String} (hb : Text.isBlankText raw = false)
    (hi : f.isIgnored raw = false) (q : β) : applyParams [f] q [(f.param, raw)] = applyActive q (f, raw) := by
  have ha : active [f] (Params.get? [(f.param, raw)]) = [(f, raw)] := by
    simp [active, activeText?, Params.get?, Option.filter, hb, hi]
  rw [applyParams, applyLookup_eq_each_active, ha, Run.each_singleton]

theorem each_applyActive {as : List (Filter × String)}
    (has : ∀ a ∈ as, a.1.kind.isCustom = false) (q : β) :
    Run.each applyActive q as = (Run.each addFor q (made as)).andThen fun q _ ↦ ⟨q, ending as⟩ := by
  induction as generalizing q with
  | nil => rfl
  | cons a as ih =>
    obtain ⟨ha, has⟩ := List.forall_mem_cons.1 has
    rw [Run.each, applyActive, Filter.apply_eq ha]
    cases hp : a.1.predicates a.2 with
    | error e => simp [made, ending, unreadable?, readable, hp, Except.isOk, Except.toBool,
        Run.mapError, Except.mapError, Except.map]
    | ok ps =>
      have hmade : made (a :: as) = ps.map (a.1, ·) ++ made as := by
        simp [made, readable, hp, Except.isOk, Except.toBool, Except.toOption]
      have hending : ending (a :: as) = ending as := by
        simp [ending, unreadable?, readable, hp, Except.isOk, Except.toBool]
      simp only [hmade, hending, Run.each_append, Run.andThen_assoc, Run.each_map, addPredicates,
        Run.mapError_each, ih has]
      rfl

variable {α : Type}

theorem each_addFor_of_ne {q : Recording α} {ts : List (Filter × Predicate)}
    (h : ∀ t ∈ ts, q.refused ≠ some t.2.field) :
    Run.each addFor q ts = ⟨q.recordAll (ts.map Prod.snd), .ok ()⟩ := by
  refine Recording.each_of_records_one fun t ht q' hq' ↦ ?_
  rw [addFor, Recording.addTo_of_ne (hq' ▸ h t ht)]
  rfl

theorem each_addFor_of_eq {q : Recording α} {before after : List (Filter × Predicate)}
    {t : Filter × Predicate} (h : ∀ t ∈ before, q.refused ≠ some t.2.field)
    (ht : q.refused = some t.2.field) : Run.each addFor q (before ++ t :: after) =
      ⟨q.recordAll (before.map Prod.snd), .error (inNameOf t.1 (Recording.refusal t.2))⟩ := by
  have ht' : (q.recordAll (before.map Prod.snd)).refused = some t.2.field := ht
  rw [Run.each_append, each_addFor_of_ne h, Run.andThen_ok, Run.each, addFor,
    Recording.addTo_of_eq ht']
  rfl

/-- A filter that cannot read its text records nothing, and a recording that refuses a field keeps
what came before the first predicate on it. -/
theorem applyParams_records_before_failure {c : FilterCatalog}
    (hc : ∀ f ∈ c, f.kind.isCustom = false) (params : Params) (q : Recording α) :
    let as := c.active params.get?
    let r := c.applyParams q params
    (∃ before f p after, made as = before ++ (f, p) :: after ∧
      (∀ t ∈ before, q.refused ≠ some t.2.field) ∧ q.refused = some p.field ∧
      r.state = q.recordAll (before.map Prod.snd) ∧
      ∃ e, r.result = .error e ∧ e.category = .backend ∧
        e.context.operation = some ("Applying filter '" ++ f.param ++ "'")) ∨
    (∀ t ∈ made as, q.refused ≠ some t.2.field) ∧
      r.state = q.recordAll ((made as).map Prod.snd) ∧
      (unreadable? as = none ∧ r.result = .ok () ∨
        ∃ f raw e, unreadable? as = some (f, raw) ∧ f.predicates raw = .error e ∧ f.Blames e ∧
          r.result = .error (e.withOperation ("Applying filter '" ++ f.param ++ "'"))) := by
  intro as r
  have has : ∀ a ∈ as, a.1.kind.isCustom = false := by
    intro a ha
    obtain ⟨f, hf, ha⟩ := List.mem_filterMap.1 ha
    obtain ⟨raw, -, rfl⟩ := Option.map_eq_some_iff.1 ha
    exact hc f hf
  have hr : r = (Run.each addFor q (made as)).andThen fun q _ ↦ ⟨q, ending as⟩ := by
    rw [← each_applyActive has]
    exact c.applyLookup_eq_each_active q params.get?
  cases hf : (made as).find? fun t ↦ q.refused = some t.2.field with
  | some t =>
    obtain ⟨ht, before, after, hm, hb⟩ := List.find?_eq_some_iff_append.1 hf
    have ht : q.refused = some t.2.field := by simpa using ht
    have hb : ∀ t ∈ before, q.refused ≠ some t.2.field := fun t h ↦ by simpa using hb t h
    rw [hm, each_addFor_of_eq hb ht, Run.andThen_error] at hr
    rw [hr]
    exact .inl ⟨before, t.1, t.2, after, hm, hb, ht, rfl, _, rfl, rfl, rfl⟩
  | none =>
    have hm : ∀ t ∈ made as, q.refused ≠ some t.2.field := fun t h ↦ by
      simpa using List.find?_eq_none.1 hf t h
    rw [each_addFor_of_ne hm, Run.andThen_ok] at hr
    rw [hr]
    refine .inr ⟨hm, rfl, ?_⟩
    cases hu : unreadable? as with
    | none => exact .inl ⟨rfl, by simp [ending, hu]⟩
    | some a =>
      have ha : readable a = false := by simpa using List.find?_some hu
      cases hp : a.1.predicates a.2 with
      | ok ps => simp [readable, hp, Except.isOk, Except.toBool] at ha
      | error e =>
        refine .inr ⟨a.1, a.2, e, rfl, hp, Filter.blames_of_predicates hp, ?_⟩
        simp only [ending, hu, hp]
        rfl

theorem applyParams_records_before_failure_bad_date :
    let c : FilterCatalog := [.ofKind "q" (.search ["name", "mail"] .final),
      { Filter.ofKind "status" .exact with defaultValue := some "ACTIVE" },
      (Filter.ofKind "kind" .exact).withIgnored ["ALL"],
      .ofKind "at" (.date ⟨.date, none⟩), .ofKind "age" .comparison]
    let params : Params :=
      [("age", ">18"), ("at", "2024-01-01|soon"), ("kind", " ALL "), ("status", " "), ("q", "jo")]
    let as := c.active params.get?
    let told : List Predicate := [.and "name" .like (.string "jo%"), .or "mail" .like (.string "jo%"),
      .and "status" .equal (.string "ACTIVE")]
    let q : Recording Unit := { refused := some "age" }
    let q' : Recording Unit := { refused := some "mail" }
    (∀ f ∈ c, f.kind.isCustom = false) ∧ (made as).map Prod.snd = told ∧
    (c.applyParams q params).state = q.recordAll told ∧
    (∃ f raw e, unreadable? as = some (f, raw) ∧ f.predicates raw = .error e ∧ f.Blames e ∧
      (c.applyParams q params).result =
        .error (e.withOperation ("Applying filter '" ++ f.param ++ "'"))) ∧
    (c.applyParams q' params).state = q'.recordAll [.and "name" .like (.string "jo%")] ∧
    ∃ before f p after, made as = before ++ (f, p) :: after ∧ q'.refused = some p.field ∧
      (c.applyParams q' params).state = q'.recordAll (before.map Prod.snd) ∧
      ∃ e, (c.applyParams q' params).result = .error e ∧ e.category = .backend ∧
        e.context.operation = some ("Applying filter '" ++ f.param ++ "'") := by
  intro c params as told q q'
  have hc : ∀ f ∈ c, f.kind.isCustom = false := by decide
  have hmade : (made as).map Prod.snd = told := by rfl
  refine ⟨hc, hmade, by rfl, ?_, by rfl, ?_⟩
  · rcases applyParams_records_before_failure hc params q with
      ⟨before, f, p, after, hm, -, hp, -⟩ | ⟨-, -, ⟨hu, -⟩ | hu⟩
    · have ht : p ∈ told := by
        rw [← hmade]
        exact List.mem_map.2 ⟨(f, p), by rw [hm]; simp, rfl⟩
      have hage : ∀ p ∈ told, q.refused ≠ some p.field := by decide
      exact absurd hp (hage p ht)
    · have hsome : (unreadable? as).isSome = true := by decide +kernel
      rw [hu] at hsome
      cases hsome
    · exact hu
  · rcases applyParams_records_before_failure hc params q' with
      ⟨before, f, p, after, hm, -, hp, hs, he⟩ | ⟨hne, -⟩
    · exact ⟨before, f, p, after, hm, hp, hs, he⟩
    · have ht : Predicate.or "mail" .like (.string "jo%") ∈ (made as).map Prod.snd := by
        rw [hmade]
        simp [told]
      obtain ⟨t, ht, hp⟩ := List.mem_map.1 ht
      exact absurd (by rw [hp]; rfl) (hne t ht)

end FilterCatalog

end Listing
