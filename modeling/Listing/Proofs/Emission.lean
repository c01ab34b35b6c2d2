import Listing.Filter.Reading
import Listing.Proofs.Outcome

namespace Listing

open Outcome

namespace Value

mutual

def strings : Value → List String
  | string s => [s]
  | list items => stringsOf items
  | _ => []

def stringsOf : List Value → List String
  | [] => []
  | v :: r => strings v ++ stringsOf r

end

theorem mem_stringsOf {s : String} {vs : List Value} :
    s ∈ stringsOf vs ↔ ∃ v ∈ vs, s ∈ v.strings := by
  induction vs with
  | nil => simp [stringsOf]
  | cons v vs ih => simp [stringsOf, ih]

end Value

namespace Filter

variable {f : Filter}

def Compares (f : Filter) (field : String) : Prop :=
  field = f.internalName ∨ ∃ fields strategy, f.kind = .search fields strategy ∧ field ∈ fields

/-- A filter with declared constants uses no other strings. -/
def Declares (f : Filter) (v : Value) : Prop :=
  ∀ allowed, f.kind = .enumeration allowed → ∀ s ∈ v.strings, s ∈ allowed

theorem declares_of_strings_eq_nil {v : Value} (h : v.strings = []) : f.Declares v := by
  intro _ _ s hs
  rw [h] at hs
  cases hs

theorem declares_list {vs : List Value} (h : ∀ v ∈ vs, f.Declares v) :
    f.Declares (.list vs) := by
  intro allowed hk s hs
  rw [Value.strings, Value.mem_stringsOf] at hs
  obtain ⟨v, hv, hs⟩ := hs
  exact h v hv allowed hk s hs

theorem allowedToken_eq_ok {allowed : List String} {token s : String} :
    f.allowedToken allowed token = .ok s ↔ token = s ∧ s ∈ allowed := by
  unfold allowedToken
  constructor
  · intro h
    split at h
    next hc =>
      cases h
      exact ⟨rfl, List.contains_iff_mem.1 hc⟩
    next => cases h
  · rintro ⟨rfl, hc⟩
    rw [if_pos (List.contains_iff_mem.2 hc)]

theorem declares_string {allowed : List String} {s : String} (hk : f.kind = .enumeration allowed)
    (h : s ∈ allowed) : f.Declares (.string s) := by
  intro allowed' hk' t ht
  rw [hk] at hk'
  cases hk'
  rw [Value.strings, List.mem_singleton] at ht
  exact ht ▸ h

theorem declares_of_transform {raw : String} {v : Value} (h : f.transform raw = .ok v) :
    f.Declares v := by
  intro allowed hk
  unfold transform at h
  rw [hk] at h
  obtain ⟨s, hs, rfl⟩ := map_eq_ok.1 h
  exact declares_string hk (allowedToken_eq_ok.1 hs).2 allowed hk

theorem mem_distinct {s : String} {texts : List String} : s ∈ distinct texts ↔ s ∈ texts := by
  induction texts with
  | nil => exact Iff.rfl
  | cons t r ih =>
    rw [distinct, List.mem_cons, List.mem_cons, List.mem_filter, ih, bne_iff_ne]
    by_cases h : s = t <;> simp [h]

theorem mapM_allowedToken {allowed tokens accepted : List String}
    (h : tokens.mapM (f.allowedToken allowed) = .ok accepted) :
    tokens = accepted ∧ ∀ s ∈ tokens, s ∈ allowed := by
  have hf := (mapM_eq_ok.1 h).imp fun _ _ ↦ allowedToken_eq_ok.1
  have heq : tokens = accepted := by
    rw [← List.forall₂_eq_eq_eq]
    exact hf.imp fun _ _ ↦ And.left
  subst heq
  refine ⟨rfl, fun s hs ↦ ?_⟩
  obtain ⟨token, -, ht⟩ := exists_of_mem_mapM h hs
  exact (allowedToken_eq_ok.1 ht).2

theorem enumerationPredicates_eq_ok {allowed : List String} {raw : String} {ps : List Predicate}
    (h : f.enumerationPredicates allowed raw = .ok ps) :
    (',' ∈ raw.toList ∧ (∀ s ∈ Shorthand.list "," raw, s ∈ allowed) ∧
      ps = if (Shorthand.list "," raw).isEmpty then []
        else [f.own .among (.list ((distinct (Shorthand.list "," raw)).map .string))]) ∨
    ',' ∉ raw.toList ∧ Text.trim raw ∈ allowed ∧ ps = [f.own .equal (.string (Text.trim raw))] := by
  unfold enumerationPredicates at h
  split at h
  next hc =>
    obtain ⟨tokens, ht, h⟩ := bind_eq_ok.1 h
    obtain ⟨rfl, hall⟩ := mapM_allowedToken ht
    refine .inl ⟨hc, hall, ?_⟩
    split at h
    next he =>
      rw [if_pos he]
      exact (Except.ok.inj h).symm
    next he =>
      rw [if_neg he]
      exact (Except.ok.inj h).symm
  next hc =>
    obtain ⟨s, hs, h⟩ := bind_eq_ok.1 h
    obtain ⟨rfl, hs⟩ := allowedToken_eq_ok.1 hs
    exact .inr ⟨hc, hs, (Except.ok.inj h).symm⟩

theorem declares_of_enumerationPredicates {allowed : List String} {raw : String}
    {ps : List Predicate} (hk : f.kind = .enumeration allowed)
    (h : f.enumerationPredicates allowed raw = .ok ps) : ∀ p ∈ ps, f.Declares p.value := by
  intro p hp
  rcases enumerationPredicates_eq_ok h with ⟨-, hall, rfl⟩ | ⟨-, hs, rfl⟩
  · split at hp
    next => cases hp
    next =>
      rw [List.mem_singleton.1 hp]
      refine declares_list fun v hv ↦ ?_
      obtain ⟨s, hs, rfl⟩ := List.mem_map.1 hv
      exact declares_string hk (hall s (mem_distinct.1 hs))
  · rw [List.mem_singleton.1 hp]
    exact declares_string hk hs

theorem declares_of_mem_predicates {raw : String} {ps : List Predicate}
    (h : f.predicates raw = .ok ps) : ∀ p ∈ ps, f.Declares p.value := by
  intro p hp allowed hk
  unfold predicates at h
  rw [hk] at h
  exact declares_of_enumerationPredicates hk h p hp allowed hk

/-- A predicate on the field of its filter that joins others with AND; if it has a list, that is not
empty. -/
structure IsOwn (f : Filter) (p : Predicate) : Prop where
  eq : p = f.own p.operator p.value
  members_ne_nil : p.operator.takesList = true → p.value.members ≠ []

theorem isOwn_of_mem_singleton {o : Operator} {v : Value}
    (h : o.takesList = true → v.members ≠ []) : ∀ p ∈ [f.own o v], f.IsOwn p := by
  intro p hp
  rw [List.mem_singleton.1 hp]
  exact ⟨rfl, h⟩

theorem isOwn_of_mem_sides (r : Option Value × Option Value) : ∀ p ∈ f.sides r, f.IsOwn p := by
  intro p hp
  rcases r with ⟨lo, hi⟩
  rcases List.mem_append.1 hp with hp | hp
  · obtain ⟨v, -, rfl⟩ := Option.map_eq_some_iff.1 (Option.mem_toList.1 hp)
    exact ⟨rfl, nofun⟩
  · obtain ⟨v, -, rfl⟩ := Option.map_eq_some_iff.1 (Option.mem_toList.1 hp)
    exact ⟨rfl, nofun⟩

theorem comparisonOperator_mem (raw : String) :
    Shorthand.comparisonOperator raw ∈ .equal :: Shorthand.comparisonMarks.map Prod.snd := by
  unfold Shorthand.comparisonOperator
  split
  next o hm =>
    exact List.mem_cons_of_mem _ (List.mem_map_of_mem (List.mem_of_find?_eq_some hm))
  next => exact List.mem_cons_self

theorem scalar_comparisonOperator (raw : String) :
    (Shorthand.comparisonOperator raw).isNullCheck = false ∧
      (Shorthand.comparisonOperator raw).takesList = false := by
  have h : ∀ o ∈ Operator.equal :: Shorthand.comparisonMarks.map Prod.snd,
      o.isNullCheck = false ∧ o.takesList = false := by decide
  exact h _ (comparisonOperator_mem raw)

theorem comparisonOperator_ne_between (raw : String) :
    Shorthand.comparisonOperator raw ≠ .between := by
  have h : ∀ o ∈ Operator.equal :: Shorthand.comparisonMarks.map Prod.snd, o ≠ .between := by
    decide
  exact h _ (comparisonOperator_mem raw)

theorem isNullCheck_of_nullCheck {raw : String} {o : Operator} (h : f.nullCheck raw = .ok o) :
    o.isNullCheck = true := by
  unfold nullCheck at h
  dsimp only at h
  split at h
  next => cases h; rfl
  next =>
    split at h
    next => cases h; rfl
    next => cases h

theorem distinct_ne_nil {texts : List String} (h : texts ≠ []) : distinct texts ≠ [] := by
  cases texts with
  | nil => exact absurd rfl h
  | cons s r => exact List.cons_ne_nil _ _

theorem isOwn_of_mem_enumerationPredicates {allowed : List String} {raw : String}
    {ps : List Predicate} (h : f.enumerationPredicates allowed raw = .ok ps) :
    ∀ p ∈ ps, f.IsOwn p := by
  rcases enumerationPredicates_eq_ok h with ⟨-, -, rfl⟩ | ⟨-, -, rfl⟩
  · split
    next => exact nofun
    next hne =>
      refine isOwn_of_mem_singleton fun _ hnil ↦ hne ?_
      rw [Value.members, List.map_eq_nil_iff] at hnil
      exact List.isEmpty_iff.2 (Classical.not_not.1 fun ht ↦ distinct_ne_nil ht hnil)
  · exact isOwn_of_mem_singleton nofun

theorem datePredicates_eq_ok {spec : DateSpec} {raw : String} {ps : List Predicate}
    (h : f.datePredicates spec raw = .ok ps) :
    (∃ first last lo hi, Shorthand.range? raw = some (first, last) ∧
      f.dateSide spec first = .ok lo ∧ f.dateSide spec last = .ok hi ∧ ps = f.sides (lo, hi)) ∨
    Shorthand.range? raw = none ∧ ∃ v, spec.parse f.param (Shorthand.withoutMark raw) = .ok v ∧
      ps = [f.own (Shorthand.comparisonOperator raw) v] := by
  unfold datePredicates at h
  split at h
  next first last hr =>
    obtain ⟨lo, hlo, h⟩ := bind_eq_ok.1 h
    obtain ⟨hi, hhi, h⟩ := bind_eq_ok.1 h
    exact .inl ⟨first, last, lo, hi, hr, hlo, hhi, (Except.ok.inj h).symm⟩
  next hr =>
    obtain ⟨v, hv, h⟩ := bind_eq_ok.1 h
    exact .inr ⟨hr, v, hv, (Except.ok.inj h).symm⟩

theorem isOwn_of_mem_datePredicates {spec : DateSpec} {raw : String} {ps : List Predicate}
    (h : f.datePredicates spec raw = .ok ps) : ∀ p ∈ ps, f.IsOwn p := by
  rcases datePredicates_eq_ok h with ⟨first, last, lo, hi, -, -, -, rfl⟩ | ⟨-, v, -, rfl⟩
  · exact isOwn_of_mem_sides (lo, hi)
  · refine isOwn_of_mem_singleton fun ht ↦ ?_
    rw [(scalar_comparisonOperator raw).2] at ht
    cases ht

/-- Only searches compare other fields or join with OR. -/
theorem isOwn_of_mem_predicates {raw : String} {ps : List Predicate}
    (hs : ∀ fields strategy, f.kind ≠ .search fields strategy) (h : f.predicates raw = .ok ps) :
    ∀ p ∈ ps, f.IsOwn p := by
  unfold predicates at h
  cases hk : f.kind with
  | search fields strategy => exact absurd hk (hs fields strategy)
  | custom program =>
    rw [hk] at h
    cases h
    exact fun p hp ↦ nomatch hp
  | partialMatch strategy =>
    rw [hk] at h
    cases h
    exact isOwn_of_mem_singleton nofun
  | exact =>
    rw [hk] at h
    obtain ⟨v, -, rfl⟩ := map_eq_ok.1 h
    exact isOwn_of_mem_singleton nofun
  | greater orEqual | less orEqual =>
    rw [hk] at h
    obtain ⟨v, -, rfl⟩ := map_eq_ok.1 h
    cases orEqual <;> exact isOwn_of_mem_singleton nofun
  | isNull =>
    rw [hk] at h
    obtain ⟨o, ho, rfl⟩ := map_eq_ok.1 h
    refine isOwn_of_mem_singleton fun ht ↦ ?_
    rw [Operator.takesList_of_isNullCheck (isNullCheck_of_nullCheck ho)] at ht
    cases ht
  | comparison =>
    rw [hk] at h
    simp only at h
    split at h
    next => cases h
    next =>
      cases h
      refine isOwn_of_mem_singleton fun ht ↦ ?_
      rw [Shorthand.comparison, (scalar_comparisonOperator raw).2] at ht
      cases ht
  | interval =>
    rw [hk] at h
    simp only at h
    split at h
    next =>
      cases h
      exact isOwn_of_mem_singleton nofun
    next lo hi _ =>
      cases h
      exact isOwn_of_mem_sides _
  | among delimiter =>
    rw [hk] at h
    simp only at h
    split at h
    next => cases h
    next hne =>
      cases h
      exact isOwn_of_mem_singleton fun _ ↦ List.map_eq_nil_iff.not.2 hne
  | enumeration allowed =>
    rw [hk] at h
    exact isOwn_of_mem_enumerationPredicates h
  | date spec =>
    rw [hk] at h
    exact isOwn_of_mem_datePredicates h

theorem search_or_isOwn_of_predicates {raw : String} {ps : List Predicate}
    (h : f.predicates raw = .ok ps) :
    (∃ fields strategy, f.kind = .search fields strategy ∧
      ps = searchPredicates (strategy.pattern raw) fields) ∨
    (∀ fields strategy, f.kind ≠ .search fields strategy) ∧ ∀ p ∈ ps, f.IsOwn p := by
  by_cases hs : ∃ fields strategy, f.kind = .search fields strategy
  · obtain ⟨fields, strategy, hk⟩ := hs
    unfold predicates at h
    rw [hk] at h
    exact .inl ⟨fields, strategy, hk, (Except.ok.inj h).symm⟩
  · have hs : ∀ fields strategy, f.kind ≠ .search fields strategy :=
      fun fields strategy hk ↦ hs ⟨fields, strategy, hk⟩
    exact .inr ⟨hs, isOwn_of_mem_predicates hs h⟩

theorem field_of_mem_searchPredicates {pattern : String} {fields : List String} {p : Predicate}
    (h : p ∈ searchPredicates pattern fields) : p.field ∈ fields := by
  cases fields with
  | nil => cases h
  | cons g r =>
    rw [searchPredicates] at h
    rcases List.mem_cons.1 h with rfl | h
    · exact List.mem_cons_self
    · obtain ⟨g', hg', rfl⟩ := List.mem_map.1 h
      exact List.mem_cons_of_mem g hg'

theorem compares_of_mem_predicates {raw : String} {ps : List Predicate}
    (h : f.predicates raw = .ok ps) : ∀ p ∈ ps, f.Compares p.field := by
  intro p hp
  rcases search_or_isOwn_of_predicates h with ⟨fields, strategy, hk, rfl⟩ | ⟨-, ho⟩
  · exact .inr ⟨fields, strategy, hk, field_of_mem_searchPredicates hp⟩
  · exact .inl (congrArg Predicate.field (ho p hp).eq)

end Filter

end Listing
