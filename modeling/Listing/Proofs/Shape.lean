import Listing.Proofs.Whitelist

namespace Listing

open Outcome

namespace Value

def isScalar : Value → Bool
  | null => false
  | list _ => false
  | _ => true

theorem isScalar_of_sniff? {raw : String} {v : Value} (h : sniff? raw = some v) :
    v.isScalar = true := by
  unfold sniff? at h
  dsimp only at h
  split at h
  next => cases h; rfl
  split at h
  next => cases h; rfl
  split at h
  next =>
    split at h
    next =>
      obtain ⟨n, -, rfl⟩ := Option.map_eq_some_iff.1 h
      rfl
    next =>
      obtain ⟨n, -, rfl⟩ := Option.map_eq_some_iff.1 h
      rfl
  split at h
  next => split at h <;> cases h <;> rfl
  next => cases h; rfl

theorem isScalar_ofNumeral (raw : String) : (ofNumeral raw).isScalar = true := by
  unfold ofNumeral
  dsimp only
  split
  next => split <;> rfl
  next =>
    split
    next => rfl
    next => split <;> [skip; split] <;> rfl

end Value

/-- The values that suit an operator: null for a null check, a list of scalars for a list operator
and a scalar for any other. -/
inductive Operator.Takes : Operator → Value → Prop
  | nothing {o : Operator} (h : o.isNullCheck = true) : Takes o .null
  | items {o : Operator} {vs : List Value} (h : o.takesList = true)
    (hv : ∀ v ∈ vs, v.isScalar = true) : Takes o (.list vs)
  | scalar {o : Operator} {v : Value} (hn : o.isNullCheck = false) (hl : o.takesList = false)
    (hv : v.isScalar = true) : Takes o v

theorem Operator.Takes.isScalar {o : Operator} {v : Value} (h : o.Takes v)
    (hn : o.isNullCheck = false) (hl : o.takesList = false) : v.isScalar = true := by
  cases h with
  | nothing hn' => exact absurd (hn.symm.trans hn') nofun
  | items hl' => exact absurd (hl.symm.trans hl') nofun
  | scalar _ _ hv => exact hv

theorem DateSpec.isScalar_of_parse {spec : DateSpec} {param raw : String} {v : Value}
    (h : spec.parse param raw = .ok v) : v.isScalar = true := by
  unfold parse at h
  dsimp only at h
  split at h
  next v' hr =>
    cases h
    unfold read? at hr
    split at hr
    next =>
      obtain ⟨d, -, rfl⟩ := Option.map_eq_some_iff.1 hr
      rfl
    next =>
      obtain ⟨t, -, rfl⟩ := Option.map_eq_some_iff.1 hr
      rfl
    next =>
      split at hr
      next => cases hr; rfl
      next =>
        obtain ⟨t, -, rfl⟩ := Option.map_eq_some_iff.1 hr
        rfl
      next => cases hr
  next => cases h

namespace Filter

variable {f : Filter} {raw : String}

theorem isScalar_of_sniffed {v : Value} (h : f.sniffed raw = .ok v) : v.isScalar = true := by
  unfold sniffed at h
  split at h
  next hv =>
    cases h
    exact Value.isScalar_of_sniff? hv
  next => cases h

theorem isScalar_of_bound {v : Value} (h : f.bound raw = .ok v) : v.isScalar = true := by
  unfold bound at h
  split at h
  next => cases h
  next =>
    rw [← Except.ok.inj h]
    exact Value.isScalar_ofNumeral _

theorem isScalar_of_transform {v : Value} (h : f.transform raw = .ok v) : v.isScalar = true := by
  unfold transform at h
  split at h
  next => exact isScalar_of_sniffed h
  next =>
    rw [← Except.ok.inj h]
    exact Value.isScalar_ofNumeral _
  next =>
    rw [← Except.ok.inj h]
    exact Value.isScalar_ofNumeral _
  next =>
    obtain ⟨s, -, rfl⟩ := map_eq_ok.1 h
    rfl
  next =>
    obtain ⟨o, -, rfl⟩ := map_eq_ok.1 h
    rfl
  next => exact DateSpec.isScalar_of_parse h
  next =>
    cases h
    rfl

theorem isScalar_of_dateSide {spec : DateSpec} {side : Option String} {r : Option Value}
    (h : f.dateSide spec side = .ok r) : ∀ v ∈ r, v.isScalar = true := by
  cases side with
  | none =>
    cases h
    exact nofun
  | some s =>
    obtain ⟨v, hv, rfl⟩ := map_eq_ok.1 h
    intro w hw
    cases hw
    exact DateSpec.isScalar_of_parse hv

end Filter

/-- A predicate whose value suits its operator, which is not BETWEEN. -/
structure Predicate.IsPlain (p : Predicate) : Prop where
  takes : p.operator.Takes p.value
  ne_between : p.operator ≠ .between

namespace Filter

variable {f : Filter} {raw : String} {ps : List Predicate}

theorem isPlain_of_mem_singleton {o : Operator} {v : Value} (h : o.Takes v) (hb : o ≠ .between) :
    ∀ p ∈ [f.own o v], p.IsPlain :=
  List.forall_mem_singleton.2 ⟨h, hb⟩

theorem isPlain_of_mem_sides {lo hi : Option Value} (hlo : ∀ v ∈ lo, v.isScalar = true)
    (hhi : ∀ v ∈ hi, v.isScalar = true) : ∀ p ∈ f.sides (lo, hi), p.IsPlain := by
  intro p hp
  rcases List.mem_append.1 hp with hp | hp
  · obtain ⟨v, hv, rfl⟩ := Option.map_eq_some_iff.1 (Option.mem_toList.1 hp)
    exact ⟨.scalar rfl rfl (hlo v hv), nofun⟩
  · obtain ⟨v, hv, rfl⟩ := Option.map_eq_some_iff.1 (Option.mem_toList.1 hp)
    exact ⟨.scalar rfl rfl (hhi v hv), nofun⟩

theorem isPlain_of_mem_searchPredicates {pattern : String} {fields : List String} :
    ∀ p ∈ searchPredicates pattern fields, p.IsPlain := by
  cases fields with
  | nil => exact nofun
  | cons g r =>
    refine List.forall_mem_cons.2 ⟨⟨.scalar rfl rfl rfl, nofun⟩, ?_⟩
    rw [List.forall_mem_map]
    exact fun _ _ ↦ ⟨.scalar rfl rfl rfl, nofun⟩

theorem isScalar_of_mem_map_string (texts : List String) :
    ∀ v ∈ texts.map Value.string, v.isScalar = true :=
  List.forall_mem_map.2 fun _ _ ↦ rfl

theorem isPlain_of_mem_predicates (h : f.predicates raw = .ok ps) : ∀ p ∈ ps, p.IsPlain := by
  have hcompare {v : Value} (hv : v.isScalar = true) :
      ∀ p ∈ [f.own (Shorthand.comparisonOperator raw) v], p.IsPlain :=
    isPlain_of_mem_singleton (.scalar (scalar_comparisonOperator raw).1
      (scalar_comparisonOperator raw).2 hv) (comparisonOperator_ne_between raw)
  unfold predicates at h
  cases hk : f.kind with
  | exact =>
    rw [hk] at h
    obtain ⟨v, hv, rfl⟩ := map_eq_ok.1 h
    exact isPlain_of_mem_singleton (.scalar rfl rfl (isScalar_of_sniffed hv)) nofun
  | partialMatch strategy =>
    rw [hk] at h
    cases h
    exact isPlain_of_mem_singleton (.scalar rfl rfl rfl) nofun
  | search fields strategy =>
    rw [hk] at h
    cases h
    exact isPlain_of_mem_searchPredicates
  | comparison =>
    rw [hk] at h
    simp only at h
    split at h
    next => cases h
    next =>
      cases h
      exact hcompare rfl
  | greater orEqual | less orEqual =>
    rw [hk] at h
    obtain ⟨v, hv, rfl⟩ := map_eq_ok.1 h
    cases orEqual <;> exact isPlain_of_mem_singleton (.scalar rfl rfl (isScalar_of_bound hv)) nofun
  | interval =>
    rw [hk] at h
    simp only at h
    split at h
    next =>
      cases h
      exact isPlain_of_mem_singleton (.scalar rfl rfl rfl) nofun
    next lo hi _ =>
      cases h
      have hs (side : Option String) : ∀ v ∈ side.map Value.string, v.isScalar = true := by
        intro v hv
        obtain ⟨s, -, rfl⟩ := Option.map_eq_some_iff.1 hv
        rfl
      exact isPlain_of_mem_sides (hs lo) (hs hi)
  | among delimiter =>
    rw [hk] at h
    simp only at h
    split at h
    next => cases h
    next =>
      cases h
      exact isPlain_of_mem_singleton (.items rfl (isScalar_of_mem_map_string _)) nofun
  | enumeration allowed =>
    rw [hk] at h
    rcases enumerationPredicates_eq_ok h with ⟨-, -, rfl⟩ | ⟨-, -, rfl⟩
    · split
      next => exact nofun
      next => exact isPlain_of_mem_singleton (.items rfl (isScalar_of_mem_map_string _)) nofun
    · exact isPlain_of_mem_singleton (.scalar rfl rfl rfl) nofun
  | isNull =>
    rw [hk] at h
    obtain ⟨o, ho, rfl⟩ := map_eq_ok.1 h
    have ho := isNullCheck_of_nullCheck ho
    refine isPlain_of_mem_singleton (.nothing ho) ?_
    rintro rfl
    cases ho
  | date spec =>
    rw [hk] at h
    rcases datePredicates_eq_ok h with ⟨first, last, lo, hi, -, hlo, hhi, rfl⟩ | ⟨-, v, hv, rfl⟩
    · exact isPlain_of_mem_sides (isScalar_of_dateSide hlo) (isScalar_of_dateSide hhi)
    · exact hcompare (DateSpec.isScalar_of_parse hv)
  | custom program =>
    rw [hk] at h
    cases h
    exact nofun

end Filter

namespace FilterCatalog

open FilterNode

theorem takes_of_bodyValue {f : Filter} {o : Operator} {raw : String} {v : Value}
    (hn : o.isNullCheck = false) (h : bodyValue f o raw = .ok v) : o.Takes v := by
  unfold bodyValue at h
  split at h
  next hl =>
    obtain ⟨items, hi, h⟩ := bind_eq_ok.1 h
    cases h
    refine .items hl fun v hv ↦ ?_
    obtain ⟨s, -, hs⟩ := exists_of_mem_mapM hi hv
    exact Filter.isScalar_of_transform hs
  next hl => exact .scalar hn (by simpa using hl) (Filter.isScalar_of_transform h)

theorem takes_of_predicateOf {c : FilterCatalog} {n : FilterNode} {p : Predicate}
    (h : c.predicateOf n = .ok (some p)) :
    p.operator = n.operator ∧ p.operator.Takes p.value ∧ ∃ f ∈ c, p.field = f.internalName := by
  obtain ⟨name, f, -, hf, -, hfield, ho, -, hv⟩ := leafPredicate_eq_some h
  refine ⟨ho, ?_, f, List.mem_of_find?_eq_some hf, hfield⟩
  rw [ho]
  rcases hv with ⟨hn, hv⟩ | ⟨hn, raw, -, -, hv⟩
  · rw [hv]
    exact .nothing hn
  · exact takes_of_bodyValue hn hv

end FilterCatalog

end Listing
