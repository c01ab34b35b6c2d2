import Listing.Proofs.Emission
import Listing.Proofs.Text
import Listing.Proofs.Walk

namespace Listing

open Outcome FilterCatalog

namespace FilterKind

/-- The kinds whose parameters have a form as a body. The members of a list are parted by commas in
a body. -/
def hasBodyForm : FilterKind → Bool
  | search _ _ => false
  | custom _ => false
  | among delimiter => delimiter = ","
  | _ => true

end FilterKind

namespace Filter

variable {f : Filter}

def givenSides : Option String × Option String → List String
  | (lo, hi) => lo.toList ++ hi.toList

/-- The texts that the predicates of a parameter are read from, in their order. -/
def sources (f : Filter) (raw : String) : List String :=
  match f.kind with
  | .exact => [raw]
  | .partialMatch strategy => [strategy.pattern raw]
  | .comparison => [Text.trim (Shorthand.withoutMark raw)]
  | .greater _ => [raw]
  | .less _ => [raw]
  | .interval =>
    match Shorthand.interval? raw with
    | some r => givenSides r
    | none => [Text.trim raw]
  | .among delimiter => [Text.join "," (Shorthand.list delimiter raw)]
  | .enumeration _ =>
    if ',' ∈ raw.toList then
      let tokens := Shorthand.list "," raw
      if tokens.isEmpty then [] else [Text.join "," (distinct tokens)]
    else [raw]
  | .isNull => [raw]
  | .date _ =>
    match Shorthand.range? raw with
    | some r => givenSides r
    | none => [Shorthand.withoutMark raw]
  | .search _ _ => []
  | .custom _ => []

/-- The AND leaf with a text and the operator of a predicate. -/
def asLeaf (f : Filter) (text : String) (p : Predicate) : FilterNode :=
  .mk (some f.param) (some text) p.operator .and []

/-- A predicate that joins others with AND and that a leaf with this text would have as well. -/
structure ReadFrom (f : Filter) (text : String) (p : Predicate) : Prop where
  own : p = f.own p.operator p.value
  reads : f.isIgnored text = false → Reads f (f.asLeaf text p) (.ok p.value)

theorem readFrom_of_transform {o : Operator} {text : String} {v : Value}
    (hn : o.isNullCheck = false) (hl : o.takesList = false) (h : f.transform text = .ok v) :
    f.ReadFrom text (f.own o v) := by
  refine ⟨rfl, fun hi ↦ ?_⟩
  have hr : Reads f (f.asLeaf text (f.own o v)) (f.transform text) := .scalar hn hl rfl hi
  rwa [h] at hr

theorem itemTexts_join {items : List String} (hne : items ≠ [])
    (h : ∀ s ∈ items, Text.trim s = s ∧ ',' ∉ s.toList) :
    itemTexts (Text.join "," items) = items := by
  have hp : Text.piecesAt ',' (Text.join "," items).toList = items.map String.toList :=
    Text.piecesAt_join hne fun s hs ↦ (h s hs).2
  calc
    itemTexts (Text.join "," items) = items.map Text.trim := by
      rw [itemTexts, hp, List.map_map]
      rfl
    _ = items.map id := List.map_congr_left fun s hs ↦ (h s hs).1
    _ = items := List.map_id items

theorem readFrom_of_members {items : List String} (hne : items ≠ [])
    (h : ∀ s ∈ items, Text.trim s = s ∧ ',' ∉ s.toList)
    (ht : ∀ s ∈ items, f.transform s = .ok (.string s)) :
    f.ReadFrom (Text.join "," items) (f.own .among (.list (items.map .string))) := by
  refine ⟨rfl, fun hi ↦ .items rfl rfl hi ?_⟩
  rw [itemTexts_join hne h, List.forall₂_map_right_iff, List.forall₂_same]
  exact ht

theorem readFrom_sides {los his : Option String} {lo hi : Option Value}
    (hlo : Option.Rel (fun s v ↦ f.transform s = .ok v) los lo)
    (hhi : Option.Rel (fun s v ↦ f.transform s = .ok v) his hi) :
    List.Forall₂ f.ReadFrom (givenSides (los, his)) (f.sides (lo, hi)) := by
  have hside : ∀ {o : Operator} {t : Option String} {v : Option Value}, o.isNullCheck = false →
      o.takesList = false → Option.Rel (fun s v ↦ f.transform s = .ok v) t v →
      List.Forall₂ f.ReadFrom t.toList (v.map (f.own o)).toList := by
    intro o t v hn hl h
    cases h with
    | none => exact .nil
    | some h => exact .cons (readFrom_of_transform hn hl h) .nil
  exact List.rel_append (hside rfl rfl hlo) (hside rfl rfl hhi)

theorem eq_of_bound {raw : String} {v : Value} (h : f.bound raw = .ok v) :
    v = Value.ofNumeral (Text.trim raw) := by
  unfold bound at h
  split at h
  next => cases h
  next => exact (Except.ok.inj h).symm

theorem transform_declared {allowed : List String} {raw : String}
    (hk : f.kind = .enumeration allowed) (h : Text.trim raw ∈ allowed) :
    f.transform raw = .ok (.string (Text.trim raw)) := by
  unfold transform
  rw [hk]
  exact map_eq_ok.2 ⟨_, allowedToken_eq_ok.2 ⟨rfl, h⟩, rfl⟩

theorem readFrom_of_enumerationPredicates {allowed : List String} {raw : String}
    {ps : List Predicate} (hk : f.kind = .enumeration allowed)
    (h : f.enumerationPredicates allowed raw = .ok ps) :
    List.Forall₂ f.ReadFrom (f.sources raw) ps := by
  simp only [sources, hk]
  rcases enumerationPredicates_eq_ok h with ⟨hc, hall, rfl⟩ | ⟨hc, hs, rfl⟩
  · rw [if_pos hc]
    split
    next => exact .nil
    next hne =>
      have hitem : ∀ s ∈ distinct (Shorthand.list "," raw), Text.trim s = s ∧ ',' ∉ s.toList :=
        fun s hs ↦ Shorthand.trim_eq_and_notMem_of_mem_list (mem_distinct.1 hs)
      refine .cons (readFrom_of_members ?_ hitem fun s hs ↦ ?_) .nil
      · exact distinct_ne_nil fun hnil ↦ hne (List.isEmpty_iff.2 hnil)
      · have ht : Text.trim s = s := (hitem s hs).1
        have hmem : Text.trim s ∈ allowed := by
          rw [ht]
          exact hall s (mem_distinct.1 hs)
        rw [transform_declared hk hmem, ht]
  · rw [if_neg hc]
    exact .cons (readFrom_of_transform rfl rfl (transform_declared hk hs)) .nil

theorem transform_date {spec : DateSpec} (hk : f.kind = .date spec) (raw : String) :
    f.transform raw = spec.parse f.param raw := by
  unfold transform
  rw [hk]

theorem rel_dateSide {spec : DateSpec} (hk : f.kind = .date spec) {s : Option String}
    {v : Option Value} (h : f.dateSide spec s = .ok v) :
    Option.Rel (fun s v ↦ f.transform s = .ok v) s v := by
  cases s with
  | none =>
    cases h
    exact .none
  | some s =>
    obtain ⟨w, hw, rfl⟩ := map_eq_ok.1 h
    exact .some ((transform_date hk s).trans hw)

theorem readFrom_of_datePredicates {spec : DateSpec} {raw : String} {ps : List Predicate}
    (hk : f.kind = .date spec) (h : f.datePredicates spec raw = .ok ps) :
    List.Forall₂ f.ReadFrom (f.sources raw) ps := by
  simp only [sources, hk]
  rcases datePredicates_eq_ok h with ⟨first, last, lo, hi, hr, hlo, hhi, rfl⟩ | ⟨hr, v, hv, rfl⟩
  · rw [hr]
    exact readFrom_sides (rel_dateSide hk hlo) (rel_dateSide hk hhi)
  · rw [hr]
    obtain ⟨hn, hl⟩ := scalar_comparisonOperator raw
    exact .cons (readFrom_of_transform hn hl ((transform_date hk _).trans hv)) .nil

theorem readFrom_of_predicates {raw : String} {ps : List Predicate}
    (hb : f.kind.hasBodyForm = true) (h : f.predicates raw = .ok ps) :
    List.Forall₂ f.ReadFrom (f.sources raw) ps := by
  unfold predicates at h
  cases hk : f.kind with
  | search fields strategy =>
    rw [hk] at hb
    cases hb
  | custom program =>
    rw [hk] at hb
    cases hb
  | enumeration allowed =>
    rw [hk] at h
    exact readFrom_of_enumerationPredicates hk h
  | date spec =>
    rw [hk] at h
    exact readFrom_of_datePredicates hk h
  | exact =>
    simp only [hk] at h
    simp only [sources, hk]
    obtain ⟨v, hv, rfl⟩ := map_eq_ok.1 h
    refine .cons (readFrom_of_transform rfl rfl ?_) .nil
    simpa only [transform, hk] using hv
  | partialMatch strategy =>
    simp only [hk] at h
    simp only [sources, hk]
    cases h
    refine .cons (readFrom_of_transform rfl rfl ?_) .nil
    simp only [transform, hk]
  | comparison =>
    simp only [hk, Shorthand.comparison] at h
    simp only [sources, hk]
    split at h
    next => cases h
    next =>
      cases h
      obtain ⟨hn, hl⟩ := scalar_comparisonOperator raw
      refine .cons (readFrom_of_transform hn hl ?_) .nil
      simp only [transform, hk]
  | greater orEqual | less orEqual =>
    simp only [hk] at h
    simp only [sources, hk]
    obtain ⟨v, hv, rfl⟩ := map_eq_ok.1 h
    have ht : f.transform raw = .ok v := by
      simp only [transform, hk, eq_of_bound hv]
    cases orEqual <;> exact .cons (readFrom_of_transform rfl rfl ht) .nil
  | interval =>
    simp only [hk] at h
    simp only [sources, hk]
    have ht : ∀ s, f.transform s = .ok (.string s) := fun s ↦ by simp only [transform, hk]
    split at h
    next hi =>
      cases h
      rw [hi]
      exact .cons (readFrom_of_transform rfl rfl (ht _)) .nil
    next lo hi hr =>
      cases h
      rw [hr]
      have hside : ∀ s : Option String,
          Option.Rel (fun s v ↦ f.transform s = .ok v) s (s.map .string) := by
        intro s
        cases s with
        | none => exact .none
        | some s => exact .some (ht s)
      exact readFrom_sides (hside lo) (hside hi)
  | among delimiter =>
    rw [hk] at hb
    obtain rfl : delimiter = "," := of_decide_eq_true hb
    simp only [hk] at h
    simp only [sources, hk]
    split at h
    next => cases h
    next hne =>
      cases h
      refine .cons (readFrom_of_members hne ?_ fun s _ ↦ ?_) .nil
      · exact fun s hs ↦ Shorthand.trim_eq_and_notMem_of_mem_list hs
      · simp only [transform, hk]
  | isNull =>
    simp only [hk] at h
    simp only [sources, hk]
    obtain ⟨o, ho, rfl⟩ := map_eq_ok.1 h
    exact .cons ⟨rfl, fun _ ↦ .nullCheck (isNullCheck_of_nullCheck ho)⟩ .nil

end Filter

namespace FilterCatalog

variable {c : FilterCatalog} {f : Filter} {β : Type} [ClauseBuilder β]

theorem applyNode_asLeaf {text : String} {p : Predicate} (hc : c.First f)
    (hb : f.supportsBody = true) (h : f.ReadFrom text p) (hi : f.isIgnored text = false) (q : β) :
    c.applyNode q (f.asLeaf text p) = p.addTo q := by
  rw [applyNode_of_isGroup_eq_false rfl, applyAsLeaf_of_reads ⟨rfl, hc⟩ hb (h.reads hi)]
  exact congrArg (Predicate.addTo · q) h.own.symm

theorem applyBody_zipWith_asLeaf {texts : List String} {ps : List Predicate} (hc : c.First f)
    (hb : f.supportsBody = true) (h : List.Forall₂ f.ReadFrom texts ps)
    (hi : ∀ text ∈ texts, f.isIgnored text = false) (q : β) :
    c.applyBody q (List.zipWith f.asLeaf texts ps) = addPredicates q ps := by
  induction h generalizing q with
  | nil => rfl
  | cons hp _ ih =>
    obtain ⟨ht, hi⟩ := List.forall_mem_cons.1 hi
    rw [List.zipWith_cons_cons, applyBody, applyNode_asLeaf hc hb hp ht, addPredicates, Run.each]
    simp only [ih hi]
    rfl

variable {α : Type}

/-- AND leaves with the operators of the predicates of a parameter and the texts that these are read
from record the same predicates. -/
theorem applyBody_restates_predicates (hc : c.First f) (hb : f.supportsBody = true)
    (hk : f.kind.hasBodyForm = true) {raw : String} {ps : List Predicate}
    (hp : f.predicates raw = .ok ps) (hi : ∀ text ∈ f.sources raw, f.isIgnored text = false) :
    (f.sources raw).length = ps.length ∧
    (∀ q : Recording α, q.refused ≠ some f.internalName →
      c.applyBody q (List.zipWith f.asLeaf (f.sources raw) ps) = ⟨q.recordAll ps, .ok ()⟩) ∧
    ∀ (β : Type) [ClauseBuilder β] (q : β),
      c.applyBody q (List.zipWith f.asLeaf (f.sources raw) ps) = addPredicates q ps := by
  have hread := Filter.readFrom_of_predicates hk hp
  refine ⟨hread.length_eq, fun q hq ↦ ?_, fun β _ q ↦ applyBody_zipWith_asLeaf hc hb hread hi q⟩
  have hfield : ∀ p ∈ ps, q.refused ≠ some p.field := by
    intro p hmem
    rcases Filter.compares_of_mem_predicates hp p hmem with h | ⟨fields, strategy, hs, -⟩
    · rwa [h]
    · rw [hs] at hk
      cases hk
  rw [applyBody_zipWith_asLeaf hc hb hread hi, Recording.addPredicates_of_ne hfield]

theorem applyBody_restates_predicates_interval_and_tokens :
    let age : Filter := .ofKind "age" .interval
    let role : Filter := (Filter.ofKind "role" (.enumeration ["ADMIN", "USER"])).withIgnored ["ALL"]
    let c : FilterCatalog := [age, role, .ofKind "age" .exact]
    let bounds : List Predicate := [.and "age" .greaterOrEqual (.string "18"),
      .and "age" .lessOrEqual (.string "65")]
    let roles : List Predicate := [.and "role" .among (.list [.string "USER", .string "ADMIN"])]
    let ages : List FilterNode := [.mk (some "age") (some "18") .greaterOrEqual .and [],
      .mk (some "age") (some "65") .lessOrEqual .and []]
    let oneOf : FilterNode := .mk (some "role") (some "USER,ADMIN") .among .and []
    let q : Recording Unit := { refused := some "name" }
    age.predicates " 18 , 65 " = .ok bounds ∧
    role.predicates "USER, ADMIN ,,USER" = .ok roles ∧
    c.applyBody q ages = ⟨q.recordAll bounds, .ok ()⟩ ∧
    c.applyBody q [oneOf] = ⟨q.recordAll roles, .ok ()⟩ ∧
    c.applyBody (q.recordAll bounds) [oneOf] = ⟨q.recordAll (bounds ++ roles), .ok ()⟩ := by
  intro age role c bounds roles ages oneOf q
  have hage : c.First age := ⟨[], _, rfl, nofun⟩
  have hrole : c.First role := ⟨[age], _, rfl, by decide⟩
  have hbounds : age.predicates " 18 , 65 " = .ok bounds := by rfl
  have hroles : role.predicates "USER, ADMIN ,,USER" = .ok roles := by rfl
  obtain ⟨-, hages, -⟩ := applyBody_restates_predicates (α := Unit) hage rfl rfl hbounds
    (by decide +kernel)
  obtain ⟨-, honeOf, -⟩ := applyBody_restates_predicates (α := Unit) hrole rfl rfl hroles
    (by decide +kernel)
  have hforest : List.zipWith role.asLeaf (role.sources "USER, ADMIN ,,USER") roles = [oneOf] := by
    rfl
  rw [hforest] at honeOf
  refine ⟨hbounds, hroles, hages q (by decide), honeOf q (by decide), ?_⟩
  rw [honeOf (q.recordAll bounds) (by decide), Recording.recordAll_recordAll]

/-- The operand of a comparison is trimmed after its mark is taken out, the text of a leaf is not
trimmed. -/
theorem untrimmed_operand_is_recorded :
    let f : Filter := .ofKind "age" .comparison
    let c : FilterCatalog := [f]
    let operand : String := Shorthand.withoutMark "> 5"
    let p : Predicate := .and "age" .greater (.string "5")
    let q : Recording Unit := {}
    c.First f ∧ f.supportsBody = true ∧ f.kind.hasBodyForm = true ∧
    f.predicates "> 5" = .ok [p] ∧ f.isIgnored operand = false ∧
    c.applyBody q [f.asLeaf operand p] =
      ⟨q.recordAll [.and "age" .greater (.string " 5")], .ok ()⟩ ∧
    c.applyBody q [f.asLeaf operand p] ≠ ⟨q.recordAll [p], .ok ()⟩ := by
  intro f c operand p q
  have hrun : c.applyBody q [f.asLeaf operand p] =
      ⟨q.recordAll [.and "age" .greater (.string " 5")], .ok ()⟩ := by rfl
  refine ⟨⟨[], [], rfl, nofun⟩, rfl, rfl, by rfl, by rfl, hrun, ?_⟩
  rw [hrun]
  intro h
  have hp : [Predicate.and "age" .greater (.string " 5")] = [p] :=
    congrArg (fun r : Run (Recording Unit) Unit ↦ r.state.predicates) h
  simp [p, Predicate.and] at hp

end FilterCatalog

end Listing
