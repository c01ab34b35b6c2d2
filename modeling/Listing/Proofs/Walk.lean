import Listing.Proofs.Leaves
import Listing.Proofs.Recording
import Mathlib.Data.List.ReduceOption

namespace Listing

open Outcome

namespace FilterNode

mutual

/-- The nodes at and below a node, each before those below it. -/
def nodes : FilterNode → List FilterNode
  | .mk field value operator combinator children =>
    .mk field value operator combinator children :: nodesOf children

def nodesOf : List FilterNode → List FilterNode
  | [] => []
  | n :: r => nodes n ++ nodesOf r

end

mutual

theorem leaves_eq_filter : ∀ n : FilterNode, leaves n = (nodes n).filter fun m ↦ !m.isGroup
  | .mk field value operator combinator [] => by
    simp [leaves, nodes, nodesOf, isGroup, children]
  | .mk field value operator combinator (n :: r) => by
    have hn := leaves_eq_filter n
    have hr := leavesOf_eq_filter r
    simp [leaves, nodes, nodesOf, isGroup, children, hn, hr]

theorem leavesOf_eq_filter : ∀ ns : List FilterNode,
    leavesOf ns = (nodesOf ns).filter fun m ↦ !m.isGroup
  | [] => rfl
  | n :: r => by
    rw [leavesOf, nodesOf, List.filter_append, leaves_eq_filter n, leavesOf_eq_filter r]

end

end FilterNode

namespace FilterCatalog

open FilterNode

/-- No filter before this one has the same parameter. -/
def First (c : FilterCatalog) (f : Filter) : Prop :=
  ∃ before after, c = before ++ f :: after ∧ ∀ g ∈ before, g.param ≠ f.param

theorem find?_eq_some_iff {c : FilterCatalog} {name : String} {f : Filter} :
    c.find? name = some f ↔ f.param = name ∧ c.First f := by
  rw [find?, List.find?_eq_some_iff_append]
  constructor
  · rintro ⟨hf, before, after, hc, hb⟩
    have hf : f.param = name := by simpa using hf
    refine ⟨hf, before, after, hc, fun g hg ↦ ?_⟩
    rw [hf]
    simpa using hb g hg
  · rintro ⟨hf, before, after, hc, hb⟩
    refine ⟨by simpa using hf, before, after, hc, fun g hg ↦ ?_⟩
    rw [← hf]
    simpa using hb g hg

theorem find?_eq_none_iff {c : FilterCatalog} {name : String} :
    c.find? name = none ↔ ∀ f ∈ c, f.param ≠ name := by
  simp [find?]

def itemTexts (raw : String) : List String :=
  (Text.piecesAt ',' raw.toList).map fun s ↦ String.ofList (Text.trimBoth s)

/-- What the value of a leaf is read as under a filter that does not ignore it. -/
inductive Reads (f : Filter) (n : FilterNode) : Except QueryError Value → Prop
  | nullCheck (ho : n.operator.isNullCheck = true) : Reads f n (.ok .null)
  | missing (ho : n.operator.isNullCheck = false) (hv : n.value = none) :
    Reads f n (.error (Problem.missingValue f.param n.operator).toError)
  | scalar {raw : String} (ho : n.operator.isNullCheck = false) (hl : n.operator.takesList = false)
    (hv : n.value = some raw) (hi : f.isIgnored raw = false) : Reads f n (f.transform raw)
  | items {raw : String} {vs : List Value} (hl : n.operator.takesList = true)
    (hv : n.value = some raw) (hi : f.isIgnored raw = false)
    (ht : List.Forall₂ (fun t v ↦ f.transform t = .ok v) (itemTexts raw) vs) :
    Reads f n (.ok (.list vs))
  | badItem {raw t : String} {before after : List String} {vs : List Value} {e : QueryError}
    (hl : n.operator.takesList = true) (hv : n.value = some raw) (hi : f.isIgnored raw = false)
    (hs : itemTexts raw = before ++ t :: after)
    (hb : List.Forall₂ (fun t v ↦ f.transform t = .ok v) before vs)
    (ht : f.transform t = .error e) : Reads f n (.error e)

structure Addresses (c : FilterCatalog) (n : FilterNode) (f : Filter) : Prop where
  field : n.field = some f.param
  first : c.First f

def standing (f : Filter) (n : FilterNode) (v : Value) : Predicate :=
  { field := f.internalName, operator := n.operator, value := v, combinator := n.combinator }

/-- What becomes of a leaf at a recording that refuses a field: an error, nothing or a predicate. -/
inductive Yields (c : FilterCatalog) (refused : Option String) (n : FilterNode) :
    Except QueryError (Option Predicate) → Prop
  | noField (h : n.field = none) : Yields c refused n (.error Problem.malformedFilterNode.toError)
  | unknown {name : String} (h : n.field = some name) (hc : ∀ f ∈ c, f.param ≠ name) :
    Yields c refused n (.error (Problem.fieldNotAllowed name).toError)
  | incapable {f : Filter} (h : c.Addresses n f) (hb : f.supportsBody = false) :
    Yields c refused n (.error (Problem.filterNotBodyCapable f.param f.kind.name).toError)
  | ignored {f : Filter} {raw : String} (h : c.Addresses n f) (hb : f.supportsBody = true)
    (ho : n.operator.isNullCheck = false) (hv : n.value = some raw)
    (hi : f.isIgnored raw = true) : Yields c refused n (.ok none)
  | unreadable {f : Filter} {e : QueryError} (h : c.Addresses n f) (hb : f.supportsBody = true)
    (hv : Reads f n (.error e)) : Yields c refused n (.error e)
  | refused {f : Filter} {v : Value} (h : c.Addresses n f) (hb : f.supportsBody = true)
    (hv : Reads f n (.ok v)) (hr : refused = some f.internalName) :
    Yields c refused n (.error (Recording.refusal (standing f n v)))
  | records {f : Filter} {v : Value} (h : c.Addresses n f) (hb : f.supportsBody = true)
    (hv : Reads f n (.ok v)) (hr : refused ≠ some f.internalName) :
    Yields c refused n (.ok (some (standing f n v)))

theorem bodyValue_of_takesList {f : Filter} {o : Operator} (ho : o.takesList = true)
    (raw : String) : bodyValue f o raw = ((itemTexts raw).mapM f.transform).map .list := by
  rw [bodyValue, if_pos ho, itemTexts, List.mapM_map]
  exact bind_pure_eq_map

variable {c : FilterCatalog} {n : FilterNode} {f : Filter}

theorem addresses_iff {name : String} (h : n.field = some name) :
    c.Addresses n f ↔ c.find? name = some f := by
  rw [find?_eq_some_iff]
  constructor
  · rintro ⟨hf, hc⟩
    rw [h] at hf
    exact ⟨(Option.some.inj hf).symm, hc⟩
  · rintro ⟨rfl, hc⟩
    exact ⟨h, hc⟩

theorem predicateOf_of_incapable (h : c.Addresses n f) (hb : f.supportsBody = false) :
    c.predicateOf n = .error (Problem.filterNotBodyCapable f.param f.kind.name).toError := by
  have hf := (addresses_iff h.field).1 h
  simp [predicateOf, leafPredicate, h.field, hf, hb]

theorem predicateOf_of_ignored {raw : String} (h : c.Addresses n f) (hb : f.supportsBody = true)
    (ho : n.operator.isNullCheck = false) (hv : n.value = some raw)
    (hi : f.isIgnored raw = true) : c.predicateOf n = .ok none := by
  have hf := (addresses_iff h.field).1 h
  simp [predicateOf, leafPredicate, h.field, hf, hb, ho, hv, hi]

theorem predicateOf_of_reads {r : Except QueryError Value} (h : c.Addresses n f)
    (hb : f.supportsBody = true) (hr : Reads f n r) :
    c.predicateOf n = r.map fun v ↦ some (standing f n v) := by
  have hf := (addresses_iff h.field).1 h
  cases hr with
  | nullCheck ho => simp [predicateOf, leafPredicate, h.field, hf, hb, ho, standing, Except.map]
  | missing ho hv => simp [predicateOf, leafPredicate, h.field, hf, hb, ho, hv, Except.map]
  | scalar ho hl hv hi =>
    simp [predicateOf, leafPredicate, h.field, hf, hb, ho, hl, hv, hi, bodyValue, standing]
  | items hl hv hi ht =>
    have ho := Operator.isNullCheck_of_takesList hl
    rw [← mapM_eq_ok] at ht
    simp [predicateOf, leafPredicate, h.field, hf, hb, ho, hv, hi, bodyValue_of_takesList hl, ht,
      standing, Except.map]
  | badItem hl hv hi hs hbefore ht =>
    have ho := Operator.isNullCheck_of_takesList hl
    have hm := mapM_eq_error.2 ⟨_, _, _, _, hs, hbefore, ht⟩
    simp [predicateOf, leafPredicate, h.field, hf, hb, ho, hv, hi, bodyValue_of_takesList hl, hm,
      Except.map]

def outcome (c : FilterCatalog) (refused : Option String) (n : FilterNode) :
    Except QueryError (Option Predicate) :=
  match c.predicateOf n with
  | .error e => .error e
  | .ok none => .ok none
  | .ok (some p) => if refused = some p.field then .error (Recording.refusal p) else .ok (some p)

theorem outcome_of_yields {refused : Option String} {r : Except QueryError (Option Predicate)}
    (h : c.Yields refused n r) : c.outcome refused n = r := by
  cases h with
  | noField h => simp [outcome, predicateOf, leafPredicate, h]
  | unknown h hc =>
    simp [outcome, predicateOf, leafPredicate, h, find?_eq_none_iff.2 hc]
  | incapable h hb => simp [outcome, predicateOf_of_incapable h hb]
  | ignored h hb ho hv hi => simp [outcome, predicateOf_of_ignored h hb ho hv hi]
  | unreadable h hb hv => simp [outcome, predicateOf_of_reads h hb hv, Except.map]
  | refused h hb hv hr => simp [outcome, predicateOf_of_reads h hb hv, Except.map, standing, hr]
  | records h hb hv hr => simp [outcome, predicateOf_of_reads h hb hv, Except.map, standing, hr]

theorem exists_reads (f : Filter) (n : FilterNode)
    (h : ∀ raw, n.operator.isNullCheck = false → n.value = some raw → f.isIgnored raw = false) :
    ∃ r, Reads f n r := by
  by_cases ho : n.operator.isNullCheck = true
  · exact ⟨_, .nullCheck ho⟩
  have ho : n.operator.isNullCheck = false := by simpa using ho
  cases hv : n.value with
  | none => exact ⟨_, .missing ho hv⟩
  | some raw =>
    have hi := h raw ho hv
    by_cases hl : n.operator.takesList = true
    · cases hm : (itemTexts raw).mapM f.transform with
      | ok vs => exact ⟨_, .items hl hv hi (mapM_eq_ok.1 hm)⟩
      | error e =>
        obtain ⟨before, t, after, vs, hs, hb, ht⟩ := mapM_eq_error.1 hm
        exact ⟨_, .badItem hl hv hi hs hb ht⟩
    · exact ⟨_, .scalar ho (by simpa using hl) hv hi⟩

theorem exists_yields (c : FilterCatalog) (refused : Option String) (n : FilterNode) :
    ∃ r, c.Yields refused n r := by
  cases hn : n.field with
  | none => exact ⟨_, .noField hn⟩
  | some name =>
    cases hf : c.find? name with
    | none => exact ⟨_, .unknown hn (find?_eq_none_iff.1 hf)⟩
    | some f =>
      have ha := (addresses_iff hn).2 hf
      cases hb : f.supportsBody with
      | false => exact ⟨_, .incapable ha hb⟩
      | true =>
        by_cases hi : ∃ raw, n.operator.isNullCheck = false ∧ n.value = some raw ∧
            f.isIgnored raw = true
        · obtain ⟨raw, ho, hv, hi⟩ := hi
          exact ⟨_, .ignored ha hb ho hv hi⟩
        obtain ⟨r, hr⟩ := exists_reads f n fun raw ho hv ↦ by
          by_contra hc
          exact hi ⟨raw, ho, hv, by simpa using hc⟩
        cases r with
        | error e => exact ⟨_, .unreadable ha hb hr⟩
        | ok v =>
          by_cases hc : refused = some f.internalName
          · exact ⟨_, .refused ha hb hr hc⟩
          · exact ⟨_, .records ha hb hr hc⟩

theorem yields_iff {refused : Option String} {r : Except QueryError (Option Predicate)} :
    c.Yields refused n r ↔ c.outcome refused n = r := by
  refine ⟨outcome_of_yields, ?_⟩
  rintro rfl
  obtain ⟨r, hr⟩ := exists_yields c refused n
  rwa [outcome_of_yields hr]

theorem applyAsLeaf_of_predicateOf {β : Type} [ClauseBuilder β] (q : β) : c.applyAsLeaf q n =
    match c.predicateOf n with
    | .error e => ⟨q, .error e⟩
    | .ok none => ⟨q, .ok ()⟩
    | .ok (some p) => p.addTo q := rfl

theorem applyAsLeaf_of_reads {β : Type} [ClauseBuilder β] {v : Value} (h : c.Addresses n f)
    (hb : f.supportsBody = true) (hv : Reads f n (.ok v)) (q : β) :
    c.applyAsLeaf q n = (standing f n v).addTo q := by
  rw [applyAsLeaf_of_predicateOf, predicateOf_of_reads h hb hv]
  rfl

variable {α : Type}

theorem applyAsLeaf_eq (q : Recording α) : c.applyAsLeaf q n =
    match c.outcome q.refused n with
    | .ok o => ⟨q.recordAll o.toList, .ok ()⟩
    | .error e => ⟨q, .error e⟩ := by
  rw [applyAsLeaf_of_predicateOf]
  unfold outcome
  cases c.predicateOf n with
  | error e => rfl
  | ok o =>
    cases o with
    | none => simp
    | some p =>
      by_cases hp : q.refused = some p.field
      · simp [Recording.addTo_of_eq hp, hp]
      · simp [Recording.addTo_of_ne hp, hp]

theorem records_of_yields {refused : Option String} {ls : List FilterNode}
    {os : List (Option Predicate)} (h : List.Forall₂ (fun l o ↦ c.Yields refused l (.ok o)) ls os) :
    List.Forall₂ (fun l ps ↦ ∀ q : Recording α, q.refused = refused →
      c.applyAsLeaf q l = ⟨q.recordAll ps, .ok ()⟩) ls (os.map Option.toList) := by
  rw [List.forall₂_map_right_iff]
  refine h.imp fun l o hl q hq ↦ ?_
  rw [applyAsLeaf_eq, hq, yields_iff.1 hl]

theorem flatten_map_toList (os : List (Option Predicate)) :
    (os.map Option.toList).flatten = os.reduceOption := by
  rw [List.reduceOption, List.filterMap_eq_flatMap_toList]
  rfl

/-- A body is applied leaf by leaf in pre-order up to the first leaf that fails, so what groups
carry beside their children has no effect. -/
theorem applyBody_walks_leaves (c : FilterCatalog) (ns : List FilterNode) :
    let leaves := (nodesOf ns).filter fun n ↦ !n.isGroup
    (∀ (refused : Option String) (l : FilterNode), ∃! r, c.Yields refused l r) ∧
    (∀ q : Recording α,
      (∃ os, List.Forall₂ (fun l o ↦ c.Yields q.refused l (.ok o)) leaves os ∧
        c.applyBody q ns = ⟨q.recordAll os.reduceOption, .ok ()⟩) ∨
      ∃ before l after os e, leaves = before ++ l :: after ∧
        List.Forall₂ (fun l o ↦ c.Yields q.refused l (.ok o)) before os ∧
        c.Yields q.refused l (.error e) ∧
        c.applyBody q ns = ⟨q.recordAll os.reduceOption, .error e⟩) ∧
    ∀ (β : Type) [ClauseBuilder β] (q : β) (ms : List FilterNode),
      ((nodesOf ms).filter fun n ↦ !n.isGroup) = leaves → c.applyBody q ms = c.applyBody q ns := by
  intro leaves
  refine ⟨fun refused l ↦ ?_, fun q ↦ ?_, fun β _ q ms h ↦ ?_⟩
  · obtain ⟨r, hr⟩ := exists_yields c refused l
    exact ⟨r, hr, fun r' hr' ↦ (outcome_of_yields hr').symm.trans (outcome_of_yields hr)⟩
  · have hwalk : c.applyBody q ns = Run.each c.applyAsLeaf q leaves := by
      rw [applyBody_eq_each, leavesOf_eq_filter]
    rw [hwalk]
    cases hm : leaves.mapM (c.outcome q.refused) with
    | ok os =>
      have hos := (mapM_eq_ok.1 hm).imp fun _ _ ↦ yields_iff.2
      refine .inl ⟨os, hos, ?_⟩
      rw [Recording.each_of_records (records_of_yields hos), flatten_map_toList]
    | error e =>
      obtain ⟨before, l, after, os, hl, hb, he⟩ := mapM_eq_error.1 hm
      have hos := hb.imp fun _ _ ↦ yields_iff.2
      refine .inr ⟨before, l, after, os, e, hl, hos, yields_iff.2 he, ?_⟩
      have hfail : ∀ q' : Recording α, q'.refused = q.refused →
          c.applyAsLeaf q' l = ⟨q', .error e⟩ := by
        intro q' hq'
        rw [applyAsLeaf_eq, hq', he]
      rw [hl, Recording.each_of_records_of_error (records_of_yields hos) hfail, flatten_map_toList]
  · rw [applyBody_eq_each, applyBody_eq_each, leavesOf_eq_filter, leavesOf_eq_filter, h]

theorem applyBody_walks_leaves_last_fails :
    let c : FilterCatalog := [.ofKind "id" .exact,
      (Filter.ofKind "status" .exact).withIgnored ["ALL"], .ofKind "at" (.date ⟨.date, none⟩)]
    let ids : FilterNode := .mk (some "id") (some "1, x") .among .and []
    let passed : FilterNode := .mk (some "status") (some "ALL") .equal .and []
    let check : FilterNode := .mk (some "status") none .isNull .or []
    let bad : FilterNode := .mk (some "at") (some "soon") .greater .and []
    let ns : List FilterNode := [ids, .mk none none .equal .and [passed, check], bad]
    let ms : List FilterNode :=
      [.mk (some "secret") (some "x") .like .or [ids, .mk none none .equal .or [passed]], check, bad]
    let q : Recording Unit := { refused := some "at" }
    ((nodesOf ms).filter fun n ↦ !n.isGroup) = ((nodesOf ns).filter fun n ↦ !n.isGroup) ∧
    c.applyBody q ms = c.applyBody q ns ∧
    (∃ before l after os e, [ids, passed, check, bad] = before ++ l :: after ∧
      List.Forall₂ (fun l o ↦ c.Yields q.refused l (.ok o)) before os ∧
      c.Yields q.refused l (.error e) ∧
      c.applyBody q ns = ⟨q.recordAll os.reduceOption, .error e⟩) ∧
    (c.applyBody q ns).state.predicates = [.and "id" .among (.list [.int 1, .string "x"]),
      .or "status" .isNull .null] := by
  intro c ids passed check bad ns ms q
  have hleaves : ((nodesOf ms).filter fun n ↦ !n.isGroup) =
      ((nodesOf ns).filter fun n ↦ !n.isGroup) := rfl
  obtain ⟨-, hrun, hsame⟩ := applyBody_walks_leaves (α := Unit) c ns
  refine ⟨hleaves, hsame (Recording Unit) q ms hleaves, ?_, rfl⟩
  rcases hrun q with ⟨os, -, hok⟩ | hfails
  · have hr : (c.applyBody q ns).result ≠ .ok () := by decide +kernel
    exact absurd (congrArg Run.result hok) hr
  · exact hfails

end FilterCatalog

end Listing
