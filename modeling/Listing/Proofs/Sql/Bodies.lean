import Listing.Proofs.Acceptance
import Listing.Proofs.Sql.Reachable
import Listing.Proofs.Sql.Shape
import Listing.Sql.Scripted

namespace Listing

open Outcome Sql

variable {ε row : Type}

namespace Sql.Query

variable [Executor ε row]

theorem result_addTo (q : Query ε) (p : Predicate) : (p.addTo q).result =
    ((Condition.ofPredicate p).mapError SqlError.toQueryError).map fun _ ↦ () := by
  rw [addTo_eq, addPredicate]
  cases Condition.ofPredicate p <;> rfl

end Sql.Query

namespace FilterCatalog

open FilterNode

/-- A leaf that is understood and does not compare its field by BETWEEN. -/
def Passes (c : FilterCatalog) (n : FilterNode) : Prop :=
  ∃ o, c.predicateOf n = .ok o ∧ ∀ p ∈ o, p.operator ≠ .between

inductive Stops (c : FilterCatalog) (n : FilterNode) : QueryError → Prop
  | unread {e : QueryError} (h : c.predicateOf n = .error e)
    (hc : e.category = .configuration ∨ e.category = .value) : Stops c n e
  | between {p : Predicate} (h : c.predicateOf n = .ok (some p)) (ho : p.operator = .between)
    (hv : p.value.isScalar = true) :
    Stops c n (SqlError.invalidBetween p.field p.value.text).toQueryError

def sqlOutcome (c : FilterCatalog) (n : FilterNode) : Except QueryError Unit :=
  match c.predicateOf n with
  | .error e => .error e
  | .ok none => .ok ()
  | .ok (some p) => ((Condition.ofPredicate p).mapError SqlError.toQueryError).map fun _ ↦ ()

variable {c : FilterCatalog} {n : FilterNode}

theorem result_applyAsLeaf [Executor ε row] (c : FilterCatalog) (n : FilterNode) (q : Query ε) :
    (c.applyAsLeaf q n).result = c.sqlOutcome n := by
  unfold applyAsLeaf applyLeaf sqlOutcome
  rw [show c.leafPredicate n.field n.value n.operator n.combinator = c.predicateOf n from rfl]
  cases c.predicateOf n with
  | error e => rfl
  | ok o =>
    cases o with
    | none => rfl
    | some p => exact q.result_addTo p

theorem passes_or_stops (hc : ∀ f ∈ c, isIdentifier f.internalName = true) (n : FilterNode) :
    c.Passes n ∧ c.sqlOutcome n = .ok () ∨ ∃ e, c.Stops n e ∧ c.sqlOutcome n = .error e := by
  unfold sqlOutcome
  cases hp : c.predicateOf n with
  | error e => exact .inr ⟨e, .unread hp (category_of_predicateOf hp), rfl⟩
  | ok o =>
    cases o with
    | none => exact .inl ⟨⟨none, hp, nofun⟩, rfl⟩
    | some p =>
      obtain ⟨-, ht, f, hf, hfield⟩ := takes_of_predicateOf hp
      have hi : isIdentifier p.field = true := hfield ▸ hc f hf
      by_cases hb : p.operator = .between
      · rw [hb] at ht
        have hv := ht.isScalar rfl rfl
        refine .inr ⟨_, .between hp hb hv, ?_⟩
        dsimp only
        rw [Condition.ofPredicate_between hi hb hv]
        rfl
      · obtain ⟨cond, hcond, -⟩ := Condition.exists_ofPredicate hi ⟨ht, hb⟩
        refine .inl ⟨⟨some p, hp, fun p' hp' ↦ ?_⟩, ?_⟩
        · cases hp'
          exact hb
        · dsimp only
          rw [hcond]
          rfl

theorem passes_of_sqlOutcome (hc : ∀ f ∈ c, isIdentifier f.internalName = true)
    (h : c.sqlOutcome n = .ok ()) : c.Passes n := by
  rcases passes_or_stops hc n with ⟨hn, -⟩ | ⟨e, -, he⟩
  · exact hn
  · exact absurd (h.symm.trans he) nofun

theorem stops_of_sqlOutcome (hc : ∀ f ∈ c, isIdentifier f.internalName = true) {e : QueryError}
    (h : c.sqlOutcome n = .error e) : c.Stops n e := by
  rcases passes_or_stops hc n with ⟨-, hn⟩ | ⟨e', hs, he⟩
  · exact absurd (h.symm.trans hn) nofun
  · cases h.symm.trans he
    exact hs

/-- A body succeeds if all of its leaves pass, and else ends as its first leaf does that does not
pass: with an error of the request, or with the refusal of BETWEEN, whose value is a scalar in every
body. The value of any other leaf suits its operator. -/
theorem applyBody_refuses_between_only [Executor ε row]
    (hc : ∀ f ∈ c, isIdentifier f.internalName = true) (ns : List FilterNode) (q : Query ε) :
    (∀ n ∈ leavesOf ns, ∀ p, c.predicateOf n = .ok (some p) →
      p.operator = n.operator ∧ p.operator.Takes p.value) ∧
    ((∀ n ∈ leavesOf ns, c.Passes n) ∧ (c.applyBody q ns).result = .ok () ∨
      ∃ before n after e, leavesOf ns = before ++ n :: after ∧ (∀ m ∈ before, c.Passes m) ∧
        c.Stops n e ∧ (c.applyBody q ns).result = .error e) := by
  have hr : (c.applyBody q ns).result = ((leavesOf ns).mapM c.sqlOutcome).map fun _ ↦ () := by
    rw [applyBody_eq_each]
    exact Run.result_each (fun n _ q ↦ result_applyAsLeaf c n q) q
  refine ⟨fun n _ p hp ↦ ?_, ?_⟩
  · obtain ⟨ho, ht, -⟩ := takes_of_predicateOf hp
    exact ⟨ho, ht⟩
  have hpass {ls : List FilterNode} {us : List Unit}
      (h : List.Forall₂ (fun n u ↦ c.sqlOutcome n = .ok u) ls us) : ∀ n ∈ ls, c.Passes n :=
    ((List.forall₂_and_left ls us).1 (h.imp fun _ _ hn ↦ ⟨passes_of_sqlOutcome hc hn, hn⟩)).1
  cases hm : (leavesOf ns).mapM c.sqlOutcome with
  | ok us =>
    rw [hm] at hr
    exact .inl ⟨hpass (mapM_eq_ok.1 hm), hr⟩
  | error e =>
    obtain ⟨before, n, after, us, hl, hb, hn⟩ := mapM_eq_error.1 hm
    rw [hm] at hr
    exact .inr ⟨before, n, after, e, hl, hpass hb, stops_of_sqlOutcome hc hn, hr⟩

theorem applyBody_refuses_between_only_third_leaf :
    let c : FilterCatalog :=
      [.ofKind "price" .exact, .ofKind "status" (.enumeration ["ACTIVE", "DONE"])]
    let ids : FilterNode := .mk (some "price") (some "1,5") .among .and []
    let check : FilterNode := .mk (some "status") none .isNull .or []
    let range : FilterNode := .mk (some "price") (some "1,5") .between .and []
    let q : Query (Script Call) := { executor := {}, table := "users" }
    (∀ f ∈ c, isIdentifier f.internalName = true) ∧
    (∀ n ∈ [ids, check], c.Passes n) ∧
    ∃ before n after e, [ids, check, range] = before ++ n :: after ∧
      (∀ m ∈ before, c.Passes m) ∧ c.Stops n e ∧
      (c.applyBody q [ids, .mk none none .equal .and [check, range]]).result = .error e := by
  intro c ids check range q
  have hc : ∀ f ∈ c, isIdentifier f.internalName = true := by decide
  refine ⟨hc, ?_, ?_⟩
  · rcases (applyBody_refuses_between_only hc [ids, check] q).2 with
      ⟨hp, -⟩ | ⟨_, _, _, e, -, -, -, he⟩
    · exact hp
    · have hr : (c.applyBody q [ids, check]).result = .ok () := by decide +kernel
      exact absurd (hr.symm.trans he) nofun
  · have hne : (c.applyBody q [ids, .mk none none .equal .and [check, range]]).result ≠ .ok () := by
      decide +kernel
    rcases (applyBody_refuses_between_only hc
      [ids, .mk none none .equal .and [check, range]] q).2 with ⟨-, hr⟩ | hs
    · exact absurd hr hne
    · exact hs

/-- The text of a leaf is not taken apart for BETWEEN, so that the refusal comes from the query. -/
theorem range_in_body_is_refused :
    let c : FilterCatalog := [.ofKind "price" .exact]
    let q : Query (Script Call) := { executor := {}, table := "users" }
    (∀ f ∈ c, isIdentifier f.internalName = true) ∧
    ∃ e, (c.applyBody q [.mk (some "price") (some "1,5") .between .and []]).result = .error e ∧
      e.category = .backend ∧
      c.predicateOf (.mk (some "price") (some "1,5") .between .and []) =
        .ok (some (.and "price" .between (.string "1,5"))) :=
  ⟨by decide, _, rfl, rfl, rfl⟩

end FilterCatalog

end Listing
