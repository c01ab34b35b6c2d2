import Listing.Proofs.Whitelist
import Listing.Sql.Scripted

namespace Listing

def ClauseCall.ofOrder (o : String × SortDirection) : ClauseCall := .order o.1 o.2

section

variable {β : Type} [ClauseBuilder β]

/-- A builder takes all orders, one after the other. -/
inductive Takes : β → List (String × SortDirection) → β → Prop
  | nil (q : β) : Takes q [] q
  | cons {q q' q'' : β} {o : String × SortDirection} {os : List (String × SortDirection)}
    (ho : ClauseBuilder.addOrder q o.1 o.2 = ⟨q', .ok ()⟩) (hos : Takes q' os q'') :
    Takes q (o :: os) q''

/-- A builder is told of all orders and takes them, or of those up to the first that it refuses. -/
inductive Told (q : Traced β) (os : List (String × SortDirection)) : Run (Traced β) Unit → Prop
  | all {q' : β} (h : Takes q.builder os q') :
    Told q os ⟨⟨q', q.calls ++ os.map .ofOrder⟩, .ok ()⟩
  | upTo {taken rest : List (String × SortDirection)} {o : String × SortDirection} {q' q'' : β}
    {e : QueryError} (hos : os = taken ++ o :: rest) (h : Takes q.builder taken q')
    (ho : ClauseBuilder.addOrder q' o.1 o.2 = ⟨q'', .error e⟩) :
    Told q os ⟨⟨q'', q.calls ++ (taken ++ [o]).map .ofOrder⟩, .error e⟩

theorem Told.cons {q : Traced β} {q' : β} {o : String × SortDirection}
    {os : List (String × SortDirection)} {r : Run (Traced β) Unit}
    (ho : ClauseBuilder.addOrder q.builder o.1 o.2 = ⟨q', .ok ()⟩)
    (h : Told ⟨q', q.calls ++ [.ofOrder o]⟩ os r) : Told q (o :: os) r := by
  cases h with
  | all h =>
    rw [List.append_assoc]
    exact .all (.cons ho h)
  | upTo hos h hr =>
    rw [List.append_assoc]
    exact .upTo (congrArg (List.cons o) hos) (.cons ho h) hr

theorem told_addOrders (q : Traced β) (os : List (String × SortDirection)) :
    Told q os (addOrders q os) := by
  induction os generalizing q with
  | nil =>
    have hq : addOrders q [] = ⟨⟨q.builder, q.calls ++ [].map .ofOrder⟩, .ok ()⟩ := by
      rw [List.map_nil, List.append_nil]
      rfl
    exact hq ▸ .all (.nil q.builder)
  | cons o os ih =>
    have hstep : addOrders q (o :: os) =
        (q.told (.ofOrder o) (ClauseBuilder.addOrder q.builder o.1 o.2)).andThen
          fun q _ ↦ addOrders q os := rfl
    rw [hstep]
    rcases ho : ClauseBuilder.addOrder q.builder o.1 o.2 with ⟨q', e | u⟩
    · exact .upTo rfl (.nil q.builder) ho
    · exact .cons ho (ih _)

theorem Told.calls_ne_nil {q : Traced β} {os : List (String × SortDirection)}
    {r : Run (Traced β) Unit} {e : QueryError} (h : Told q os r) (he : r.result = .error e) :
    r.state.calls ≠ [] := by
  cases h with
  | all h => cases he
  | upTo hos h ho => simp

end

namespace SortCatalog

/-- What becomes of instructions at a builder, as the run and its trace tell: nothing is told if one
is at fault, and all are told that stand for the instructions if none is. -/
structure AllOrNothing {β : Type} [ClauseBuilder β] (c : SortCatalog) (orders : List OrderRequest)
    (q : β) (run : Run β Unit) (traced : Run (Traced β) Unit) : Prop where
  untraced : traced.untraced = run
  nothing_iff : (traced.state.calls = [] ∧ ∃ e, traced.result = .error e ∧ e.code = .invalidSort) ↔
    ∃ o ∈ orders, c.Faulty o
  nothing : (∃ o ∈ orders, c.Faulty o) →
    ∃ before o after, orders = before ++ o :: after ∧ (∀ o' ∈ before, ¬c.Faulty o') ∧
      c.Faulty o ∧ traced = ⟨⟨q, []⟩, .error o.fault⟩
  all : (∀ o ∈ orders, ¬c.Faulty o) →
    ∃ os, List.Forall₂ c.StandsFor orders os ∧ Told ⟨q, []⟩ os traced

variable {β : Type} [ClauseBuilder β]

theorem allOrNothing_applyOrders (c : SortCatalog) (orders : List OrderRequest) (q : β) :
    c.AllOrNothing orders q (c.applyOrders q orders)
      (c.applyOrders ({ builder := q } : Traced β) orders) := by
  have huntraced := c.untraced_applyOrders { builder := q } orders
  cases hm : orders.mapM c.resolve with
  | error e =>
    obtain ⟨before, o, after, ho, hb, hf, rfl⟩ := exists_first_faulty hm
    have hr : c.applyOrders ({ builder := q } : Traced β) orders = ⟨⟨q, []⟩, .error o.fault⟩ := by
      rw [applyOrders, hm]
    have hmem : o ∈ orders := ho ▸ List.mem_append_right before List.mem_cons_self
    exact {
      untraced := huntraced
      nothing_iff :=
        ⟨fun _ ↦ ⟨o, hmem, hf⟩, fun _ ↦ hr ▸ ⟨rfl, o.fault, rfl, o.code_fault⟩⟩
      nothing := fun _ ↦ ⟨before, o, after, ho, hb, hf, hr⟩
      all := fun h ↦ absurd hf (h o hmem) }
  | ok os =>
    have hos := mapM_resolve_eq_ok.1 hm
    have hnone := not_faulty_of_forall₂ hos
    have htold : Told ⟨q, []⟩ os (c.applyOrders ({ builder := q } : Traced β) orders) := by
      rw [applyOrders, hm]
      exact told_addOrders _ os
    exact {
      untraced := huntraced
      nothing_iff :=
        ⟨fun ⟨hcalls, e, he, _⟩ ↦ absurd hcalls (htold.calls_ne_nil he),
          fun ⟨o, ho, hf⟩ ↦ absurd hf (hnone o ho)⟩
      nothing := fun ⟨o, ho, hf⟩ ↦ absurd hf (hnone o ho)
      all := fun _ ↦ ⟨os, hos, htold⟩ }

/-- Sorting is all or nothing: by given instructions, by a sort text, blank or not, and by a sort
text under a name unless it is blank. -/
theorem sorts_all_or_nothing (c : SortCatalog) (orders : List OrderRequest) (raw : String) (q : β) :
    let start : Traced β := { builder := q }
    c.AllOrNothing orders q (c.applyOrders q orders) (c.applyOrders start orders) ∧
    c.AllOrNothing (parse raw) q (c.applyText q raw) (c.applyText start raw) ∧
    ∀ (lookup : String → Option String) (param : String), lookup param = some raw →
      Text.isBlankText raw = false →
      c.AllOrNothing (parse raw) q (c.applyOptional q (lookup param))
        (c.applyOptional start (lookup param)) := by
  intro start
  refine ⟨c.allOrNothing_applyOrders orders q, c.allOrNothing_applyOrders (parse raw) q, ?_⟩
  intro lookup param hraw hb
  have hi : instructions (lookup param) = parse raw := by
    rw [hraw, instructions, if_neg (Bool.eq_false_iff.1 hb)]
  rw [applyOptional_eq, applyOptional_eq, hi]
  exact c.allOrNothing_applyOrders (parse raw) q

theorem sorts_all_or_nothing_field_refused :
    let c : SortCatalog := [⟨"age", "person.age"⟩, ⟨"age", "years"⟩, ⟨"name", "first name"⟩]
    let orders : List OrderRequest := [⟨some "age", .asc⟩, ⟨none, .desc⟩, ⟨some "zip", .asc⟩]
    let start : Traced (Sql.Query (Script Sql.Call)) :=
      { builder := { executor := {}, table := "users" } }
    let lookup := Params.get? [("sort", "-age,name,age")]
    let run := c.applyOptional start (lookup "sort")
    (∃ before o after, orders = before ++ o :: after ∧ (∀ o' ∈ before, ¬c.Faulty o') ∧
      c.Faulty o ∧ c.applyOrders start orders = ⟨start, .error o.fault⟩) ∧
    (c.applyOrders start orders).result = .error Problem.sortFieldMissing.toError ∧
    (∃ os, List.Forall₂ c.StandsFor (parse "-age,name,age") os ∧ Told start os run) ∧
    run.state.calls = [.order "person.age" .desc, .order "first name" .asc] ∧
    run.state.builder.orders = [("person.age", .desc)] := by
  intro c orders start lookup run
  obtain ⟨horders, -, hnamed⟩ := sorts_all_or_nothing c orders "-age,name,age" start.builder
  have htext := hnamed lookup "sort" rfl rfl
  have hfaulty : ∃ o ∈ orders, c.Faulty o := by decide
  have hnone : ∀ o ∈ parse "-age,name,age", ¬c.Faulty o := by decide
  exact ⟨horders.nothing hfaulty, rfl, htext.all hnone, rfl, rfl⟩

end SortCatalog

end Listing
