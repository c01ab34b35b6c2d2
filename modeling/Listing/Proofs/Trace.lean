import Listing.Endpoint

namespace Listing

inductive ClauseCall
  | predicate (p : Predicate)
  | order (field : String) (direction : SortDirection)

structure Traced (β : Type) where
  builder : β
  calls : List ClauseCall := []

namespace Traced

variable {β : Type} [ClauseBuilder β]

def told (q : Traced β) (c : ClauseCall) (r : Run β Unit) : Run (Traced β) Unit :=
  ⟨⟨r.state, q.calls ++ [c]⟩, r.result⟩

instance : ClauseBuilder (Traced β) where
  addPredicate q p := q.told (.predicate p) (ClauseBuilder.addPredicate q.builder p)
  addOrder q field direction :=
    q.told (.order field direction) (ClauseBuilder.addOrder q.builder field direction)

end Traced

namespace Run

variable {α β γ : Type}

def untraced (r : Run (Traced β) α) : Run β α := ⟨r.state.builder, r.result⟩

theorem untraced_andThen {r : Run (Traced β) α} {next : Traced β → α → Run (Traced β) γ}
    (next' : β → α → Run β γ) (h : ∀ q a, (next q a).untraced = next' q.builder a) :
    (r.andThen next).untraced = r.untraced.andThen next' := by
  rcases r with ⟨q, e | a⟩
  · rfl
  · exact h q a

theorem untraced_mapError (f : QueryError → QueryError) (r : Run (Traced β) α) :
    (r.mapError f).untraced = r.untraced.mapError f := rfl

theorem untraced_each {step : Traced β → γ → Run (Traced β) Unit} {step' : β → γ → Run β Unit}
    (h : ∀ q c, (step q c).untraced = step' q.builder c) (q : Traced β) (cs : List γ) :
    (each step q cs).untraced = each step' q.builder cs := by
  induction cs generalizing q with
  | nil => rfl
  | cons c cs ih =>
    rw [each, each, ← h]
    exact untraced_andThen _ fun q _ ↦ ih q

/-- A run that starts from `q` tells its builder these calls: all of them if it succeeds, a
beginning of them if it fails. -/
def Tells (q : Traced β) (cs : List ClauseCall) (r : Run (Traced β) α) : Prop :=
  ∃ told, r.state.calls = q.calls ++ told ∧ told <+: cs ∧ ∀ a, r.result = .ok a → told = cs

theorem tells_ok (q : Traced β) (a : α) : Tells q [] ⟨q, .ok a⟩ :=
  ⟨[], by simp, List.prefix_rfl, fun _ _ ↦ rfl⟩

theorem tells_error (q : Traced β) (cs : List ClauseCall) (e : QueryError) :
    Tells q cs (⟨q, .error e⟩ : Run (Traced β) α) :=
  ⟨[], by simp, List.nil_prefix, fun _ h ↦ nomatch h⟩

theorem tells_told (q : Traced β) (c : ClauseCall) (r : Run β Unit) : Tells q [c] (q.told c r) :=
  ⟨[c], rfl, List.prefix_rfl, fun _ _ ↦ rfl⟩

theorem Tells.calls_prefix {q : Traced β} {cs : List ClauseCall} {r : Run (Traced β) α}
    (h : Tells q cs r) (hq : q.calls = []) : r.state.calls <+: cs := by
  obtain ⟨told, hc, hp, -⟩ := h
  rw [hc, hq]
  exact hp

theorem Tells.mapError {q : Traced β} {cs : List ClauseCall} {r : Run (Traced β) α}
    (h : Tells q cs r) (f : QueryError → QueryError) : Tells q cs (r.mapError f) := by
  obtain ⟨told, hc, hp, ha⟩ := h
  refine ⟨told, hc, hp, fun a hr ↦ ha a ?_⟩
  rcases r with ⟨q', e | b⟩
  · cases hr
  · exact hr

theorem Tells.andThen {q : Traced β} {cs ds : List ClauseCall} {r : Run (Traced β) α}
    (h : Tells q cs r) (next : Traced β → α → Run (Traced β) γ)
    (hn : ∀ q a, Tells q ds (next q a)) : Tells q (cs ++ ds) (r.andThen next) := by
  obtain ⟨told, hc, hp, ha⟩ := h
  rcases r with ⟨q', e | a⟩
  · exact ⟨told, hc, hp.trans (List.prefix_append cs ds), fun _ hr ↦ nomatch hr⟩
  · obtain ⟨more, hc', hp', ha'⟩ := hn q' a
    have he : told = cs := ha a rfl
    subst he
    refine ⟨told ++ more, ?_, (List.prefix_append_right_inj told).2 hp', fun c hr ↦ ?_⟩
    · rw [andThen_ok, hc', hc, List.append_assoc]
    · rw [ha' c hr]

theorem tells_each {step : Traced β → γ → Run (Traced β) Unit} {calls : γ → List ClauseCall}
    {xs : List γ} (h : ∀ x ∈ xs, ∀ q, Tells q (calls x) (step q x)) (q : Traced β) :
    Tells q (xs.flatMap calls) (each step q xs) := by
  induction xs generalizing q with
  | nil => exact tells_ok q ()
  | cons x xs ih =>
    rw [List.flatMap_cons]
    exact (h x List.mem_cons_self q).andThen _ fun q _ ↦
      ih (fun y hy ↦ h y (List.mem_cons_of_mem x hy)) q

end Run

section

variable {β : Type} [ClauseBuilder β]

theorem untraced_addPredicates (q : Traced β) (ps : List Predicate) :
    (addPredicates q ps).untraced = addPredicates q.builder ps :=
  Run.untraced_each (fun _ _ ↦ rfl) q ps

theorem untraced_addOrders (q : Traced β) (orders : List (String × SortDirection)) :
    (addOrders q orders).untraced = addOrders q.builder orders :=
  Run.untraced_each (fun _ _ ↦ rfl) q orders

theorem tells_addPredicates (q : Traced β) (ps : List Predicate) :
    Run.Tells q (ps.map .predicate) (addPredicates q ps) := by
  rw [List.map_eq_flatMap]
  exact Run.tells_each (fun p _ q ↦ Run.tells_told q _ _) q

theorem tells_addOrders (q : Traced β) (orders : List (String × SortDirection)) :
    Run.Tells q (orders.map fun o ↦ .order o.1 o.2) (addOrders q orders) := by
  rw [List.map_eq_flatMap]
  exact Run.tells_each (fun o _ q ↦ Run.tells_told q _ _) q

end

end Listing
