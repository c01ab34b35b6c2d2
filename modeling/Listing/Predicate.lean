import Listing.Error
import Listing.Value

namespace Listing

structure Predicate where
  field : String
  operator : Operator
  value : Value
  combinator : Combinator := .and
  deriving Inhabited

namespace Predicate

def and (field : String) (operator : Operator) (value : Value) : Predicate :=
  { field, operator, value, combinator := .and }

def or (field : String) (operator : Operator) (value : Value) : Predicate :=
  { field, operator, value, combinator := .or }

def jsonText (p : Predicate) : String :=
  "\x7b\"field\":" ++ (Json.text p.field).print ++ ",\"operator\":" ++
    (Json.text p.operator.name).print ++ ",\"value\":" ++ p.value.jsonText ++
    ",\"combinator\":" ++ (Json.text p.combinator.name).print ++ "\x7d"

end Predicate

/-- The end of a run on a builder: the state it was left in, also after an error. -/
structure Run (β α : Type) where
  state : β
  result : Except QueryError α

class ClauseBuilder (β : Type) where
  addPredicate : β → Predicate → Run β Unit
  addOrder : β → String → SortDirection → Run β Unit

namespace Run

variable {α β γ : Type}

/-- A step that leaves the state alone if it fails. -/
def ofStep (q : β) : Except QueryError β → Run β Unit
  | .ok q => ⟨q, .ok ()⟩
  | .error e => ⟨q, .error e⟩

def andThen (r : Run β α) (next : β → α → Run β γ) : Run β γ :=
  match r.result with
  | .ok a => next r.state a
  | .error e => ⟨r.state, .error e⟩

def mapError (f : QueryError → QueryError) (r : Run β α) : Run β α :=
  ⟨r.state, r.result.mapError f⟩

def each (step : β → γ → Run β Unit) (q : β) : List γ → Run β Unit
  | [] => ⟨q, .ok ()⟩
  | c :: r => (step q c).andThen fun q _ ↦ each step q r

@[simp]
theorem andThen_ok (q : β) (a : α) (next : β → α → Run β γ) :
    (⟨q, .ok a⟩ : Run β α).andThen next = next q a := rfl

@[simp]
theorem andThen_error (q : β) (e : QueryError) (next : β → α → Run β γ) :
    (⟨q, .error e⟩ : Run β α).andThen next = ⟨q, .error e⟩ := rfl

theorem andThen_assoc {δ : Type} (r : Run β α) (f : β → α → Run β γ) (g : β → γ → Run β δ) :
    (r.andThen f).andThen g = r.andThen fun q a ↦ (f q a).andThen g := by
  rcases r with ⟨q, e | a⟩ <;> rfl

@[simp]
theorem each_nil (step : β → γ → Run β Unit) (q : β) : each step q [] = ⟨q, .ok ()⟩ := rfl

@[simp]
theorem each_singleton (step : β → γ → Run β Unit) (q : β) (x : γ) : each step q [x] = step q x := by
  rw [each]
  rcases step q x with ⟨q', e | a⟩ <;> rfl

theorem each_append (step : β → γ → Run β Unit) (q : β) (xs ys : List γ) :
    each step q (xs ++ ys) = (each step q xs).andThen fun q _ ↦ each step q ys := by
  induction xs generalizing q with
  | nil => rfl
  | cons x xs ih => simp only [List.cons_append, each, ih, andThen_assoc]

theorem each_map {δ : Type} (step : β → δ → Run β Unit) (g : γ → δ) (q : β) (xs : List γ) :
    each step q (xs.map g) = each (fun q x ↦ step q (g x)) q xs := by
  induction xs generalizing q with
  | nil => rfl
  | cons x xs ih => simp only [List.map_cons, each, ih]

theorem each_congr {step step' : β → γ → Run β Unit} {xs : List γ}
    (h : ∀ x ∈ xs, ∀ q, step q x = step' q x) (q : β) : each step q xs = each step' q xs := by
  induction xs generalizing q with
  | nil => rfl
  | cons x xs ih =>
    have ih := ih fun x hx ↦ h x (List.mem_cons_of_mem _ hx)
    simp only [each, h x List.mem_cons_self, ih]

theorem each_filterMap {δ : Type} {step : β → γ → Run β Unit} {step' : β → δ → Run β Unit}
    {g : γ → Option δ} {xs : List γ} (hnone : ∀ x ∈ xs, g x = none → ∀ q, step q x = ⟨q, .ok ()⟩)
    (hsome : ∀ x ∈ xs, ∀ y, g x = some y → ∀ q, step q x = step' q y) (q : β) :
    each step q xs = each step' q (xs.filterMap g) := by
  induction xs generalizing q with
  | nil => rfl
  | cons x xs ih =>
    have ih := ih (fun x hx ↦ hnone x (List.mem_cons_of_mem _ hx))
      fun x hx ↦ hsome x (List.mem_cons_of_mem _ hx)
    cases hg : g x with
    | none =>
      rw [List.filterMap_cons_none hg, each, hnone x List.mem_cons_self hg, andThen_ok, ih]
    | some y =>
      rw [List.filterMap_cons_some hg, each, each, hsome x List.mem_cons_self y hg]
      simp only [ih]

theorem mapError_andThen (f : QueryError → QueryError) (r : Run β α) (next : β → α → Run β γ) :
    (r.andThen next).mapError f = (r.mapError f).andThen fun q a ↦ (next q a).mapError f := by
  rcases r with ⟨q, e | a⟩ <;> rfl

theorem mapError_each (f : QueryError → QueryError) (step : β → γ → Run β Unit) (q : β)
    (xs : List γ) : (each step q xs).mapError f = each (fun q x ↦ (step q x).mapError f) q xs := by
  induction xs generalizing q with
  | nil => rfl
  | cons x xs ih => simp only [each, mapError_andThen, ih]

end Run

section

variable {β : Type} [ClauseBuilder β]

def Predicate.addTo (p : Predicate) (q : β) : Run β Unit := ClauseBuilder.addPredicate q p

def addPredicates (q : β) (ps : List Predicate) : Run β Unit := Run.each (fun q p ↦ p.addTo q) q ps

def addOrders (q : β) (orders : List (String × SortDirection)) : Run β Unit :=
  Run.each (fun q o ↦ ClauseBuilder.addOrder q o.1 o.2) q orders

end

/-- What a filter of the application's own does to a builder: a sequence of calls, each of which
may depend on how the ones before it ended. -/
inductive ClauseProgram
  | done
  | fail (e : QueryError)
  | predicate (p : Predicate) (next : Except QueryError Unit → ClauseProgram)
  | order (field : String) (direction : SortDirection)
      (next : Except QueryError Unit → ClauseProgram)

namespace ClauseProgram

def orFail (next : ClauseProgram) : Except QueryError Unit → ClauseProgram
  | .ok () => next
  | .error e => .fail e

def run {β : Type} [ClauseBuilder β] (q : β) : ClauseProgram → Run β Unit
  | .done => ⟨q, .ok ()⟩
  | .fail e => ⟨q, .error e⟩
  | .predicate p next =>
    let r := ClauseBuilder.addPredicate q p
    (next r.result).run r.state
  | .order field direction next =>
    let r := ClauseBuilder.addOrder q field direction
    (next r.result).run r.state

end ClauseProgram

end Listing
