import Listing.Document.Condition
import Listing.Proofs.Grouping

namespace Listing.Document

inductive Selector
  | field (name : String) (condition : Bson)
  | all (parts : List Selector)
  | any (parts : List Selector)

namespace Selector

def allOf : List Selector → Selector
  | [s] => s
  | ss => all ss

mutual

/-- A key with a dollar sign in front is `$and` or `$or` with an array of items, or an error. -/
def ofMember? (key : String) : Bson → Option Selector
  | .array items =>
    if key = connectorKey .and then (ofItems? items).map all
    else if key = connectorKey .or then (ofItems? items).map any
    else if key.toList.head? = some '$' then none
    else some (field key (.array items))
  | v => if key.toList.head? = some '$' then none else some (field key v)

def ofMembers? : List (String × Bson) → Option (List Selector)
  | [] => some []
  | (key, v) :: r => do
    let s ← ofMember? key v
    let ss ← ofMembers? r
    pure (s :: ss)

def ofItem? : Bson → Option Selector
  | .document members => (ofMembers? members).map allOf
  | _ => none

def ofItems? : List Bson → Option (List Selector)
  | [] => some []
  | b :: r => do
    let s ← ofItem? b
    let ss ← ofItems? r
    pure (s :: ss)

end

def ofDocument? (members : List (String × Bson)) : Option Selector :=
  (ofMembers? members).map allOf

mutual

def conditions : Selector → List (String × Bson)
  | field name condition => [(name, condition)]
  | all parts => conditionsOf parts
  | any parts => conditionsOf parts

def conditionsOf : List Selector → List (String × Bson)
  | [] => []
  | s :: r => s.conditions ++ conditionsOf r

end

/-- The value of a condition to which `b` is assigned: nothing is in an empty array. -/
def verdict (condition : Bson) (b : Bool) : Bool :=
  match condition with
  | .document [(key, .array [])] =>
    if key = FieldOperator.among.key then false
    else if key = FieldOperator.notAmong.key then true
    else b
  | _ => b

def value (v : Nat → Bool) (c : (String × Bson) × Nat) : Bool := verdict c.1.2 (v c.2)

mutual

/-- The value of a selector whose conditions are numbered from left to right, beginning with
`n`. -/
def truth (v : Nat → Bool) : Nat → Selector → Bool
  | n, field name condition => value v ((name, condition), n)
  | n, all parts => allTruth v n parts
  | n, any parts => anyTruth v n parts

def allTruth (v : Nat → Bool) : Nat → List Selector → Bool
  | _, [] => true
  | n, s :: r => truth v n s && allTruth v (n + s.conditions.length) r

def anyTruth (v : Nat → Bool) : Nat → List Selector → Bool
  | _, [] => false
  | n, s :: r => truth v n s || anyTruth v (n + s.conditions.length) r

end

def single? : Selector → Option (String × Bson)
  | field name condition => some (name, condition)
  | _ => none

def clause? : Selector → Option (List (String × Bson))
  | field name condition => some [(name, condition)]
  | any parts => if 2 ≤ parts.length then parts.mapM single? else none
  | all _ => none

/-- The clauses of a selector that asks for all of some clauses. -/
def clauses? : Selector → Option (List (List (String × Bson)))
  | all parts => parts.mapM clause?
  | _ => none

theorem mapM_cons_eq_some {α β : Type} {f : α → Option β} {x : α} {xs : List α} {ys : List β} :
    (x :: xs).mapM f = some ys ↔ ∃ y zs, f x = some y ∧ xs.mapM f = some zs ∧ y :: zs = ys := by
  simp [List.mapM_cons, Option.bind_eq_some_iff]

theorem conditionsOf_of_single? {parts : List Selector} {g : List (String × Bson)}
    (h : parts.mapM single? = some g) : conditionsOf parts = g := by
  induction parts generalizing g with
  | nil =>
    cases h
    rfl
  | cons s parts ih =>
    obtain ⟨c, g', hs, hg, rfl⟩ := mapM_cons_eq_some.1 h
    cases s <;> cases hs
    rw [conditionsOf, conditions, ih hg, List.singleton_append]

theorem anyTruth_of_single? {parts : List Selector} {g : List (String × Bson)}
    (h : parts.mapM single? = some g) (v : Nat → Bool) (n : Nat) :
    anyTruth v n parts = (g.zipIdx n).any (value v) := by
  induction parts generalizing g n with
  | nil =>
    cases h
    rfl
  | cons s parts ih =>
    obtain ⟨c, g', hs, hg, rfl⟩ := mapM_cons_eq_some.1 h
    cases s <;> cases hs
    rw [anyTruth, truth, conditions, ih hg, List.zipIdx_cons, List.any_cons]
    rfl

theorem conditions_of_clause? {s : Selector} {g : List (String × Bson)} (h : s.clause? = some g) :
    s.conditions = g := by
  cases s with
  | field name condition => exact Option.some.inj h
  | all parts => cases h
  | any parts =>
    rw [clause?] at h
    split at h
    next => exact conditionsOf_of_single? h
    next => cases h

theorem truth_of_clause? {s : Selector} {g : List (String × Bson)} (h : s.clause? = some g)
    (v : Nat → Bool) (n : Nat) : truth v n s = (g.zipIdx n).any (value v) := by
  cases s with
  | field name condition =>
    cases h
    simp [truth]
  | all parts => cases h
  | any parts =>
    rw [clause?] at h
    split at h
    next => exact anyTruth_of_single? h v n
    next => cases h

theorem truth_of_clauses? {s : Selector} {gs : List (List (String × Bson))}
    (h : s.clauses? = some gs) (v : Nat → Bool) (n : Nat) :
    truth v n s = (numbered n gs).all fun g ↦ g.any (value v) := by
  cases s with
  | all parts =>
    rw [clauses?] at h
    rw [truth]
    induction parts generalizing gs n with
    | nil =>
      cases h
      rfl
    | cons s parts ih =>
      obtain ⟨g, gs', hs, hgs, rfl⟩ := mapM_cons_eq_some.1 h
      rw [allTruth, truth_of_clause? hs, conditions_of_clause? hs, ih _ hgs, numbered,
        List.all_cons]
  | _ => cases h

end Selector

def Condition.entry (c : Condition) : String × Bson :=
  (c.field, .document [(c.operator.key, c.operand)])

theorem head_of_isFieldPath {field : String} (h : isFieldPath field = true) :
    field.toList.head? ≠ some '$' := by
  simp only [isFieldPath, Bool.and_eq_true, bne_iff_ne] at h
  exact h.1.1

namespace Selector

variable {cs : List Condition}

theorem ofItem?_toBson {c : Condition} (h : isFieldPath c.field = true) :
    ofItem? c.toBson = some (field c.entry.1 c.entry.2) := by
  have hm : ofMember? c.field (.document [(c.operator.key, c.operand)]) =
      some (field c.entry.1 c.entry.2) := if_neg (head_of_isFieldPath h)
  rw [Condition.toBson, ofItem?, ofMembers?, ofMembers?, hm]
  rfl

theorem ofItems?_toBson (h : ∀ c ∈ cs, isFieldPath c.field = true) :
    ofItems? (cs.map Condition.toBson) = some (cs.map fun c ↦ field c.entry.1 c.entry.2) := by
  induction cs with
  | nil => rfl
  | cons c cs ih =>
    rw [List.map_cons, ofItems?, ofItem?_toBson (h c List.mem_cons_self),
      ih fun c hc ↦ h c (List.mem_cons_of_mem _ hc)]
    rfl

def ofGroup : List (String × Bson) → Selector
  | [c] => field c.1 c.2
  | cs => any (cs.map fun c ↦ field c.1 c.2)

theorem mapM_single?_field (cs : List (String × Bson)) :
    (cs.map fun c ↦ field c.1 c.2).mapM single? = some cs := by
  induction cs with
  | nil => rfl
  | cons c cs ih =>
    rw [List.map_cons, List.mapM_cons, ih]
    rfl

theorem clause?_ofGroup {g : List (String × Bson)} (h : g ≠ []) : (ofGroup g).clause? = some g := by
  rcases g with _ | ⟨c, _ | ⟨c', g⟩⟩
  · exact absurd rfl h
  · rfl
  · rw [ofGroup, clause?, mapM_single?_field, if_pos (by simp)]
    exact nofun

theorem ofItem?_groupBson {g : List Condition} (h : ∀ c ∈ g, isFieldPath c.field = true) :
    ofItem? (groupBson g) = some (ofGroup (g.map Condition.entry)) := by
  have hor (g : List Condition) (h : ∀ c ∈ g, isFieldPath c.field = true) :
      ofItem? (.document [(connectorKey .or, .array (g.map Condition.toBson))]) =
        some (any (g.map fun c ↦ field c.entry.1 c.entry.2)) := by
    rw [ofItem?, ofMembers?, ofMembers?, ofMember?, if_neg (by decide), if_pos rfl,
      ofItems?_toBson h]
    rfl
  rcases g with _ | ⟨c, _ | ⟨c', g⟩⟩
  · exact hor [] h
  · exact ofItem?_toBson (h c List.mem_cons_self)
  · exact (hor _ h).trans (by simp [ofGroup])

theorem ofItems?_groupBson {gs : List (List Condition)}
    (h : ∀ g ∈ gs, ∀ c ∈ g, isFieldPath c.field = true) :
    ofItems? (gs.map groupBson) = some (gs.map fun g ↦ ofGroup (g.map Condition.entry)) := by
  induction gs with
  | nil => rfl
  | cons g gs ih =>
    rw [List.map_cons, ofItems?, ofItem?_groupBson (h g List.mem_cons_self),
      ih fun g hg ↦ h g (List.mem_cons_of_mem _ hg)]
    rfl

theorem ofDocument?_filterDocument (h : ∀ c ∈ cs, isFieldPath c.field = true) :
    ofDocument? (filterDocument cs) = some (.all ((orGroups (cs.map fun c ↦ (c.connector, c))).map
      fun g ↦ ofGroup (g.map Condition.entry))) := by
  have hg : ∀ g ∈ orGroups (cs.map fun c ↦ (c.connector, c)), ∀ c ∈ g,
      isFieldPath c.field = true := by
    intro g hg c hc
    have hf := List.mem_flatten.2 ⟨g, hg, hc⟩
    rw [flatten_orGroups, List.map_map] at hf
    obtain ⟨c', hc', rfl⟩ := List.mem_map.1 hf
    exact h c' hc'
  unfold filterDocument
  split
  next hgs => rw [hgs]; rfl
  next =>
    rw [ofDocument?, ofMembers?, ofMembers?, ofMember?, if_pos rfl, ofItems?_groupBson hg]
    rfl

theorem clauses?_all_ofGroup {gs : List (List (String × Bson))} (h : ∀ g ∈ gs, g ≠ []) :
    (all (gs.map ofGroup)).clauses? = some gs := by
  rw [clauses?]
  induction gs with
  | nil => rfl
  | cons g gs ih =>
    rw [List.map_cons, List.mapM_cons, clause?_ofGroup (h g List.mem_cons_self),
      ih fun g hg ↦ h g (List.mem_cons_of_mem _ hg)]
    rfl

/-- The groups of the conditions are the clauses of the filter document. -/
theorem reads_filterDocument (h : ∀ c ∈ cs, isFieldPath c.field = true) :
    ∃ s, ofDocument? (filterDocument cs) = some s ∧
      s.clauses? = some (orGroups (cs.map fun c ↦ (c.connector, c.entry))) := by
  refine ⟨_, ofDocument?_filterDocument h, ?_⟩
  have hm : orGroups (cs.map fun c ↦ (c.connector, c.entry)) =
      (orGroups (cs.map fun c ↦ (c.connector, c))).map (List.map Condition.entry) := by
    rw [← orGroups_map, List.map_map]
    rfl
  have hne : ∀ g ∈ orGroups (cs.map fun c ↦ (c.connector, c.entry)), g ≠ [] :=
    fun g hg ↦ ne_nil_of_mem_orGroups hg
  have hgs := clauses?_all_ofGroup hne
  rw [hm, List.map_map] at hgs
  rw [hm]
  exact hgs

end Selector

end Listing.Document
