import Listing.Text.Pieces
import Listing.Vocabulary

namespace Listing

open Text (extendHead extendHead_append extendHead_ne_nil)

variable {α β : Type}

/-- Whether a sequence begins with a condition that belongs to the one before it. -/
def continues : List (Combinator × α) → Bool
  | (.or, _) :: _ => true
  | _ => false

/-- The groups of a sequence. The connector of the first condition does not matter. -/
def orGroups : List (Combinator × α) → List (List α)
  | [] => []
  | (_, a) :: r => if continues r then extendHead a (orGroups r) else [a] :: orGroups r

@[simp]
theorem orGroups_nil : orGroups ([] : List (Combinator × α)) = [] := rfl

theorem orGroups_ne_nil {cs : List (Combinator × α)} (h : cs ≠ []) : orGroups cs ≠ [] := by
  cases cs with
  | nil => exact absurd rfl h
  | cons c cs =>
    rw [orGroups]
    split
    next => exact extendHead_ne_nil _ _
    next => exact List.cons_ne_nil _ _

theorem orGroups_append (cs : List (Combinator × α)) {ds : List (Combinator × α)}
    (h : continues ds = false) : orGroups (cs ++ ds) = orGroups cs ++ orGroups ds := by
  induction cs with
  | nil => rfl
  | cons c cs ih =>
    rw [List.cons_append, orGroups, orGroups, ih]
    cases cs with
    | nil =>
      rw [List.nil_append, h]
      rfl
    | cons c' cs =>
      have hc : continues (c' :: cs ++ ds) = continues (c' :: cs) := by
        rcases c' with ⟨_ | _, _⟩ <;> rfl
      rw [hc]
      split
      next => exact extendHead_append (orGroups_ne_nil (List.cons_ne_nil _ _)) _ _
      next => rfl

theorem flatten_orGroups (cs : List (Combinator × α)) : (orGroups cs).flatten = cs.map Prod.snd := by
  induction cs with
  | nil => rfl
  | cons c cs ih =>
    rw [orGroups, List.map_cons, ← ih]
    split
    next => cases orGroups cs <;> rfl
    next => rfl

theorem ne_nil_of_mem_orGroups {cs : List (Combinator × α)} {g : List α} (h : g ∈ orGroups cs) :
    g ≠ [] := by
  induction cs generalizing g with
  | nil => cases h
  | cons c cs ih =>
    rw [orGroups] at h
    split at h
    next =>
      cases hs : orGroups cs with
      | nil => simp_all [extendHead]
      | cons g' gs =>
        rw [hs] at h ih
        rcases List.mem_cons.1 h with rfl | h
        · exact List.cons_ne_nil _ _
        · exact ih (List.mem_cons_of_mem _ h)
    next =>
      rcases List.mem_cons.1 h with rfl | h
      · exact List.cons_ne_nil _ _
      · exact ih h

theorem orGroups_map (f : α → β) (cs : List (Combinator × α)) :
    orGroups (cs.map fun c ↦ (c.1, f c.2)) = (orGroups cs).map (List.map f) := by
  induction cs with
  | nil => rfl
  | cons c cs ih =>
    have hc : continues (cs.map fun c ↦ (c.1, f c.2)) = continues cs := by
      rcases cs with _ | ⟨⟨_ | _, _⟩, _⟩ <;> rfl
    rw [List.map_cons, orGroups, orGroups, hc, ih]
    split
    next => cases orGroups cs <;> rfl
    next => rfl

end Listing
