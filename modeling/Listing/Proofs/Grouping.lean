import Listing.Grouping

namespace Listing

open Text (extendHead)

variable {α : Type}

/-- The groups after one more condition. With OR it joins the group of the condition before it,
otherwise, or as the very first, it begins a group. -/
def joinLast (gs : List (List α)) (c : Combinator × α) : List (List α) :=
  match c.1, gs.getLast? with
  | .or, some g => gs.dropLast ++ [g ++ [c.2]]
  | _, _ => gs ++ [[c.2]]

def groupsInOrder (cs : List (Combinator × α)) : List (List α) := cs.foldl joinLast []

/-- Every group holds, and a group holds if one of its members does. -/
def holds (gs : List (List Bool)) : Bool := gs.all fun g ↦ g.any id

theorem joinLast_and (gs : List (List α)) (a : α) : joinLast gs (.and, a) = gs ++ [[a]] := by
  cases gs <;> rfl

theorem joinLast_or_concat (gs : List (List α)) (g : List α) (a : α) :
    joinLast (gs ++ [g]) (.or, a) = gs ++ [g ++ [a]] := by
  simp [joinLast]

theorem joinLast_cons {gs : List (List α)} (h : gs ≠ []) (g : List α) (c : Combinator × α) :
    joinLast (g :: gs) c = g :: joinLast gs c := by
  rw [← List.dropLast_concat_getLast h]
  rcases c with ⟨_ | _, a⟩
  · simp only [joinLast_and, List.cons_append]
  · rw [← List.cons_append, joinLast_or_concat, joinLast_or_concat, List.cons_append]

theorem joinLast_extendHead {gs : List (List α)} (h : gs ≠ []) (a : α) (c : Combinator × α) :
    joinLast (extendHead a gs) c = extendHead a (joinLast gs c) := by
  rcases gs with _ | ⟨g, _ | ⟨g', gs⟩⟩
  · exact absurd rfl h
  · rcases c with ⟨_ | _, _⟩ <;> rfl
  · rw [extendHead, joinLast_cons (List.cons_ne_nil _ _), joinLast_cons (List.cons_ne_nil _ _),
      extendHead]

theorem orGroups_concat (cs : List (Combinator × α)) (c : Combinator × α) :
    orGroups (cs ++ [c]) = joinLast (orGroups cs) c := by
  rcases c with ⟨_ | _, a⟩
  · rw [orGroups_append cs rfl, joinLast_and]
    rfl
  induction cs with
  | nil => rfl
  | cons c' cs ih =>
    rw [List.cons_append, orGroups, orGroups]
    cases cs with
    | nil => rfl
    | cons c'' cs =>
      have hc : continues (c'' :: cs ++ [(.or, a)]) = continues (c'' :: cs) := by
        rcases c'' with ⟨_ | _, _⟩ <;> rfl
      have hne := orGroups_ne_nil (List.cons_ne_nil c'' cs)
      rw [hc, ih]
      split
      next => exact (joinLast_extendHead hne _ _).symm
      next => exact (joinLast_cons hne _ _).symm

/-- Looking ahead for the next connector gives the groups that looking back at the last group
gives. -/
theorem groupsInOrder_eq (cs : List (Combinator × α)) : groupsInOrder cs = orGroups cs := by
  rw [groupsInOrder, ← List.reverse_reverse cs, List.foldl_reverse]
  induction cs.reverse with
  | nil => rfl
  | cons c cs ih => rw [List.foldr_cons, ih, List.reverse_cons, orGroups_concat]

theorem groupsInOrder_map {β : Type} (f : α → β) (cs : List (Combinator × α)) :
    groupsInOrder (cs.map fun c ↦ (c.1, f c.2)) = (groupsInOrder cs).map (List.map f) := by
  rw [groupsInOrder_eq, groupsInOrder_eq, orGroups_map]

theorem groupsInOrder_zip_fst {β : Type} {xs : List α} {ys : List β} (h : xs.length = ys.length)
    (js : List Combinator) : (groupsInOrder (js.zip (xs.zip ys))).map (List.map Prod.fst) =
      groupsInOrder (js.zip xs) := by
  have hz : js.zip ((xs.zip ys).map Prod.fst) = _ := List.zip_map_right
  rw [List.map_fst_zip (Nat.le_of_eq h)] at hz
  rw [hz]
  exact (groupsInOrder_map Prod.fst _).symm

theorem groupsInOrder_zip_snd {β : Type} {xs : List α} {ys : List β} (h : xs.length = ys.length)
    (js : List Combinator) : (groupsInOrder (js.zip (xs.zip ys))).map (List.map Prod.snd) =
      groupsInOrder (js.zip ys) := by
  have hz : js.zip ((xs.zip ys).map Prod.snd) = _ := List.zip_map_right
  rw [List.map_snd_zip (Nat.le_of_eq h.symm)] at hz
  rw [hz]
  exact (groupsInOrder_map Prod.snd _).symm

theorem flatten_groupsInOrder_zip {js : List Combinator} {xs : List α}
    (h : js.length = xs.length) : (groupsInOrder (js.zip xs)).flatten = xs := by
  rw [groupsInOrder_eq, flatten_orGroups, List.map_snd_zip (Nat.le_of_eq h.symm)]

theorem continues_zip {js : List Combinator} (h : js.head? ≠ some .or) (xs : List α) :
    continues (js.zip xs) = false := by
  rcases js with _ | ⟨_ | _, js⟩
  · rfl
  · cases xs <;> rfl
  · exact absurd rfl h

theorem orGroups_zip_replicate_and (xs : List α) :
    orGroups ((List.replicate xs.length .and).zip xs) = xs.map fun x ↦ [x] := by
  induction xs with
  | nil => rfl
  | cons x xs ih =>
    rw [List.length_cons, List.replicate_succ, List.zip_cons_cons, orGroups, ih, List.map_cons]
    cases xs <;> rfl

theorem orGroups_zip_replicate_or (c : Combinator) (x : α) (xs : List α) :
    orGroups ((c :: List.replicate xs.length .or).zip (x :: xs)) = [x :: xs] := by
  induction xs generalizing c x with
  | nil => rfl
  | cons y xs ih =>
    rw [List.length_cons, List.replicate_succ, List.zip_cons_cons, orGroups, ih]
    rfl

theorem holds_append (gs hs : List (List Bool)) : holds (gs ++ hs) = (holds gs && holds hs) :=
  List.all_append

theorem holds_orGroups_map (f : α → Bool) (cs : List (Combinator × α)) :
    holds (orGroups (cs.map fun c ↦ (c.1, f c.2))) = (orGroups cs).all fun g ↦ g.any f := by
  rw [orGroups_map, holds, List.all_map]
  congr 1
  funext g
  exact List.any_map

theorem mandatory_of_holds {cs ds : List (Combinator × Bool)} {b : Bool} (hd : continues ds = false)
    (h : holds (orGroups (cs ++ (.and, b) :: ds)) = true) : b = true := by
  rw [orGroups_append cs rfl, holds_append, orGroups, if_neg (by simp [hd])] at h
  simp only [holds, List.all_cons, List.any_cons, List.any_nil, Bool.or_false, Bool.and_eq_true] at h
  exact h.2.1

/-- Whether conditions hold that follow a group of value `b`. -/
def holdsAfter : Bool → List (Combinator × Bool) → Bool
  | b, [] => b
  | b, (.and, x) :: r => b && holdsAfter x r
  | b, (.or, x) :: r => holdsAfter (b || x) r

theorem holds_orGroups_cons (c : Combinator) (b : Bool) (xs : List (Combinator × Bool)) :
    holds (orGroups ((c, b) :: xs)) = holdsAfter b xs := by
  induction xs generalizing c b with
  | nil => simp [orGroups, continues, holds, holdsAfter]
  | cons x xs ih =>
    rcases x with ⟨_ | _, x⟩
    · rw [holdsAfter, ← ih .and x]
      simp [orGroups, continues, holds]
    · rw [holdsAfter, ← ih c (b || x)]
      have hc : continues ((Combinator.or, x) :: xs) = true := rfl
      rw [orGroups, orGroups, orGroups, if_pos hc]
      split
      next => cases orGroups xs <;> simp [extendHead, holds, Bool.or_assoc]
      next => simp [extendHead, holds]

theorem holdsAfter_append {ys : List (Combinator × Bool)} (h : continues ys = false) (b : Bool)
    (xs : List (Combinator × Bool)) :
    holdsAfter b (xs ++ ys) = (holdsAfter b xs && holds (orGroups ys)) := by
  rw [← holds_orGroups_cons .and, ← List.cons_append, orGroups_append _ h, holds_append,
    holds_orGroups_cons]

theorem holdsAfter_append_of_or {xs : List (Combinator × Bool)} (h : ∀ x ∈ xs, x.1 = .or) (b : Bool)
    (ys : List (Combinator × Bool)) :
    holdsAfter b (xs ++ ys) = holdsAfter (holdsAfter b xs) ys := by
  induction xs generalizing b with
  | nil => rfl
  | cons x xs ih =>
    obtain ⟨hx, hxs⟩ := List.forall_mem_cons.1 h
    rcases x with ⟨c, x⟩
    subst hx
    exact ih hxs (b || x)

theorem holdsAfter_true_of_holdsAfter {b : Bool} {xs : List (Combinator × Bool)}
    (h : holdsAfter b xs = true) : holdsAfter true xs = true := by
  induction xs generalizing b with
  | nil => rfl
  | cons x xs ih =>
    rcases x with ⟨_ | _, x⟩
    · rw [holdsAfter, Bool.and_eq_true] at h
      exact h.2
    · exact ih h

theorem holdsAfter_true_of_forall {xs : List (Combinator × Bool)}
    (h : ∀ x ∈ xs, x.1 = .and → x.2 = true) : holdsAfter true xs = true := by
  induction xs with
  | nil => rfl
  | cons x xs ih =>
    obtain ⟨hx, hxs⟩ := List.forall_mem_cons.1 h
    rcases x with ⟨_ | _, x⟩
    · have hx : x = true := hx rfl
      subst hx
      exact ih hxs
    · exact ih hxs

theorem holdsAfter_false_of_forall {xs : List (Combinator × Bool)} (h : ∀ x ∈ xs, x.2 = false) :
    holdsAfter false xs = false := by
  induction xs with
  | nil => rfl
  | cons x xs ih =>
    obtain ⟨hx, hxs⟩ := List.forall_mem_cons.1 h
    rcases x with ⟨_ | _, x⟩
    · rfl
    · subst hx
      exact ih hxs

def numbered : Nat → List (List α) → List (List (α × Nat))
  | _, [] => []
  | n, g :: gs => g.zipIdx n :: numbered (n + g.length) gs

theorem numbered_append (n : Nat) (gs hs : List (List α)) :
    numbered n (gs ++ hs) = numbered n gs ++ numbered (n + gs.flatten.length) hs := by
  induction gs generalizing n with
  | nil => rfl
  | cons g gs ih =>
    rw [List.cons_append, numbered, numbered, ih, List.flatten_cons, List.length_append,
      Nat.add_assoc]
    rfl

theorem numbered_extendHead (n : Nat) (a : α) (gs : List (List α)) :
    numbered n (extendHead a gs) = extendHead (a, n) (numbered (n + 1) gs) := by
  cases gs with
  | nil => rfl
  | cons g gs =>
    simp only [extendHead, numbered, List.zipIdx_cons, List.length_cons]
    rw [Nat.add_assoc, Nat.add_comm 1]

theorem orGroups_zipIdx (n : Nat) (cs : List (Combinator × α)) :
    orGroups ((cs.zipIdx n).map fun c ↦ (c.1.1, c.1.2, c.2)) = numbered n (orGroups cs) := by
  induction cs generalizing n with
  | nil => rfl
  | cons c cs ih =>
    have hc : continues ((cs.zipIdx (n + 1)).map fun c ↦ (c.1.1, c.1.2, c.2)) = continues cs := by
      rcases cs with _ | ⟨⟨_ | _, _⟩, _⟩ <;> rfl
    rw [List.zipIdx_cons, List.map_cons, orGroups, orGroups, hc, ih]
    split
    next => exact (numbered_extendHead n c.2 _).symm
    next => rfl

end Listing
