import Listing.Proofs.Grouping
import Listing.Proofs.Leaves

namespace Listing

namespace FilterNode

variable {v : Nat → Bool}

/-- How a node joins the sibling before it. The connector of a group is passed over. -/
def joint : FilterNode → Combinator
  | .mk _ _ _ combinator [] => combinator
  | .mk _ _ _ _ (_ :: _) => .and

mutual

/-- The value of a node if values are assigned to leaves by number, `n` being the first. -/
def truth (v : Nat → Bool) (n : Nat) : FilterNode → Bool
  | .mk _ _ _ _ [] => v n
  | .mk _ _ _ _ (m :: r) =>
    holds (groupsInOrder ((m.joint, truth v n m) :: truths v (n + (leaves m).length) r))

def truths (v : Nat → Bool) (n : Nat) : List FilterNode → List (Combinator × Bool)
  | [] => []
  | m :: r => (m.joint, truth v n m) :: truths v (n + (leaves m).length) r

end

def reading (v : Nat → Bool) (ns : List FilterNode) : Bool := holds (groupsInOrder (truths v 0 ns))

def opener (t : FilterNode) : Combinator :=
  match leaves t with
  | [] => .and
  | l :: _ => l.combinator

/-- All leaves of a node are alternatives to the first one. -/
def alternatives (t : FilterNode) : Bool := (leaves t).tail.all fun l ↦ l.combinator = .or

/-- An OR between siblings stays where it is if it stands between a node of alternatives and a
leaf. -/
def follows (s t : FilterNode) : Bool := t.opener = .and || !t.isGroup && s.alternatives

mutual

def bracketed : FilterNode → Bool
  | .mk _ _ _ _ [] => true
  | .mk _ _ _ _ (m :: r) => bracketed m && bracketedAfter m r

def bracketedAfter (s : FilterNode) : List FilterNode → Bool
  | [] => true
  | t :: r => follows s t && bracketed t && bracketedAfter t r

end

/-- No OR reaches over the border of a group. -/
def Bracketed : List FilterNode → Prop
  | [] => True
  | m :: r => bracketed m = true ∧ bracketedAfter m r = true

instance (ns : List FilterNode) : Decidable (Bracketed ns) :=
  match ns with
  | [] => .isTrue trivial
  | _ :: _ => inferInstanceAs (Decidable (_ ∧ _))

theorem exists_leaves : ∀ t : FilterNode, ∃ l ls, leaves t = l :: ls ∧ l.combinator = t.opener
  | .mk field value operator combinator [] => ⟨_, [], rfl, rfl⟩
  | .mk _ _ _ _ (m :: r) => by
    obtain ⟨l, ls, h, -⟩ := exists_leaves m
    refine ⟨l, ls ++ leavesOf r, ?_, ?_⟩
    · rw [leaves, h, List.cons_append]
    · rw [opener, leaves, h, List.cons_append]

theorem truth_group (v : Nat → Bool) (n : Nat) (field value : Option String) (o : Operator)
    (c : Combinator) (m : FilterNode) (r : List FilterNode) :
    truth v n (.mk field value o c (m :: r)) =
      holdsAfter (truth v n m) (truths v (n + (leaves m).length) r) := by
  rw [truth, groupsInOrder_eq, holds_orGroups_cons]

theorem opener_group (field value : Option String) (o : Operator) (c : Combinator) (m : FilterNode)
    (r : List FilterNode) : (FilterNode.mk field value o c (m :: r)).opener = m.opener := by
  obtain ⟨l, ls, h, hl⟩ := exists_leaves m
  rw [opener, leaves, h, List.cons_append]
  exact hl

/-- The connectors and values of leaves that are numbered from `n` on. -/
def flat (v : Nat → Bool) (n : Nat) (ls : List FilterNode) : List (Combinator × Bool) :=
  (ls.zipIdx n).map fun l ↦ (l.1.combinator, v l.2)

theorem flat_cons (v : Nat → Bool) (n : Nat) (l : FilterNode) (ls : List FilterNode) :
    flat v n (l :: ls) = (l.combinator, v n) :: flat v (n + 1) ls := rfl

theorem flat_append (v : Nat → Bool) (n : Nat) (ls ms : List FilterNode) :
    flat v n (ls ++ ms) = flat v n ls ++ flat v (n + ls.length) ms := by
  rw [flat, List.zipIdx_append, List.map_append]
  rfl

theorem combinator_of_mem_flat {ls : List FilterNode} {n : Nat} {x : Combinator × Bool}
    (h : x ∈ flat v n ls) : ∃ l ∈ ls, x.1 = l.combinator := by
  obtain ⟨l, hl, rfl⟩ := List.mem_map.1 h
  exact ⟨l.1, List.fst_mem_of_mem_zipIdx hl, rfl⟩

theorem combinator_of_alternatives {t l : FilterNode} {ls : List FilterNode}
    (hl : leaves t = l :: ls) (ht : t.alternatives = true) {n : Nat} :
    ∀ x ∈ flat v n ls, x.1 = .or := by
  intro x hx
  obtain ⟨m, hm, hx⟩ := combinator_of_mem_flat hx
  rw [alternatives, hl, List.tail_cons, List.all_eq_true] at ht
  rw [hx]
  exact of_decide_eq_true (ht m hm)

mutual

theorem truth_eq_of_bracketed (v : Nat → Bool) : ∀ (t : FilterNode) (n : Nat),
    bracketed t = true → truth v n t = holds (orGroups (flat v n (leaves t)))
  | .mk field value o c [], n, _ => by
    rw [truth, leaves, flat_cons, holds_orGroups_cons]
    rfl
  | .mk field value o c (m :: r), n, h => by
    rw [bracketed, Bool.and_eq_true] at h
    obtain ⟨l, ls, hl, -⟩ := exists_leaves m
    have hm := truth_eq_of_bracketed v m n h.1
    have hr := holdsAfter_eq_of_bracketedAfter v m r (n + (leaves m).length) h.2 (v n)
      (flat v (n + 1) ls) fun ha ↦ combinator_of_alternatives hl ha
    have hflat : flat v n (leaves m) = (l.combinator, v n) :: flat v (n + 1) ls := by
      rw [hl, flat_cons]
    rw [hflat, holds_orGroups_cons] at hm
    rw [truth_group, hm, ← hr, leaves, flat_append, hflat, List.cons_append, holds_orGroups_cons]

/-- After the leaves of a node, which end with the conditions `xs`, its siblings count as their
leaves do. -/
theorem holdsAfter_eq_of_bracketedAfter (v : Nat → Bool) : ∀ (s : FilterNode)
    (r : List FilterNode) (n : Nat), bracketedAfter s r = true →
    ∀ (b : Bool) (xs : List (Combinator × Bool)),
      (s.alternatives = true → ∀ x ∈ xs, x.1 = .or) →
      holdsAfter b (xs ++ flat v n (leavesOf r)) = holdsAfter (holdsAfter b xs) (truths v n r)
  | s, [], n, _, b, xs, _ => by
    rw [leavesOf, truths, flat, List.zipIdx_nil, List.map_nil, List.append_nil]
    rfl
  | s, t :: r, n, h, b, xs, hxs => by
    rw [bracketedAfter, Bool.and_eq_true, Bool.and_eq_true] at h
    obtain ⟨⟨hst, ht⟩, hr⟩ := h
    obtain ⟨l, ls, hl, hopener⟩ := exists_leaves t
    have htruth := truth_eq_of_bracketed v t n ht
    rw [hl, flat_cons, holds_orGroups_cons] at htruth
    rw [leavesOf, truths, flat_append]
    cases ho : t.opener with
    | and =>
      have hjoint : t.joint = .and := by
        rcases t with ⟨field, value, o, c, _ | ⟨m, r'⟩⟩
        · exact ho
        · rfl
      have hgroup := holdsAfter_eq_of_bracketedAfter v t r (n + (leaves t).length) hr (v n)
        (flat v (n + 1) ls) fun ha ↦ combinator_of_alternatives hl ha
      have hflat : flat v n (leaves t) = (.and, v n) :: flat v (n + 1) ls := by
        rw [hl, flat_cons, hopener, ho]
      rw [hjoint, hflat, List.cons_append, holdsAfter_append rfl, holds_orGroups_cons, hgroup,
        ← htruth, holdsAfter]
    | or =>
      rw [follows, ho, Bool.or_eq_true, Bool.and_eq_true, Bool.not_eq_true'] at hst
      obtain ⟨hleaf, hs⟩ := hst.resolve_left (by decide)
      have hor := hxs hs
      rcases t with ⟨field, value, o, c, _ | ⟨m, r'⟩⟩
      · have hc : c = .or := ho
        have hnext := holdsAfter_eq_of_bracketedAfter v (.mk field value o c []) r (n + 1) hr b
          (xs ++ [(.or, v n)]) fun _ x hx ↦ by
            rcases List.mem_append.1 hx with hx | hx
            · exact hor x hx
            · rw [List.mem_singleton.1 hx]
        have hlast := holdsAfter_append_of_or hor b [(.or, v n)]
        rw [List.append_assoc, hlast] at hnext
        subst hc
        exact hnext
      · cases hleaf

end

theorem reading_eq_of_bracketed {ns : List FilterNode} (h : Bracketed ns) (v : Nat → Bool) :
    reading v ns = holds (orGroups (flat v 0 (leavesOf ns))) := by
  cases ns with
  | nil => rfl
  | cons m r =>
    have hroot := truth_eq_of_bracketed v (.mk none none .equal .and (m :: r)) 0
    rw [bracketed, Bool.and_eq_true] at hroot
    exact hroot h

/-- Leaves that hold just if they are joined with AND. -/
def Steady (v : Nat → Bool) (n : Nat) (ls : List FilterNode) : Prop :=
  ∀ x ∈ flat v n ls, x.2 = decide (x.1 = .and)

theorem steady_append {n : Nat} {ls ms : List FilterNode} :
    Steady v n (ls ++ ms) ↔ Steady v n ls ∧ Steady v (n + ls.length) ms := by
  rw [Steady, flat_append, List.forall_mem_append]
  rfl

theorem steady_cons {n : Nat} {l : FilterNode} {ls : List FilterNode} :
    Steady v n (l :: ls) ↔ v n = decide (l.combinator = .and) ∧ Steady v (n + 1) ls := by
  rw [Steady, flat_cons, List.forall_mem_cons]
  rfl

mutual

/-- No group below a node opens with OR, except at the node's start. -/
def orderly : FilterNode → Bool
  | .mk _ _ _ _ [] => true
  | .mk _ _ _ _ (m :: r) => orderly m && orderlyAfter r

def orderlyAfter : List FilterNode → Bool
  | [] => true
  | t :: r => (t.opener = .and || !t.isGroup) && orderly t && orderlyAfter r

end

mutual

theorem orderly_of_truth : ∀ (t : FilterNode) (n : Nat), Steady v (n + 1) (leaves t).tail →
    truth v n t = true → orderly t = true
  | .mk _ _ _ _ [], _, _, _ => by rw [orderly]
  | .mk field value o c (m :: r), n, hv, h => by
    obtain ⟨l, ls, hl, -⟩ := exists_leaves m
    have hlength : n + 1 + ls.length = n + (leaves m).length := by
      rw [hl, List.length_cons]
      omega
    rw [leaves, hl, List.cons_append, List.tail_cons, steady_append, hlength] at hv
    rw [truth_group] at h
    obtain ⟨hm, hr⟩ := orderlyAfter_of_holdsAfter r _ _ hv.2 h
    have hm' := orderly_of_truth m n (by rw [hl]; exact hv.1) hm
    rw [orderly, hm', hr, Bool.and_self]

theorem orderlyAfter_of_holdsAfter : ∀ (r : List FilterNode) (n : Nat) (b : Bool),
    Steady v n (leavesOf r) → holdsAfter b (truths v n r) = true →
    b = true ∧ orderlyAfter r = true
  | [], _, b, _, h => ⟨h, by rw [orderlyAfter]⟩
  | .mk field value o .and [] :: r, n, b, hv, h => by
    rw [leavesOf, steady_append] at hv
    rw [truths, joint, holdsAfter, Bool.and_eq_true] at h
    obtain ⟨-, hr⟩ := orderlyAfter_of_holdsAfter r _ _ hv.2 h.2
    refine ⟨h.1, ?_⟩
    rw [orderlyAfter, orderly, hr]
    rfl
  | .mk field value o .or [] :: r, n, b, hv, h => by
    rw [leavesOf, leaves, steady_append, steady_cons] at hv
    obtain ⟨⟨hn, -⟩, hr⟩ := hv
    rw [truths, joint, holdsAfter, truth, hn] at h
    obtain ⟨hb, hr⟩ := orderlyAfter_of_holdsAfter r _ _ hr h
    refine ⟨by simpa [FilterNode.combinator] using hb, ?_⟩
    rw [orderlyAfter, orderly, hr]
    rfl
  | .mk field value o c (m :: s) :: r, n, b, hv, h => by
    rw [leavesOf, steady_append] at hv
    rw [truths, joint, holdsAfter, Bool.and_eq_true] at h
    obtain ⟨ht, hr⟩ := orderlyAfter_of_holdsAfter r _ _ hv.2 h.2
    have htail : Steady v (n + 1) (leaves (.mk field value o c (m :: s))).tail := by
      obtain ⟨l, ls, hl, -⟩ := exists_leaves (.mk field value o c (m :: s))
      rw [hl, steady_cons] at hv
      rw [hl]
      exact hv.1.2
    have ho := orderly_of_truth _ n htail ht
    have hopener : (FilterNode.mk field value o c (m :: s)).opener = .and := by
      cases hopener : (FilterNode.mk field value o c (m :: s)).opener with
      | and => rfl
      | or =>
        rw [truth_eq_false_of_opener _ n hv.1 hopener] at ht
        cases ht
    refine ⟨h.1, ?_⟩
    rw [orderlyAfter, ho, hr, hopener]
    rfl

theorem truth_eq_false_of_opener : ∀ (t : FilterNode) (n : Nat), Steady v n (leaves t) →
    t.opener = .or → truth v n t = false
  | .mk field value o c [], n, hv, h => by
    have hc : c = .or := h
    rw [leaves, steady_cons] at hv
    rw [truth, hv.1, FilterNode.combinator, hc]
    rfl
  | .mk field value o c (m :: r), n, hv, h => by
    rw [leaves, steady_append] at hv
    rw [opener_group] at h
    have hm := truth_eq_false_of_opener m n hv.1 h
    rw [truth_group, hm]
    cases hr : holdsAfter false (truths v (n + (leaves m).length) r) with
    | false => rfl
    | true => cases (orderlyAfter_of_holdsAfter r _ _ hv.2 hr).1

end

mutual

theorem truth_of_forall : ∀ (t : FilterNode) (n : Nat),
    (∀ i, n ≤ i → i < n + (leaves t).length → v i = true) → truth v n t = true
  | .mk _ _ _ _ [], n, h => h n (Nat.le_refl n) (Nat.lt_succ_self n)
  | .mk _ _ _ _ (m :: r), n, h => by
    rw [leaves, List.length_append] at h
    have hm := truth_of_forall m n fun i hi hi' ↦ h i hi (by omega)
    have hr := truths_of_forall r (n + (leaves m).length) fun i hi hi' ↦
      h i (by omega) (by omega)
    rw [truth_group, hm]
    exact holdsAfter_true_of_forall hr

theorem truths_of_forall : ∀ (r : List FilterNode) (n : Nat),
    (∀ i, n ≤ i → i < n + (leavesOf r).length → v i = true) →
    ∀ x ∈ truths v n r, x.1 = .and → x.2 = true
  | [], _, _ => nofun
  | t :: r, n, h => by
    rw [leavesOf, List.length_append] at h
    have ht := truth_of_forall t n fun i hi hi' ↦ h i hi (by omega)
    have hr := truths_of_forall r (n + (leaves t).length) fun i hi hi' ↦
      h i (by omega) (by omega)
    rw [truths]
    exact List.forall_mem_cons.2 ⟨fun _ ↦ ht, hr⟩

end

def allBut (n m i : Nat) : Bool := decide (i < n ∨ m ≤ i)

theorem allBut_of_lt {n m i : Nat} (h : i < n) : allBut n m i = true :=
  decide_eq_true (.inl h)

theorem allBut_of_le {n m i : Nat} (h : m ≤ i) : allBut n m i = true :=
  decide_eq_true (.inr h)

theorem allBut_eq_false {n m i : Nat} (h : n ≤ i) (h' : i < m) : allBut n m i = false :=
  decide_eq_false (by omega)

/-- Among leaves that are numbered from `n` on there are those of a node which are not all
alternatives to the first of them, which does not join a leaf before it, and without which the
value would still be true. -/
def Dispensable (n : Nat) (ls : List FilterNode) (value : (Nat → Bool) → Bool) : Prop :=
  ∃ before s after, ls = before ++ leaves s ++ after ∧ s.alternatives = false ∧
    (n + before.length = 0 ∨ s.opener = .and) ∧
    value (allBut (n + before.length) (n + before.length + (leaves s).length)) = true

theorem Dispensable.before {n : Nat} {ls ms : List FilterNode} {value value' : (Nat → Bool) → Bool}
    (h : Dispensable n ls value)
    (hv : ∀ a b, b ≤ n + ls.length → value (allBut a b) = true → value' (allBut a b) = true) :
    Dispensable n (ls ++ ms) value' := by
  obtain ⟨before, s, after, rfl, hs, hfirst, htrue⟩ := h
  refine ⟨before, s, after ++ ms, List.append_assoc _ _ _, hs, hfirst, hv _ _ ?_ htrue⟩
  rw [List.length_append, List.length_append]
  omega

theorem Dispensable.after {n : Nat} {ls ms : List FilterNode} {value value' : (Nat → Bool) → Bool}
    (h : Dispensable (n + ls.length) ms value)
    (hv : ∀ a b, n + ls.length ≤ a → value (allBut a b) = true → value' (allBut a b) = true) :
    Dispensable n (ls ++ ms) value' := by
  obtain ⟨before, s, after, rfl, hs, hfirst, htrue⟩ := h
  have hlength : n + (ls ++ before).length = n + ls.length + before.length := by
    rw [List.length_append, Nat.add_assoc]
  refine ⟨ls ++ before, s, after, by simp only [List.append_assoc], hs, ?_, ?_⟩
  · rwa [hlength]
  · rw [hlength]
    exact hv _ _ (Nat.le_add_right _ _) htrue

theorem alternatives_of_isGroup_eq_false {t : FilterNode} (h : t.isGroup = false) :
    t.alternatives = true := by
  rcases t with ⟨field, value, o, c, _ | ⟨m, r⟩⟩
  · rfl
  · cases h

theorem dispensable_of_not_follows {s t : FilterNode} (r : List FilterNode) {n : Nat}
    (hs : s.isGroup = true → n = 0 ∨ s.opener = .and) (ht : t.opener = .and ∨ t.isGroup = false)
    (h : follows s t = false) :
    Dispensable n (leaves s ++ leavesOf (t :: r))
      fun v ↦ holdsAfter (truth v n s) (truths v (n + (leaves s).length) (t :: r)) := by
  rw [follows, Bool.or_eq_false_iff, Bool.and_eq_false_iff] at h
  obtain ⟨hopener, h⟩ := h
  have hleaf : t.isGroup = false := ht.resolve_left (of_decide_eq_false hopener)
  have halternatives : s.alternatives = false := h.resolve_left (by rw [hleaf]; nofun)
  have hgroup : s.isGroup = true := by
    cases hg : s.isGroup with
    | true => rfl
    | false =>
      rw [alternatives_of_isGroup_eq_false hg] at halternatives
      cases halternatives
  refine ⟨[], s, leavesOf (t :: r), rfl, halternatives, hs hgroup, ?_⟩
  rcases t with ⟨field, value, o, _ | _, _ | ⟨m, r'⟩⟩
  · cases hopener
  · cases hleaf
  · dsimp only
    rw [truths, joint, holdsAfter, truth, List.length_nil, Nat.add_zero,
      allBut_of_le (Nat.le_refl _), Bool.or_true]
    exact holdsAfter_true_of_forall (truths_of_forall r _ fun i hi _ ↦
      allBut_of_le (Nat.le_of_add_right_le hi))
  · cases hleaf

mutual

theorem dispensable_of_not_bracketed : ∀ (t : FilterNode) (n : Nat), orderly t = true →
    (n = 0 ∨ t.opener = .and) → bracketed t = false → Dispensable n (leaves t) (truth · n t)
  | .mk _ _ _ _ [], _, _, _, h => by
    rw [bracketed] at h
    cases h
  | .mk field value o c (m :: r), n, ho, hn, h => by
    rw [orderly, Bool.and_eq_true] at ho
    rw [opener_group] at hn
    rw [bracketed, Bool.and_eq_false_iff] at h
    simp only [leaves, truth_group]
    rcases h with hm | hr
    · refine (dispensable_of_not_bracketed m n ho.1 hn hm).before fun a b hb htrue ↦ ?_
      rw [htrue]
      exact holdsAfter_true_of_forall (truths_of_forall r _ fun i hi _ ↦
        allBut_of_le (Nat.le_trans hb hi))
    · exact dispensable_of_not_bracketedAfter m r n ho.2 (fun _ ↦ hn) hr

theorem dispensable_of_not_bracketedAfter : ∀ (s : FilterNode) (r : List FilterNode) (n : Nat),
    orderlyAfter r = true → (s.isGroup = true → n = 0 ∨ s.opener = .and) →
    bracketedAfter s r = false →
    Dispensable n (leaves s ++ leavesOf r)
      fun v ↦ holdsAfter (truth v n s) (truths v (n + (leaves s).length) r)
  | _, [], _, _, _, h => by
    rw [bracketedAfter] at h
    cases h
  | s, t :: r, n, ho, hn, h => by
    rw [orderlyAfter, Bool.and_eq_true, Bool.and_eq_true, Bool.or_eq_true] at ho
    obtain ⟨⟨hopener, ht⟩, hr⟩ := ho
    rw [decide_eq_true_eq, Bool.not_eq_true'] at hopener
    have hgroup (hg : t.isGroup = true) : t.opener = .and :=
      hopener.resolve_right (by rw [hg]; nofun)
    rw [bracketedAfter, Bool.and_eq_false_iff, Bool.and_eq_false_iff] at h
    by_cases hst : follows s t = false
    · exact dispensable_of_not_follows r hn hopener hst
    have hlater : Dispensable (n + (leaves s).length) (leaves t ++ leavesOf r) fun v ↦
        holdsAfter (truth v (n + (leaves s).length) t)
          (truths v (n + (leaves s).length + (leaves t).length) r) := by
      rcases h with (hst' | ht') | hr'
      · exact absurd hst' hst
      · have hg : t.isGroup = true := by
          rcases t with ⟨field, value, o, c, _ | ⟨m, r'⟩⟩
          · rw [bracketed] at ht'
            cases ht'
          · rfl
        refine (dispensable_of_not_bracketed t _ ht (.inr (hgroup hg)) ht').before
          fun a b hb htrue ↦ ?_
        rw [htrue]
        exact holdsAfter_true_of_forall (truths_of_forall r _ fun i hi _ ↦
          allBut_of_le (Nat.le_trans hb hi))
      · exact dispensable_of_not_bracketedAfter t r _ hr (fun hg ↦ .inr (hgroup hg)) hr'
    refine hlater.after fun a b ha htrue ↦ ?_
    have hs := truth_of_forall s n fun i _ hi ↦ allBut_of_lt (m := b) (Nat.lt_of_lt_of_le hi ha)
    rw [hs, truths]
    cases t.joint with
    | and => exact htrue
    | or =>
      rw [holdsAfter, Bool.true_or]
      exact holdsAfter_true_of_holdsAfter htrue

end

theorem holds_flat_append {m : FilterNode} (hm : m.combinator = .and) (n : Nat)
    (ls ms : List FilterNode) :
    holds (orGroups (flat v n (ls ++ m :: ms))) =
      (holds (orGroups (flat v n ls)) &&
        holds (orGroups (flat v (n + ls.length) (m :: ms)))) := by
  have hcontinues : continues (flat v (n + ls.length) (m :: ms)) = false := by
    rw [flat_cons, hm]
    rfl
  rw [flat_append, orGroups_append _ hcontinues, holds_append]

theorem holds_flat_of_forall_false {n : Nat} {l : FilterNode} {ls : List FilterNode}
    (hv : ∀ i, n ≤ i → i ≤ n + ls.length → v i = false) :
    holds (orGroups (flat v n (l :: ls))) = false := by
  rw [flat_cons, holds_orGroups_cons, hv n (Nat.le_refl n) (Nat.le_add_right _ _)]
  refine holdsAfter_false_of_forall fun x hx ↦ ?_
  obtain ⟨p, hp, rfl⟩ := List.mem_map.1 hx
  obtain ⟨hge, hlt, -⟩ := List.mem_zipIdx hp
  exact hv _ (by omega) (by omega)

theorem holds_flat_eq_false {before : List FilterNode} (after : List FilterNode) {s : FilterNode}
    (hs : s.alternatives = false) (hfirst : before.length = 0 ∨ s.opener = .and)
    (hv : ∀ i, before.length ≤ i → i < before.length + (leaves s).length → v i = false) :
    holds (orGroups (flat v 0 (before ++ leaves s ++ after))) = false := by
  obtain ⟨l, ls, hl, hopener⟩ := exists_leaves s
  rw [alternatives, hl, List.tail_cons, List.all_eq_false] at hs
  obtain ⟨m, hm, hor⟩ := hs
  have hand : m.combinator = .and := by
    cases hc : m.combinator with
    | and => rfl
    | or => exact absurd (decide_eq_true hc) hor
  obtain ⟨front, back, rfl⟩ := List.append_of_mem hm
  rw [hl, List.length_cons, List.length_append, List.length_cons] at hv
  have hgroup : holds (orGroups (flat v before.length (l :: front))) = false :=
    holds_flat_of_forall_false fun i hi hi' ↦ hv i hi (by omega)
  have hrest : holds (orGroups (flat v before.length ((l :: front) ++ m :: (back ++ after)))) =
      false := by
    rw [holds_flat_append hand, hgroup, Bool.false_and]
  have hsplit : before ++ leaves s ++ after = before ++ l :: (front ++ m :: (back ++ after)) := by
    rw [hl]
    simp only [List.append_assoc, List.cons_append]
  rw [hsplit]
  rcases hfirst with hnil | hl'
  · rw [List.length_eq_zero_iff] at hnil
    subst hnil
    exact hrest
  · rw [holds_flat_append (hopener.trans hl'), Nat.zero_add]
    exact (Bool.and_eq_false_iff).2 (.inr hrest)

/-- The first leaf holds, and of `ls`, which follow it, those that are joined with AND. -/
def steadyValue (ls : List FilterNode) (i : Nat) : Bool :=
  i = 0 || (ls[i - 1]?).map FilterNode.combinator = some .and

theorem steady_steadyValue (ls : List FilterNode) : Steady (steadyValue ls) 1 ls := by
  intro x hx
  obtain ⟨p, hp, rfl⟩ := List.mem_map.1 hx
  obtain ⟨hge, hlt, hget⟩ := List.mem_zipIdx hp
  have hne : p.2 ≠ 0 := by omega
  have hbound : p.2 - 1 < ls.length := by omega
  simp [steadyValue, hne, List.getElem?_eq_getElem hbound, hget]

theorem holds_flat_steadyValue (l : FilterNode) (ls : List FilterNode) :
    holds (orGroups (flat (steadyValue ls) 0 (l :: ls))) = true := by
  rw [flat_cons, holds_orGroups_cons]
  refine holdsAfter_true_of_forall fun x hx hand ↦ ?_
  rw [steady_steadyValue ls x hx]
  exact decide_eq_true hand

theorem bracketed_of_reading_eq {ns : List FilterNode}
    (h : ∀ v, holds (orGroups (flat v 0 (leavesOf ns))) = reading v ns) : Bracketed ns := by
  cases ns with
  | nil => trivial
  | cons m r =>
    let root : FilterNode := .mk none none .equal .and (m :: r)
    have hroot : ∀ v, holds (orGroups (flat v 0 (leaves root))) = truth v 0 root := h
    obtain ⟨l, ls, hl, -⟩ := exists_leaves root
    have horderly : orderly root = true := by
      refine orderly_of_truth (v := steadyValue ls) root 0 ?_ ?_
      · rw [hl]
        exact steady_steadyValue ls
      · rw [← hroot, hl]
        exact holds_flat_steadyValue l ls
    have hbracketed : bracketed root = true := by
      cases hb : bracketed root with
      | true => rfl
      | false =>
        obtain ⟨before, s, after, hsplit, hs, hfirst, htrue⟩ :=
          dispensable_of_not_bracketed root 0 horderly (.inl rfl) hb
        rw [Nat.zero_add] at hfirst htrue
        have hfalse := holds_flat_eq_false after hs hfirst fun i hi hi' ↦ allBut_eq_false hi hi'
        rw [← hsplit, hroot] at hfalse
        cases htrue.symm.trans hfalse
    rw [bracketed, Bool.and_eq_true] at hbracketed
    exact hbracketed

/-- Reading a forest leaf by leaf agrees with reading groups as brackets, whatever the values of
the leaves, just if no OR reaches over the border of a group. -/
theorem forall_reading_eq_iff {ns : List FilterNode} :
    (∀ v, holds (orGroups (flat v 0 (leavesOf ns))) = reading v ns) ↔ Bracketed ns :=
  ⟨bracketed_of_reading_eq, fun h v ↦ (reading_eq_of_bracketed h v).symm⟩

end FilterNode

end Listing
