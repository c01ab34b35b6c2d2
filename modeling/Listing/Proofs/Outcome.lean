import Mathlib.Data.List.Forall2

namespace Listing.Outcome

variable {ε α β : Type}

theorem bind_eq_ok {x : Except ε α} {f : α → Except ε β} {b : β} :
    (x >>= f) = .ok b ↔ ∃ a, x = .ok a ∧ f a = .ok b := by
  constructor
  · intro h
    cases x with
    | error e => cases h
    | ok a => exact ⟨a, rfl, h⟩
  · rintro ⟨a, rfl, h⟩
    exact h

theorem bind_pure_eq_map {x : Except ε α} {f : α → β} : (x >>= fun a ↦ pure (f a)) = x.map f := by
  cases x <;> rfl

theorem map_eq_ok {x : Except ε α} {f : α → β} {b : β} :
    x.map f = .ok b ↔ ∃ a, x = .ok a ∧ f a = b := by
  constructor
  · intro h
    cases x with
    | error e => cases h
    | ok a => exact ⟨a, rfl, Except.ok.inj h⟩
  · rintro ⟨a, rfl, rfl⟩
    rfl

theorem mapM_eq_ok {f : α → Except ε β} {xs : List α} {ys : List β} :
    xs.mapM f = .ok ys ↔ List.Forall₂ (fun x y ↦ f x = .ok y) xs ys := by
  induction xs generalizing ys with
  | nil =>
    rw [List.mapM_nil, List.forall₂_nil_left_iff]
    exact ⟨fun h ↦ (Except.ok.inj h).symm, fun h ↦ congrArg Except.ok h.symm⟩
  | cons x xs ih =>
    rw [List.mapM_cons, bind_eq_ok, List.forall₂_cons_left_iff]
    constructor
    · rintro ⟨y, hy, h⟩
      obtain ⟨zs, hzs, h⟩ := bind_eq_ok.1 h
      exact ⟨y, zs, hy, ih.1 hzs, (Except.ok.inj h).symm⟩
    · rintro ⟨y, zs, hy, hzs, rfl⟩
      exact ⟨y, hy, bind_eq_ok.2 ⟨zs, ih.2 hzs, rfl⟩⟩

theorem bind_eq_error {x : Except ε α} {f : α → Except ε β} {e : ε} :
    (x >>= f) = .error e ↔ x = .error e ∨ ∃ a, x = .ok a ∧ f a = .error e := by
  cases x with
  | error e' => simp [bind, Except.bind]
  | ok a => simp [bind, Except.bind]

theorem map_eq_error {x : Except ε α} {f : α → β} {e : ε} :
    x.map f = .error e ↔ x = .error e := by
  cases x <;> simp [Except.map]

theorem mapM_eq_error {f : α → Except ε β} {xs : List α} {e : ε} :
    xs.mapM f = .error e ↔ ∃ before x after ys, xs = before ++ x :: after ∧
      List.Forall₂ (fun x y ↦ f x = .ok y) before ys ∧ f x = .error e := by
  induction xs with
  | nil =>
    constructor
    · intro h
      cases h
    · rintro ⟨before, x, after, ys, h, -⟩
      simp at h
  | cons z xs ih =>
    rw [List.mapM_cons, bind_eq_error]
    constructor
    · rintro (hz | ⟨y, hz, h⟩)
      · exact ⟨[], z, xs, [], rfl, .nil, hz⟩
      · rcases bind_eq_error.1 h with h | ⟨ys, -, h⟩
        · obtain ⟨before, x, after, ys, rfl, hb, hx⟩ := ih.1 h
          exact ⟨z :: before, x, after, y :: ys, rfl, .cons hz hb, hx⟩
        · cases h
    · rintro ⟨before, x, after, ys, h, hb, hx⟩
      cases hb with
      | nil =>
        cases h
        exact .inl hx
      | @cons z' y before ys hz hb =>
        cases h
        exact .inr ⟨y, hz, bind_eq_error.2 (.inl (ih.2 ⟨before, x, after, ys, rfl, hb, hx⟩))⟩

theorem forM_eq_error {f : α → Except ε Unit} {xs : List α} {e : ε} :
    xs.forM f = .error e ↔ ∃ before x after, xs = before ++ x :: after ∧
      (∀ y ∈ before, f y = .ok ()) ∧ f x = .error e := by
  induction xs with
  | nil =>
    constructor
    · intro h
      cases h
    · rintro ⟨before, x, after, h, -⟩
      simp at h
  | cons z xs ih =>
    have hcons : (z :: xs).forM f = (f z >>= fun _ ↦ xs.forM f) := rfl
    rw [hcons, bind_eq_error, ih]
    constructor
    · rintro (hz | ⟨_, hz, before, x, after, rfl, hb, hx⟩)
      · exact ⟨[], z, xs, rfl, nofun, hz⟩
      · exact ⟨z :: before, x, after, rfl, List.forall_mem_cons.2 ⟨hz, hb⟩, hx⟩
    · rintro ⟨before, x, after, h, hb, hx⟩
      cases before with
      | nil =>
        cases h
        exact .inl hx
      | cons y before =>
        cases h
        obtain ⟨hy, hb⟩ := List.forall_mem_cons.1 hb
        exact .inr ⟨(), hy, before, x, after, rfl, hb, hx⟩

theorem exists_of_mem_mapM {f : α → Except ε β} {xs : List α} {ys : List β}
    (h : xs.mapM f = .ok ys) {y : β} (hy : y ∈ ys) : ∃ x ∈ xs, f x = .ok y := by
  obtain ⟨i, hi, rfl⟩ := List.mem_iff_getElem.1 hy
  have hf := mapM_eq_ok.1 h
  have hl : i < xs.length := hf.length_eq ▸ hi
  exact ⟨xs[i], List.getElem_mem hl, List.forall₂_iff_get.1 hf |>.2 i hl hi⟩

end Listing.Outcome
