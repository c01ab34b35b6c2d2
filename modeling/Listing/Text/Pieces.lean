namespace Listing.Text

/-- What follows the first occurrence of `needle` in a text, and what precedes it. -/
def cut? (needle : List Char) : List Char → Option (List Char × List Char)
  | [] => if needle.isEmpty then some ([], []) else none
  | c :: s =>
    if needle.isPrefixOf (c :: s) then some ([], (c :: s).drop needle.length)
    else (cut? needle s).map fun p ↦ (c :: p.1, p.2)

def occurs (needle s : List Char) : Bool := (cut? needle s).isSome

def eraseFirst (needle s : List Char) : List Char :=
  match cut? needle s with
  | some (before, after) => before ++ after
  | none => s

theorem eq_append_of_cut? {needle s before after : List Char}
    (h : cut? needle s = some (before, after)) : s = before ++ needle ++ after := by
  induction s generalizing before with
  | nil =>
    unfold cut? at h
    split at h
    next hn => simp_all
    next => cases h
  | cons c s ih =>
    unfold cut? at h
    split at h
    next hp =>
      have hd := List.prefix_iff_eq_append.1 (List.isPrefixOf_iff_prefix.1 hp)
      cases h
      exact hd.symm
    next =>
      obtain ⟨p, hp, he⟩ := Option.map_eq_some_iff.1 h
      cases he
      rw [ih hp]
      rfl

theorem cut?_append_isSome (needle before after : List Char) :
    (cut? needle (before ++ needle ++ after)).isSome = true := by
  induction before with
  | nil =>
    cases needle with
    | nil => cases after <;> simp [cut?]
    | cons c needle => simp [cut?]
  | cons c before ih =>
    simp only [List.cons_append]
    unfold cut?
    split
    next => rfl
    next => rw [Option.isSome_map]; exact ih

theorem occurs_iff {needle s : List Char} : occurs needle s = true ↔ needle <:+: s := by
  constructor
  · intro h
    obtain ⟨p, hp⟩ := Option.isSome_iff_exists.1 h
    exact ⟨p.1, p.2, (eq_append_of_cut? hp).symm⟩
  · rintro ⟨before, after, rfl⟩
    exact cut?_append_isSome needle before after

def extendHead {α : Type} (a : α) : List (List α) → List (List α)
  | [] => [[a]]
  | p :: ps => (a :: p) :: ps

theorem extendHead_ne_nil {α : Type} (a : α) (ps : List (List α)) : extendHead a ps ≠ [] := by
  cases ps <;> simp [extendHead]

theorem extendHead_append {α : Type} {ps : List (List α)} (h : ps ≠ []) (a : α)
    (qs : List (List α)) : extendHead a (ps ++ qs) = extendHead a ps ++ qs := by
  cases ps with
  | nil => exact absurd rfl h
  | cons => rfl

/-- The pieces between the occurrences of a delimiter, after `skip` characters that are still
part of the occurrence before. -/
def piecesAfter (delimiter : List Char) : Nat → List Char → List (List Char)
  | _, [] => [[]]
  | skip + 1, _ :: s => piecesAfter delimiter skip s
  | 0, c :: s =>
    if delimiter.isPrefixOf (c :: s) then [] :: piecesAfter delimiter (delimiter.length - 1) s
    else extendHead c (piecesAfter delimiter 0 s)

/-- The pieces of a text between the occurrences of a delimiter. The empty delimiter occurs
before and after every character. -/
def pieces (delimiter s : List Char) : List (List Char) :=
  match delimiter with
  | [] => [] :: s.map (fun c ↦ [c]) ++ [[]]
  | _ => piecesAfter delimiter 0 s

def piecesAt (c : Char) (s : List Char) : List (List Char) := pieces [c] s

@[simp]
theorem piecesAt_nil (c : Char) : piecesAt c [] = [[]] := rfl

theorem piecesAt_cons (c d : Char) (s : List Char) :
    piecesAt c (d :: s) = if d = c then [] :: piecesAt c s else extendHead d (piecesAt c s) := by
  by_cases h : d = c
  · subst h
    simp [piecesAt, pieces, piecesAfter]
  · have h' : ¬ c = d := fun e ↦ h e.symm
    simp [piecesAt, pieces, piecesAfter, h, h']

theorem piecesAt_ne_nil (c : Char) (s : List Char) : piecesAt c s ≠ [] := by
  cases s with
  | nil => simp
  | cons d s =>
    rw [piecesAt_cons]
    split
    next => exact List.cons_ne_nil _ _
    next => exact extendHead_ne_nil _ _

theorem notMem_of_mem_piecesAt {c : Char} {s p : List Char} (h : p ∈ piecesAt c s) : c ∉ p := by
  induction s generalizing p with
  | nil => simp_all
  | cons d s ih =>
    rw [piecesAt_cons] at h
    split at h
    next =>
      rcases List.mem_cons.1 h with rfl | h
      · simp
      · exact ih h
    next hd =>
      cases hs : piecesAt c s with
      | nil => exact absurd hs (piecesAt_ne_nil c s)
      | cons q qs =>
        rw [hs] at h ih
        rcases List.mem_cons.1 h with rfl | h
        · simp only [List.mem_cons, not_or]
          exact ⟨fun e ↦ hd e.symm, ih List.mem_cons_self⟩
        · exact ih (List.mem_cons_of_mem _ h)

theorem piecesAt_of_notMem {c : Char} {s : List Char} (h : c ∉ s) : piecesAt c s = [s] := by
  induction s with
  | nil => rfl
  | cons d s ih =>
    simp only [List.mem_cons, not_or] at h
    rw [piecesAt_cons, if_neg (fun e ↦ h.1 e.symm), ih h.2]
    rfl

theorem piecesAt_append_cons {c : Char} {p : List Char} (h : c ∉ p) (s : List Char) :
    piecesAt c (p ++ c :: s) = p :: piecesAt c s := by
  induction p with
  | nil => simp [piecesAt_cons]
  | cons d p ih =>
    simp only [List.mem_cons, not_or] at h
    rw [List.cons_append, piecesAt_cons, if_neg (fun e ↦ h.1 e.symm), ih h.2]
    rfl

def replaceChar (c : Char) (replacement s : List Char) : List Char :=
  s.flatMap fun d ↦ if d = c then replacement else [d]

def join (separator : String) : List String → String
  | [] => ""
  | [s] => s
  | s :: t :: r => s ++ separator ++ join separator (t :: r)

end Listing.Text
