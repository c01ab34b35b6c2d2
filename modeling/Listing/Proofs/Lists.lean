import Listing.Proofs.Atomicity
import Listing.Proofs.Pieces
import Listing.Proofs.Text

namespace Listing

open Outcome Text

namespace Text

def members (ps : List (List Char)) : List String :=
  (ps.map fun p ↦ trim (String.ofList p)).filter (· ≠ "")

theorem members_cons (p : List Char) (ps : List (List Char)) : members (p :: ps) =
    if trimBoth p = [] then members ps else String.ofList (trimBoth p) :: members ps := by
  by_cases h : trimBoth p = [] <;> simp [members, trim, h]

theorem members_eq_nil_iff {ps : List (List Char)} :
    members ps = [] ↔ ∀ p ∈ ps, ∀ c ∈ p, isBlank c = true := by
  simp [members, trim, trimBoth_eq_nil_iff]

end Text

namespace Shorthand

theorem list_eq_members (delimiter raw : String) :
    list delimiter raw = members (pieces delimiter.toList raw.toList) := by
  rw [list]
  induction pieces delimiter.toList raw.toList with
  | nil => rfl
  | cons p ps ih =>
    rw [members_cons, ← ih]
    cases ht : trimBoth p with
    | nil => simp [nonBlank?, ht]
    | cons c r => simp [nonBlank?, ht]

end Shorthand

namespace Filter

variable {f : Filter}

/-- One of each of the texts of a list, in the order in which they come first. -/
structure FirstsOf (texts firsts : List String) : Prop where
  mem_iff (s : String) : s ∈ firsts ↔ s ∈ texts
  ordered : firsts.Pairwise fun s t ↦ texts.idxOf s < texts.idxOf t

theorem FirstsOf.nodup {texts firsts : List String} (h : FirstsOf texts firsts) : firsts.Nodup :=
  h.ordered.imp fun hlt he ↦ absurd (he ▸ hlt) (Nat.lt_irrefl _)

theorem firstsOf_distinct (texts : List String) : FirstsOf texts (distinct texts) := by
  refine ⟨fun s ↦ mem_distinct, ?_⟩
  induction texts with
  | nil => exact .nil
  | cons s r ih =>
    have hne : ∀ t ∈ (distinct r).filter (· != s), s ≠ t := by
      intro t ht he
      simp [he] at ht
    refine List.pairwise_cons.2 ⟨fun t ht ↦ ?_, ?_⟩
    · rw [List.idxOf_cons_self, List.idxOf_cons_ne r (hne t ht)]
      omega
    · refine (ih.filter _).imp_of_mem fun {t u} ht hu hlt ↦ ?_
      rw [List.idxOf_cons_ne r (hne t ht), List.idxOf_cons_ne r (hne u hu)]
      omega

variable {allowed : List String} {raw : String}

theorem allowedToken_eq_error {s : String} (h : s ∉ allowed) :
    f.allowedToken allowed s = .error (Problem.invalidEnumValue s f.param allowed).toError := by
  rw [allowedToken, if_neg (by simpa using h)]

theorem emits_enumeration_iff (hk : f.kind = .enumeration allowed) {ps : List Predicate} :
    f.Emits raw ps ↔ f.enumerationPredicates allowed raw = .ok ps := by
  rw [emits_iff (by rw [hk]; rfl), predicates, hk]

theorem refuses_enumeration_iff (hk : f.kind = .enumeration allowed) {e : QueryError} :
    f.Refuses raw e ↔ f.enumerationPredicates allowed raw = .error e := by
  rw [refuses_iff (by rw [hk]; rfl), predicates, hk]

theorem emits_constant (hk : f.kind = .enumeration allowed) (hc : ',' ∉ raw.toList)
    (h : trim raw ∈ allowed) : f.Emits raw [f.own .equal (.string (trim raw))] := by
  rw [emits_enumeration_iff hk, enumerationPredicates, if_neg hc, allowedToken_eq_ok.2 ⟨rfl, h⟩]
  rfl

theorem refuses_constant (hk : f.kind = .enumeration allowed) (hc : ',' ∉ raw.toList)
    (h : trim raw ∉ allowed) :
    f.Refuses raw (Problem.invalidEnumValue (trim raw) f.param allowed).toError := by
  rw [refuses_enumeration_iff hk, enumerationPredicates, if_neg hc, allowedToken_eq_error h]
  rfl

theorem refuses_selection (hk : f.kind = .enumeration allowed) (hc : ',' ∈ raw.toList)
    {before after : List String} {s : String}
    (hs : Shorthand.list "," raw = before ++ s :: after) (hb : ∀ t ∈ before, t ∈ allowed)
    (h : s ∉ allowed) :
    f.Refuses raw (Problem.invalidEnumValue s f.param allowed).toError := by
  have hm : (Shorthand.list "," raw).mapM (f.allowedToken allowed) =
      .error (Problem.invalidEnumValue s f.param allowed).toError := by
    refine mapM_eq_error.2 ⟨before, s, after, before, hs, ?_, allowedToken_eq_error h⟩
    exact List.forall₂_same.2 fun t ht ↦ allowedToken_eq_ok.2 ⟨rfl, hb t ht⟩
  rw [refuses_enumeration_iff hk, enumerationPredicates, if_pos hc, hm]
  rfl

theorem emits_selection (hk : f.kind = .enumeration allowed) (hc : ',' ∈ raw.toList)
    (h : ∀ s ∈ Shorthand.list "," raw, s ∈ allowed) :
    f.Emits raw (if (Shorthand.list "," raw).isEmpty then []
      else [f.own .among (.list ((distinct (Shorthand.list "," raw)).map .string))]) := by
  have hm : (Shorthand.list "," raw).mapM (f.allowedToken allowed) =
      .ok (Shorthand.list "," raw) :=
    mapM_eq_ok.2 (List.forall₂_same.2 fun s hs ↦ allowedToken_eq_ok.2 ⟨rfl, h s hs⟩)
  rw [emits_enumeration_iff hk, enumerationPredicates, if_pos hc, hm]
  exact (apply_ite Except.ok _ _ _).symm

/-- A text without a comma is a constant, any other is a selection of constants, each of which is
kept once. The first token that is not declared makes the filter refuse the text. -/
theorem enumeration_checks_all_tokens (hk : f.kind = .enumeration allowed) (raw : String) :
    (',' ∉ raw.toList →
      (trim raw ∈ allowed → f.Emits raw [f.own .equal (.string (trim raw))]) ∧
      (trim raw ∉ allowed →
        f.Refuses raw (Problem.invalidEnumValue (trim raw) f.param allowed).toError)) ∧
    (',' ∈ raw.toList →
      let tokens := Shorthand.list "," raw
      (∃ ps, Parted [','] raw.toList ps ∧ tokens = members ps) ∧
      (∀ before s after, tokens = before ++ s :: after → (∀ t ∈ before, t ∈ allowed) →
        s ∉ allowed → f.Refuses raw (Problem.invalidEnumValue s f.param allowed).toError) ∧
      (tokens = [] → f.Emits raw []) ∧
      (tokens ≠ [] → (∀ s ∈ tokens, s ∈ allowed) →
        FirstsOf tokens (distinct tokens) ∧ (distinct tokens).Nodup ∧
          (∀ s ∈ distinct tokens, s ∈ allowed) ∧
          f.Emits raw [f.own .among (.list ((distinct tokens).map .string))])) := by
  refine ⟨fun hc ↦ ⟨emits_constant hk hc, refuses_constant hk hc⟩, fun hc ↦ ⟨?_, ?_, ?_, ?_⟩⟩
  · exact ⟨_, parted_pieces (List.cons_ne_nil _ _) raw.toList, Shorthand.list_eq_members "," raw⟩
  · intro before s after hs hb h
    exact refuses_selection hk hc hs hb h
  · intro hnil
    have he := emits_selection hk hc (by simp [hnil])
    simpa [hnil] using he
  · intro hne hall
    have hf := firstsOf_distinct (Shorthand.list "," raw)
    have he := emits_selection hk hc hall
    rw [if_neg (by simpa using hne)] at he
    exact ⟨hf, hf.nodup, fun s hs ↦ hall s ((hf.mem_iff s).1 hs), he⟩

theorem enumeration_checks_all_tokens_repeated_and_unknown :
    let roles := ["ADMIN", "USER", "GUEST"]
    let f : Filter := .ofKind "role" (.enumeration roles)
    f.Emits " USER" [.and "role" .equal (.string "USER")] ∧
    f.Emits "USER, ADMIN ,,USER" [.and "role" .among (.list [.string "USER", .string "ADMIN"])] ∧
    f.Refuses "USER,root,GUEST,who" (Problem.invalidEnumValue "root" "role" roles).toError := by
  intro roles f
  obtain ⟨hone, -⟩ := enumeration_checks_all_tokens (f := f) rfl " USER"
  obtain ⟨-, hmany⟩ := enumeration_checks_all_tokens (f := f) rfl "USER, ADMIN ,,USER"
  obtain ⟨-, hbad⟩ := enumeration_checks_all_tokens (f := f) rfl "USER,root,GUEST,who"
  obtain ⟨-, -, -, hall⟩ := hmany (by decide)
  obtain ⟨-, hfirst, -, -⟩ := hbad (by decide)
  refine ⟨(hone (by decide)).1 (by decide), (hall (by decide) (by decide)).2.2.2, ?_⟩
  exact hfirst ["USER"] "root" ["GUEST", "who"] (by decide) (by decide) (by decide)

/-- A text that parts nothing: blanks, of which none is the delimiter. -/
def IsPadding (c : Char) (s : List Char) : Prop := ∀ d ∈ s, isBlank d = true ∧ d ≠ c

structure IsItem (c : Char) (s : String) : Prop where
  ne_empty : s ≠ ""
  trim_eq : trim s = s
  notMem : c ∉ s.toList

theorem IsItem.trimBoth_toList {c : Char} {s : String} (h : IsItem c s) :
    trimBoth s.toList = s.toList := by
  rw [← toList_trim, h.trim_eq]

/-- The cells of a list that is written out: one for each item, with or without blanks around it,
and any number of blank cells. -/
inductive Fills (c : Char) : List String → List String → Prop
  | nil : Fills c [] []
  | blank {cell : String} {items cells : List String} (h : IsPadding c cell.toList)
      (hr : Fills c items cells) : Fills c items (cell :: cells)
  | item (before s after : String) {items cells : List String} (hs : IsItem c s)
      (hb : IsPadding c before.toList) (ha : IsPadding c after.toList)
      (hr : Fills c items cells) : Fills c (s :: items) ((before ++ s ++ after) :: cells)

variable {c : Char} {items cells : List String}

theorem Fills.notMem (h : Fills c items cells) : ∀ cell ∈ cells, c ∉ cell.toList := by
  have hp : ∀ {s}, IsPadding c s → c ∉ s := fun h hc ↦ (h c hc).2 rfl
  induction h with
  | nil => exact List.forall_mem_nil _
  | blank h _ ih => exact List.forall_mem_cons.2 ⟨hp h, ih⟩
  | item before s after hs hb ha _ ih =>
    refine List.forall_mem_cons.2 ⟨?_, ih⟩
    simp [hp hb, hs.notMem, hp ha]

theorem Fills.members_eq (h : Fills c items cells) : members (cells.map String.toList) = items := by
  induction h with
  | nil => rfl
  | blank h _ ih =>
    rw [List.map_cons, members_cons, if_pos (trimBoth_eq_nil_iff.2 fun d hd ↦ (h d hd).1), ih]
  | item before s after hs hb ha _ ih =>
    have ht := trimBoth_append_append (fun d hd ↦ (hb d hd).1) (fun d hd ↦ (ha d hd).1) s.toList
    rw [hs.trimBoth_toList] at ht
    rw [List.map_cons, members_cons, String.toList_append, String.toList_append, ht, ih,
      if_neg (by simpa using hs.ne_empty), String.ofList_toList]

theorem list_join {delimiter : String} (hc : delimiter = String.singleton c) (hne : items ≠ [])
    (h : Fills c items cells) : Shorthand.list delimiter (join delimiter cells) = items := by
  have hcells : cells ≠ [] := by
    intro hnil
    rw [hnil] at h
    cases h
    exact hne rfl
  have hp : piecesAt c (join (String.singleton c) cells).toList = cells.map String.toList :=
    piecesAt_join hcells h.notMem
  rw [hc, Shorthand.list_eq_members, String.toList_singleton]
  exact (congrArg members hp).trans h.members_eq

theorem emits_among {delimiter : String} (hk : f.kind = .among delimiter)
    (h : Shorthand.list delimiter raw ≠ []) :
    f.Emits raw [f.own .among (.list ((Shorthand.list delimiter raw).map .string))] := by
  rw [emits_iff (by rw [hk]; rfl), predicates, hk]
  dsimp only
  split
  next hl => exact absurd hl h
  next => rfl

theorem refuses_among_iff {delimiter : String} (hk : f.kind = .among delimiter) :
    f.Refuses raw (Problem.emptyList f.param).toError ↔ Shorthand.list delimiter raw = [] := by
  rw [refuses_iff (by rw [hk]; rfl), predicates, hk]
  dsimp only
  split
  next hl => simp [hl]
  next hl => simpa using hl

/-- A list keeps its members, and they are what is between the delimiters. -/
theorem among_keeps_members {delimiter : String} (hk : f.kind = .among delimiter)
    (hd : delimiter ≠ "") :
    (∀ c items cells, delimiter = String.singleton c → items ≠ [] → Fills c items cells →
      f.Emits (join delimiter cells) [f.own .among (.list (items.map .string))]) ∧
    ∀ raw, let items := Shorthand.list delimiter raw
      (∃ ps, Parted delimiter.toList raw.toList ps ∧ items = members ps ∧
        (f.Refuses raw (Problem.emptyList f.param).toError ↔
          ∀ p ∈ ps, ∀ c ∈ p, isBlank c = true)) ∧
      (∀ s ∈ items, s ≠ "" ∧ trim s = s ∧ ¬ delimiter.toList <:+: s.toList) ∧
      (items ≠ [] → f.Emits raw [f.own .among (.list (items.map .string))]) := by
  have hne : delimiter.toList ≠ [] := by simpa using hd
  constructor
  · intro c items cells hc hitems hf
    have hl : Shorthand.list delimiter (join delimiter cells) = items := list_join hc hitems hf
    rw [← hl] at hitems ⊢
    exact emits_among hk hitems
  · intro raw
    have hp := parted_pieces hne raw.toList
    have hl := Shorthand.list_eq_members delimiter raw
    refine ⟨⟨_, hp, hl, ?_⟩, fun s hs ↦ Shorthand.of_mem_list hd hs, emits_among hk⟩
    rw [refuses_among_iff hk, hl, members_eq_nil_iff]

theorem among_keeps_members_between_blank_cells :
    let f : Filter := .ofKind "tag" (.among ";")
    let g : Filter := .ofKind "tag" (.among "::")
    f.Emits " b ;;\ta b; ;b" [.and "tag" .among (.list [.string "b", .string "a b", .string "b"])] ∧
    g.Emits "a:::b :: c" [.and "tag" .among (.list [.string "a", .string ":b", .string "c"])] ∧
    g.Refuses " ::::" (Problem.emptyList "tag").toError := by
  intro f g
  obtain ⟨hf, -⟩ := among_keeps_members (f := f) rfl (by decide)
  obtain ⟨-, hg⟩ := among_keeps_members (f := g) rfl (by decide)
  have hb : IsItem ';' "b" := ⟨by decide, by decide, by decide⟩
  have ha : IsItem ';' "a b" := ⟨by decide, by decide, by decide⟩
  have hnone : IsPadding ';' "".toList := List.forall_mem_nil _
  have hspace : IsPadding ';' " ".toList := by simp [IsPadding, isBlank]
  have htab : IsPadding ';' "\t".toList := by simp [IsPadding, isBlank]
  have hfills : Fills ';' ["b", "a b", "b"] [" b ", "", "\ta b", " ", "b"] :=
    .item " " "b" " " hb hspace hspace <| .blank hnone <| .item "\t" "a b" "" ha htab hnone <|
      .blank hspace <| .item "" "b" "" hb hnone hnone .nil
  refine ⟨hf _ _ _ rfl (by simp) hfills, (hg _).2.2 (by decide), ?_⟩
  obtain ⟨⟨ps, hps, hl, hr⟩, -, -⟩ := hg " ::::"
  exact hr.2 (members_eq_nil_iff.1 (hl.symm.trans (by decide)))

end Filter

end Listing
