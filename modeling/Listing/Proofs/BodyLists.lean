import Listing.Proofs.Lists
import Listing.Proofs.Walk

namespace Listing

open Outcome Text

namespace Text

/-- What is left of the pieces of a text, each without the blanks around it. -/
def kept (ps : List (List Char)) : List (List Char) := (ps.map trimBoth).filter (· ≠ [])

/-- The pieces of a text at a character, each without the blanks around it. -/
def itemsAt (c : Char) (s : List Char) : List (List Char) := (piecesAt c s).map trimBoth

theorem members_eq_kept (ps : List (List Char)) : members ps = (kept ps).map String.ofList := by
  induction ps with
  | nil => rfl
  | cons p ps ih =>
    rw [members_cons, ih]
    by_cases hp : trimBoth p = [] <;> simp [kept, hp]

variable {c : Char} {s : List Char} {ps : List (List Char)}

theorem kept_eq_nil_iff : kept ps = [] ↔ ∀ p ∈ ps, ∀ c ∈ p, isBlank c = true := by
  simp [kept, trimBoth_eq_nil_iff]

theorem mem_kept {t : List Char} : t ∈ kept ps ↔ (∃ p ∈ ps, trimBoth p = t) ∧ t ≠ [] := by
  simp [kept]

theorem itemsAt_of_notMem (h : c ∉ s) : itemsAt c s = [trimBoth s] := by
  rw [itemsAt, piecesAt_of_notMem h]
  rfl

theorem itemsAt_append_cons {p : List Char} (h : c ∉ p) (s : List Char) :
    itemsAt c (p ++ c :: s) = trimBoth p :: itemsAt c s := by
  rw [itemsAt, piecesAt_append_cons h]
  rfl

theorem itemsAt_blank_append {b : List Char} (hc : c ∉ b) (hb : ∀ d ∈ b, isBlank d = true)
    (s : List Char) : itemsAt c (b ++ s) = itemsAt c s := by
  obtain ⟨p, ps, hs, hbs⟩ := piecesAt_append_left hc s
  rw [itemsAt, itemsAt, hs, hbs, List.map_cons, List.map_cons, trimBoth_blank_append hb]

theorem notMem_of_mem_itemsAt {t : List Char} (h : t ∈ itemsAt c s) : c ∉ t := by
  obtain ⟨p, hp, rfl⟩ := List.mem_map.1 h
  intro hc
  exact notMem_of_mem_piecesAt hp (trimBoth_subset p hc)

theorem count_flatten_map_trimBoth (hc : isBlank c = false) (ps : List (List Char)) :
    (ps.map trimBoth).flatten.count c = ps.flatten.count c := by
  induction ps with
  | nil => rfl
  | cons p ps ih =>
    simp only [List.map_cons, List.flatten_cons, List.count_append, ih, count_trimBoth hc]

theorem itemsAt_intercalate {d : List Char} (hd : ∀ e ∈ d, isBlank e = true ∨ e = c) (hcd : c ∈ d)
    (hps : ∀ p ∈ ps, c ∉ p) (hne : ps ≠ []) (hfilled : [] ∉ itemsAt c (d.intercalate ps)) :
    itemsAt c (d.intercalate ps) = ps.map trimBoth := by
  have hblank : ∀ {b : List Char}, b ⊆ d → c ∉ b → ∀ e ∈ b, isBlank e = true := by
    intro b hbd hcb e he
    refine (hd e (hbd he)).resolve_right ?_
    rintro rfl
    exact hcb he
  obtain ⟨b, a, rfl, hb⟩ := List.eq_append_cons_of_mem hcd
  induction ps with
  | nil => exact absurd rfl hne
  | cons p ps ih =>
    obtain ⟨hp, hps⟩ := List.forall_mem_cons.1 hps
    cases ps with
    | nil => rw [List.intercalate_singleton, itemsAt_of_notMem hp, List.map_singleton]
    | cons q ps =>
      generalize hr : (b ++ c :: a).intercalate (q :: ps) = r at ih
      have hcut : itemsAt c ((b ++ c :: a).intercalate (p :: q :: ps)) =
          trimBoth p :: itemsAt c (a ++ r) := by
        have hpb : c ∉ p ++ b := by simp [hp, hb]
        rw [List.intercalate_cons_cons, hr, List.append_assoc, List.append_assoc, List.cons_append,
          ← List.append_assoc, itemsAt_append_cons hpb,
          trimBoth_append_blank (hblank (List.subset_append_left b _) hb)]
      rw [hcut] at hfilled ⊢
      have hrest : [] ∉ itemsAt c (a ++ r) := fun h ↦ hfilled (List.mem_cons_of_mem _ h)
      have ha : c ∉ a := by
        intro hca
        obtain ⟨b', a', rfl, hb'⟩ := List.eq_append_cons_of_mem hca
        have hnil : trimBoth b' = [] :=
          trimBoth_eq_nil_iff.2 (hblank (fun e he ↦ by simp [he]) hb')
        rw [List.append_assoc, List.cons_append, itemsAt_append_cons hb', hnil] at hrest
        exact hrest List.mem_cons_self
      rw [itemsAt_blank_append ha (hblank (fun e he ↦ by simp [he]) ha)] at hrest ⊢
      rw [ih hps (List.cons_ne_nil q ps) hrest]
      rfl

theorem trimBoth_intercalate {d m : List Char} (hd : ∀ e ∈ d, isBlank e = true)
    (h : kept ps = [m]) : trimBoth (d.intercalate ps) = m := by
  induction ps with
  | nil => cases h
  | cons p ps ih =>
    cases ps with
    | nil =>
      have hp : trimBoth p ≠ [] := by
        intro hp
        simp [kept, hp] at h
      simpa [kept, hp] using h
    | cons q ps =>
      rw [List.intercalate_cons_cons]
      by_cases hp : trimBoth p = []
      · have hpd : ∀ e ∈ p ++ d, isBlank e = true :=
          List.forall_mem_append.2 ⟨trimBoth_eq_nil_iff.1 hp, hd⟩
        rw [trimBoth_blank_append hpd]
        exact ih (by simpa [kept, hp] using h)
      · have hkept : trimBoth p = m ∧ kept (q :: ps) = [] := by
          simpa [kept, hp] using h
        have hrest : ∀ e ∈ d ++ d.intercalate (q :: ps), isBlank e = true := by
          refine List.forall_mem_append.2 ⟨hd, fun e he ↦ ?_⟩
          refine (mem_or_mem_of_mem_intercalate he).elim (hd e) fun he ↦ ?_
          obtain ⟨t, ht, he⟩ := List.mem_flatten.1 he
          exact kept_eq_nil_iff.1 hkept.2 t ht e he
        rw [List.append_assoc, trimBoth_append_blank hrest, hkept.1]

theorem notMem_piece (hc : isBlank c = false) (h : ∀ t ∈ kept ps, c ∉ t) : ∀ p ∈ ps, c ∉ p := by
  intro p hp hcp
  have hct : c ∈ trimBoth p := (mem_trimBoth_iff hc).2 hcp
  exact h _ (mem_kept.2 ⟨⟨p, hp, rfl⟩, List.ne_nil_of_mem hct⟩) hct

theorem kept_eq_of_filled (h : [] ∉ ps.map trimBoth) : kept ps = ps.map trimBoth := by
  refine List.filter_eq_self.2 fun t ht ↦ ?_
  simpa using ne_of_mem_of_not_mem ht h

theorem notMem_of_length_itemsAt (h : (itemsAt c s).length = 1) : c ∉ s := by
  rw [itemsAt, List.length_map] at h
  obtain ⟨p, hp⟩ := List.length_eq_one_iff.1 h
  have hs : p = s := by
    have hjoin := intercalate_pieces [c] s
    rwa [show pieces [c] s = [p] from hp, List.intercalate_singleton] at hjoin
  rw [← hs]
  exact notMem_of_mem_piecesAt (hp ▸ List.mem_singleton_self p)

variable {d : List Char}

theorem pieces_eq_singleton (h : ¬ d <:+: s) : pieces d s = [s] := by
  have hd : d ≠ [] := by
    rintro rfl
    exact h List.nil_infix
  exact (parted_pieces hd s).eq_singleton h

/-- Texts that two ways of parting leave alike hold no delimiter but blanks and the character, as
what else the delimiter holds would be lost between the pieces. -/
theorem blank_or_eq_of_kept_eq (h : kept (pieces d s) = itemsAt c s) (hi : d <:+: s) :
    ∀ e ∈ d, isBlank e = true ∨ e = c := by
  intro e he
  by_contra hne
  simp only [not_or, Bool.not_eq_true] at hne
  have hflat : (kept (pieces d s)).flatten.count e = (pieces d s).flatten.count e := by
    rw [kept, List.flatten_filter_ne_nil, count_flatten_map_trimBoth hne.1]
  have hitems : (itemsAt c s).flatten.count e = (piecesAt c s).flatten.count e :=
    count_flatten_map_trimBoth hne.1 _
  have hd := count_intercalate e d (pieces d s)
  have hc := count_intercalate e [c] (piecesAt c s)
  rw [intercalate_pieces] at hd
  rw [intercalate_piecesAt, List.count_singleton, if_neg (by simpa using Ne.symm hne.2)] at hc
  have hlen : 1 < (pieces d s).length :=
    (parted_pieces (List.ne_nil_of_mem he) s).one_lt_length hi
  have hpos : 0 < ((pieces d s).length - 1) * d.count e :=
    Nat.mul_pos (by omega) (List.count_pos_iff.2 he)
  rw [h] at hflat
  omega

theorem kept_pieces_eq_itemsAt (hc : isBlank c = false) (hfilled : [] ∉ itemsAt c s)
    (hwhole : ∀ t ∈ kept (pieces d s), c ∉ t)
    (hlen : (kept (pieces d s)).length = (itemsAt c s).length)
    (hd : d <:+: s → ∀ e ∈ d, isBlank e = true ∨ e = c) :
    kept (pieces d s) = itemsAt c s := by
  have hjoin := intercalate_pieces d s
  have hpieces : ∀ p ∈ pieces d s, c ∉ p := notMem_piece hc hwhole
  by_cases hi : d <:+: s
  · by_cases hcd : c ∈ d
    · have hne : pieces d s ≠ [] := (parted_pieces (List.ne_nil_of_mem hcd) s).ne_nil
      have hitems : itemsAt c s = (pieces d s).map trimBoth := by
        have h := itemsAt_intercalate (hd hi) hcd hpieces hne
        rw [hjoin] at h
        exact h hfilled
      rw [hitems] at hfilled ⊢
      exact kept_eq_of_filled hfilled
    · have hblank : ∀ e ∈ d, isBlank e = true := by
        intro e he
        exact (hd hi e he).resolve_right (ne_of_mem_of_not_mem he hcd)
      have hcs : c ∉ s := by
        rw [← hjoin]
        intro h
        refine (mem_or_mem_of_mem_intercalate h).elim hcd fun h ↦ ?_
        obtain ⟨p, hp, hcp⟩ := List.mem_flatten.1 h
        exact hpieces p hp hcp
      rw [itemsAt_of_notMem hcs] at hlen ⊢
      obtain ⟨m, hm⟩ := List.length_eq_one_iff.1 hlen
      rw [hm, ← trimBoth_intercalate hblank hm, hjoin]
  · rw [pieces_eq_singleton hi] at hlen ⊢
    have hone : (itemsAt c s).length = 1 := by
      have hle : (kept [s]).length ≤ 1 := List.length_filter_le _ _
      have hpos : 0 < (itemsAt c s).length := by
        rw [itemsAt, List.length_map]
        exact List.length_pos_of_ne_nil (piecesAt_ne_nil c s)
      omega
    rw [itemsAt_of_notMem (notMem_of_length_itemsAt hone)] at hfilled ⊢
    exact kept_eq_of_filled hfilled

end Text

namespace FilterCatalog

theorem itemTexts_eq (raw : String) :
    itemTexts raw = (itemsAt ',' raw.toList).map String.ofList := by
  rw [itemTexts, itemsAt, List.map_map]
  rfl

theorem isBlank_comma : isBlank ',' = false := by decide

theorem itemTexts_of_notMem {raw : String} (h : ',' ∉ raw.toList) : itemTexts raw = [trim raw] := by
  rw [itemTexts_eq, itemsAt_of_notMem h]
  rfl

/-- A raw text that a list filter with this delimiter reads alike as a parameter and in a body:
there is something between all commas, no member holds a comma, both lists are of one length, and
the delimiter is one of blanks and commas unless it does not occur. -/
structure ReadAlike (delimiter raw : String) : Prop where
  filled : ∀ s ∈ itemTexts raw, s ≠ ""
  whole : ∀ s ∈ Shorthand.list delimiter raw, ',' ∉ s.toList
  length_eq : (Shorthand.list delimiter raw).length = (itemTexts raw).length
  blank_or_comma : delimiter.toList <:+: raw.toList →
    ∀ c ∈ delimiter.toList, isBlank c = true ∨ c = ','

theorem list_eq_kept (delimiter raw : String) : Shorthand.list delimiter raw =
    (kept (pieces delimiter.toList raw.toList)).map String.ofList := by
  rw [Shorthand.list_eq_members, members_eq_kept]

theorem ne_empty_of_mem_list {delimiter raw s : String} (h : s ∈ Shorthand.list delimiter raw) :
    s ≠ "" := by
  rw [Shorthand.list_eq_members] at h
  simpa using List.of_mem_filter h

theorem list_eq_itemTexts_iff {delimiter raw : String} :
    Shorthand.list delimiter raw = itemTexts raw ↔ ReadAlike delimiter raw := by
  have hinj : Function.Injective (List.map String.ofList) :=
    List.map_injective_iff.2 fun _ _ ↦ String.ofList_injective
  have hl := list_eq_kept delimiter raw
  have hi := itemTexts_eq raw
  constructor
  · intro h
    have hkept : kept (pieces delimiter.toList raw.toList) = itemsAt ',' raw.toList := by
      rw [hl, hi] at h
      exact hinj h
    refine ⟨fun s hs ↦ ne_empty_of_mem_list (h ▸ hs), fun s hs ↦ ?_, by rw [h],
      blank_or_eq_of_kept_eq hkept⟩
    rw [h, hi] at hs
    obtain ⟨t, ht, rfl⟩ := List.mem_map.1 hs
    simpa using notMem_of_mem_itemsAt ht
  · intro h
    have hfilled : [] ∉ itemsAt ',' raw.toList := by
      intro hnil
      exact h.filled "" (by rw [hi]; exact List.mem_map.2 ⟨[], hnil, rfl⟩) rfl
    have hwhole : ∀ t ∈ kept (pieces delimiter.toList raw.toList), ',' ∉ t := by
      intro t ht
      simpa using h.whole (String.ofList t) (by rw [hl]; exact List.mem_map_of_mem ht)
    have hlen : (kept (pieces delimiter.toList raw.toList)).length =
        (itemsAt ',' raw.toList).length := by simpa [hl, hi] using h.length_eq
    rw [hl, hi, kept_pieces_eq_itemsAt isBlank_comma hfilled hwhole hlen h.blank_or_comma]

theorem list_comma_eq (raw : String) :
    Shorthand.list "," raw = (itemTexts raw).filter (· ≠ "") := by
  have hp : pieces ",".toList raw.toList = piecesAt ',' raw.toList := rfl
  have ht : (fun p ↦ trim (String.ofList p)) = fun p ↦ String.ofList (trimBoth p) := by
    funext p
    rw [trim, String.toList_ofList]
  rw [Shorthand.list_eq_members, hp, members, ht, itemTexts]

theorem list_eq_itemTexts_iff_of_mem {delimiter raw : String} {d : Char}
    (hd : d ∈ delimiter.toList) (hb : isBlank d = false) (hne : d ≠ ',')
    (hl : Shorthand.list delimiter raw ≠ []) : Shorthand.list delimiter raw = itemTexts raw ↔
      ',' ∉ raw.toList ∧ ¬ delimiter.toList <:+: raw.toList := by
  have hone : ¬ delimiter.toList <:+: raw.toList →
      Shorthand.list delimiter raw = [trim raw] := by
    intro hi
    rw [list_eq_kept, pieces_eq_singleton hi] at hl ⊢
    have ht : trimBoth raw.toList ≠ [] := by
      intro ht
      simp [kept, ht] at hl
    simp [kept, ht, trim]
  constructor
  · intro h
    have hr := list_eq_itemTexts_iff.1 h
    have hi : ¬ delimiter.toList <:+: raw.toList := by
      intro hi
      refine (hr.blank_or_comma hi d hd).elim (fun h ↦ ?_) hne
      rw [hb] at h
      cases h
    refine ⟨fun hc ↦ ?_, hi⟩
    have hc : ',' ∈ (trim raw).toList := by
      rw [toList_trim]
      exact (mem_trimBoth_iff isBlank_comma).2 hc
    exact hr.whole (trim raw) (by simp [hone hi]) hc
  · rintro ⟨hc, hi⟩
    rw [hone hi, itemTexts_of_notMem hc]

variable {α : Type} {c : FilterCatalog} {f : Filter} {delimiter raw : String}

theorem isBlankText_of_list_ne_nil (h : Shorthand.list delimiter raw ≠ []) :
    isBlankText raw = false := by
  by_contra hb
  refine h ?_
  rw [list_eq_kept, List.map_eq_nil_iff, kept_eq_nil_iff]
  intro p hp e he
  have hraw : e ∈ raw.toList := by
    rw [← intercalate_pieces delimiter.toList raw.toList]
    exact mem_intercalate_of_mem hp he
  simp only [isBlankText, Bool.not_eq_false, List.all_eq_true] at hb
  exact hb e hraw

theorem reads_items {n : FilterNode} (hk : f.kind = .among delimiter)
    (ho : n.operator.takesList = true) (hv : n.value = some raw) (hi : f.isIgnored raw = false) :
    Reads f n (.ok (.list ((itemTexts raw).map .string))) := by
  refine .items ho hv hi ?_
  rw [List.forall₂_map_right_iff, List.forall₂_same]
  intro t _
  rw [Filter.transform, hk]

/-- A list filter tells a query the members of a raw text with the same field and operator from a
parameter and from a leaf. A parameter has the members that the delimiter parts and that are not
blank, a leaf has all that is between commas; these are the same for the texts of `ReadAlike`. -/
theorem among_members_from_params_and_body {ps : List Predicate} (hc : c.First f)
    (hk : f.kind = .among delimiter) (hi : f.isIgnored raw = false)
    (hp : f.predicates raw = .ok ps) (k : Combinator) :
    let flat := Shorthand.list delimiter raw
    let items := itemTexts raw
    let leaf : FilterNode := .mk (some f.param) (some raw) .among k []
    let told := f.own .among (.list (flat.map .string))
    let standing := standing f leaf (.list (items.map .string))
    (f.Emits raw [told] ∧ ∀ (β : Type) [ClauseBuilder β] (q : β),
      applyParams [f] q [(f.param, raw)] = (told.addTo q).mapError (inNameOf f) ∧
      (f.supportsBody = true → c.applyBody q [leaf] = standing.addTo q) ∧
      (f.supportsBody = false → c.applyBody q [leaf] =
        ⟨q, .error (Problem.filterNotBodyCapable f.param f.kind.name).toError⟩)) ∧
    (∀ q : Recording α, q.refused ≠ some f.internalName →
      applyParams [f] q [(f.param, raw)] = ⟨q.recordAll [told], .ok ()⟩ ∧
      (f.supportsBody = true → c.applyBody q [leaf] = ⟨q.recordAll [standing], .ok ()⟩)) ∧
    (flat = items ↔ ReadAlike delimiter raw) ∧
    (delimiter = "," → flat = items.filter (· ≠ "")) ∧
    ∀ d ∈ delimiter.toList, isBlank d = false → d ≠ ',' →
      (flat = items ↔ ',' ∉ raw.toList ∧ ¬ delimiter.toList <:+: raw.toList) := by
  intro flat items leaf told standing
  have hl : flat ≠ [] := by
    intro hnil
    have he := ((Filter.refuses_among_iff hk).2 hnil).predicates_eq
    rw [hp] at he
    cases he
  have hemits : f.Emits raw [told] := Filter.emits_among hk hl
  have hparams (β : Type) [ClauseBuilder β] (q : β) :
      applyParams [f] q [(f.param, raw)] = (told.addTo q).mapError (inNameOf f) := by
    rw [applyParams_singleton (isBlankText_of_list_ne_nil hl) hi, applyActive,
      hemits.apply_eq_add, addPredicates, Run.each_singleton]
  have ha : c.Addresses leaf f := ⟨rfl, hc⟩
  have hbody (β : Type) [ClauseBuilder β] (q : β) (hb : f.supportsBody = true) :
      c.applyBody q [leaf] = standing.addTo q := by
    have hr : Reads f leaf (.ok (.list (items.map .string))) := reads_items hk rfl rfl hi
    rw [applyBody_singleton rfl, applyAsLeaf_of_reads ha hb hr]
  refine ⟨⟨hemits, fun β _ q ↦ ⟨hparams β q, hbody β q, fun hb ↦ ?_⟩⟩,
    fun q hq ↦ ⟨?_, fun hb ↦ ?_⟩, list_eq_itemTexts_iff, ?_, ?_⟩
  · rw [applyBody_singleton rfl, applyAsLeaf_of_predicateOf, predicateOf_of_incapable ha hb]
  · have hadd : told.addTo q = ⟨q.recordAll [told], .ok ()⟩ := Recording.addTo_of_ne hq
    rw [hparams, hadd]
    rfl
  · rw [hbody _ q hb]
    exact Recording.addTo_of_ne hq
  · rintro rfl
    exact list_comma_eq raw
  · intro d hd hb hne
    exact list_eq_itemTexts_iff_of_mem hd hb hne hl

theorem among_members_from_params_and_body_two_tags :
    let f : Filter := .ofKind "tag" (.among ",")
    let g : Filter := .ofKind "tag" (.among ";")
    let q : Recording Unit := {}
    let tags (k : Combinator) : Predicate := ⟨"tag", .among, .list [.string "b", .string "a"], k⟩
    applyParams [f] q [("tag", " b ,a")] = ⟨q.recordAll [tags .and], .ok ()⟩ ∧
    applyBody [f] q [.mk (some "tag") (some " b ,a") .among .or []] =
      ⟨q.recordAll [tags .or], .ok ()⟩ ∧
    ReadAlike "," " b ,a" ∧ g.Emits "b;a" [tags .and] ∧ ¬ ReadAlike ";" "b;a" := by
  intro f g q tags
  have hc (h : Filter) : First [h] h := ⟨[], [], rfl, List.forall_mem_nil _⟩
  have hq : q.refused ≠ some "tag" := by simp [q]
  have hi : f.isIgnored " b ,a" = false := by decide
  have hi' : g.isIgnored "b;a" = false := by decide
  obtain ⟨-, hf, hfiff, -⟩ :=
    among_members_from_params_and_body (α := Unit) (hc f) rfl hi (by rfl) .or
  obtain ⟨⟨hg, -⟩, -, hgiff, -⟩ :=
    among_members_from_params_and_body (α := Unit) (hc g) rfl hi' (by rfl) .and
  obtain ⟨hparams, hbody⟩ := hf q hq
  refine ⟨hparams, hbody rfl, hfiff.1 (by decide), hg, fun h ↦ ?_⟩
  exact absurd (hgiff.2 h) (by decide)

/-- What a filter parts at semicolons is one item of a body, and commas with nothing between them
have an item between them there. -/
theorem body_parts_lists_at_commas :
    let f : Filter := .ofKind "tag" (.among ";")
    let g : Filter := .ofKind "tag" (.among ",")
    let q : Recording Unit := {}
    let leaf (raw : String) : FilterNode := .mk (some "tag") (some raw) .among .and []
    let recorded (tags : List String) : List Instruction :=
      [.predicate (.and "tag" .among (.list (tags.map .string)))]
    f.supportsBody = true ∧ f.isIgnored "a;b" = false ∧
    (applyParams [f] q [("tag", "a;b")]).state.instructions = recorded ["a", "b"] ∧
    (applyBody [f] q [leaf "a;b"]).state.instructions = recorded ["a;b"] ∧
    g.supportsBody = true ∧ g.isIgnored "a,,b" = false ∧
    (applyParams [g] q [("tag", "a,,b")]).state.instructions = recorded ["a", "b"] ∧
    (applyBody [g] q [leaf "a,,b"]).state.instructions = recorded ["a", "", "b"] := by
  intro f g q leaf recorded
  exact ⟨rfl, by decide, by rfl, by rfl, rfl, by decide, by rfl, by rfl⟩

end FilterCatalog

end Listing
