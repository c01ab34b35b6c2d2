import Listing.Proofs.Sql.Token
import Listing.Proofs.Sql.Valid
import Listing.Proofs.Text

namespace Listing

namespace Sql

open Text

/-- An ASCII letter or an underscore, then ASCII letters, digits and underscores. -/
inductive IsSegment : List Char → Prop
  | start {c : Char} (h : c.isAlpha = true ∨ c = '_') : IsSegment [c]
  | append {w : List Char} {c : Char} (hw : IsSegment w) (h : c.isAlphanum = true ∨ c = '_') :
      IsSegment (w ++ [c])

/-- A path is made of these segments, one or more of them, with a single dot between neighbours. -/
structure IsPath (segments : List (List Char)) (path : String) : Prop where
  ne_nil : segments ≠ []
  isSegment : ∀ w ∈ segments, IsSegment w
  toList_eq : path.toList = ['.'].intercalate segments

/-- The form of a segment in a statement. A reserved word is put in quotes. -/
inductive Dialect.Quotes (d : Dialect) (w : List Char) : List Char → Prop
  | bare (h : lower (String.ofList w) ∉ reservedWords) : d.Quotes w w
  | wrapped (h : lower (String.ofList w) ∈ reservedWords) :
      d.Quotes w (d.quoteMark :: w ++ [d.quoteMark])

theorem isNameStart_iff_isAlpha {c : Char} :
    isNameStart c = true ↔ c.isAlpha = true ∨ c = '_' := by
  have hc : c.isAlpha =
      (decide ('A' ≤ c ∧ c ≤ 'Z') || decide ('a' ≤ c) && decide (c ≤ 'z')) := rfl
  simp only [isNameStart, hc, Bool.or_eq_true, Bool.and_eq_true, decide_eq_true_iff]
  exact or_congr_left or_comm

theorem isNameChar_iff_isAlphanum {c : Char} :
    isNameChar c = true ↔ c.isAlphanum = true ∨ c = '_' := by
  rw [isNameChar, Char.isAlphanum, Bool.or_eq_true, Bool.or_eq_true, isNameStart_iff_isAlpha,
    or_right_comm]

theorem IsSegment.append_all {w r : List Char} (hw : IsSegment w)
    (hr : ∀ c ∈ r, isNameChar c = true) : IsSegment (w ++ r) := by
  induction r generalizing w with
  | nil => rwa [List.append_nil]
  | cons c r ih =>
    obtain ⟨hc, hr⟩ := List.forall_mem_cons.1 hr
    rw [← List.singleton_append, ← List.append_assoc]
    exact ih (hw.append (isNameChar_iff_isAlphanum.1 hc)) hr

theorem isSegment_iff {w : List Char} : IsSegment w ↔ isName w = true := by
  constructor
  · intro h
    induction h with
    | start h => simp [isName, isNameStart_iff_isAlpha.2 h]
    | @append w c _ h ih =>
      cases w with
      | nil => cases ih
      | cons d r =>
        rw [isName, Bool.and_eq_true] at ih
        simp [isName, ih.1, ih.2, isNameChar_iff_isAlphanum.2 h]
  · intro h
    cases w with
    | nil => cases h
    | cons c r =>
      rw [isName, Bool.and_eq_true, List.all_eq_true] at h
      exact (IsSegment.start (isNameStart_iff_isAlpha.1 h.1)).append_all h.2

theorem dot_notMem_of_isName {w : List Char} (h : isName w = true) : '.' ∉ w := fun hm ↦
  absurd (isNameChar_of_isName h '.' hm) (by decide)

theorem isPath_iff {ws : List (List Char)} {path : String} :
    IsPath ws path ↔ isIdentifier path = true ∧ segments path = ws := by
  rw [isIdentifier, List.all_eq_true]
  constructor
  · rintro ⟨hne, hs, hp⟩
    have hw : segments path = ws := by
      rw [segments, hp, piecesAt_intercalate hne]
      exact fun w hw ↦ dot_notMem_of_isName (isSegment_iff.1 (hs w hw))
    exact ⟨fun w h ↦ isSegment_iff.1 (hs w (hw ▸ h)), hw⟩
  · rintro ⟨h, rfl⟩
    exact ⟨piecesAt_ne_nil _ _, fun w hw ↦ isSegment_iff.2 (h w hw),
      (intercalate_piecesAt _ _).symm⟩

variable {d : Dialect}

theorem quotes_quoteName (d : Dialect) (w : List Char) : d.Quotes w (d.quoteName w) := by
  unfold Dialect.quoteName
  split
  next h => exact .wrapped (by simpa [isReserved] using h)
  next h => exact .bare (by simpa [isReserved] using h)

theorem toList_quote (d : Dialect) (path : String) :
    (d.quote path).toList = ['.'].intercalate ((segments path).map d.quoteName) := by
  rw [Dialect.quote, toList_join, List.map_map]
  simp [Function.comp_def]

theorem Dialect.Quotes.filter_eq {w part : List Char} (h : d.Quotes w part)
    (hw : isName w = true) : part.filter (· ≠ d.quoteMark) = w := by
  have hmark : ∀ c ∈ w, c ≠ d.quoteMark := fun c hc ↦
    ne_quoteMark_of_isNameChar (isNameChar_of_isName hw c hc)
  cases h with
  | bare => simpa using hmark
  | wrapped => simpa using hmark

theorem filter_quote {path : String} (h : isIdentifier path = true) :
    (d.quote path).toList.filter (· ≠ d.quoteMark) = path.toList := by
  rw [isIdentifier, List.all_eq_true] at h
  have hdot : decide ('.' ≠ d.quoteMark) = true := by cases d <;> rfl
  have hparts : ((segments path).map d.quoteName).map (List.filter (· ≠ d.quoteMark)) =
      segments path := by
    rw [List.map_map]
    exact (List.map_congr_left fun w hw ↦ (quotes_quoteName d w).filter_eq (h w hw)).trans
      (List.map_id _)
  rw [toList_quote, filter_intercalate hdot, hparts, segments, intercalate_piecesAt]

theorem Dialect.Quotes.not_inAnyCase {w part : List Char} (h : d.Quotes w part)
    (hw : isName w = true) (k : Keyword) : ¬ InAnyCase k.word (String.ofList part) := by
  have hk : k.word.toList.all Char.isLower = true := by cases k <;> decide
  rw [inAnyCase_iff hk, String.toList_ofList]
  intro hp
  cases h with
  | bare hr =>
    rw [lower_of_isName hw, hp, String.ofList_toList] at hr
    exact hr (by cases k <;> decide)
  | wrapped =>
    have hm : d.quoteMark ∈ k.word.toList := by
      rw [← hp]
      cases d <;> exact List.mem_cons_self
    cases d <;> cases k <;> exact absurd hm (by decide)

/-- Identifiers are what the grammar of paths says. In quotes they are the same segments in the same
order, so that identifiers differ if their quoted forms do not agree, and a word of conditions in
them is never bare. -/
theorem identifiers_keep_their_text (d : Dialect) :
    (∀ path, validate path = .ok () ↔ ∃ ws, IsPath ws path) ∧
    (∀ ws path, IsPath ws path → ∃ parts, List.Forall₂ d.Quotes ws parts ∧
      (d.quote path).toList = ['.'].intercalate parts ∧
      (d.quote path).toList.filter (· ≠ d.quoteMark) = path.toList ∧
      ∀ part ∈ parts, ∀ k : Keyword, ¬ InAnyCase k.word (String.ofList part)) ∧
    ∀ path path', validate path = .ok () → validate path' = .ok () →
      d.quote path = d.quote path' → path = path' := by
  refine ⟨fun path ↦ ?_, ?_, fun path path' h h' hq ↦ ?_⟩
  · simp only [validate_eq_ok, isPath_iff, exists_and_left, exists_eq', and_true]
  · intro ws path hp
    obtain ⟨hi, rfl⟩ := isPath_iff.1 hp
    have hn := hi
    rw [isIdentifier, List.all_eq_true] at hn
    refine ⟨(segments path).map d.quoteName, ?_, toList_quote d path, filter_quote hi, ?_⟩
    · rw [List.forall₂_map_right_iff, List.forall₂_same]
      exact fun w _ ↦ quotes_quoteName d w
    · rw [List.forall_mem_map]
      exact fun w hw ↦ (quotes_quoteName d w).not_inAnyCase (hn w hw)
  · rw [validate_eq_ok] at h h'
    have he := filter_quote (d := d) h
    rw [hq, filter_quote h'] at he
    exact (String.toList_inj.1 he).symm

theorem identifiers_keep_their_text_reserved_words :
    IsPath ["Between".toList, "in_1".toList, "OR".toList] "Between.in_1.OR" ∧
    Dialect.postgres.quote "Between.in_1.OR" = "\"Between\".in_1.\"OR\"" ∧
    (∃ parts,
      List.Forall₂ Dialect.postgres.Quotes ["Between".toList, "in_1".toList, "OR".toList] parts ∧
      "\"Between\".in_1.\"OR\"".toList = ['.'].intercalate parts ∧
      ∀ part ∈ parts, ∀ k : Keyword, ¬ InAnyCase k.word (String.ofList part)) ∧
    validate "a..b" ≠ .ok () := by
  have hpath : IsPath ["Between".toList, "in_1".toList, "OR".toList] "Between.in_1.OR" :=
    isPath_iff.2 ⟨by decide, by decide⟩
  have hquote : Dialect.postgres.quote "Between.in_1.OR" = "\"Between\".in_1.\"OR\"" := by decide
  obtain ⟨parts, hparts, hjoin, -, hwords⟩ :=
    (identifiers_keep_their_text .postgres).2.1 _ _ hpath
  exact ⟨hpath, hquote, ⟨parts, hparts, hquote ▸ hjoin, hwords⟩, by decide⟩

end Sql

end Listing
