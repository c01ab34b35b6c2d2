import Listing.Document.Like
import Mathlib.Data.List.Forall2

namespace Listing.Document

/-- What a library escapes: a backslash goes before the characters that mean something in its
expressions, those of expressions made here among them, and the others stay as they are. -/
structure Escapes (isMeta : Char → Bool) (escape : Char → List Char) : Prop where
  isMeta_of_mem : ∀ c ∈ ['\\', '.', '*', '^', '$'], isMeta c = true
  escape_eq : ∀ c, escape c = if isMeta c then ['\\', c] else [c]

/-- The tokens that stand for a character of a pattern. -/
inductive IsToken (isMeta : Char → Bool) : Char → List Char → Prop
  | anyText : IsToken isMeta '%' ['.', '*']
  | anyChar : IsToken isMeta '_' ['.']
  | plain {c : Char} (ht : c ≠ '%') (ho : c ≠ '_') (h : isMeta c = false) : IsToken isMeta c [c]
  | escaped {c : Char} (ht : c ≠ '%') (ho : c ≠ '_') (h : isMeta c = true) :
    IsToken isMeta c ['\\', c]

/-- The characters of a pattern, token by token, up to the dollar sign at the end. -/
def charactersIn? : List Char → Option (List Char)
  | [] => none
  | ['$'] => some []
  | '\\' :: c :: r => (charactersIn? r).map (c :: ·)
  | '.' :: '*' :: r => (charactersIn? r).map ('%' :: ·)
  | '.' :: r => (charactersIn? r).map ('_' :: ·)
  | c :: r => (charactersIn? r).map (c :: ·)

def patternOf? (regex : String) : Option String :=
  match regex.toList with
  | '^' :: r => (charactersIn? r).map String.ofList
  | _ => none

/-- The characters that are not escaped. An escaped character goes with the backslash before it. -/
def unescaped : List Char → List Char
  | [] => []
  | '\\' :: _ :: r => unescaped r
  | c :: r => c :: unescaped r

def wildcard (c : Char) : List Char := if c = '%' then ['.', '*'] else if c = '_' then ['.'] else []

variable {isMeta : Char → Bool} {escape : Char → List Char}

theorem escapes_escapeChar : Escapes (fun c ↦ metaCharacters.contains c) escapeChar :=
  ⟨by simp [metaCharacters], fun _ ↦ rfl⟩

namespace Escapes

variable (h : Escapes isMeta escape)
include h

theorem ne_of_isMeta {c d : Char} (hd : isMeta d = false) (hc : c ∈ ['\\', '.', '*', '^', '$']) :
    d ≠ c := by
  rintro rfl
  rw [h.isMeta_of_mem d hc] at hd
  cases hd

theorem isToken_iff {c : Char} {t : List Char} : IsToken isMeta c t ↔ t = likeToken escape c := by
  unfold likeToken
  rw [h.escape_eq]
  constructor
  · intro ht
    cases ht with
    | anyText => rfl
    | anyChar => rfl
    | plain ht ho hc => simp [ht, ho, hc]
    | escaped ht ho hc => simp [ht, ho, hc]
  · rintro rfl
    split
    next hp =>
      rw [hp]
      exact .anyText
    next hp =>
      split
      next ho =>
        rw [ho]
        exact .anyChar
      next ho =>
        split
        next hc => exact .escaped hp ho hc
        next hc => exact .plain hp ho (Bool.eq_false_iff.2 hc)

theorem forall₂_isToken_iff {cs : List Char} {ts : List (List Char)} :
    List.Forall₂ (IsToken isMeta) cs ts ↔ ts = cs.map (likeToken escape) := by
  induction cs generalizing ts with
  | nil => exact List.forall₂_nil_left_iff
  | cons c cs ih =>
    rw [List.forall₂_cons_left_iff, List.map_cons]
    constructor
    · rintro ⟨t, us, ht, hus, rfl⟩
      rw [h.isToken_iff.1 ht, ih.1 hus]
    · rintro rfl
      exact ⟨_, _, h.isToken_iff.2 rfl, ih.2 rfl, rfl⟩

theorem head?_ne_star {c : Char} {t : List Char} (ht : IsToken isMeta c t) (r : List Char) :
    (t ++ r).head? ≠ some '*' := by
  cases ht with
  | anyText | anyChar | escaped => nofun
  | plain _ _ hc =>
    intro he
    exact h.ne_of_isMeta hc (c := '*') (by decide) (Option.some.inj he)

theorem head?_tokens_ne_star {cs : List Char} {ts : List (List Char)}
    (hts : List.Forall₂ (IsToken isMeta) cs ts) : (ts.flatten ++ ['$']).head? ≠ some '*' := by
  cases hts with
  | nil => nofun
  | cons ht hts =>
    rw [List.flatten_cons, List.append_assoc]
    exact h.head?_ne_star ht _

theorem charactersIn?_token {c : Char} {t r : List Char} (ht : IsToken isMeta c t)
    (hstar : r.head? ≠ some '*') : charactersIn? (t ++ r) = (charactersIn? r).map (c :: ·) := by
  cases ht with
  | anyText => rfl
  | escaped => rfl
  | anyChar =>
    rw [List.singleton_append, charactersIn?]
    rintro r' rfl
    exact hstar rfl
  | plain _ _ hc =>
    have hslash : c ≠ '\\' := h.ne_of_isMeta hc (by decide)
    have hdot : c ≠ '.' := h.ne_of_isMeta hc (by decide)
    have hdollar : c ≠ '$' := h.ne_of_isMeta hc (by decide)
    rw [List.singleton_append, charactersIn?]
    · exact fun he _ ↦ hdollar he
    · exact fun _ _ he _ ↦ hslash he
    · exact fun _ he _ ↦ hdot he
    · exact hdot

/-- Tokens are told apart from left to right: the characters that they stand for are read one by one,
and each is found where the token before it ends. -/
theorem charactersIn?_tokens {cs : List Char} {ts : List (List Char)}
    (hts : List.Forall₂ (IsToken isMeta) cs ts) :
    charactersIn? (ts.flatten ++ ['$']) = some cs := by
  induction hts with
  | nil => rfl
  | cons ht hts ih =>
    rw [List.flatten_cons, List.append_assoc,
      h.charactersIn?_token ht (h.head?_tokens_ne_star hts), ih, Option.map_some]

theorem filter_unescaped_token {c : Char} {t : List Char} (ht : IsToken isMeta c t)
    (r : List Char) : (unescaped (t ++ r)).filter isMeta =
      wildcard c ++ (unescaped r).filter isMeta := by
  have hdot : isMeta '.' = true := h.isMeta_of_mem '.' (by decide)
  have hstar : isMeta '*' = true := h.isMeta_of_mem '*' (by decide)
  cases ht with
  | anyText =>
    change ('.' :: '*' :: unescaped r).filter isMeta = _
    rw [List.filter_cons_of_pos hdot, List.filter_cons_of_pos hstar]
    rfl
  | anyChar =>
    change ('.' :: unescaped r).filter isMeta = _
    rw [List.filter_cons_of_pos hdot]
    rfl
  | plain ht ho hc =>
    have hslash : c ≠ '\\' := h.ne_of_isMeta hc (by decide)
    have hw : wildcard c = [] := by rw [wildcard, if_neg ht, if_neg ho]
    rw [List.singleton_append, unescaped, List.filter_cons_of_neg (by simp [hc]), hw]
    · rfl
    · exact fun _ _ he _ ↦ hslash he
  | escaped ht ho hc =>
    have hw : wildcard c = [] := by rw [wildcard, if_neg ht, if_neg ho]
    rw [hw]
    rfl

theorem filter_unescaped_tokens {cs : List Char} {ts : List (List Char)}
    (hts : List.Forall₂ (IsToken isMeta) cs ts) :
    (unescaped (ts.flatten ++ ['$'])).filter isMeta = cs.flatMap wildcard ++ ['$'] := by
  induction hts with
  | nil => exact List.filter_cons_of_pos (h.isMeta_of_mem '$' (by decide))
  | cons ht hts ih =>
    rw [List.flatten_cons, List.append_assoc, h.filter_unescaped_token ht, ih, List.flatMap_cons,
      List.append_assoc]

end Escapes

theorem toList_likeRegexWith (escape : Char → List Char) (p : String) :
    (likeRegexWith escape p).toList = '^' :: ((p.toList.map (likeToken escape)).flatten ++ ['$']) := by
  rw [likeRegexWith, String.toList_ofList, List.flatMap_def, List.cons_append]

theorem patternOf?_likeRegexWith (h : Escapes isMeta escape) (p : String) :
    patternOf? (likeRegexWith escape p) = some p := by
  have hts := h.forall₂_isToken_iff.2 (rfl : p.toList.map (likeToken escape) = _)
  unfold patternOf?
  rw [toList_likeRegexWith]
  change (charactersIn? _).map String.ofList = some p
  rw [h.charactersIn?_tokens hts, Option.map_some, String.ofList_toList]

/-- Between its anchors an expression has one token for each character of its pattern, in order, and
no other tokens make up the same text. So the pattern can be read off the expression, which no other
pattern has. What keeps a meaning in it is the anchors and what wildcards stand for. -/
theorem likeRegexWith_reads_back (h : Escapes isMeta escape) (p : String) :
    (∃ tokens, List.Forall₂ (IsToken isMeta) p.toList tokens ∧
      (likeRegexWith escape p).toList = '^' :: (tokens.flatten ++ ['$']) ∧
      ∀ cs ts, List.Forall₂ (IsToken isMeta) cs ts →
        (likeRegexWith escape p).toList = '^' :: (ts.flatten ++ ['$']) →
          cs = p.toList ∧ ts = tokens) ∧
    patternOf? (likeRegexWith escape p) = some p ∧
    (∀ p', likeRegexWith escape p' = likeRegexWith escape p → p' = p) ∧
    (unescaped (likeRegexWith escape p).toList).filter isMeta =
      '^' :: (p.toList.flatMap wildcard ++ ['$']) := by
  have hts := h.forall₂_isToken_iff.2 (rfl : p.toList.map (likeToken escape) = _)
  refine ⟨⟨_, hts, toList_likeRegexWith escape p, ?_⟩, patternOf?_likeRegexWith h p, ?_, ?_⟩
  · intro cs ts hcs he
    rw [toList_likeRegexWith, List.cons.injEq] at he
    have hread := h.charactersIn?_tokens hcs
    rw [← he.2, h.charactersIn?_tokens hts] at hread
    cases hread
    exact ⟨rfl, h.forall₂_isToken_iff.1 hcs⟩
  · intro p' he
    have hread := patternOf?_likeRegexWith h p'
    rw [he, patternOf?_likeRegexWith h p] at hread
    exact (Option.some.inj hread).symm
  · have hstart : isMeta '^' = true := h.isMeta_of_mem '^' (by decide)
    rw [toList_likeRegexWith]
    change ('^' :: unescaped _).filter isMeta = _
    rw [List.filter_cons_of_pos hstart, h.filter_unescaped_tokens hts]

theorem likeRegexWith_reads_back_backslash_and_stars :
    Escapes (fun c ↦ metaCharacters.contains c) escapeChar ∧
    likeRegex "\\.*%_" = "^\\\\\\.\\*.*.$" ∧
    patternOf? (likeRegex "\\.*%_") = some "\\.*%_" ∧
    ∀ p', likeRegex p' = likeRegex "\\.*%_" → p' = "\\.*%_" := by
  obtain ⟨-, hr, hi, -⟩ := likeRegexWith_reads_back escapes_escapeChar "\\.*%_"
  exact ⟨escapes_escapeChar, by decide, hr, hi⟩

end Listing.Document
