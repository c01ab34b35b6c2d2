import Listing.Document.Like

namespace Listing

/-- A text is like a pattern: a percent sign stands for any text and an underscore for any character,
as far as their characters are allowed, and every other character for itself. -/
def LikeOver (allowed : Char → Prop) : List Char → List Char → Prop
  | [], s => s = []
  | c :: p, s =>
    if c = '%' then ∃ u v, s = u ++ v ∧ (∀ d ∈ u, allowed d) ∧ LikeOver allowed p v
    else ∃ d v, s = d :: v ∧ (if c = '_' then allowed d else d = c) ∧ LikeOver allowed p v

def Like (pattern s : String) : Prop := LikeOver (fun _ ↦ True) pattern.toList s.toList

theorem LikeOver.imp {allowed allowed' : Char → Prop} {p s : List Char}
    (h : LikeOver allowed p s) (hs : ∀ c ∈ s, allowed c → allowed' c) : LikeOver allowed' p s := by
  induction p generalizing s with
  | nil => exact h
  | cons c p ih =>
    unfold LikeOver at h ⊢
    split at h
    next hc =>
      obtain ⟨u, v, rfl, hu, hv⟩ := h
      have hsu : ∀ d ∈ u, allowed' d := fun d hd ↦ hs d (List.mem_append_left v hd) (hu d hd)
      rw [if_pos hc]
      exact ⟨u, v, rfl, hsu, ih hv fun d hd ↦ hs d (List.mem_append_right u hd)⟩
    next hc =>
      obtain ⟨d, v, rfl, hd, hv⟩ := h
      rw [if_neg hc]
      refine ⟨d, v, rfl, ?_, ih hv fun e he ↦ hs e (List.mem_cons_of_mem d he)⟩
      split
      next ho =>
        rw [if_pos ho] at hd
        exact hs d List.mem_cons_self hd
      next ho => rwa [if_neg ho] at hd

theorem likeOver_iff_like {p s : String} (h : '\n' ∉ s.toList) :
    LikeOver (· ≠ '\n') p.toList s.toList ↔ Like p s := by
  refine ⟨fun hl ↦ hl.imp fun _ _ _ ↦ trivial, fun hl ↦ LikeOver.imp hl fun c hc _ ↦ ?_⟩
  rintro rfl
  exact h hc

inductive Atom
  | any
  | char (c : Char)

/-- A dot stands for every character but the line feed. -/
def Atom.Accepts : Atom → Char → Prop
  | any, c => c ≠ '\n'
  | char d, c => c = d

namespace Expression

inductive Symbol
  | start
  | stop
  | atom (a : Atom)
  | star

/-- The characters that only mean something in expressions which are not read here. -/
def unread : List Char := ['\\', '+', '?', '(', ')', '|', '[', ']', '\x7b', '\x7d']

def symbol? (c : Char) : Option Symbol :=
  if c = '^' then some .start
  else if c = '$' then some .stop
  else if c = '.' then some (.atom .any)
  else if c = '*' then some .star
  else if unread.contains c then none
  else some (.atom (.char c))

/-- The symbols of an expression. A character behind a backslash stands for itself, unless it is a
letter or a digit. -/
def symbols? : List Char → Option (List Symbol)
  | [] => some []
  | '\\' :: c :: r => if c.isAlphanum then none else (symbols? r).map (.atom (.char c) :: ·)
  | c :: r => (symbol? c).bind fun y ↦ (symbols? r).map (y :: ·)

inductive Piece
  | start
  | stop
  | one (a : Atom)
  | many (a : Atom)

def pieces? : List Symbol → Option (List Piece)
  | [] => some []
  | .start :: r => (pieces? r).map (.start :: ·)
  | .stop :: r => (pieces? r).map (.stop :: ·)
  | .atom a :: .star :: r => (pieces? r).map (.many a :: ·)
  | .atom a :: r => (pieces? r).map (.one a :: ·)
  | .star :: _ => none

def read? (regex : String) : Option (List Piece) := (symbols? regex.toList).bind pieces?

/-- Pieces match a part of a text that has one text before it and one after it. -/
def Matches : List Piece → List Char → List Char → List Char → Prop
  | [], _, s, _ => s = []
  | .start :: ps, before, s, after => before = [] ∧ Matches ps before s after
  | .stop :: ps, before, s, after => s ++ after = [] ∧ Matches ps before s after
  | .one a :: ps, before, s, after =>
    ∃ c v, s = c :: v ∧ a.Accepts c ∧ Matches ps (before ++ [c]) v after
  | .many a :: ps, before, s, after =>
    ∃ u v, s = u ++ v ∧ (∀ c ∈ u, a.Accepts c) ∧ Matches ps (before ++ u) v after

def OccursIn (ps : List Piece) (text : String) : Prop :=
  ∃ before s after, text.toList = before ++ s ++ after ∧ Matches ps before s after

theorem symbols?_escaped {c : Char} (h : c.isAlphanum = false) (r : List Char) :
    symbols? ('\\' :: c :: r) = (symbols? r).map (.atom (.char c) :: ·) := by
  rw [symbols?, h]
  rfl

theorem symbols?_cons {c : Char} {y : Symbol} (h : symbol? c = some y) (r : List Char) :
    symbols? (c :: r) = (symbols? r).map (y :: ·) := by
  have hc : c ≠ '\\' := by
    rintro rfl
    cases h
  rw [symbols?, h]
  · rfl
  · exact fun d r' hd ↦ absurd hd hc

end Expression

namespace Document

open Expression

theorem isAlphanum_of_mem_metaCharacters : ∀ c ∈ metaCharacters, c.isAlphanum = false := by
  have hall : metaCharacters.all (fun c ↦ !c.isAlphanum) = true := by decide
  simpa using hall

theorem symbols?_escapeChar (c : Char) (r : List Char) :
    symbols? (escapeChar c ++ r) = (symbols? r).map (.atom (.char c) :: ·) := by
  unfold escapeChar
  split
  next h => exact symbols?_escaped (isAlphanum_of_mem_metaCharacters c (List.contains_iff_mem.1 h)) r
  next h =>
    have hs : symbol? c = some (.atom (.char c)) := by
      simp only [List.contains_iff_mem, metaCharacters, List.mem_cons, not_or] at h
      simp [symbol?, unread, h]
    exact symbols?_cons hs r

def atomOf (c : Char) : Atom := if c = '_' then .any else .char c

def symbolsOf (c : Char) : List Symbol :=
  if c = '%' then [.atom .any, .star] else [.atom (atomOf c)]

def pieceOf (c : Char) : Piece := if c = '%' then .many .any else .one (atomOf c)

theorem accepts_atomOf {c d : Char} :
    (atomOf c).Accepts d ↔ if c = '_' then d ≠ '\n' else d = c := by
  unfold atomOf
  split <;> rfl

theorem symbols?_likeToken (c : Char) (r : List Char) :
    symbols? (likeToken escapeChar c ++ r) = (symbols? r).map (symbolsOf c ++ ·) := by
  have hdot (r : List Char) : symbols? ('.' :: r) = (symbols? r).map (.atom .any :: ·) :=
    symbols?_cons rfl r
  unfold likeToken symbolsOf
  split
  next =>
    have hstar : symbols? ('*' :: r) = (symbols? r).map (.star :: ·) := symbols?_cons rfl r
    rw [List.cons_append, List.cons_append, List.nil_append, hdot, hstar, Option.map_map]
    rfl
  next =>
    rw [atomOf]
    split
    next => exact hdot r
    next => exact symbols?_escapeChar c r

theorem symbols?_likeTokens (p : List Char) :
    symbols? (p.flatMap (likeToken escapeChar) ++ ['$']) =
      some (p.flatMap symbolsOf ++ [.stop]) := by
  induction p with
  | nil => rfl
  | cons c p ih =>
    rw [List.flatMap_cons, List.append_assoc, symbols?_likeToken, ih, List.flatMap_cons,
      List.append_assoc]
    rfl

theorem pieces?_atom (a : Atom) {r : List Symbol} (h : r.head? ≠ some .star) :
    pieces? (.atom a :: r) = (pieces? r).map (.one a :: ·) := by
  rw [pieces?]
  rintro r' rfl
  exact h rfl

theorem head?_symbols (p : List Char) :
    (p.flatMap symbolsOf ++ [Symbol.stop]).head? ≠ some .star := by
  cases p with
  | nil => nofun
  | cons c p =>
    rw [List.flatMap_cons, symbolsOf]
    split <;> nofun

theorem pieces?_symbols (p : List Char) :
    pieces? (p.flatMap symbolsOf ++ [.stop]) = some (p.map pieceOf ++ [.stop]) := by
  induction p with
  | nil => rfl
  | cons c p ih =>
    rw [List.flatMap_cons, List.map_cons, List.append_assoc, symbolsOf, pieceOf]
    split
    next => simp only [List.cons_append, List.nil_append, pieces?, ih, Option.map_some]
    next =>
      rw [List.singleton_append, pieces?_atom (atomOf c) (head?_symbols p), ih]
      rfl

theorem read?_likeRegex (p : String) :
    read? (likeRegex p) = some (.start :: (p.toList.map pieceOf ++ [.stop])) := by
  have hs : symbols? (likeRegex p).toList =
      some (.start :: (p.toList.flatMap symbolsOf ++ [.stop])) := by
    rw [likeRegex, likeRegexWith, String.toList_ofList, List.cons_append, symbols?_cons rfl,
      symbols?_likeTokens]
    rfl
  rw [read?, hs, Option.bind_some, pieces?, pieces?_symbols]
  rfl

theorem matches_pieces {p before s after : List Char} :
    Matches (p.map pieceOf ++ [.stop]) before s after ↔ after = [] ∧ LikeOver (· ≠ '\n') p s := by
  induction p generalizing before s with
  | nil =>
    simp only [List.map_nil, List.nil_append, Matches, LikeOver, List.append_eq_nil_iff]
    exact ⟨fun h ↦ ⟨h.1.2, h.2⟩, fun h ↦ ⟨⟨h.2, h.1⟩, h.2⟩⟩
  | cons c p ih =>
    rw [List.map_cons, List.cons_append, LikeOver, pieceOf]
    split
    next =>
      simp only [Matches, ih]
      constructor
      · rintro ⟨u, v, hs, hu, ha, hv⟩
        exact ⟨ha, u, v, hs, hu, hv⟩
      · rintro ⟨ha, u, v, hs, hu, hv⟩
        exact ⟨u, v, hs, hu, ha, hv⟩
    next =>
      simp only [Matches, ih, accepts_atomOf]
      constructor
      · rintro ⟨d, v, hs, hd, ha, hv⟩
        exact ⟨ha, d, v, hs, hd, hv⟩
      · rintro ⟨ha, d, v, hs, hd, hv⟩
        exact ⟨d, v, hs, hd, ha, hv⟩

theorem occursIn_iff {p text : String} :
    OccursIn (.start :: (p.toList.map pieceOf ++ [.stop])) text ↔
      LikeOver (· ≠ '\n') p.toList text.toList := by
  constructor
  · rintro ⟨before, s, after, ht, rfl, hs⟩
    obtain ⟨rfl, hl⟩ := matches_pieces.1 hs
    rwa [ht, List.nil_append, List.append_nil]
  · intro h
    exact ⟨[], text.toList, [], by simp, rfl, matches_pieces.2 ⟨rfl, h⟩⟩

/-- The expression of a pattern finds the texts that are like the pattern with wildcards that stand
for no line feed. So all that it finds is like the pattern, and among the texts of one line it finds
all that are. -/
theorem occursIn_likeRegex_iff (p text : String) :
    ∃ ps, read? (likeRegex p) = some ps ∧
      (OccursIn ps text ↔ LikeOver (· ≠ '\n') p.toList text.toList) ∧
      (OccursIn ps text → Like p text) ∧
      ('\n' ∉ text.toList → (OccursIn ps text ↔ Like p text)) := by
  have hlike (h : LikeOver (· ≠ '\n') p.toList text.toList) : Like p text :=
    h.imp fun _ _ _ ↦ trivial
  exact ⟨_, read?_likeRegex p, occursIn_iff, fun h ↦ hlike (occursIn_iff.1 h),
    fun hn ↦ occursIn_iff.trans (likeOver_iff_like hn)⟩

theorem occursIn_likeRegex_with_metacharacters :
    likeRegex "a.b_%" = "^a\\.b..*$" ∧ Like "a.b_%" "a.b+(c" ∧ ¬ Like "a.b_%" "axb+" ∧
      ∃ ps, read? (likeRegex "a.b_%") = some ps ∧ OccursIn ps "a.b+(c" ∧ ¬ OccursIn ps "axb+" := by
  have hlike : Like "a.b_%" "a.b+(c" :=
    ⟨'a', _, rfl, rfl, '.', _, rfl, rfl, 'b', _, rfl, rfl, '+', _, rfl, trivial,
      ['(', 'c'], [], rfl, fun _ _ ↦ trivial, rfl⟩
  have hnot : ¬ Like "a.b_%" "axb+" := by
    simp [Like, LikeOver]
  obtain ⟨ps, hr, -, -, h⟩ := occursIn_likeRegex_iff "a.b_%" "a.b+(c"
  obtain ⟨ps', hr', -, h', -⟩ := occursIn_likeRegex_iff "a.b_%" "axb+"
  cases hr.symm.trans hr'
  exact ⟨by decide, hlike, hnot, ps, hr, (h (by decide)).2 hlike, fun ho ↦ hnot (h' ho)⟩

/-- A line feed is a text, but no wildcard of an expression stands for it. -/
theorem line_feed_is_like_and_does_not_occur :
    Like "%" "\n" ∧ ∃ ps, read? (likeRegex "%") = some ps ∧ ¬ OccursIn ps "\n" := by
  refine ⟨⟨['\n'], [], rfl, fun _ _ ↦ trivial, rfl⟩, _, read?_likeRegex "%", fun h ↦ ?_⟩
  obtain ⟨u, v, hs, hu, rfl⟩ : ∃ u v, ['\n'] = u ++ v ∧ (∀ c ∈ u, c ≠ '\n') ∧ v = [] :=
    occursIn_iff.1 h
  rw [List.append_nil] at hs
  exact hu '\n' (hs ▸ List.mem_cons_self) rfl

end Document

end Listing
