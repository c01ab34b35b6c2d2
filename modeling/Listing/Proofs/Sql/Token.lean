import Listing.Proofs.Sql.Name

namespace Listing.Sql

inductive Keyword
  | and
  | or
  | not
  | among
  | is
  | like
  | null
  | between
  deriving DecidableEq, Repr

inductive Sign
  | equal
  | different
  | greater
  | greaterOrEqual
  | less
  | lessOrEqual
  deriving DecidableEq, Repr

inductive Token
  | keyword (k : Keyword)
  | reserved (w : List Char)
  | name (s : List Char)
  | number (n : Nat)
  | parameter (index : Option Nat)
  | sign (s : Sign)
  | dot
  | comma
  | opening
  | closing
  deriving DecidableEq, Repr

namespace Keyword

def all : List Keyword := [and, or, not, among, is, like, null, between]

def word : Keyword → String
  | and => "and"
  | or => "or"
  | not => "not"
  | among => "in"
  | is => "is"
  | like => "like"
  | null => "null"
  | between => "between"

def ofWord? (w : List Char) : Option Keyword :=
  all.find? fun k ↦ k.word.toList = w.map Text.asciiLower

end Keyword

namespace Token

/-- A bare word. Reserved words that conditions do not use are no names either. -/
def ofWord (w : List Char) : Token :=
  match Keyword.ofWord? w with
  | some k => keyword k
  | none => if isReserved w then reserved w else name w

/-- The name up to the closing mark and the count of characters read; a doubled mark stands for
itself. -/
def quoted? (mark : Char) : List Char → Option (List Char × Nat)
  | [] => none
  | [c] => if c = mark then some ([], 1) else none
  | c :: c' :: r =>
    if c = mark then
      if c' = mark then (quoted? mark r).map fun p ↦ (mark :: p.1, p.2 + 2) else some ([], 1)
    else (quoted? mark (c' :: r)).map fun p ↦ (c :: p.1, p.2 + 1)

def symbol? : List Char → Option (Token × Nat)
  | '<' :: '>' :: _ => some (sign .different, 2)
  | '<' :: '=' :: _ => some (sign .lessOrEqual, 2)
  | '>' :: '=' :: _ => some (sign .greaterOrEqual, 2)
  | '<' :: _ => some (sign .less, 1)
  | '>' :: _ => some (sign .greater, 1)
  | '=' :: _ => some (sign .equal, 1)
  | '.' :: _ => some (dot, 1)
  | ',' :: _ => some (comma, 1)
  | '(' :: _ => some (opening, 1)
  | ')' :: _ => some (closing, 1)
  | _ => none

def parameter? (d : Dialect) : List Char → Option (Token × Nat)
  | [] => none
  | c :: r =>
    match d with
    | .postgres =>
      let digits := r.takeWhile Char.isDigit
      if c = '$' && !digits.isEmpty then
        some (parameter (some (Number.ofDigits digits)), digits.length + 1)
      else none
    | _ => if c = '?' then some (parameter none, 1) else none

def first? (d : Dialect) : List Char → Option (Token × Nat)
  | [] => none
  | c :: r =>
    if isNameStart c then
      some (ofWord ((c :: r).takeWhile isNameChar), ((c :: r).takeWhile isNameChar).length)
    else if c.isDigit then
      some (number (Number.ofDigits ((c :: r).takeWhile Char.isDigit)),
        ((c :: r).takeWhile Char.isDigit).length)
    else if c = d.quoteMark then (quoted? d.quoteMark r).map fun p ↦ (name p.1, p.2 + 1)
    else (parameter? d (c :: r)).orElse fun _ ↦ symbol? (c :: r)

end Token

/-- The tokens of a text, after `skip` characters that are still part of the token before. -/
def tokensAfter? (d : Dialect) : Nat → List Char → Option (List Token)
  | _, [] => some []
  | skip + 1, _ :: s => tokensAfter? d skip s
  | 0, c :: s =>
    if Text.isBlank c then tokensAfter? d 0 s
    else
      match Token.first? d (c :: s) with
      | some (t, length) => (tokensAfter? d (length - 1) s).map (t :: ·)
      | none => none

def tokens? (d : Dialect) (s : List Char) : Option (List Token) := tokensAfter? d 0 s

/-- A rest at which every token ends. -/
def Breaks (rest : List Char) : Prop := ∀ c ∈ rest.head?, c ∈ [' ', '.', ',', ')']

/-- A text that stands for these tokens wherever a break follows. -/
def Spells (d : Dialect) (w : List Char) (ts : List Token) : Prop :=
  ∀ rest, Breaks rest → tokens? d (w ++ rest) = (tokens? d rest).map (ts ++ ·)

variable {d : Dialect}

theorem breaks_nil : Breaks [] := fun _ hc ↦ nomatch hc

theorem breaks_cons {c : Char} (h : c ∈ [' ', '.', ',', ')']) (rest : List Char) :
    Breaks (c :: rest) := by
  intro c' hc'
  cases hc'
  exact h

theorem Breaks.takeWhile_eq_nil {rest : List Char} (h : Breaks rest) {p : Char → Bool}
    (hp : [' ', '.', ',', ')'].all fun c ↦ !p c) : rest.takeWhile p = [] := by
  cases rest with
  | nil => rfl
  | cons c rest =>
    have hc : p c = false := by simpa using List.all_eq_true.1 hp c (h c rfl)
    rw [List.takeWhile_cons, hc]
    rfl

theorem Breaks.takeWhile_append {w rest : List Char} (h : Breaks rest) {p : Char → Bool}
    (hp : [' ', '.', ',', ')'].all fun c ↦ !p c) (hw : ∀ c ∈ w, p c = true) :
    (w ++ rest).takeWhile p = w := by
  rw [List.takeWhile_append_of_pos hw, h.takeWhile_eq_nil hp, List.append_nil]

theorem tokensAfter?_length (w rest : List Char) :
    tokensAfter? d w.length (w ++ rest) = tokens? d rest := by
  induction w with
  | nil => rfl
  | cons c w ih => exact ih

theorem spells_of_first? {c : Char} {w : List Char} {t : Token} (hc : Text.isBlank c = false)
    (h : ∀ rest, Breaks rest → Token.first? d (c :: w ++ rest) = some (t, w.length + 1)) :
    Spells d (c :: w) [t] := by
  intro rest hr
  have hf := h rest hr
  rw [List.cons_append] at hf
  rw [List.cons_append, tokens?, tokensAfter?, hc, hf]
  simp only [Bool.false_eq_true, if_false, Nat.add_sub_cancel, tokensAfter?_length]
  rfl

theorem Spells.nil : Spells d [] [] := by
  intro rest _
  cases h : tokens? d rest <;> simp [h]

theorem tokens?_of_spells {w : List Char} {ts : List Token} (h : Spells d w ts) :
    tokens? d w = some ts := by
  have he := h [] breaks_nil
  rw [List.append_nil] at he
  rw [he]
  simp [tokens?, tokensAfter?]

theorem Spells.append {w w' : List Char} {ts ts' : List Token} (h : Spells d w ts)
    (h' : Spells d w' ts') (hb : ∀ rest, Breaks (w' ++ rest)) : Spells d (w ++ w') (ts ++ ts') := by
  intro rest hr
  rw [List.append_assoc, h _ (hb rest), h' rest hr, Option.map_map]
  congr 1
  funext us
  exact (List.append_assoc ts ts' us).symm

theorem tokens?_space (rest : List Char) : tokens? d (' ' :: rest) = tokens? d rest := rfl

theorem Spells.space_append {w : List Char} {ts : List Token} (h : Spells d w ts) :
    Spells d (' ' :: w) ts := by
  intro rest hr
  rw [List.cons_append, tokens?_space]
  exact h rest hr

theorem Spells.space {w w' : List Char} {ts ts' : List Token} (h : Spells d w ts)
    (h' : Spells d w' ts') : Spells d (w ++ ' ' :: w') (ts ++ ts') :=
  h.append h'.space_append fun rest ↦ breaks_cons (by simp) (w' ++ rest)

theorem tokens?_dot (rest : List Char) :
    tokens? d ('.' :: rest) = (tokens? d rest).map (.dot :: ·) := by
  cases d <;> rfl

theorem tokens?_comma (rest : List Char) :
    tokens? d (',' :: rest) = (tokens? d rest).map (.comma :: ·) := by
  cases d <;> rfl

theorem tokens?_opening (rest : List Char) :
    tokens? d ('(' :: rest) = (tokens? d rest).map (.opening :: ·) := by
  cases d <;> rfl

theorem tokens?_closing (rest : List Char) :
    tokens? d (')' :: rest) = (tokens? d rest).map (.closing :: ·) := by
  cases d <;> rfl

theorem Spells.separated {c : Char} {t : Token} (hc : c ∈ [' ', '.', ',', ')'])
    (ht : ∀ rest, tokens? d (c :: rest) = (tokens? d rest).map (t :: ·)) {w w' : List Char}
    {ts ts' : List Token} (h : Spells d w ts) (h' : Spells d w' ts') :
    Spells d (w ++ c :: w') (ts ++ t :: ts') := by
  refine h.append (fun rest hr ↦ ?_) fun rest ↦ breaks_cons hc (w' ++ rest)
  rw [List.cons_append, ht, h' rest hr, Option.map_map]
  rfl

theorem Spells.dot {w w' : List Char} {ts ts' : List Token} (h : Spells d w ts)
    (h' : Spells d w' ts') : Spells d (w ++ '.' :: w') (ts ++ .dot :: ts') :=
  h.separated (by simp) tokens?_dot h'

theorem Spells.comma {w w' : List Char} {ts ts' : List Token} (h : Spells d w ts)
    (h' : Spells d w' ts') : Spells d (w ++ ',' :: ' ' :: w') (ts ++ .comma :: ts') :=
  h.separated (by simp) tokens?_comma h'.space_append

theorem Spells.parenthesised {w : List Char} {ts : List Token} (h : Spells d w ts) :
    Spells d ('(' :: w ++ [')']) (.opening :: ts ++ [.closing]) := by
  have hc : Spells d (w ++ [')']) (ts ++ [.closing]) :=
    h.separated (by simp) tokens?_closing Spells.nil
  intro rest hr
  rw [List.cons_append, List.cons_append, tokens?_opening, hc rest hr, Option.map_map]
  rfl

theorem Token.ofWord_of_isName {w : List Char} (h : isName w = true) (hr : isReserved w = false) :
    ofWord w = .name w := by
  unfold ofWord
  cases hk : Keyword.ofWord? w with
  | none => simp [hr]
  | some k =>
    have he : k.word.toList = w.map Text.asciiLower := by
      simpa using List.find?_some hk
    have hm : reservedWords.contains k.word = true := by cases k <;> decide
    rw [isReserved, lower_of_isName h, ← he, String.ofList_toList, hm] at hr
    cases hr

theorem spells_word {w : List Char} (h : isName w = true) : Spells d w [.ofWord w] := by
  cases w with
  | nil => cases h
  | cons c w =>
    have hw := isNameChar_of_isName h
    refine spells_of_first? (isBlank_of_isNameChar (hw c List.mem_cons_self)) fun rest hr ↦ ?_
    rw [List.cons_append, Token.first?, if_pos (isNameStart_of_isName_cons h), ← List.cons_append,
      hr.takeWhile_append (by decide) hw]
    rfl

theorem spells_number (n : Nat) : Spells d (Number.digits n) [.number n] := by
  have hd : ∀ c ∈ Number.digits n, c.isDigit = true := isDigit_of_mem_digits
  cases hw : Number.digits n with
  | nil => exact absurd hw (digits_ne_nil n)
  | cons c w =>
    rw [hw] at hd
    have hc : c.isDigit = true := hd c List.mem_cons_self
    have hs : isNameStart c = false := by
      rw [← Bool.not_eq_true, isNameStart_iff]
      have h' := isDigit_iff.1 hc
      omega
    have hb : Text.isBlank c = false := isBlank_of_isNameChar (by rw [isNameChar, hc, Bool.or_true])
    refine spells_of_first? hb fun rest hr ↦ ?_
    rw [List.cons_append, Token.first?, hs, hc, ← List.cons_append,
      hr.takeWhile_append (by decide) hd, ← hw, Number.ofDigits_digits]
    simp [hw]

/-- The number by which a placeholder refers to its value, if it does so by number. -/
def Dialect.reference (d : Dialect) (index : Nat) : Option Nat :=
  match d with
  | .postgres => some index
  | _ => none

theorem spells_placeholder (d : Dialect) (index : Nat) :
    Spells d (d.placeholder index).toList [.parameter (d.reference index)] := by
  cases d with
  | mySql =>
    have ht : (Dialect.mySql.placeholder index).toList = ['?'] := by simp [Dialect.placeholder]
    rw [ht]
    exact spells_of_first? rfl fun rest _ ↦ rfl
  | sqlite =>
    have ht : (Dialect.sqlite.placeholder index).toList = ['?'] := by simp [Dialect.placeholder]
    rw [ht]
    exact spells_of_first? rfl fun rest _ ↦ rfl
  | postgres =>
    have ht : (Dialect.postgres.placeholder index).toList = '$' :: Number.digits index := by
      simp [Dialect.placeholder, Number.naturalText]
    rw [ht]
    refine spells_of_first? rfl fun rest hr ↦ ?_
    have hw := hr.takeWhile_append (by decide) (isDigit_of_mem_digits (n := index))
    have hs : isNameStart '$' = false := by decide
    have hc : Char.isDigit '$' = false := by decide
    have hq : '$' ≠ Dialect.postgres.quoteMark := by decide
    rw [List.cons_append, Token.first?, hs, hc, if_neg hq, Token.parameter?, hw,
      Number.ofDigits_digits]
    simp [digits_ne_nil]
    rfl

theorem ne_quoteMark_of_isNameChar {c : Char} (h : isNameChar c = true) : c ≠ d.quoteMark := by
  rintro rfl
  cases d <;> cases h

theorem quoted?_append {mark : Char} {w rest : List Char} (hw : ∀ c ∈ w, c ≠ mark)
    (hr : ∀ c ∈ rest.head?, c ≠ mark) :
    Token.quoted? mark (w ++ mark :: rest) = some (w, w.length + 1) := by
  induction w with
  | nil =>
    cases rest with
    | nil => simp [Token.quoted?]
    | cons c rest => simp [Token.quoted?, hr c rfl]
  | cons c w ih =>
    have hc := hw c List.mem_cons_self
    have hw' := ih fun c' hc' ↦ hw c' (List.mem_cons_of_mem c hc')
    cases w with
    | nil =>
      rw [List.nil_append] at hw'
      simp [Token.quoted?, hc, hw']
    | cons c' w =>
      rw [List.cons_append, List.cons_append, Token.quoted?, if_neg hc, ← List.cons_append, hw']
      rfl

theorem spells_quoted {w : List Char} (h : isName w = true) :
    Spells d (d.quoteMark :: (w ++ [d.quoteMark])) [.name w] := by
  have hw : ∀ c ∈ w, c ≠ d.quoteMark := fun c hc ↦
    ne_quoteMark_of_isNameChar (isNameChar_of_isName h c hc)
  refine spells_of_first? (by cases d <;> rfl) fun rest hr ↦ ?_
  have hrest : ∀ c ∈ rest.head?, c ≠ d.quoteMark := by
    intro c hc he
    have hb := hr c hc
    rw [he] at hb
    cases d <;> simp [Dialect.quoteMark] at hb
  have hq := quoted?_append hw hrest
  have hs : isNameStart d.quoteMark = false := by cases d <;> rfl
  have hd : d.quoteMark.isDigit = false := by cases d <;> rfl
  rw [List.cons_append, Token.first?, hs, hd, List.append_assoc, List.singleton_append, hq]
  simp

end Listing.Sql
