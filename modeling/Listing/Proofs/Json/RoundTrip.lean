import Listing.Json.Reader
import Mathlib.Data.List.Forall2

namespace Listing

open Number

structure JsonLiteral.WellFormed (l : JsonLiteral) : Prop where
  whole : isDigits l.whole = true
  zero : l.whole.head? = some '0' → l.whole = ['0']
  fraction : ∀ ds ∈ l.fraction, isDigits ds = true
  exponent : ∀ e ∈ l.exponent, isDigits e.2 = true

namespace Json

/-- Documents whose strings all have values, keys included. -/
inductive WellFormed : Json → Prop
  | null : WellFormed .null
  | bool (b : Bool) : WellFormed (.bool b)
  | number {l : JsonLiteral} (h : l.WellFormed) : WellFormed (.number l)
  | text (s : String) : WellFormed (text s)
  | array {items : List Json} (h : ∀ v ∈ items, WellFormed v) : WellFormed (.array items)
  | object {members : List (Option String × Json)} (hk : ∀ m ∈ members, m.1.isSome = true)
    (h : ∀ m ∈ members, WellFormed m.2) : WellFormed (.object members)

inductive Stands : StringPiece → Char → Prop
  | char (c : Char) : Stands (.char c) c
  | unit {c : Char} (h : c.toNat < 0xD800) : Stands (.unit c.toNat) c

theorem assemble_of_stands {ps : List StringPiece} {s : List Char} (h : List.Forall₂ Stands ps s) :
    assemble ps = some s := by
  induction h with
  | nil => rfl
  | @cons p c ps s hp hps ih =>
    cases hp with
    | char =>
      rw [assemble, ih]
      rfl
    | unit hc =>
      have hh : isHighSurrogate c.toNat = false := by simp [isHighSurrogate]; omega
      have hl : isLowSurrogate c.toNat = false := by simp [isLowSurrogate]; omega
      cases hps with
      | nil => simp [assemble, hh, hl]
      | cons hp hps =>
        cases hp with
        | char => rw [assemble, ih]; simp [hh, hl]; nofun
        | unit => rw [assemble, ih]; simp [hh, hl]

def withPiece (p : StringPiece) (r : List StringPiece × List Char) : List StringPiece × List Char :=
  (p :: r.1, r.2)

theorem readPieces_simple {c d : Char} (h : simpleEscape? c = some d) (s : List Char) :
    readPieces ('\\' :: c :: s) = (readPieces s).map (withPiece (.char d)) := by
  have hu : c ≠ 'u' := by
    rintro rfl
    cases h
  rw [readPieces, h]
  · cases readPieces s <;> rfl
  · rintro a b c d r rfl
    exact absurd rfl hu

theorem readPieces_unit {a b c d : Char} {i j k l : Nat} (ha : hexValue? a = some i)
    (hb : hexValue? b = some j) (hc : hexValue? c = some k) (hd : hexValue? d = some l)
    (s : List Char) : readPieces ('\\' :: 'u' :: a :: b :: c :: d :: s) =
      (readPieces s).map (withPiece (.unit (i * 4096 + j * 256 + k * 16 + l))) := by
  rw [readPieces, ha, hb, hc, hd]
  cases readPieces s <;> rfl

theorem readPieces_plain {c : Char} (hq : c ≠ '"') (hb : c ≠ '\\') (h : 32 ≤ c.toNat)
    (s : List Char) : readPieces (c :: s) = (readPieces s).map (withPiece (.char c)) := by
  rw [readPieces, if_neg (by simp [hb]; omega)]
  · cases readPieces s <;> rfl
  · exact hq
  · rintro _ _ _ _ _ rfl
    exact absurd rfl hb
  · rintro _ _ rfl
    exact absurd rfl hb

theorem escapeChar_cases (c : Char) :
    (∃ e, simpleEscape? e = some c ∧ escapeChar c = ['\\', e]) ∨
    (c.toNat < 32 ∧ escapeChar c =
      ['\\', 'u', '0', '0', hexDigit (c.toNat / 16), hexDigit (c.toNat % 16)]) ∨
    (c ≠ '"' ∧ c ≠ '\\' ∧ 32 ≤ c.toNat ∧ escapeChar c = [c]) := by
  have control {n : Nat} (h : c.toNat = n) : Char.ofNat n = c := by rw [← h, Char.ofNat_toNat]
  by_cases hq : c = '"'
  · exact .inl ⟨'"', by rw [hq]; rfl, by rw [hq]; rfl⟩
  by_cases hb : c = '\\'
  · exact .inl ⟨'\\', by rw [hb]; rfl, by rw [hb]; rfl⟩
  have he : escapeChar c = _ := (if_neg hq).trans (if_neg hb)
  rw [he]
  split
  next h => exact .inl ⟨'b', congrArg some (control h), rfl⟩
  split
  next h => exact .inl ⟨'t', congrArg some (control h), rfl⟩
  split
  next h => exact .inl ⟨'n', congrArg some (control h), rfl⟩
  split
  next h => exact .inl ⟨'f', congrArg some (control h), rfl⟩
  split
  next h => exact .inl ⟨'r', congrArg some (control h), rfl⟩
  split
  next h => exact .inr (.inl ⟨h, rfl⟩)
  next h => exact .inr (.inr ⟨hq, hb, by omega, rfl⟩)

theorem exists_readPieces_escapeChar (c : Char) : ∃ p, Stands p c ∧
    ∀ s, readPieces (escapeChar c ++ s) = (readPieces s).map (withPiece p) := by
  rcases escapeChar_cases c with ⟨e, he, hc⟩ | ⟨hn, hc⟩ | ⟨hq, hb, hn, hc⟩ <;> rw [hc]
  · exact ⟨.char c, .char c, readPieces_simple he⟩
  · have hz : hexValue? '0' = some 0 := rfl
    have hs := readPieces_unit hz hz (hexValue?_hexDigit (n := c.toNat / 16) (by omega))
      (hexValue?_hexDigit (n := c.toNat % 16) (by omega))
    have hsum : 0 * 4096 + 0 * 256 + c.toNat / 16 * 16 + c.toNat % 16 = c.toNat := by omega
    rw [hsum] at hs
    exact ⟨.unit c.toNat, .unit (by omega), hs⟩
  · exact ⟨.char c, .char c, readPieces_plain hq hb hn⟩

theorem exists_readPieces (s rest : List Char) : ∃ ps, List.Forall₂ Stands ps s ∧
    readPieces (s.flatMap escapeChar ++ '"' :: rest) = some (ps, rest) := by
  induction s with
  | nil => exact ⟨[], .nil, rfl⟩
  | cons c s ih =>
    obtain ⟨p, hp, hc⟩ := exists_readPieces_escapeChar c
    obtain ⟨ps, hps, hs⟩ := ih
    refine ⟨p :: ps, .cons hp hps, ?_⟩
    rw [List.flatMap_cons, List.append_assoc, hc, hs]
    rfl

theorem readString_escaped (s : String) (rest : List Char) :
    readString (s.toList.flatMap escapeChar ++ '"' :: rest) = some (some s, rest) := by
  obtain ⟨ps, hps, hs⟩ := exists_readPieces s.toList rest
  rw [readString, hs, Option.map_some, assemble_of_stands hps, Option.map_some,
    String.ofList_toList]

def FollowsValue (s : List Char) : Prop := ∀ c ∈ s.head?, c = ',' ∨ c = ']' ∨ c = '\x7d'

def EndsDigits (s : List Char) : Prop := ∀ c ∈ s.head?, c.isDigit = false

theorem leadingRun_append {ds s : List Char} (hd : isDigits ds = true) (hs : EndsDigits s) :
    leadingRun (ds ++ s) = (ds, s) := by
  have hd : ∀ c ∈ ds, c.isDigit = true := by simp_all [isDigits]
  have hs : s.takeWhile Char.isDigit = [] ∧ s.dropWhile Char.isDigit = s := by
    cases s with
    | nil => exact ⟨rfl, rfl⟩
    | cons c s => simp [hs c rfl]
  rw [leadingRun, List.takeWhile_append_of_pos hd, List.dropWhile_append_of_pos hd, hs.1, hs.2,
    List.append_nil]

def fractionChars : Option (List Char) → List Char
  | some ds => '.' :: ds
  | none => []

def exponentChars : Option (Bool × List Char) → List Char
  | some (negative, ds) => 'e' :: (if negative then ['-'] else []) ++ ds
  | none => []

theorem endsDigits_tail (f : Option (List Char)) (e : Option (Bool × List Char)) {s : List Char}
    (h : FollowsValue s) : EndsDigits (fractionChars f ++ (exponentChars e ++ s)) := by
  intro c hc
  cases f with
  | some ds => cases hc; rfl
  | none =>
    cases e with
    | some x => cases hc; rfl
    | none => rcases h c hc with rfl | rfl | rfl <;> rfl

theorem ne_nil_of_isDigits {ds : List Char} (h : isDigits ds = true) : ds ≠ [] := by
  rintro rfl
  cases h

theorem ne_cons_of_isDigits {ds : List Char} (h : isDigits ds = true) {c : Char}
    (hc : c.isDigit = false) (s r : List Char) : ds ++ s ≠ c :: r := by
  cases ds with
  | nil => cases h
  | cons d ds =>
    intro he
    cases he
    simp [isDigits, hc] at h

theorem readExponent_exponentChars {e : Option (Bool × List Char)}
    (he : ∀ x ∈ e, isDigits x.2 = true) {s : List Char} (h : FollowsValue s) :
    readExponent (exponentChars e ++ s) = some (e, s) := by
  cases e with
  | none =>
    cases s with
    | nil => rfl
    | cons c s =>
      refine if_neg ?_
      rcases h c rfl with rfl | rfl | rfl <;> decide
  | some x =>
    obtain ⟨negative, ds⟩ := x
    have hd := he _ rfl
    have hr := leadingRun_append hd (endsDigits_tail none none h)
    have hn := ne_nil_of_isDigits hd
    simp only [fractionChars, exponentChars, List.nil_append] at hr
    cases negative with
    | true => simp [exponentChars, readExponent, hr, hn]
    | false =>
      have hm := ne_cons_of_isDigits hd (c := '-') rfl s
      have hp := ne_cons_of_isDigits hd (c := '+') rfl s
      simp [exponentChars, readExponent, hr, hn]

theorem readFraction_fractionChars {f : Option (List Char)} (hf : ∀ ds ∈ f, isDigits ds = true)
    (e : Option (Bool × List Char)) {s : List Char} (h : FollowsValue s) :
    readFraction (fractionChars f ++ (exponentChars e ++ s)) = some (f, exponentChars e ++ s) := by
  cases f with
  | none =>
    rw [fractionChars, List.nil_append, readFraction]
    intro r hr
    cases e with
    | some x => cases hr
    | none =>
      have hc := h '.' (by rw [show s = '.' :: r from hr]; rfl)
      revert hc
      decide
  | some ds =>
    have hr := leadingRun_append (hf _ rfl) (endsDigits_tail none e h)
    have hn := ne_nil_of_isDigits (hf _ rfl)
    simp only [fractionChars, List.nil_append] at hr
    simp [fractionChars, readFraction, hr, hn]

theorem readWhole_append {ds t : List Char} (hd : isDigits ds = true)
    (hz : ds.head? = some '0' → ds = ['0']) (ht : EndsDigits t) :
    readWhole (ds ++ t) = some (ds, t) := by
  by_cases h0 : ds.head? = some '0'
  · rw [hz h0]
    cases t with
    | nil => rfl
    | cons c t => simp [readWhole, ht c rfl]
  · have hr := leadingRun_append hd ht
    have hn := ne_nil_of_isDigits hd
    rw [readWhole]
    · simp [hr, hn]
    · intro r hr
      cases ds with
      | nil => exact hn rfl
      | cons d ds =>
        cases hr
        exact h0 rfl

theorem literalChars_eq (l : JsonLiteral) : literalChars l = (if l.negative then ['-'] else []) ++
    (l.whole ++ (fractionChars l.fraction ++ exponentChars l.exponent)) := by
  rcases l with ⟨negative, whole, _ | f, _ | e⟩ <;>
    simp [literalChars, fractionChars, exponentChars]

theorem readLiteral_literalChars {l : JsonLiteral} (hl : l.WellFormed) {s : List Char}
    (h : FollowsValue s) : readLiteral (literalChars l ++ s) = some (l, s) := by
  have hw := readWhole_append hl.whole hl.zero (endsDigits_tail l.fraction l.exponent h)
  have hf := readFraction_fractionChars hl.fraction l.exponent h
  have he := readExponent_exponentChars hl.exponent h
  have hm := ne_cons_of_isDigits hl.whole (c := '-') rfl
    (fractionChars l.fraction ++ (exponentChars l.exponent ++ s))
  rcases l with ⟨negative, whole, f, e⟩
  dsimp only at hw hf he hm
  rw [literalChars_eq]
  cases negative with
  | true => simp [readLiteral, hw, hf, he]
  | false => simp [readLiteral, hw, hf, he]

theorem exists_literalChars_eq_cons {l : JsonLiteral} (hl : l.WellFormed) :
    ∃ c r, literalChars l = c :: r ∧ ∀ d, d.isDigit = false → d ≠ '-' → c ≠ d := by
  rw [literalChars_eq]
  cases hn : l.negative with
  | true => exact ⟨'-', _, rfl, fun d _ hd ↦ hd.symm⟩
  | false =>
    obtain ⟨whole, hz, -, -⟩ := hl
    cases hw : l.whole with
    | nil => exact absurd hw (ne_nil_of_isDigits whole)
    | cons c r =>
      refine ⟨c, _, rfl, fun d hd _ he ↦ ?_⟩
      exact ne_cons_of_isDigits whole hd [] r (by rw [hw, he, List.append_nil])

theorem readScalar_literalChars {l : JsonLiteral} (hl : l.WellFormed) {s : List Char}
    (h : FollowsValue s) : readScalar (literalChars l ++ s) = some (.number l, s) := by
  have hr := readLiteral_literalChars hl h
  obtain ⟨c, r, hc, hne⟩ := exists_literalChars_eq_cons hl
  rw [hc, List.cons_append] at hr ⊢
  have hq := hne '"' rfl (by decide)
  have hn := hne 'n' rfl (by decide)
  have ht := hne 't' rfl (by decide)
  have hf := hne 'f' rfl (by decide)
  unfold readScalar
  split <;> simp_all

theorem isSpace_of_ne {c : Char} (h : ∀ d, d.isDigit = false → d ≠ '-' → c ≠ d) :
    isSpace c = false := by
  have hs := h ' ' rfl (by decide)
  have hn := h '\n' rfl (by decide)
  have ht := h '\t' rfl (by decide)
  have hr := h '\r' rfl (by decide)
  simp [isSpace, hs, hn, ht, hr]

theorem WellFormed.exists_chars_eq_cons {j : Json} (h : j.WellFormed) :
    ∃ c r, chars j = c :: r ∧ isSpace c = false ∧ c ≠ ']' := by
  cases h with
  | null => exact ⟨'n', _, rfl, by decide⟩
  | bool b =>
    cases b with
    | true => exact ⟨'t', _, rfl, by decide⟩
    | false => exact ⟨'f', _, rfl, by decide⟩
  | text s => exact ⟨'"', _, rfl, by decide⟩
  | array => exact ⟨'[', _, rfl, by decide⟩
  | object => exact ⟨'\x7b', _, rfl, by decide⟩
  | @number l hl =>
    obtain ⟨c, r, hc, hne⟩ := exists_literalChars_eq_cons hl
    exact ⟨c, r, hc, isSpace_of_ne hne, hne ']' rfl (by decide)⟩

theorem skipSpace_cons {c : Char} (h : isSpace c = false) (s : List Char) :
    skipSpace (c :: s) = c :: s := by
  simp [skipSpace, h]

theorem readValue_scalar {c : Char} (hs : isSpace c = false) (ha : c ≠ '[') (ho : c ≠ '\x7b')
    (fuel : Nat) (s : List Char) : readValue (fuel + 1) (c :: s) = readScalar (c :: s) := by
  rw [readValue, skipSpace_cons hs]
  split <;> simp_all

theorem readValue_bracket {c : Char} (hs : isSpace c = false) (hc : c ≠ ']') (fuel : Nat)
    (s : List Char) : readValue (fuel + 1) ('[' :: c :: s) =
      (readItems fuel (c :: s)).map fun p ↦ (.array p.1, p.2) := by
  have hb : skipSpace ('[' :: c :: s) = '[' :: c :: s := skipSpace_cons rfl _
  have hi : skipSpace (c :: s) = c :: s := skipSpace_cons hs _
  simp [readValue, hb, hi, hc]

theorem readValue_brace {c : Char} (hs : isSpace c = false) (hc : c ≠ '\x7d') (fuel : Nat)
    (s : List Char) : readValue (fuel + 1) ('\x7b' :: c :: s) =
      (readMembers fuel (c :: s)).map fun p ↦ (.object p.1, p.2) := by
  have hb : skipSpace ('\x7b' :: c :: s) = '\x7b' :: c :: s := skipSpace_cons rfl _
  have hi : skipSpace (c :: s) = c :: s := skipSpace_cons hs _
  simp [readValue, hb, hi, hc]

theorem chars_array (items : List Json) :
    chars (.array items) = '[' :: itemChars items ++ [']'] := rfl

theorem chars_object (members : List (Option String × Json)) :
    chars (.object members) = '\x7b' :: memberChars members ++ ['\x7d'] := rfl

/-- The document is read from its text with enough steps, whatever follows it. -/
def ReadBack (j : Json) : Prop :=
  ∀ fuel s, (chars j).length ≤ fuel → FollowsValue s →
    readValue fuel (chars j ++ s) = some (j, s)

theorem followsValue_cons {c : Char} (h : c = ',' ∨ c = ']' ∨ c = '\x7d') (s : List Char) :
    FollowsValue (c :: s) := by
  intro d hd
  cases hd
  exact h

theorem readItems_itemChars {items : List Json} (hne : items ≠ []) (h : ∀ v ∈ items, v.ReadBack)
    (fuel : Nat) (s : List Char) (hf : (itemChars items).length < fuel) :
    readItems fuel (itemChars items ++ ']' :: s) = some (items, s) := by
  -- every item takes a step and has at least one character, so the length of the text is enough
  induction items generalizing fuel with
  | nil => exact absurd rfl hne
  | cons v items ih =>
    obtain ⟨hv, h⟩ := List.forall_mem_cons.1 h
    cases fuel with
    | zero => omega
    | succ fuel =>
      cases items with
      | nil =>
        rw [itemChars] at hf ⊢
        have hr := hv fuel (']' :: s) (by omega) (followsValue_cons (by simp) s)
        simp [readItems, hr, skipSpace_cons (show isSpace ']' = false by rfl)]
      | cons w items =>
        rw [itemChars, List.length_append, List.length_cons] at hf
        rw [itemChars, List.append_assoc, List.cons_append]
        have hr := hv fuel (',' :: (itemChars (w :: items) ++ ']' :: s)) (by omega)
          (followsValue_cons (by simp) _)
        have hi := ih (List.cons_ne_nil _ _) h fuel (by omega)
        simp [readItems, hr, hi, skipSpace_cons (show isSpace ',' = false by rfl)]

theorem readKey_quoted (k : String) (s : List Char) :
    readKey (quoted k ++ ':' :: s) = some (some k, s) := by
  have hk := readString_escaped k (':' :: s)
  have hq : quoted k ++ ':' :: s = '"' :: (k.toList.flatMap escapeChar ++ '"' :: ':' :: s) := by
    simp [quoted]
  rw [hq, readKey, skipSpace_cons rfl]
  simp [hk, skipSpace_cons (show isSpace ':' = false by rfl)]

theorem readMembers_memberChars {members : List (Option String × Json)} (hne : members ≠ [])
    (hk : ∀ m ∈ members, m.1.isSome = true) (h : ∀ m ∈ members, m.2.ReadBack) (fuel : Nat)
    (s : List Char) (hf : (memberChars members).length < fuel) :
    readMembers fuel (memberChars members ++ '\x7d' :: s) = some (members, s) := by
  induction members generalizing fuel with
  | nil => exact absurd rfl hne
  | cons m members ih =>
    obtain ⟨hm, hks⟩ := List.forall_mem_cons.1 hk
    obtain ⟨hv, hs⟩ := List.forall_mem_cons.1 h
    obtain ⟨_ | k, v⟩ := m
    · cases hm
    cases fuel with
    | zero => omega
    | succ fuel =>
      cases members with
      | nil =>
        simp only [memberChars, Option.getD_some, List.append_assoc, List.cons_append,
          List.length_append, List.length_cons] at hf ⊢
        have hr := hv fuel ('\x7d' :: s) (by dsimp only; omega) (followsValue_cons (by simp) s)
        simp [readMembers, readKey_quoted, hr,
          skipSpace_cons (show isSpace '\x7d' = false from rfl)]
      | cons m' members =>
        simp only [memberChars, Option.getD_some, List.append_assoc, List.cons_append,
          List.length_append, List.length_cons] at hf ⊢
        have hr := hv fuel (',' :: (memberChars (m' :: members) ++ '\x7d' :: s))
          (by dsimp only; omega) (followsValue_cons (by simp) _)
        have hi := ih (List.cons_ne_nil _ _) hks hs fuel (by omega)
        simp [readMembers, readKey_quoted, hr, hi,
          skipSpace_cons (show isSpace ',' = false from rfl)]

theorem readBack_of_succ {j : Json} (hj : j.WellFormed)
    (h : ∀ fuel s, (chars j).length ≤ fuel + 1 → FollowsValue s →
      readValue (fuel + 1) (chars j ++ s) = some (j, s)) : j.ReadBack := by
  intro fuel s hf hs
  cases fuel with
  | zero =>
    obtain ⟨c, r, hc, -⟩ := hj.exists_chars_eq_cons
    rw [hc] at hf
    cases hf
  | succ fuel => exact h fuel s hf hs

theorem readBack_array {items : List Json} (h : ∀ v ∈ items, WellFormed v)
    (hr : ∀ v ∈ items, v.ReadBack) : ReadBack (.array items) := by
  refine readBack_of_succ (.array h) fun fuel s hf _ ↦ ?_
  cases items with
  | nil => rfl
  | cons v items =>
    rw [chars_array, List.length_append, List.length_cons, List.length_singleton] at hf
    have hi := readItems_itemChars (List.cons_ne_nil v items) hr fuel s (by omega)
    obtain ⟨c, r, hc, hs, hne⟩ := (h v List.mem_cons_self).exists_chars_eq_cons
    obtain ⟨r, hi'⟩ : ∃ r, itemChars (v :: items) = c :: r := by
      cases items <;> rw [itemChars, hc] <;> exact ⟨_, rfl⟩
    rw [hi', List.cons_append] at hi
    rw [chars_array, hi', List.cons_append, List.cons_append, List.append_assoc,
      List.singleton_append, List.cons_append, readValue_bracket hs hne, hi]
    rfl

theorem readBack_object {members : List (Option String × Json)}
    (hk : ∀ m ∈ members, m.1.isSome = true) (h : ∀ m ∈ members, WellFormed m.2)
    (hr : ∀ m ∈ members, m.2.ReadBack) : ReadBack (.object members) := by
  refine readBack_of_succ (.object hk h) fun fuel s hf _ ↦ ?_
  cases members with
  | nil => rfl
  | cons m members =>
    rw [chars_object, List.length_append, List.length_cons, List.length_singleton] at hf
    have hi := readMembers_memberChars (List.cons_ne_nil m members) hk hr fuel s (by omega)
    obtain ⟨r, hi'⟩ : ∃ r, memberChars (m :: members) = '"' :: r := by
      obtain ⟨k, v⟩ := m
      cases members <;> exact ⟨_, rfl⟩
    rw [hi', List.cons_append] at hi
    rw [chars_object, hi', List.cons_append, List.cons_append, List.append_assoc,
      List.singleton_append, List.cons_append, readValue_brace rfl (by decide), hi]
    rfl

theorem WellFormed.readBack {j : Json} (h : j.WellFormed) : j.ReadBack := by
  induction h with
  | null =>
    refine readBack_of_succ .null fun fuel s _ _ ↦ ?_
    exact readValue_scalar rfl (by decide) (by decide) fuel _
  | bool b =>
    refine readBack_of_succ (.bool b) fun fuel s _ _ ↦ ?_
    cases b <;> exact readValue_scalar rfl (by decide) (by decide) fuel _
  | text t =>
    refine readBack_of_succ (.text t) fun fuel s _ _ ↦ ?_
    have hq : chars (Json.text t) ++ s = '"' :: (t.toList.flatMap escapeChar ++ '"' :: s) := by
      change quoted t ++ s = _
      simp [quoted]
    rw [hq, readValue_scalar rfl (by decide) (by decide), readScalar, readString_escaped]
    rfl
  | @number l hl =>
    refine readBack_of_succ (.number hl) fun fuel s _ hs ↦ ?_
    have hr := readScalar_literalChars hl hs
    obtain ⟨c, r, hc, hne⟩ := exists_literalChars_eq_cons hl
    rw [hc, List.cons_append] at hr
    change readValue (fuel + 1) (literalChars l ++ s) = _
    have ha := hne '[' rfl (by decide)
    have ho := hne '\x7b' rfl (by decide)
    rw [hc, List.cons_append, readValue_scalar (isSpace_of_ne hne) ha ho, hr]
  | array h ih => exact readBack_array h ih
  | object hk h ih => exact readBack_object hk h ih

/-- Printing a document and reading the text gives the document back. -/
theorem read?_print {j : Json} (h : j.WellFormed) : read? j.print = some j := by
  have hr := h.readBack ((chars j).length + 1) [] (by omega) nofun
  rw [List.append_nil] at hr
  rw [print, read?, String.toList_ofList, hr]
  rfl

end Json

end Listing
