import Listing.Proofs.Sql.Token

namespace Listing.Sql

inductive Term
  | column (name : List Char) (path : List (List Char))
  | parameter (index : Option Nat)
  | number (n : Nat)

inductive Relation
  | compare (s : Sign) (right : Term)
  | like (negated : Bool) (pattern : Term)
  | null (negated : Bool)
  | among (negated : Bool) (item : Term) (items : List Term)
  | between (negated : Bool) (low high : Term)

structure Test where
  subject : Term
  relation : Relation

inductive Formula
  | test (t : Test)
  | not (e : Formula)
  | and (left right : Formula)
  | or (left right : Formula)

def Term.tokens : Term → List Token
  | column name path => .name name :: path.flatMap fun s ↦ [.dot, .name s]
  | parameter index => [.parameter index]
  | number n => [.number n]

def negation (negated : Bool) : List Token := if negated then [.keyword .not] else []

namespace Relation

def itemTokens (items : List Term) : List Token := items.flatMap fun t ↦ .comma :: t.tokens

def tokens : Relation → List Token
  | compare s right => .sign s :: right.tokens
  | like negated pattern => negation negated ++ .keyword .like :: pattern.tokens
  | null negated => .keyword .is :: (negation negated ++ [.keyword .null])
  | among negated item items =>
    negation negated ++
      .keyword .among :: .opening :: (item.tokens ++ itemTokens items ++ [.closing])
  | between negated low high =>
    negation negated ++ .keyword .between :: (low.tokens ++ .keyword .and :: high.tokens)

end Relation

def Test.tokens (t : Test) : List Token := t.subject.tokens ++ t.relation.tokens

namespace Formula

def tests : Formula → List Test
  | test t => [t]
  | not e => e.tests
  | and left right => left.tests ++ right.tests
  | or left right => left.tests ++ right.tests

def alternatives? : Formula → Option (List Test)
  | test t => some [t]
  | or left right => do
    let ts ← left.alternatives?
    let us ← right.alternatives?
    pure (ts ++ us)
  | _ => none

/-- The choices of a formula that asks for all of some choices between tests. -/
def clauses? : Formula → Option (List (List Test))
  | and left right => do
    let gs ← left.clauses?
    let hs ← right.clauses?
    pure (gs ++ hs)
  | e => e.alternatives?.map fun ts ↦ [ts]

end Formula

def Sign.holds : Sign → Nat → Nat → Bool
  | equal, m, n => m == n
  | different, m, n => m != n
  | greater, m, n => n < m
  | greaterOrEqual, m, n => n ≤ m
  | less, m, n => m < n
  | lessOrEqual, m, n => m ≤ n

/-- The value of a test with a number. A comparison of numbers has a value of its own, the value of
any other test is assigned to its number. -/
def Test.value (v : Nat → Bool) (t : Test × Nat) : Bool :=
  match t.1 with
  | ⟨.number m, .compare s (.number n)⟩ => s.holds m n
  | _ => v t.2

/-- The value of a formula whose tests are numbered from left to right, beginning with `n`. -/
def Formula.truth (v : Nat → Bool) : Nat → Formula → Bool
  | n, test t => Test.value v (t, n)
  | n, not e => !e.truth v n
  | n, and left right => left.truth v n && right.truth v (n + left.tests.length)
  | n, or left right => left.truth v n || right.truth v (n + left.tests.length)

/-- How much may stand together without parentheses. -/
inductive Level
  | factor
  | conjunction
  | disjunction

inductive Reads : Level → List Token → Formula → Prop
  | test (t : Test) : Reads .factor t.tokens (.test t)
  | group {ts : List Token} {e : Formula} :
      Reads .disjunction ts e → Reads .factor (.opening :: (ts ++ [.closing])) e
  | not {ts : List Token} {e : Formula} :
      Reads .factor ts e → Reads .factor (.keyword .not :: ts) (.not e)
  | factor {ts : List Token} {e : Formula} : Reads .factor ts e → Reads .conjunction ts e
  | and {ts us : List Token} {e f : Formula} : Reads .factor ts e → Reads .conjunction us f →
      Reads .conjunction (ts ++ .keyword .and :: us) (.and e f)
  | conjunction {ts : List Token} {e : Formula} :
      Reads .conjunction ts e → Reads .disjunction ts e
  | or {ts us : List Token} {e f : Formula} : Reads .conjunction ts e → Reads .disjunction us f →
      Reads .disjunction (ts ++ .keyword .or :: us) (.or e f)

def Level.follow : Level → List Token
  | factor => [.dot]
  | conjunction => [.dot, .keyword .and]
  | disjunction => [.dot, .keyword .and, .keyword .or]

/-- A rest that does not continue what stands at a level. -/
def Level.EndsAt (k : Level) (rest : List Token) : Prop := ∀ t ∈ rest.head?, t ∉ k.follow

theorem Level.endsAt_nil (k : Level) : k.EndsAt [] := fun _ ht ↦ nomatch ht

theorem Level.endsAt_cons {k : Level} {t : Token} (h : t ∉ k.follow) (rest : List Token) :
    k.EndsAt (t :: rest) := by
  intro t' ht'
  cases ht'
  exact h

theorem Level.EndsAt.notMem {k : Level} {t : Token} {rest : List Token} (h : k.EndsAt (t :: rest)) :
    t ∉ k.follow := h t rfl

theorem Level.EndsAt.factor {k : Level} {rest : List Token} (h : k.EndsAt rest) :
    Level.factor.EndsAt rest := by
  intro t ht hm
  rw [List.mem_singleton.1 hm] at ht
  refine h .dot ht ?_
  cases k <;> exact List.mem_cons_self

theorem Level.EndsAt.conjunction {rest : List Token} (h : Level.disjunction.EndsAt rest) :
    Level.conjunction.EndsAt rest := by
  intro t ht hm
  refine h t ht ?_
  rcases List.mem_cons.1 hm with rfl | hm
  · exact List.mem_cons_self
  · rw [List.mem_singleton.1 hm]
    exact List.mem_cons_of_mem _ List.mem_cons_self

theorem path_inj {path path' : List (List Char)} {rest rest' : List Token}
    (h : path.flatMap (fun s ↦ [Token.dot, .name s]) ++ rest =
      path'.flatMap (fun s ↦ [Token.dot, .name s]) ++ rest')
    (hr : Level.factor.EndsAt rest) (hr' : Level.factor.EndsAt rest') :
    path = path' ∧ rest = rest' := by
  induction path generalizing path' with
  | nil =>
    cases path' with
    | nil => exact ⟨rfl, h⟩
    | cons s' path' =>
      rw [show rest = _ from h] at hr
      exact absurd List.mem_cons_self hr.notMem
  | cons s path ih =>
    cases path' with
    | nil =>
      rw [← show _ = rest' from h] at hr'
      exact absurd List.mem_cons_self hr'.notMem
    | cons s' path' =>
      simp only [List.flatMap_cons, List.cons_append, List.nil_append, List.cons.injEq,
        Token.name.injEq, true_and] at h
      obtain ⟨rfl, rfl⟩ := ih h.2
      rw [h.1]
      exact ⟨rfl, rfl⟩

theorem Term.tokens_inj {t t' : Term} {rest rest' : List Token}
    (h : t.tokens ++ rest = t'.tokens ++ rest') (hr : Level.factor.EndsAt rest)
    (hr' : Level.factor.EndsAt rest') : t = t' ∧ rest = rest' := by
  cases t <;> cases t' <;>
    simp only [tokens, List.cons_append, List.nil_append, List.cons.injEq, Token.name.injEq,
      Token.parameter.injEq, Token.number.injEq, reduceCtorEq, false_and] at h
  · obtain ⟨rfl, rfl⟩ := path_inj h.2 hr hr'
    exact ⟨by rw [h.1], rfl⟩
  · exact ⟨by rw [h.1], h.2⟩
  · exact ⟨by rw [h.1], h.2⟩

theorem endsAt_itemTokens (items : List Term) (rest : List Token) :
    Level.factor.EndsAt (Relation.itemTokens items ++ .closing :: rest) := by
  cases items <;> exact Level.endsAt_cons (by simp [Level.follow]) _

theorem Relation.itemTokens_inj {items items' : List Term} {rest rest' : List Token}
    (h : itemTokens items ++ .closing :: rest = itemTokens items' ++ .closing :: rest') :
    items = items' ∧ rest = rest' := by
  induction items generalizing items' with
  | nil =>
    cases items' with
    | nil => exact ⟨rfl, (List.cons.inj h).2⟩
    | cons t' items' => exact absurd (List.cons.inj h).1 nofun
  | cons t items ih =>
    cases items' with
    | nil => exact absurd (List.cons.inj h).1 nofun
    | cons t' items' =>
      simp only [itemTokens, List.flatMap_cons, List.cons_append, List.append_assoc,
        List.cons.injEq, true_and] at h
      obtain ⟨rfl, hi⟩ := Term.tokens_inj h (endsAt_itemTokens items rest)
        (endsAt_itemTokens items' rest')
      obtain ⟨rfl, rfl⟩ := ih hi
      exact ⟨rfl, rfl⟩

theorem among_inj {t t' : Term} {items items' : List Term} {rest rest' : List Token}
    (h : t.tokens ++ (Relation.itemTokens items ++ .closing :: rest) =
      t'.tokens ++ (Relation.itemTokens items' ++ .closing :: rest')) :
    t = t' ∧ items = items' ∧ rest = rest' := by
  obtain ⟨ht, hi⟩ := Term.tokens_inj h (endsAt_itemTokens items rest)
    (endsAt_itemTokens items' rest')
  exact ⟨ht, Relation.itemTokens_inj hi⟩

theorem between_inj {t t' u u' : Term} {rest rest' : List Token}
    (h : t.tokens ++ .keyword .and :: (u.tokens ++ rest) =
      t'.tokens ++ .keyword .and :: (u'.tokens ++ rest'))
    (hr : Level.factor.EndsAt rest) (hr' : Level.factor.EndsAt rest') :
    t = t' ∧ u = u' ∧ rest = rest' := by
  have hand : Token.keyword .and ∉ Level.factor.follow := by simp [Level.follow]
  obtain ⟨ht, hu⟩ := Term.tokens_inj h (Level.endsAt_cons hand _) (Level.endsAt_cons hand _)
  exact ⟨ht, Term.tokens_inj (List.cons.inj hu).2 hr hr'⟩

theorem Relation.tokens_inj {r r' : Relation} {rest rest' : List Token}
    (h : r.tokens ++ rest = r'.tokens ++ rest') (hr : Level.factor.EndsAt rest)
    (hr' : Level.factor.EndsAt rest') : r = r' ∧ rest = rest' := by
  rcases r with ⟨s, t⟩ | ⟨_ | _, t⟩ | ⟨_ | _⟩ | ⟨_ | _, t, ts⟩ | ⟨_ | _, t, u⟩ <;>
  rcases r' with ⟨s', t'⟩ | ⟨_ | _, t'⟩ | ⟨_ | _⟩ | ⟨_ | _, t', ts'⟩ | ⟨_ | _, t', u'⟩ <;>
  simp [tokens, negation] at h
  case compare.compare =>
    obtain ⟨rfl, ht⟩ := h
    obtain ⟨rfl, rfl⟩ := Term.tokens_inj ht hr hr'
    exact ⟨rfl, rfl⟩
  case like.false.like.false | like.true.like.true =>
    obtain ⟨rfl, rfl⟩ := Term.tokens_inj h hr hr'
    exact ⟨rfl, rfl⟩
  case null.false.null.false | null.true.null.true => exact ⟨rfl, h⟩
  case among.false.among.false | among.true.among.true =>
    obtain ⟨rfl, rfl, rfl⟩ := among_inj h
    exact ⟨rfl, rfl⟩
  case between.false.between.false | between.true.between.true =>
    obtain ⟨rfl, rfl, rfl⟩ := between_inj h hr hr'
    exact ⟨rfl, rfl⟩

theorem Relation.endsAt_tokens (r : Relation) (rest : List Token) :
    Level.factor.EndsAt (r.tokens ++ rest) := by
  rcases r with _ | ⟨_ | _, _⟩ | _ | ⟨_ | _, _, _⟩ | ⟨_ | _, _, _⟩ <;>
  exact Level.endsAt_cons (by simp [Level.follow]) _

theorem Test.tokens_inj {t t' : Test} {rest rest' : List Token}
    (h : t.tokens ++ rest = t'.tokens ++ rest') (hr : Level.factor.EndsAt rest)
    (hr' : Level.factor.EndsAt rest') : t = t' ∧ rest = rest' := by
  rcases t with ⟨t, r⟩
  rcases t' with ⟨t', r'⟩
  simp only [tokens, List.append_assoc] at h
  obtain ⟨rfl, ht⟩ := Term.tokens_inj h (r.endsAt_tokens rest) (r'.endsAt_tokens rest')
  obtain ⟨rfl, rfl⟩ := Relation.tokens_inj ht hr hr'
  exact ⟨rfl, rfl⟩

theorem Test.tokens_ne_cons {t : Test} {k : Token} (hk : k ∈ [.opening, .keyword .not])
    (rest us : List Token) : t.tokens ++ rest ≠ k :: us := by
  intro h
  rcases t with ⟨_ | _ | _, _⟩ <;> cases (List.cons.inj h).1 <;> simp at hk

/-- Two readings that begin a list of tokens are the same if what follows continues neither. -/
theorem Reads.unique {k : Level} {ts : List Token} {e : Formula} (h : Reads k ts e)
    {ts' : List Token} {e' : Formula} (h' : Reads k ts' e') {rest rest' : List Token}
    (he : ts ++ rest = ts' ++ rest') (hr : k.EndsAt rest) (hr' : k.EndsAt rest') :
    e = e' ∧ rest = rest' := by
  have hand : Token.keyword .and ∉ Level.factor.follow := by simp [Level.follow]
  have hor : Token.keyword .or ∉ Level.conjunction.follow := by simp [Level.follow]
  have hclosing : Token.closing ∉ Level.disjunction.follow := by simp [Level.follow]
  -- what follows a part is either the rest or the connector after it, which its level excludes,
  -- so that two readings divide the tokens at the same place
  induction h generalizing ts' e' rest rest' with
  | test t =>
    cases h' with
    | test t' =>
      obtain ⟨rfl, rfl⟩ := Test.tokens_inj he hr hr'
      exact ⟨rfl, rfl⟩
    | group _ => exact absurd he (Test.tokens_ne_cons (by simp) _ _)
    | not _ => exact absurd he (Test.tokens_ne_cons (by simp) _ _)
  | group _ ih =>
    cases h' with
    | test t' => exact absurd he.symm (Test.tokens_ne_cons (by simp) _ _)
    | group h' =>
      simp only [List.cons_append, List.append_assoc, List.nil_append, List.cons.injEq,
        true_and] at he
      obtain ⟨rfl, hc⟩ := ih h' he (Level.endsAt_cons hclosing _) (Level.endsAt_cons hclosing _)
      exact ⟨rfl, (List.cons.inj hc).2⟩
    | not _ => exact absurd (List.cons.inj he).1 nofun
  | not _ ih =>
    cases h' with
    | test t' => exact absurd he.symm (Test.tokens_ne_cons (by simp) _ _)
    | group _ => exact absurd (List.cons.inj he).1 nofun
    | not h' =>
      obtain ⟨rfl, rfl⟩ := ih h' (List.cons.inj he).2 hr hr'
      exact ⟨rfl, rfl⟩
  | factor _ ih =>
    cases h' with
    | factor h' => exact ih h' he hr.factor hr'.factor
    | and h' _ =>
      rw [List.append_assoc] at he
      obtain ⟨-, rfl⟩ := ih h' he hr.factor (Level.endsAt_cons hand _)
      exact absurd (by simp [Level.follow]) hr.notMem
  | and _ _ ihl ihr =>
    rw [List.append_assoc] at he
    cases h' with
    | factor h' =>
      obtain ⟨-, hc⟩ := ihl h' he (Level.endsAt_cons hand _) hr'.factor
      rw [← hc] at hr'
      exact absurd (by simp [Level.follow]) hr'.notMem
    | and h' hu' =>
      rw [List.append_assoc] at he
      obtain ⟨rfl, hc⟩ := ihl h' he (Level.endsAt_cons hand _) (Level.endsAt_cons hand _)
      obtain ⟨rfl, rfl⟩ := ihr hu' (List.cons.inj hc).2 hr hr'
      exact ⟨rfl, rfl⟩
  | conjunction _ ih =>
    cases h' with
    | conjunction h' => exact ih h' he hr.conjunction hr'.conjunction
    | or h' _ =>
      rw [List.append_assoc] at he
      obtain ⟨-, rfl⟩ := ih h' he hr.conjunction (Level.endsAt_cons hor _)
      exact absurd (by simp [Level.follow]) hr.notMem
  | or _ _ ihl ihr =>
    rw [List.append_assoc] at he
    cases h' with
    | conjunction h' =>
      obtain ⟨-, hc⟩ := ihl h' he (Level.endsAt_cons hor _) hr'.conjunction
      rw [← hc] at hr'
      exact absurd (by simp [Level.follow]) hr'.notMem
    | or h' hu' =>
      rw [List.append_assoc] at he
      obtain ⟨rfl, hc⟩ := ihl h' he (Level.endsAt_cons hor _) (Level.endsAt_cons hor _)
      obtain ⟨rfl, rfl⟩ := ihr hu' (List.cons.inj hc).2 hr hr'
      exact ⟨rfl, rfl⟩

end Listing.Sql
