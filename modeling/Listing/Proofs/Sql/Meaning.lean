import Listing.Proofs.Grouping
import Listing.Proofs.Sql.Formula
import Listing.Proofs.Sql.Valid

namespace Listing

def Operator.tokens : Operator → List Sql.Token
  | equal => [.sign .equal]
  | diff => [.sign .different]
  | greater => [.sign .greater]
  | greaterOrEqual => [.sign .greaterOrEqual]
  | less => [.sign .less]
  | lessOrEqual => [.sign .lessOrEqual]
  | like => [.keyword .like]
  | notLike => [.keyword .not, .keyword .like]
  | among => [.keyword .among]
  | notAmong => [.keyword .not, .keyword .among]
  | isNull => [.keyword .is, .keyword .null]
  | isNotNull => [.keyword .is, .keyword .not, .keyword .null]
  | between => [.keyword .between]

namespace Sql

variable {d : Dialect}

theorem spells_sign {c : Char} {w : List Char} {s : Sign}
    (h : (c :: w, s) ∈ [(['='], .equal), (['<', '>'], .different), (['>'], .greater),
      (['>', '='], .greaterOrEqual), (['<'], .less), (['<', '='], Sign.lessOrEqual)]) :
    Spells d (c :: w) [.sign s] := by
  simp only [List.mem_cons, Prod.mk.injEq, List.cons.injEq, List.not_mem_nil, or_false] at h
  have hc : Text.isBlank c = false := by
    rcases h with h | h | h | h | h | h <;> rw [h.1.1] <;> rfl
  refine spells_of_first? hc fun rest hr ↦ ?_
  cases rest with
  | nil => rcases h with h | h | h | h | h | h <;> obtain ⟨⟨rfl, rfl⟩, rfl⟩ := h <;> cases d <;> rfl
  | cons c' rest =>
    have hc' := hr c' rfl
    simp only [List.mem_cons, List.not_mem_nil, or_false] at hc'
    rcases h with h | h | h | h | h | h <;> obtain ⟨⟨rfl, rfl⟩, rfl⟩ := h <;>
    rcases hc' with rfl | rfl | rfl | rfl <;> cases d <;> rfl

theorem spells_keyword {s : String} (k : Keyword) (h : isName s.toList = true)
    (hk : Keyword.ofWord? s.toList = some k) : Spells d s.toList [.keyword k] := by
  have hw := spells_word (d := d) h
  rwa [Token.ofWord, hk] at hw

theorem spells_sql (o : Operator) : Spells d o.sql.toList o.tokens := by
  have hnot : Spells d "NOT".toList [.keyword .not] := spells_keyword _ rfl rfl
  have hlike : Spells d "LIKE".toList [.keyword .like] := spells_keyword _ rfl rfl
  have hin : Spells d "IN".toList [.keyword .among] := spells_keyword _ rfl rfl
  have his : Spells d "IS".toList [.keyword .is] := spells_keyword _ rfl rfl
  have hnull : Spells d "NULL".toList [.keyword .null] := spells_keyword _ rfl rfl
  cases o with
  | like => exact hlike
  | notLike => exact hnot.space hlike
  | among => exact hin
  | notAmong => exact hnot.space hin
  | isNull => exact his.space hnull
  | isNotNull => exact his.space (hnot.space hnull)
  | between => exact spells_keyword _ rfl rfl
  | _ => exact spells_sign (by decide)

theorem Spells.word {w w' : List Char} {s : String} {ts ts' : List Token} {k : Keyword}
    (hk : Keyword.ofWord? s.toList = some k) (hs : isName s.toList = true) (h : Spells d w ts)
    (h' : Spells d w' ts') :
    Spells d (w ++ ((" " ++ s ++ " ").toList ++ w')) (ts ++ .keyword k :: ts') := by
  have hw := h.space ((spells_keyword k hs hk).space h')
  simpa using hw

theorem spells_join {α : Type} {separator : String} (us : List Token)
    (hsep : ∀ {w w' ts ts'}, Spells d w ts → Spells d w' ts' →
      Spells d (w ++ (separator.toList ++ w')) (ts ++ (us ++ ts')))
    {text : α → String} (tokens : α → List Token) {a : α} {as : List α}
    (h : ∀ b ∈ a :: as, Spells d (text b).toList (tokens b)) :
    Spells d (Text.join separator ((a :: as).map text)).toList
      (tokens a ++ as.flatMap fun b ↦ us ++ tokens b) := by
  induction as generalizing a with
  | nil =>
    simp only [List.map_cons, List.map_nil, Text.join, List.flatMap_nil, List.append_nil]
    exact h a List.mem_cons_self
  | cons b as ih =>
    have hb := ih fun b' hb' ↦ h b' (List.mem_cons_of_mem a hb')
    have ha := hsep (h a List.mem_cons_self) hb
    simpa [Text.join] using ha

theorem spells_quoteName {w : List Char} (h : isName w = true) :
    Spells d (d.quoteName w) [.name w] := by
  unfold Dialect.quoteName
  split
  next => exact spells_quoted h
  next hr =>
    have hw := spells_word (d := d) h
    rwa [Token.ofWord_of_isName h (Bool.eq_false_iff.2 hr)] at hw

def Term.ofPath (path : String) : Term := .column ((segments path).headD []) (segments path).tail

theorem spells_quote {path : String} (h : isIdentifier path = true) :
    Spells d (d.quote path).toList (Term.ofPath path).tokens := by
  have hn := List.all_eq_true.1 h
  unfold Dialect.quote Term.ofPath
  cases hs : segments path with
  | nil => exact absurd hs (Text.piecesAt_ne_nil '.' path.toList)
  | cons w ws =>
    rw [hs] at hn
    refine spells_join [.dot] Spells.dot (fun w ↦ [Token.name w]) fun w' hw' ↦ ?_
    rw [String.toList_ofList]
    exact spells_quoteName (hn w' hw')

/-- The value with this number after `used` others. -/
def Dialect.value (d : Dialect) (used index : Nat) : Term :=
  .parameter (d.reference (used + index))

theorem spells_value (d : Dialect) (used index : Nat) :
    Spells d (d.placeholder (used + index)).toList (d.value used index).tokens :=
  spells_placeholder d (used + index)

theorem spells_placeholders (d : Dialect) (used count : Nat) :
    Spells d (Text.join ", " (placeholders d used (count + 1))).toList ((d.value used 1).tokens ++
      Relation.itemTokens ((List.range' 2 count).map (d.value used))) := by
  have hr : 1 :: List.range' 2 count = (List.range (count + 1)).map (1 + ·) := by
    rw [← List.range'_eq_map_range]
    rfl
  have hp : placeholders d used (count + 1) =
      (1 :: List.range' 2 count).map fun k ↦ d.placeholder (used + k) := by
    rw [hr, List.map_map, placeholders]
    refine List.map_congr_left fun k _ ↦ ?_
    rw [Function.comp_apply, Nat.add_comm 1, Nat.add_assoc]
  rw [hp, Relation.itemTokens, List.flatMap_map]
  exact spells_join [.comma] Spells.comma _ fun k _ ↦ spells_value d used k

namespace Condition

def relation (d : Dialect) (used : Nat) (c : Condition) : Relation :=
  let first := d.value used 1
  let others := (List.range' 2 (c.operand.values.length - 1)).map (d.value used)
  match c.operator with
  | .equal => .compare .equal first
  | .diff => .compare .different first
  | .greater => .compare .greater first
  | .greaterOrEqual => .compare .greaterOrEqual first
  | .less => .compare .less first
  | .lessOrEqual => .compare .lessOrEqual first
  | .like => .like false first
  | .notLike => .like true first
  | .among => .among false first others
  | .notAmong => .among true first others
  | .isNull => .null false
  | .isNotNull => .null true
  | .between => .between false first (d.value used 2)

/-- The test that a condition stands for after `used` values. A comparison of two numbers takes the
place of membership in an empty list. -/
def test (d : Dialect) (used : Nat) (c : Condition) : Test :=
  match c.operand with
  | .many [] => ⟨.number 1, .compare .equal (.number (if c.operator = .notAmong then 1 else 0))⟩
  | _ => ⟨.ofPath c.column, c.relation d used⟩

def verdict (c : Condition) (b : Bool) : Bool :=
  match c.operand with
  | .many [] => c.operator = .notAmong
  | _ => b

theorem value_test (d : Dialect) (used : Nat) (c : Condition) (v : Nat → Bool) (n : Nat) :
    Test.value v (c.test d used, n) = c.verdict (v n) := by
  rcases c with ⟨column, o, _ | _ | _ | _, connector⟩
  case many vs => cases vs <;> cases o <;> rfl
  all_goals rfl

theorem spells_text {c : Condition} (h : c.Valid) (d : Dialect) (used : Nat) :
    Spells d (c.text d used).toList (c.test d used).tokens := by
  rcases c with ⟨column, o, operand, connector⟩
  have hc := spells_quote (d := d) h.column
  have ho := spells_sql (d := d) o
  have hs := h.operand
  have hfirst := spells_value d used 1
  cases operand with
  | none =>
    have ht : (relation d used ⟨column, o, .none, connector⟩).tokens = o.tokens := by
      cases o <;> cases hs <;> rfl
    rw [← ht] at ho
    simpa [text, test, Test.tokens] using hc.space ho
  | single v =>
    have ht : (relation d used ⟨column, o, .single v, connector⟩).tokens =
        o.tokens ++ (d.value used 1).tokens := by
      cases o <;> first | rfl | simp [Operand.Fits, Operator.isNullCheck, Operator.takesList] at hs
    have hw := ho.space hfirst
    rw [← ht] at hw
    simpa [text, test, Test.tokens] using hc.space hw
  | many vs =>
    cases vs with
    | nil =>
      have hone : Spells d ['1'] [.number 1] := spells_number 1
      have hzero : Spells d ['0'] [.number 0] := spells_number 0
      have he := spells_sql (d := d) .equal
      simp only [text, test]
      split
      next => exact hone.space (he.space hone)
      next => exact hone.space (he.space hzero)
    | cons v vs =>
      have ht : (relation d used ⟨column, o, .many (v :: vs), connector⟩).tokens =
          o.tokens ++ (.opening :: ((d.value used 1).tokens ++
            Relation.itemTokens ((List.range' 2 vs.length).map (d.value used))) ++ [.closing]) := by
        cases o <;> first | rfl | cases hs
      have hw := ho.space (spells_placeholders d used vs.length).parenthesised
      rw [← ht] at hw
      simpa [text, test, Test.tokens] using hc.space hw
  | range low high =>
    cases hs
    have ht : (relation d used ⟨column, .between, .range low high, connector⟩).tokens =
        Operator.tokens .between ++
          ((d.value used 1).tokens ++ .keyword .and :: (d.value used 2).tokens) := rfl
    have hw := ho.space (hfirst.word (s := "AND") rfl rfl (spells_value d used 2))
    rw [← ht] at hw
    simpa [text, test, Test.tokens, Operator.sql] using hc.space hw

end Condition

/-- The text stands for the formula wherever a break follows. -/
def Renders (d : Dialect) (s : String) (k : Level) (e : Formula) : Prop :=
  ∃ ts, Spells d s.toList ts ∧ Reads k ts e

namespace Formula

theorem alternatives?_or_eq_some {left right : Formula} {ts : List Test} :
    (or left right).alternatives? = some ts ↔
      ∃ us vs, left.alternatives? = some us ∧ right.alternatives? = some vs ∧ us ++ vs = ts := by
  simp [alternatives?, Option.bind_eq_some_iff]

theorem clauses?_and_eq_some {left right : Formula} {gs : List (List Test)} :
    (and left right).clauses? = some gs ↔
      ∃ fs hs, left.clauses? = some fs ∧ right.clauses? = some hs ∧ fs ++ hs = gs := by
  simp [clauses?, Option.bind_eq_some_iff]

theorem tests_of_alternatives? {e : Formula} {ts : List Test} (h : e.alternatives? = some ts) :
    e.tests = ts := by
  induction e generalizing ts with
  | test t => exact Option.some.inj h
  | or left right ihl ihr =>
    obtain ⟨us, vs, hl, hr, rfl⟩ := alternatives?_or_eq_some.1 h
    rw [tests, ihl hl, ihr hr]
  | not e ih => cases h
  | and left right ihl ihr => cases h

theorem truth_of_alternatives? {e : Formula} {ts : List Test} (h : e.alternatives? = some ts)
    (v : Nat → Bool) (n : Nat) : e.truth v n = (ts.zipIdx n).any (Test.value v) := by
  induction e generalizing ts n with
  | test t =>
    cases h
    simp [truth]
  | or left right ihl ihr =>
    obtain ⟨us, vs, hl, hr, rfl⟩ := alternatives?_or_eq_some.1 h
    rw [truth, ihl hl, ihr hr, tests_of_alternatives? hl, List.zipIdx_append, List.any_append,
      Nat.add_comm]
  | not e ih => cases h
  | and left right ihl ihr => cases h

theorem clauses?_of_alternatives? {e : Formula} {ts : List Test} (h : e.alternatives? = some ts) :
    e.clauses? = some [ts] := by
  cases e with
  | and left right => cases h
  | _ => simp [clauses?, h]

theorem tests_of_clauses? {e : Formula} {gs : List (List Test)} (h : e.clauses? = some gs) :
    e.tests = gs.flatten := by
  induction e using clauses?.induct generalizing gs with
  | case1 left right ihl ihr =>
    obtain ⟨fs, hs, hl, hr, rfl⟩ := clauses?_and_eq_some.1 h
    rw [tests, ihl hl, ihr hr, List.flatten_append]
  | case2 e hand =>
    rw [clauses?.eq_2 e hand] at h
    obtain ⟨ts, hts, rfl⟩ := Option.map_eq_some_iff.1 h
    rw [tests_of_alternatives? hts, List.flatten_singleton]

theorem truth_of_clauses? {e : Formula} {gs : List (List Test)} (h : e.clauses? = some gs)
    (v : Nat → Bool) (n : Nat) :
    e.truth v n = (numbered n gs).all fun g ↦ g.any (Test.value v) := by
  induction e using clauses?.induct generalizing gs n with
  | case1 left right ihl ihr =>
    obtain ⟨fs, hs, hl, hr, rfl⟩ := clauses?_and_eq_some.1 h
    rw [truth, ihl hl, ihr hr, tests_of_clauses? hl, numbered_append, List.all_append]
  | case2 e hand =>
    rw [clauses?.eq_2 e hand] at h
    obtain ⟨ts, hts, rfl⟩ := Option.map_eq_some_iff.1 h
    rw [truth_of_alternatives? hts, numbered, numbered, List.all_cons, List.all_nil, Bool.and_true]

end Formula

theorem renders_any {p : String × Test} {ps : List (String × Test)}
    (h : ∀ q ∈ p :: ps, Spells d q.1.toList q.2.tokens) :
    ∃ e, Renders d (Text.join " OR " ((p :: ps).map Prod.fst)) .disjunction e ∧
      e.alternatives? = some ((p :: ps).map Prod.snd) := by
  induction ps generalizing p with
  | nil => exact ⟨.test p.2, ⟨_, h p List.mem_cons_self, .conjunction (.factor (.test p.2))⟩, rfl⟩
  | cons q ps ih =>
    obtain ⟨e, ⟨ts, hs, hr⟩, he⟩ := ih fun r hr ↦ h r (List.mem_cons_of_mem p hr)
    have hw := (h p List.mem_cons_self).word (s := "OR") rfl rfl hs
    refine ⟨.or (.test p.2) e, ⟨_, ?_, .or (.factor (.test p.2)) hr⟩, ?_⟩
    · simpa [Text.join] using hw
    · rw [Formula.alternatives?, he]
      rfl

theorem renders_group {g : List (String × Test)} (hg : g ≠ [])
    (h : ∀ p ∈ g, Spells d p.1.toList p.2.tokens) :
    ∃ e, Renders d (groupText (g.map Prod.fst)) .factor e ∧
      e.alternatives? = some (g.map Prod.snd) := by
  rcases g with _ | ⟨p, _ | ⟨q, ps⟩⟩
  · exact absurd rfl hg
  · exact ⟨.test p.2, ⟨_, h p List.mem_cons_self, .test p.2⟩, rfl⟩
  · obtain ⟨e, ⟨ts, hs, hr⟩, he⟩ := renders_any h
    refine ⟨e, ⟨_, ?_, .group hr⟩, he⟩
    simpa [groupText] using hs.parenthesised

theorem renders_clauses {g : List (String × Test)} {gs : List (List (String × Test))}
    (hne : ∀ g' ∈ g :: gs, g' ≠ [])
    (h : ∀ g' ∈ g :: gs, ∀ p ∈ g', Spells d p.1.toList p.2.tokens) :
    ∃ e, Renders d (Text.join " AND " ((g :: gs).map fun g ↦ groupText (g.map Prod.fst)))
        .conjunction e ∧ e.clauses? = some ((g :: gs).map (List.map Prod.snd)) := by
  induction gs generalizing g with
  | nil =>
    obtain ⟨e, ⟨ts, hs, hr⟩, he⟩ :=
      renders_group (hne g List.mem_cons_self) (h g List.mem_cons_self)
    exact ⟨e, ⟨ts, hs, .factor hr⟩, Formula.clauses?_of_alternatives? he⟩
  | cons g' gs ih =>
    obtain ⟨e, ⟨ts, hs, hr⟩, he⟩ :=
      renders_group (hne g List.mem_cons_self) (h g List.mem_cons_self)
    obtain ⟨e', ⟨ts', hs', hr'⟩, he'⟩ := ih (fun g hg ↦ hne g (List.mem_cons_of_mem _ hg))
      fun g hg ↦ h g (List.mem_cons_of_mem _ hg)
    have hw := hs.word (s := "AND") rfl rfl hs'
    refine ⟨.and e e', ⟨_, ?_, .and hr hr'⟩, ?_⟩
    · simpa [Text.join] using hw
    · rw [Formula.clauses?, Formula.clauses?_of_alternatives? he, he']
      rfl

theorem renders_all {g : List (String × Test)} {gs : List (List (String × Test))}
    (hne : ∀ g' ∈ g :: gs, g' ≠ [])
    (h : ∀ g' ∈ g :: gs, ∀ p ∈ g', Spells d p.1.toList p.2.tokens) :
    ∃ e, Renders d (Text.join " AND " ((g :: gs).map fun g ↦ groupText (g.map Prod.fst)))
        .conjunction e ∧
      e.tests = ((g :: gs).map (List.map Prod.snd)).flatten ∧
      ∀ v n, e.truth v n =
        (numbered n ((g :: gs).map (List.map Prod.snd))).all fun g ↦ g.any (Test.value v) := by
  obtain ⟨e, hr, he⟩ := renders_clauses hne h
  exact ⟨e, hr, Formula.tests_of_clauses? he, Formula.truth_of_clauses? he⟩

def conditionTests (d : Dialect) : Nat → List Condition → List Test
  | _, [] => []
  | used, c :: r => c.test d used :: conditionTests d (used + c.operand.values.length) r

def rendered (d : Dialect) : Nat → List Condition → List (Combinator × String × Test)
  | _, [] => []
  | used, c :: r =>
    (c.connector, c.text d used, c.test d used) ::
      rendered d (used + c.operand.values.length) r

theorem conditionTexts_eq (d : Dialect) (used : Nat) (cs : List Condition) :
    conditionTexts d used cs = (rendered d used cs).map fun c ↦ (c.1, c.2.1) := by
  induction cs generalizing used with
  | nil => rfl
  | cons c cs ih => rw [conditionTexts, rendered, List.map_cons, ih]

theorem conditionTests_eq (d : Dialect) (used : Nat) (cs : List Condition) :
    conditionTests d used cs = (rendered d used cs).map fun c ↦ c.2.2 := by
  induction cs generalizing used with
  | nil => rfl
  | cons c cs ih => rw [conditionTests, rendered, List.map_cons, ih]

theorem spells_of_mem_rendered {cs : List Condition} (h : ∀ c ∈ cs, c.Valid) {used : Nat}
    {c : Combinator × String × Test} (hc : c ∈ rendered d used cs) :
    Spells d c.2.1.toList c.2.2.tokens := by
  induction cs generalizing used with
  | nil => cases hc
  | cons c' cs ih =>
    rcases List.mem_cons.1 hc with rfl | hc
    · exact Condition.spells_text (h c' List.mem_cons_self) d used
    · exact ih (fun c hc ↦ h c (List.mem_cons_of_mem c' hc)) hc

theorem value_rendered (v : Nat → Bool) (used n : Nat) (cs : List Condition) :
    ((rendered d used cs).zipIdx n).map (fun c ↦ (c.1.1, Test.value v (c.1.2.2, c.2))) =
      (cs.zipIdx n).map fun c ↦ (c.1.connector, c.1.verdict (v c.2)) := by
  induction cs generalizing used n with
  | nil => rfl
  | cons c cs ih =>
    rw [rendered, List.zipIdx_cons, List.zipIdx_cons, List.map_cons, List.map_cons, ih,
      Condition.value_test]

/-- The text has this reading as a formula and no other. -/
def ReadsOnly (d : Dialect) (s : String) (e : Formula) : Prop :=
  ∃ ts, tokens? d s.toList = some ts ∧ ∀ e', Reads .disjunction ts e' ↔ e' = e

theorem readsOnly_of_renders {s : String} {e : Formula} (h : Renders d s .disjunction e) :
    ReadsOnly d s e := by
  obtain ⟨ts, hs, hr⟩ := h
  refine ⟨ts, tokens?_of_spells hs, fun e' ↦ ⟨fun hr' ↦ ?_, fun he ↦ he ▸ hr⟩⟩
  exact (hr'.unique hr rfl (Level.endsAt_nil _) (Level.endsAt_nil _)).1

theorem holds_rendered (v : Nat → Bool) (used : Nat) (cs : List Condition) :
    (numbered 0 ((orGroups (rendered d used cs)).map (List.map Prod.snd))).all
        (fun g ↦ g.any (Test.value v)) =
      holds (groupsInOrder (cs.zipIdx.map fun c ↦ (c.1.connector, c.1.verdict (v c.2)))) := by
  have hmembers : (orGroups (rendered d used cs)).map (List.map Prod.snd) =
      orGroups ((rendered d used cs).map fun c ↦ (c.1, c.2.2)) := (orGroups_map Prod.snd _).symm
  rw [groupsInOrder_eq, ← value_rendered, hmembers, ← orGroups_zipIdx, List.zipIdx_map,
    ← holds_orGroups_map]
  simp only [List.map_map]
  rfl

/-- The groups of conditions are the clauses of their text. -/
theorem clauses_conditionsText? {cs : List Condition} (h : ∀ c ∈ cs, c.Valid) {used : Nat}
    {s : String} (hs : conditionsText? d used cs = some s) :
    ∃ e, ReadsOnly d s e ∧
      e.clauses? = some ((orGroups (rendered d used cs)).map (List.map Prod.snd)) := by
  have hg : orGroups (conditionTexts d used cs) =
      (orGroups (rendered d used cs)).map (List.map Prod.fst) := by
    rw [conditionTexts_eq, ← orGroups_map]
  have hspells : ∀ g ∈ orGroups (rendered d used cs), ∀ p ∈ g, Spells d p.1.toList p.2.tokens := by
    intro g hm p hp
    have hf := List.mem_flatten.2 ⟨g, hm, hp⟩
    rw [flatten_orGroups] at hf
    obtain ⟨c, hc, rfl⟩ := List.mem_map.1 hf
    exact spells_of_mem_rendered h hc
  unfold conditionsText? at hs
  rw [hg] at hs
  cases hgs : orGroups (rendered d used cs) with
  | nil =>
    rw [hgs] at hs
    cases hs
  | cons g gs =>
    rw [hgs] at hs hspells
    cases hs
    obtain ⟨e, ⟨ts, hs, hr⟩, he⟩ :=
      renders_clauses (fun g' hg' ↦ ne_nil_of_mem_orGroups (hgs ▸ hg')) hspells
    refine ⟨e, readsOnly_of_renders ⟨ts, ?_, .conjunction hr⟩, he⟩
    simpa [Function.comp_def] using hs

/-- The text of valid conditions is unambiguous. Its tests are those of the conditions, in order,
and it holds exactly when all groups of the conditions do. -/
theorem conditions_read_as_groups (d : Dialect) (used : Nat) (cs : List Condition)
    (h : ∀ c ∈ cs, c.Valid) :
    match conditionsText? d used cs with
    | none => cs = []
    | some s => ∃ e, ReadsOnly d s e ∧ e.tests = conditionTests d used cs ∧
        ∀ v, e.truth v 0 =
          holds (groupsInOrder (cs.zipIdx.map fun c ↦ (c.1.connector, c.1.verdict (v c.2)))) := by
  -- grouping looks at the connectors only, so the texts and the tests have the same groups
  have hg : orGroups (conditionTexts d used cs) =
      (orGroups (rendered d used cs)).map (List.map Prod.fst) := by
    rw [conditionTexts_eq, ← orGroups_map]
  have hts : ((orGroups (rendered d used cs)).map (List.map Prod.snd)).flatten =
      conditionTests d used cs := by
    rw [← List.map_flatten, flatten_orGroups, conditionTests_eq, List.map_map]
    rfl
  have hv := fun v ↦ holds_rendered (d := d) v used cs
  have hspells : ∀ g ∈ orGroups (rendered d used cs), ∀ p ∈ g, Spells d p.1.toList p.2.tokens := by
    intro g hm p hp
    have hf := List.mem_flatten.2 ⟨g, hm, hp⟩
    rw [flatten_orGroups] at hf
    obtain ⟨c, hc, rfl⟩ := List.mem_map.1 hf
    exact spells_of_mem_rendered h hc
  unfold conditionsText?
  rw [hg]
  cases hgs : orGroups (rendered d used cs) with
  | nil =>
    cases cs with
    | nil => rfl
    | cons c cs => exact absurd hgs (orGroups_ne_nil (List.cons_ne_nil _ _))
  | cons g gs =>
    rw [hgs] at hts hv hspells
    obtain ⟨e, ⟨ts, hs, hr⟩, he, ht⟩ := renders_all
      (fun g' hg' ↦ ne_nil_of_mem_orGroups (hgs ▸ hg')) hspells
    refine ⟨e, readsOnly_of_renders ⟨ts, ?_, .conjunction hr⟩, he.trans hts, fun v ↦ ?_⟩
    · simpa [Function.comp_def] using hs
    · rw [ht, hv]

theorem conditions_read_as_groups_reserved_column :
    let cs : List Condition := [⟨"Order", .equal, .single .null, .or⟩,
      ⟨"a.b", .between, .range .null .null, .or⟩, ⟨"c", .notAmong, .many [], .and⟩]
    (∀ c ∈ cs, c.Valid) ∧ ∃ e,
      ReadsOnly .postgres "(\"Order\" = $1 OR a.b BETWEEN $2 AND $3) AND 1 = 1" e ∧
      ∀ v, e.truth v 0 = (v 0 || v 1) := by
  intro cs
  have hcs : ∀ c ∈ cs, c.Valid := by
    simp only [cs, List.forall_mem_cons]
    refine ⟨⟨by decide, rfl, rfl, nofun⟩, ⟨by decide, rfl⟩, ⟨by decide, rfl⟩, nofun⟩
  have ht : conditionsText? .postgres 0 cs =
      some "(\"Order\" = $1 OR a.b BETWEEN $2 AND $3) AND 1 = 1" := by decide +kernel
  have hm := conditions_read_as_groups .postgres 0 cs hcs
  rw [ht] at hm
  obtain ⟨e, he, -, hv⟩ := hm
  refine ⟨hcs, e, he, fun v ↦ (hv v).trans ?_⟩
  simp [cs, holds, groupsInOrder, joinLast, Condition.verdict]

end Sql

end Listing
