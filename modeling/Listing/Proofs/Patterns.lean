import Listing.Proofs.Atomicity
import Listing.Proofs.Document.Like
import Listing.Proofs.Document.Reachable
import Listing.Proofs.Sql.Reachable

namespace Listing

section

variable {allowed : Char → Prop} {p q s v : List Char}

theorem likeOver_append : LikeOver allowed (p ++ q) s ↔
    ∃ t u, s = t ++ u ∧ LikeOver allowed p t ∧ LikeOver allowed q u := by
  induction p generalizing s with
  | nil => simp [LikeOver]
  | cons c p ih =>
    simp only [List.cons_append, LikeOver, ih]
    split
    next =>
      constructor
      · rintro ⟨w, v, rfl, hw, t, u, rfl, ht, hu⟩
        exact ⟨w ++ t, u, (List.append_assoc w t u).symm, ⟨w, t, rfl, hw, ht⟩, hu⟩
      · rintro ⟨_, u, rfl, ⟨w, t, rfl, hw, ht⟩, hu⟩
        exact ⟨w, t ++ u, List.append_assoc w t u, hw, t, u, rfl, ht, hu⟩
    next =>
      constructor
      · rintro ⟨d, v, rfl, hd, t, u, rfl, ht, hu⟩
        exact ⟨d :: t, u, rfl, ⟨d, t, rfl, hd, ht⟩, hu⟩
      · rintro ⟨_, u, rfl, ⟨d, t, rfl, hd, ht⟩, hu⟩
        exact ⟨d, t ++ u, rfl, hd, t, u, rfl, ht, hu⟩

theorem likeOver_percent (h : ∀ c ∈ s, allowed c) : LikeOver allowed ['%'] s :=
  ⟨s, [], (List.append_nil s).symm, h, rfl⟩

theorem likeOver_iff_eq (hp : '%' ∉ v) (hu : '_' ∉ v) : LikeOver allowed v s ↔ s = v := by
  induction v generalizing s with
  | nil => rfl
  | cons c v ih =>
    simp only [List.mem_cons, not_or] at hp hu
    simp only [LikeOver, if_neg (Ne.symm hp.1), if_neg (Ne.symm hu.1), ih hp.2 hu.2]
    constructor
    · rintro ⟨d, w, rfl, rfl, rfl⟩
      rfl
    · rintro rfl
      exact ⟨c, v, rfl, rfl, rfl⟩

end

namespace LikeStrategy

/-- Where a strategy looks for a text in another one. -/
def Finds : LikeStrategy → String → String → Prop
  | final, v, s => v.toList <+: s.toList
  | start, v, s => v.toList <:+ s.toList
  | complete, v, s => v.toList <:+: s.toList

theorem percent_mem_pattern (strategy : LikeStrategy) (v : String) :
    '%' ∈ (strategy.pattern v).toList := by
  unfold pattern
  split
  next h => exact h
  next => cases strategy <;> simp

theorem pattern_pattern (other strategy : LikeStrategy) (v : String) :
    other.pattern (strategy.pattern v) = strategy.pattern v := by
  unfold pattern
  exact if_pos (percent_mem_pattern strategy v)

variable {v s : String}

theorem like_pattern_iff (strategy : LikeStrategy) (hp : '%' ∉ v.toList) (hu : '_' ∉ v.toList) :
    Like (strategy.pattern v) s ↔ strategy.Finds v s := by
  have hv (t : List Char) : LikeOver (fun _ ↦ True) v.toList t ↔ t = v.toList :=
    likeOver_iff_eq hp hu
  have hpercent (t : List Char) : LikeOver (fun _ ↦ True) "%".toList t ↔ True :=
    iff_true_intro (likeOver_percent fun _ _ ↦ trivial)
  unfold pattern
  rw [if_neg hp, Like]
  cases strategy with
  | final =>
    simp only [String.toList_append, likeOver_append, hv, hpercent]
    constructor
    · rintro ⟨_, t, hs, rfl, -⟩
      exact ⟨t, hs.symm⟩
    · rintro ⟨t, hs⟩
      exact ⟨v.toList, t, hs.symm, rfl, trivial⟩
  | start =>
    simp only [String.toList_append, likeOver_append, hv, hpercent]
    constructor
    · rintro ⟨t, _, hs, -, rfl⟩
      exact ⟨t, hs.symm⟩
    · rintro ⟨t, hs⟩
      exact ⟨t, v.toList, hs.symm, trivial, rfl⟩
  | complete =>
    simp only [String.toList_append, likeOver_append, hv, hpercent]
    constructor
    · rintro ⟨_, u, hs, ⟨t, _, rfl, -, rfl⟩, -⟩
      exact ⟨t, u, hs.symm⟩
    · rintro ⟨t, u, hs⟩
      exact ⟨t ++ v.toList, u, hs.symm, ⟨t, v.toList, rfl, trivial, rfl⟩, trivial⟩

end LikeStrategy

theorem Filter.emits_partialMatch {strategy : LikeStrategy} (raw : String) (f : Filter)
    (hk : f.kind = .partialMatch strategy) :
    f.Emits raw [f.own .like (.string (strategy.pattern raw))] := by
  rw [emits_iff (by rw [hk]; rfl), predicates, hk]

namespace Document

open Expression

/-- Among the texts of one line, an expression finds just these. -/
def FindsInLines (regex : String) (found : String → Prop) : Prop :=
  ∃ ps, read? regex = some ps ∧ ∀ s, '\n' ∉ s.toList → (OccursIn ps s ↔ found s)

theorem findsInLines_likeRegex (pattern : String) :
    FindsInLines (likeRegex pattern) (Like pattern) :=
  ⟨_, read?_likeRegex _, fun _ hs ↦ occursIn_iff.trans (likeOver_iff_like hs)⟩

theorem FindsInLines.congr {regex : String} {found found' : String → Prop}
    (h : FindsInLines regex found) (hf : ∀ s, found s ↔ found' s) : FindsInLines regex found' := by
  obtain ⟨ps, hr, ho⟩ := h
  exact ⟨ps, hr, fun s hs ↦ (ho s hs).trans (hf s)⟩

end Document

/-- A pattern is its own pattern. The pattern of a text without wildcards is compared with as it is
by SQL, and documents are searched with one expression of it for LIKE and for NOT LIKE. What is like
the pattern, or found by the expression, has the text where the strategy says. -/
theorem LikeStrategy.pattern_finds (strategy : LikeStrategy) :
    (∀ other v, pattern other (strategy.pattern v) = strategy.pattern v) ∧
    ∀ v : String, '%' ∉ v.toList → '_' ∉ v.toList →
      (∀ f : Filter, f.kind = .partialMatch strategy →
        f.Emits v [f.own .like (.string (strategy.pattern v))]) ∧
      (∀ s, Like (strategy.pattern v) s ↔ strategy.Finds v s) ∧
      (∀ {ε : Type} (q : Sql.Query ε) field combinator, Sql.isIdentifier field = true →
        ∀ o, o = .like ∨ o = .notLike →
          q.addPredicate ⟨field, o, .string (strategy.pattern v), combinator⟩ =
            .ok { q with conditions := q.conditions ++
              [⟨field, o, .single (.string (strategy.pattern v)), combinator⟩] }) ∧
      (∀ {ε : Type} (q : Document.Query ε) field combinator, Document.isFieldPath field = true →
        q.addPredicate ⟨field, .like, .string (strategy.pattern v), combinator⟩ =
          .ok { q with conditions := q.conditions ++
            [⟨field, .regex, .string (Document.likeRegex (strategy.pattern v)), combinator⟩] } ∧
        q.addPredicate ⟨field, .notLike, .string (strategy.pattern v), combinator⟩ =
          .ok { q with conditions := q.conditions ++
            [⟨field, .notRegex, .regex (Document.likeRegex (strategy.pattern v)), combinator⟩] }) ∧
      Document.FindsInLines (Document.likeRegex (strategy.pattern v)) (strategy.Finds v) := by
  refine ⟨fun other v ↦ pattern_pattern other strategy v, fun v hp hu ↦ ?_⟩
  have hlike (s : String) : Like (strategy.pattern v) s ↔ strategy.Finds v s :=
    strategy.like_pattern_iff hp hu
  refine ⟨Filter.emits_partialMatch v, hlike, ?_, ?_,
    (Document.findsInLines_likeRegex (strategy.pattern v)).congr hlike⟩
  · intro ε q field combinator hf o ho
    exact q.addPredicate_of_operand hf (by rcases ho with rfl | rfl <;> rfl)
  · intro ε q field combinator hf
    exact ⟨q.addPredicate_of_operand hf rfl, q.addPredicate_of_operand hf rfl⟩

theorem LikeStrategy.pattern_finds_metacharacters :
    let f : Filter := { param := "q", internalName := "name", kind := .partialMatch .complete }
    f.Emits ".*" [.and "name" .like (.string "%.*%")] ∧
    Like "%.*%" "a.*b.*" ∧ ¬ Like "%.*%" "a.b" ∧
    Document.likeRegex "%.*%" = "^.*\\.\\*.*$" ∧
    Document.FindsInLines "^.*\\.\\*.*$" (complete.Finds ".*") := by
  intro f
  have hpattern : complete.pattern ".*" = "%.*%" := by decide
  have hregex : Document.likeRegex "%.*%" = "^.*\\.\\*.*$" := by decide
  obtain ⟨he, hl, -, -, hd⟩ := (pattern_finds complete).2 ".*" (by decide) (by decide)
  have he := he f rfl
  rw [hpattern] at he hl hd
  rw [hregex] at hd
  have hfound : complete.Finds ".*" "a.*b.*" := ⟨['a'], ['b', '.', '*'], rfl⟩
  have hmissed : ¬ complete.Finds ".*" "a.b" := by
    change ¬ ".*".toList <:+: "a.b".toList
    decide
  exact ⟨he, (hl _).2 hfound, fun h ↦ hmissed ((hl _).1 h), hregex, hd⟩

end Listing
