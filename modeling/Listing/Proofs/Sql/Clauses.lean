import Listing.Proofs.Sql.Meaning
import Listing.Proofs.Sql.Reachable
import Listing.Proofs.Sql.Watched
import Listing.Proofs.Text

namespace Listing.Sql

def pathOf (segments : List (List Char)) : String := String.ofList (['.'].intercalate segments)

/-- The orders in a list of tokens, behind these segments of the first path. -/
def ordersAfter? (read : List (List Char)) : List Token → Option (List (String × SortDirection))
  | .dot :: .name w :: ts => ordersAfter? (read ++ [w]) ts
  | [.name w] => (SortDirection.ofName? (String.ofList w)).map fun d ↦ [(pathOf read, d)]
  | .name w :: .comma :: .name v :: ts => do
    let d ← SortDirection.ofName? (String.ofList w)
    let os ← ordersAfter? [v] ts
    pure ((pathOf read, d) :: os)
  | _ => none

/-- The orders that a clause asks for; no clause asks for none. -/
def ordersIn? (d : Dialect) (clause : String) : Option (List (String × SortDirection)) :=
  match tokens? d clause.toList with
  | some [] => some []
  | some (.reserved order :: .name by' :: .name w :: ts) =>
    if order = "ORDER".toList ∧ by' = "BY".toList then ordersAfter? [w] ts else none
  | _ => none

def words (clause : String) : List String :=
  (Text.piecesAt ' ' clause.toList).map String.ofList

/-- The first rows, as many as a bound says. Where it is allowed to be below zero it is none. -/
def firstRows? {α : Type} (d : Dialect) (bound : Int) (rows : List α) : Option (List α) :=
  if 0 ≤ bound then some (rows.take bound.toNat) else if d = .sqlite then some rows else none

/-- The rows that a clause of bounds leaves. -/
def rowsWithin? {α : Type} (d : Dialect) (clause : String) (rows : List α) : Option (List α) :=
  match words clause with
  | [""] => some rows
  | ["", "LIMIT", n] => do
    let n ← Number.integer? n.toList
    firstRows? d n rows
  | ["", "OFFSET", m] => do
    let m ← Number.integer? m.toList
    pure (rows.drop m.toNat)
  | ["", "LIMIT", n, "OFFSET", m] => do
    let n ← Number.integer? n.toList
    let m ← Number.integer? m.toList
    firstRows? d n (rows.drop m.toNat)
  | _ => none

theorem pathOf_segments (path : String) : pathOf (segments path) = path := by
  rw [pathOf, segments, Text.intercalate_piecesAt, String.ofList_toList]

def orderTokens (o : String × SortDirection) : List Token :=
  (Term.ofPath o.1).tokens ++ [.name o.2.name.toList]

theorem ordersAfter?_path (read path : List (List Char)) (ts : List Token) :
    ordersAfter? read (path.flatMap (fun w ↦ [.dot, .name w]) ++ ts) =
      ordersAfter? (read ++ path) ts := by
  induction path generalizing read with
  | nil => rw [List.flatMap_nil, List.nil_append, List.append_nil]
  | cons w path ih =>
    have h := ih (read ++ [w])
    rw [List.append_assoc, List.singleton_append] at h
    exact h

theorem ordersAfter?_orders (o : String × SortDirection) (os : List (String × SortDirection)) :
    ordersAfter? [(segments o.1).headD []] ((segments o.1).tail.flatMap (fun w ↦ [.dot, .name w]) ++
      (.name o.2.name.toList :: os.flatMap fun o ↦ [.comma] ++ orderTokens o)) = some (o :: os) := by
  have hpath (o : String × SortDirection) :
      pathOf ([(segments o.1).headD []] ++ (segments o.1).tail) = o.1 := by
    cases hs : segments o.1 with
    | nil => exact absurd hs (Text.piecesAt_ne_nil '.' o.1.toList)
    | cons w ws =>
      rw [List.headD_cons, List.tail_cons, List.singleton_append, ← hs, pathOf_segments]
  induction os generalizing o with
  | nil =>
    rw [ordersAfter?_path, List.flatMap_nil, ordersAfter?, String.ofList_toList,
      SortDirection.ofName?_name, Option.map_some, hpath]
  | cons o' os ih =>
    have htokens : ([.comma] ++ orderTokens o') ++ os.flatMap (fun o ↦ [.comma] ++ orderTokens o) =
        .comma :: .name ((segments o'.1).headD []) ::
          ((segments o'.1).tail.flatMap (fun w ↦ [.dot, .name w]) ++
            .name o'.2.name.toList :: os.flatMap fun o ↦ [.comma] ++ orderTokens o) := by
      simp [orderTokens, Term.ofPath, Term.tokens]
    rw [ordersAfter?_path, List.flatMap_cons, htokens, ordersAfter?, String.ofList_toList,
      SortDirection.ofName?_name, ih o', hpath]
    rfl

variable {d : Dialect}

theorem spells_name {s : String} (h : isName s.toList = true) (hr : isReserved s.toList = false) :
    Spells d s.toList [.name s.toList] := by
  have hw := spells_word (d := d) h
  rwa [Token.ofWord_of_isName h hr] at hw

theorem spells_order {o : String × SortDirection} (h : isIdentifier o.1 = true) :
    Spells d (d.quote o.1 ++ " " ++ o.2.name).toList (orderTokens o) := by
  have hn : Spells d o.2.name.toList [.name o.2.name.toList] := by
    cases o.2 <;> exact spells_name (by decide) (by decide)
  have hs := (spells_quote (d := d) h).space hn
  simpa [orderTokens] using hs

/-- What the ORDER BY clause of a query asks for is its orders, one after the other. -/
theorem Query.ordersIn?_orderText {ε : Type} {q : Query ε} (h : q.WellFormed) :
    ordersIn? q.dialect q.orderText = some q.orders := by
  have ho := h.orders
  unfold Query.orderText ordersIn?
  cases hq : q.orders with
  | nil => rfl
  | cons o os =>
    rw [hq] at ho
    have hlist : Spells q.dialect (Text.join ", " ((o :: os).map fun o ↦
        q.dialect.quote o.1 ++ " " ++ o.2.name)).toList
        (orderTokens o ++ os.flatMap fun o ↦ [.comma] ++ orderTokens o) :=
      spells_join [.comma] (fun hw hw' ↦ by simpa using hw.comma hw') orderTokens
        fun o' ho' ↦ spells_order (ho o' ho')
    have hby : Spells q.dialect "BY".toList [.name "BY".toList] :=
      spells_name (by decide) (by decide)
    have horder : Spells q.dialect "ORDER".toList [.reserved "ORDER".toList] :=
      spells_word (by decide)
    have hall := (horder.space (hby.space hlist)).space_append
    have htext : (" ORDER BY " ++ Text.join ", " ((o :: os).map fun o ↦
        q.dialect.quote o.1 ++ " " ++ o.2.name)).toList = ' ' :: ("ORDER".toList ++ ' ' ::
          ("BY".toList ++ ' ' :: (Text.join ", " ((o :: os).map fun o ↦
            q.dialect.quote o.1 ++ " " ++ o.2.name)).toList)) := by
      simp
    rw [List.isEmpty_cons, if_neg Bool.false_ne_true, htext, tokens?_of_spells hall]
    have hread := ordersAfter?_orders o os
    simpa [orderTokens, Term.ofPath, Term.tokens] using hread

theorem integer?_naturalText (n : Nat) :
    Number.integer? (Number.naturalText n).toList = some (n : Int) := by
  have h := Number.integer?_integerDigits n
  rw [Number.integerDigits, if_neg (by omega), Int.natAbs_natCast] at h
  rwa [Number.naturalText, String.toList_ofList]

theorem blank_notMem_naturalText (n : Nat) : ' ' ∉ (Number.naturalText n).toList := by
  rw [Number.naturalText, String.toList_ofList]
  exact fun hm ↦ absurd (isDigit_of_mem_digits ' ' hm) (by decide)

theorem words_bound {w t : String} (hw : ' ' ∉ w.toList) (ht : ' ' ∉ t.toList) :
    words (" " ++ (w ++ " " ++ t)) = ["", w, t] := by
  have h : (" " ++ (w ++ " " ++ t)).toList = ' ' :: (w.toList ++ ' ' :: t.toList) := by simp
  rw [words, h, Text.piecesAt_cons, if_pos rfl, Text.piecesAt_append_cons hw,
    Text.piecesAt_of_notMem ht]
  simp

theorem words_bounds {w t v u : String} (hw : ' ' ∉ w.toList) (ht : ' ' ∉ t.toList)
    (hv : ' ' ∉ v.toList) (hu : ' ' ∉ u.toList) :
    words (" " ++ (w ++ " " ++ t ++ " " ++ (v ++ " " ++ u))) = ["", w, t, v, u] := by
  have h : (" " ++ (w ++ " " ++ t ++ " " ++ (v ++ " " ++ u))).toList =
      ' ' :: (w.toList ++ ' ' :: (t.toList ++ ' ' :: (v.toList ++ ' ' :: u.toList))) := by simp
  rw [words, h, Text.piecesAt_cons, if_pos rfl, Text.piecesAt_append_cons hw,
    Text.piecesAt_append_cons ht, Text.piecesAt_append_cons hv, Text.piecesAt_of_notMem hu]
  simp

variable {α : Type} {rows : List α}

theorem rowsWithin?_limit (n : Nat) :
    rowsWithin? d (" " ++ ("LIMIT " ++ Number.naturalText n)) rows = some (rows.take n) := by
  have h := words_bound (w := "LIMIT") (by decide) (blank_notMem_naturalText n)
  rw [rowsWithin?, (by rfl : "LIMIT " = "LIMIT" ++ " "), h]
  simp [integer?_naturalText, firstRows?]

theorem rowsWithin?_offset (m : Nat) :
    rowsWithin? d (" " ++ ("OFFSET " ++ Number.naturalText m)) rows = some (rows.drop m) := by
  have h := words_bound (w := "OFFSET") (by decide) (blank_notMem_naturalText m)
  rw [rowsWithin?, (by rfl : "OFFSET " = "OFFSET" ++ " "), h]
  simp [integer?_naturalText]

theorem rowsWithin?_bounds {t : String} {n : Int} (ht : ' ' ∉ t.toList)
    (hn : Number.integer? t.toList = some n) (m : Nat) :
    rowsWithin? d (" " ++ ("LIMIT " ++ t ++ " OFFSET " ++ Number.naturalText m)) rows =
      firstRows? d n (rows.drop m) := by
  have h := words_bounds (w := "LIMIT") (v := "OFFSET") (by decide) ht (by decide)
    (blank_notMem_naturalText m)
  have htext : "LIMIT " ++ t ++ " OFFSET " ++ Number.naturalText m =
      "LIMIT" ++ " " ++ t ++ " " ++ ("OFFSET" ++ " " ++ Number.naturalText m) := by
    rw [← String.toList_inj]
    simp
  rw [rowsWithin?, htext, h]
  simp [integer?_naturalText, hn]

namespace Query

variable {ε : Type}

/-- The bounds of a query leave the rows that its offset does not pass over, as many of them as its
limit allows. -/
theorem rowsWithin?_limitText (q : Query ε) (h : q.limit = none → rows.length < UInt64.size) :
    rowsWithin? q.dialect q.limitText rows =
      let rest := rows.drop (q.offset.getD 0).toNat
      some (q.limit.elim rest fun n ↦ rest.take n.toNat) := by
  unfold limitText
  cases hl : q.limit with
  | none =>
    cases q.offset with
    | none => rfl
    | some m =>
      have hlen : rows.length < 18446744073709551616 := h hl
      have hall : (rows.drop m.toNat).take 18446744073709551615 = rows.drop m.toNat :=
        List.take_of_length_le (by rw [List.length_drop]; omega)
      cases q.dialect with
      | postgres => exact rowsWithin?_offset m.toNat
      | mySql =>
        refine (rowsWithin?_bounds (t := "18446744073709551615") (by decide) rfl m.toNat).trans ?_
        exact congrArg some hall
      | sqlite => exact rowsWithin?_bounds (t := "-1") (by decide) rfl m.toNat
  | some n =>
    cases q.offset with
    | none => exact rowsWithin?_limit n.toNat
    | some m =>
      refine (rowsWithin?_bounds (blank_notMem_naturalText n.toNat)
        (integer?_naturalText n.toNat) m.toNat).trans ?_
      simp [firstRows?]

def unbounded (q : Query ε) : Query ε := { q with limit := none, offset := none }

theorem exists_unbounded {q : Query ε} {s : Statement} (h : q.selectStatement = .ok s) :
    ∃ rest, q.unbounded.selectStatement = .ok rest ∧ s.sql = rest.sql ++ q.limitText := by
  obtain ⟨projection, hp, hs⟩ := Outcome.bind_eq_ok.1 h
  cases hs
  refine ⟨_, Outcome.bind_eq_ok.2 ⟨projection, hp, rfl⟩, ?_⟩
  rw [← String.toList_inj]
  simp [unbounded, orderText, limitText, whereText, Dialect.limitClause?]

theorem exists_sorted {q : Query ε} {s : Statement} (hs : q.selectStatement = .ok s)
    (hl : q.limit = none) (ho : q.offset = none) (hq : q.orders = [])
    {os : List (String × SortDirection)} (h : ({ q with orders := os } : Query ε).WellFormed) :
    ∃ statement clause, ({ q with orders := os } : Query ε).selectStatement = .ok statement ∧
      statement.sql = s.sql ++ clause ∧ ordersIn? q.dialect clause = some os := by
  obtain ⟨projection, hp, hs⟩ := Outcome.bind_eq_ok.1 hs
  cases hs
  have hlimit : q.limitText = "" := by
    rw [limitText, hl, ho]
    rfl
  have horder : q.orderText = "" := by
    rw [orderText, hq]
    rfl
  refine ⟨_, _, Outcome.bind_eq_ok.2 ⟨projection, hp, rfl⟩, ?_, ordersIn?_orderText h⟩
  have hlimit' : ({ q with orders := os } : Query ε).limitText = "" := hlimit
  have hwhere : ({ q with orders := os } : Query ε).whereText = q.whereText := rfl
  rw [hlimit, horder, hlimit', hwhere]
  simp only [String.append_empty]

end Query

end Listing.Sql
