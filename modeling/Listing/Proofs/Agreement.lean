import Listing.Document.Scripted
import Listing.Proofs.Document.Where
import Listing.Proofs.Sql.Where
import Listing.Sql.Scripted

namespace Listing

variable {ε δ row document : Type}

variable [Sql.Executor ε row] [Document.Executor δ document]

/-- The conditions of two queries that have taken the same predicates pair up, one after the other,
and the pairs in groups are the clauses of the SQL text and those of the filter document. -/
theorem queries_agree {sq : Sql.Query ε} {dq : Document.Query δ} (hsq : sq.conditions = [])
    (hdq : dq.conditions = []) {ps : List Predicate} (hs : (addPredicates sq ps).result = .ok ())
    (hd : (addPredicates dq ps).result = .ok ()) :
    let s := (addPredicates sq ps).state
    let d := (addPredicates dq ps).state
    Sql.Compiled ps s.conditions ∧ Document.Compiled ps d.conditions ∧
    (∃ (pairs : List (List (Sql.Test × (String × Bson)))) (truth : (Nat → Bool) → Bool),
      pairs.flatten.length = ps.length ∧
      pairs.flatten = (Sql.conditionTests s.dialect 0 s.conditions).zip
        (d.conditions.map Document.Condition.entry) ∧
      Sql.Means s.dialect s.whereClause.sql (pairs.map (List.map Prod.fst)) truth ∧
      Document.Means d.filter (pairs.map (List.map Prod.snd)) truth) ∧
    (ps = [] → s.whereText = "" ∧ d.filter = []) := by
  intro s d
  have hsc : Sql.Compiled ps s.conditions := by
    obtain ⟨added, ha, hc, -⟩ := Sql.Query.exists_conditions_added hs
    rwa [hc, hsq, List.nil_append]
  have hdc : Document.Compiled ps d.conditions := by
    obtain ⟨added, ha, hc⟩ := Document.Query.exists_conditions_added hd
    rwa [hc, hdq, List.nil_append]
  let tests := Sql.conditionTests s.dialect 0 s.conditions
  let entries := d.conditions.map Document.Condition.entry
  have htests : tests.length = ps.length :=
    (Sql.length_conditionTests _ _ _).trans hsc.length_eq.symm
  have hentries : entries.length = ps.length :=
    (List.length_map _).trans hdc.length_eq.symm
  have hlength : tests.length = entries.length := htests.trans hentries.symm
  have hzip : (tests.zip entries).length = ps.length := by
    rw [List.length_zip, htests, hentries, Nat.min_self]
  have hflatten := flatten_groupsInOrder_zip
    ((List.length_map Predicate.combinator).trans hzip.symm)
  have hsm := Sql.Query.means_whereClause hsc
  have hdm := Document.Query.means_filter hdc
  rw [Sql.Query.clauses, hsc.connectors, ← groupsInOrder_zip_fst hlength] at hsm
  rw [Document.Query.clauses, hdc.connectors, ← groupsInOrder_zip_snd hlength] at hdm
  refine ⟨hsc, hdc, ⟨_, _, ?_, hflatten, hsm, hdm⟩, ?_⟩
  · rw [hflatten, hzip]
  · rintro rfl
    have hsn : s.conditions = [] := List.forall₂_nil_left_iff.1 hsc
    have hdn : d.conditions = [] := List.forall₂_nil_left_iff.1 hdc
    rw [Sql.Query.whereText, Document.Query.filter, hsn, hdn]
    exact ⟨rfl, rfl⟩

theorem queries_agree_leading_or_and_empty_list :
    let sq : Sql.Query (Script Sql.Call) := { executor := {}, table := "users" }
    let dq : Document.Query (Script Document.Call) := { executor := {} }
    let ps : List Predicate := [.or "a" .equal (.int 1), .or "b" .among (.list []),
      .and "c" .isNull .null, .and "d" .like (.string "x%"), .or "e" .greater (.int 2)]
    (addPredicates sq ps).result = .ok () ∧ (addPredicates dq ps).result = .ok () ∧
    (addPredicates sq ps).state.whereClause.sql =
      "(a = $1 OR 1 = 0) AND c IS NULL AND (d LIKE $2 OR e > $3)" ∧
    ∃ clauses clauses' truth, clauses.map List.length = clauses'.map List.length ∧
      Sql.Means .postgres "(a = $1 OR 1 = 0) AND c IS NULL AND (d LIKE $2 OR e > $3)" clauses truth ∧
      Document.Means (addPredicates dq ps).state.filter clauses' truth := by
  intro sq dq ps
  have hs : (addPredicates sq ps).result = .ok () := by decide +kernel
  have hd : (addPredicates dq ps).result = .ok () := by decide +kernel
  have ht : (addPredicates sq ps).state.whereClause.sql =
      "(a = $1 OR 1 = 0) AND c IS NULL AND (d LIKE $2 OR e > $3)" := by decide +kernel
  obtain ⟨-, -, ⟨pairs, truth, -, -, hsm, hdm⟩, -⟩ := queries_agree rfl rfl hs hd
  rw [ht] at hsm
  refine ⟨hs, hd, ht, _, _, truth, ?_, hsm, hdm⟩
  simp [Function.comp_def]

end Listing
