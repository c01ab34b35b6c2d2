import Listing.Proofs.Integers
import Listing.Proofs.Sql.Valid
import Listing.Sql.Parameter

namespace Listing.Sql

open Number

/-- What a value that is an integer is bound as. -/
structure BindsAs (n : Int64) (v : Value) : Prop where
  int8 : coerce? v .int8 = some (.int8 (some n))
  int4 (m : Int32) : m.toInt = n.toInt → coerce? v .int4 = some (.int4 (some m))
  int4_none : (∀ m : Int32, m.toInt ≠ n.toInt) → coerce? v .int4 = none
  int2 (m : Int16) : m.toInt = n.toInt → coerce? v .int2 = some (.int2 (some m))
  int2_none : (∀ m : Int16, m.toInt ≠ n.toInt) → coerce? v .int2 = none
  text (name : String) : coerce? v (.text name) = some (.text (some (integerText n.toInt)))

variable {n : Int64} {v : Value}

theorem asInteger?_of_isInteger (h : v.IsInteger n) : asInteger? v = some n.toInt := by
  cases h with
  | int h => rw [asInteger?, h]
  | long => rfl
  | string =>
    rw [asInteger?, trimmed, toList_integerText, trimBoth_integerDigits, int64?_integerDigits,
      Option.map_some]

theorem bindsAs_of_isInteger (h : v.IsInteger n) : BindsAs n v := by
  have hc (t : ColumnType) : coerce? v t = typed? v t := by cases h <;> rfl
  have hi := asInteger?_of_isInteger h
  have h4 := isWord_int32.narrow (fun m ↦ Parameter.int4 (some m)) n.toInt
  have h2 := isWord_int16.narrow (fun m ↦ Parameter.int2 (some m)) n.toInt
  refine ⟨?_, ?_, ?_, ?_, ?_, fun name ↦ ?_⟩
  case refine_6 => rw [hc, typed?, h.text]
  case refine_1 => rw [hc, typed?, hi, Option.map_some, n.ofInt_toInt]
  all_goals rw [hc, typed?, hi]
  · exact h4.1
  · exact h4.2
  · exact h2.1
  · exact h2.2

theorem isInteger_of_finds {f : Filter} {raw : String} {o : Operator}
    (h : FilterKind.Finds (integerText n.toInt) f.kind raw o) :
    ∃ value, f.predicates raw = .ok [f.own o value] ∧
      (∃ v ∈ (Shape.ofOperator o).valuesOf value, v.text = integerText n.toInt) ∧
      ∀ v ∈ (Shape.ofOperator o).valuesOf value, v.text = integerText n.toInt → v.IsInteger n := by
  have hsingle {v : Value} (hv : v.IsInteger n) : (∃ w ∈ [v], w.text = integerText n.toInt) ∧
      ∀ w ∈ [v], w.text = integerText n.toInt → w.IsInteger n :=
    ⟨⟨v, List.mem_singleton_self v, hv.text⟩, List.forall_mem_singleton.2 fun _ ↦ hv⟩
  generalize hk : f.kind = kind at h
  cases h with
  | exact =>
    obtain ⟨v, hs, hv⟩ := Value.exists_sniff?_integerText n
    refine ⟨v, ?_, hsingle hv⟩
    simp only [Filter.predicates, hk, Filter.sniffed, hs]
    rfl
  | @comparison m _ hm =>
    have ho : Shape.ofOperator o = .single := by
      have hall : ∀ q ∈ ("", Operator.equal) :: Shorthand.comparisonMarks,
          Shape.ofOperator q.2 = .single := by decide
      exact hall (m, o) hm
    rw [ho]
    refine ⟨.string (integerText n.toInt), ?_, hsingle .string⟩
    simp only [Filter.predicates, hk, Shorthand.comparison_integerText hm, isEmpty_integerText]
    rfl
  | greater orEqual | less orEqual =>
    refine ⟨Value.ofNumeral (integerText n.toInt), ?_, ?_⟩
    · simp only [Filter.predicates, hk, Filter.bound_integerText]
      rfl
    · cases orEqual <;> exact hsingle (Value.isInteger_ofNumeral n)
  | @among delimiter _ ht =>
    refine ⟨.list ((Shorthand.list delimiter raw).map .string), ?_,
      ⟨_, List.mem_map_of_mem ht, by rw [Value.text]⟩, fun v hv htext ↦ ?_⟩
    · simp only [Filter.predicates, hk]
      split
      next he =>
        rw [he] at ht
        cases ht
      next => rfl
    · obtain ⟨s, -, rfl⟩ := List.mem_map.1 hv
      obtain rfl : s = integerText n.toInt := by rwa [Value.text] at htext
      exact .string

/-- However an integer is asked for, the predicate sends it as a value that is bound like every other
value of that integer. -/
theorem integers_bind_alike {f : Filter} {raw : String} {o : Operator}
    (h : FilterKind.Finds (integerText n.toInt) f.kind raw o) :
    ∃ value, f.predicates raw = .ok [f.own o value] ∧
      (∃ v ∈ (Shape.ofOperator o).valuesOf value, v.text = integerText n.toInt) ∧
      ∀ v ∈ (Shape.ofOperator o).valuesOf value, v.text = integerText n.toInt → BindsAs n v := by
  obtain ⟨value, hp, he, hv⟩ := isInteger_of_finds h
  exact ⟨value, hp, he, fun v hm ht ↦ bindsAs_of_isInteger (hv v hm ht)⟩

theorem integers_bind_alike_beyond_16_bits :
    ∃ v w, (Filter.ofKind "age" .comparison).predicates ">=40000" =
        .ok [.and "age" .greaterOrEqual v] ∧
      (Filter.ofKind "age" (.among ",")).predicates "7, 40000" =
        .ok [.and "age" .among (.list [.string "7", w])] ∧
      ∀ x ∈ [v, w], coerce? x .int8 = some (.int8 (some 40000)) ∧
        coerce? x .int4 = some (.int4 (some 40000)) ∧ coerce? x .int2 = none := by
  have htext : integerText (40000 : Int64).toInt = "40000" := by decide
  have hbinds {v : Value} (h : BindsAs 40000 v) : coerce? v .int8 = some (.int8 (some 40000)) ∧
      coerce? v .int4 = some (.int4 (some 40000)) ∧ coerce? v .int2 = none := by
    refine ⟨h.int8, h.int4 40000 (by decide), h.int2_none fun m hm ↦ ?_⟩
    have hlt := m.toInt_lt
    have hn : (40000 : Int64).toInt = 40000 := by decide
    omega
  obtain ⟨v, hp, ⟨x, hx, ht⟩, hb⟩ := integers_bind_alike (f := .ofKind "age" .comparison)
    (n := 40000) (.comparison (m := ">=") (o := .greaterOrEqual) (by decide))
  obtain rfl := List.mem_singleton.1 hx
  obtain ⟨list, hl, -, hlb⟩ := integers_bind_alike (f := .ofKind "age" (.among ",")) (n := 40000)
    (.among (show _ ∈ Shorthand.list "," "7, 40000" by decide))
  have hlist : list = .list [.string "7", .string "40000"] := by cases hl; rfl
  subst hlist
  have hraw : ">=" ++ integerText (40000 : Int64).toInt = ">=40000" := by decide
  have hmember : BindsAs 40000 (.string "40000") :=
    hlb _ (List.mem_cons_of_mem _ List.mem_cons_self) (by rw [Value.text, htext])
  exact ⟨x, .string "40000", hraw ▸ hp, hl, List.forall_mem_cons.2
    ⟨hbinds (hb x hx ht), List.forall_mem_singleton.2 (hbinds hmember)⟩⟩

end Listing.Sql
