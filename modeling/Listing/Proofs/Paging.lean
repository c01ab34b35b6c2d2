import Listing.Proofs.Operation
import Listing.Proofs.Page
import Listing.Recording

namespace Listing

theorem flatMap_slices {α : Type} (xs : List α) (size count : ℕ) :
    (List.range count).flatMap (fun k ↦ (xs.drop (k * size)).take size) =
      xs.take (count * size) := by
  induction count with
  | zero => simp
  | succ count ih => simp [List.range_succ, ih, Nat.succ_mul, List.take_add]

section

variable {β row conditions : Type} [QueryBuilder β row conditions]

/-- What a reader gets from an offset on who asks for one page after the other, up to the first
that has no next one. -/
inductive ReadThrough (limit : UInt32) : β → UInt64 → List (Page row) → Prop
  | last {q : β} {offset : UInt64} {p : Page row}
      (hp : (QueryBuilder.page q limit offset).result = .ok p) (h : p.hasNext = false) :
      ReadThrough limit q offset [p]
  | next {q : β} {offset : UInt64} {p : Page row} {ps : List (Page row)}
      (hp : (QueryBuilder.page q limit offset).result = .ok p) (h : p.hasNext = true)
      (hr : ReadThrough limit (QueryBuilder.page q limit offset).state
        (offset + limit.toUInt64) ps) : ReadThrough limit q offset (p :: ps)

variable {limit : UInt32} {q : β} {offset : UInt64} {ps ps' : List (Page row)}

theorem ReadThrough.unique (h : ReadThrough limit q offset ps)
    (h' : ReadThrough limit q offset ps') : ps = ps' := by
  induction h generalizing ps' with
  | last hp hn =>
    cases h' with
    | last hp' _ => simp_all
    | next hp' hn' _ => simp_all
  | next hp hn _ ih =>
    cases h' with
    | last hp' hn' => simp_all
    | next hp' _ hr' =>
      have hps := ih hr'
      simp_all

end

namespace Recording

variable {α : Type} {q q' : Recording α} {limit : UInt32} {offset : UInt64} {k n : ℕ}

theorem rows_perform (q : Recording α) (o : Operation) : (o.perform q).rows = q.rows := by
  cases o with
  | predicate p =>
    change (Run.ofStep q (q.addPredicate p)).state.rows = q.rows
    unfold addPredicate
    split
    · rfl
    · rfl
  | _ => rfl

theorem rows_foldl_perform (q : Recording α) (os : List Operation) :
    (os.foldl Operation.perform q).rows = q.rows := by
  induction os generalizing q with
  | nil => rfl
  | cons o os ih => rw [List.foldl_cons, ih, rows_perform]

theorem page_congr (h : q'.rows = q.rows) : q'.page limit offset = q.page limit offset := by
  simp only [page, h]

/-- The page that is asked for after `k` others of its size. -/
def pageAt (q : Recording α) (limit : UInt32) (k : ℕ) : Page α :=
  q.page limit (UInt64.ofNat (k * limit.toNat))

theorem toNat_totalElements_page (hr : q.rows.length < UInt64.size) :
    (q.page limit offset).totalElements.toNat = q.rows.length := by
  simp only [page, UInt64.toNat_ofNat']
  exact Nat.mod_eq_of_lt hr

theorem toNat_offset_pageAt (h : k * limit.toNat < UInt64.size) :
    (q.pageAt limit k).offset.toNat = k * limit.toNat := by
  simp only [pageAt, page, UInt64.toNat_ofNat']
  exact Nat.mod_eq_of_lt h

theorem content_pageAt (h : k * limit.toNat < UInt64.size) :
    (q.pageAt limit k).content = (q.rows.drop (k * limit.toNat)).take limit.toNat := by
  rw [← toNat_offset_pageAt (q := q) h]
  rfl

theorem totalPages_page_le_iff (hl : limit ≠ 0) (hr : q.rows.length < UInt64.size) :
    (q.page limit offset).totalPages.toNat ≤ n ↔ q.rows.length ≤ n * limit.toNat := by
  have h := Page.toNat_totalPages_le_iff (p := q.page limit offset) hl (n := n)
  rwa [toNat_totalElements_page hr] at h

theorem lt_totalPages_page_iff (hl : limit ≠ 0) (hr : q.rows.length < UInt64.size) :
    k < (q.page limit offset).totalPages.toNat ↔ k * limit.toNat < q.rows.length := by
  rw [← not_le, totalPages_page_le_iff hl hr, not_le]

theorem flatMap_content_pageAt (hl : limit ≠ 0) (hr : q.rows.length < UInt64.size)
    (hn : (q.page limit 0).totalPages.toNat ≤ n)
    (hk : ∀ k < n, k = 0 ∨ k < (q.page limit 0).totalPages.toNat) :
    (List.range n).flatMap (fun k ↦ (q.pageAt limit k).content) = q.rows := by
  have hslice : ∀ k ∈ List.range n, (q.pageAt limit k).content =
      (q.rows.drop (k * limit.toNat)).take limit.toNat := by
    intro k hmem
    apply content_pageAt
    rcases hk k (List.mem_range.1 hmem) with rfl | h
    · simp [UInt64.size]
    · exact ((lt_totalPages_page_iff hl hr).1 h).trans hr
  rw [List.flatMap_congr hslice, flatMap_slices]
  exact List.take_of_length_le ((totalPages_page_le_iff hl hr).1 hn)

structure IsPageOf (rows : List α) (limit n k : ℕ) (p : Page α) : Prop where
  content : p.content = (rows.drop (k * limit)).take limit
  totalElements : p.totalElements.toNat = rows.length
  totalPages : p.totalPages.toNat = n
  currentPage : p.currentPage.toNat = k
  hasNext : p.hasNext = true ↔ k < n - 1
  full : k < n - 1 → p.content.length = limit
  last : k = n - 1 → 1 ≤ p.content.length ∧ p.content.length ≤ limit

theorem isPageOf_pageAt (hl : limit ≠ 0) (hr : q.rows.length < UInt64.size)
    (hk : k < (q.page limit 0).totalPages.toNat) :
    IsPageOf q.rows limit.toNat (q.page limit 0).totalPages.toNat k (q.pageAt limit k) := by
  have hpos : 0 < limit.toNat := Page.toNat_limit_pos (p := q.page limit 0) hl
  have hstart := (lt_totalPages_page_iff hl hr).1 hk
  have hnext : k + 1 < (q.page limit 0).totalPages.toNat ↔ (k + 1) * limit.toNat < q.rows.length :=
    lt_totalPages_page_iff hl hr
  rw [Nat.succ_mul] at hnext
  have hcontent := content_pageAt (q := q) (hstart.trans hr)
  have htotal : (q.pageAt limit k).totalElements.toNat = q.rows.length :=
    toNat_totalElements_page hr
  have hcurrent : (q.pageAt limit k).currentPage.toNat = k := by
    rw [Page.toNat_currentPage, toNat_offset_pageAt (hstart.trans hr)]
    exact Nat.mul_div_cancel k hpos
  have hlength : (q.pageAt limit k).content.length =
      min limit.toNat (q.rows.length - k * limit.toNat) := by
    simp [hcontent]
  have hhas := Page.hasNext_iff (p := q.pageAt limit k) hl
  rw [hcurrent, htotal, Nat.succ_mul] at hhas
  refine ⟨hcontent, htotal, rfl, hcurrent, ?_, ?_, ?_⟩
  · apply hhas.trans
    apply hnext.symm.trans
    omega
  · intro h
    have := hnext.1 (by omega)
    omega
  · intro h
    omega

theorem page_past_end (hl : limit ≠ 0) (hr : q.rows.length < UInt64.size)
    (h : q.rows.length ≤ offset.toNat) :
    (q.page limit offset).content = [] ∧ (q.page limit offset).hasNext = false := by
  constructor
  · simp [page, List.drop_eq_nil_of_le h]
  · have hhas := Page.hasNext_iff (p := q.page limit offset) hl
    have hlt := Nat.lt_mul_div_succ offset.toNat (Page.toNat_limit_pos (p := q.page limit 0) hl)
    rw [Page.toNat_currentPage, toNat_totalElements_page hr, Nat.mul_comm] at hhas
    rw [← Bool.not_eq_true, hhas, not_lt]
    exact h.trans hlt.le

theorem ofNat_add_limit (limit : UInt32) (k : ℕ) :
    UInt64.ofNat (k * limit.toNat) + limit.toUInt64 = UInt64.ofNat ((k + 1) * limit.toNat) := by
  rw [Nat.succ_mul, UInt64.ofNat_add]
  congr 1
  rw [← UInt64.toNat_inj]
  simp

theorem readThrough_pageAt (hl : limit ≠ 0) (hr : q.rows.length < UInt64.size) {m : ℕ}
    (hm : k + m + 1 = (q.page limit 0).totalPages.toNat) (hq : q'.rows = q.rows) :
    ReadThrough limit q' (UInt64.ofNat (k * limit.toNat))
      ((List.range' k (m + 1)).map (q.pageAt limit)) := by
  induction m generalizing k q' with
  | zero =>
    have h := isPageOf_pageAt (k := k) hl hr (by omega)
    refine .last (congrArg Except.ok (page_congr hq)) ?_
    rw [← Bool.not_eq_true, h.hasNext]
    omega
  | succ m ih =>
    have h := isPageOf_pageAt (k := k) hl hr (by omega)
    refine .next (congrArg Except.ok (page_congr hq)) (h.hasNext.2 (by omega)) ?_
    rw [ofNat_add_limit]
    exact ih (by omega) hq

theorem readThrough_iff (hl : limit ≠ 0) (hr : q.rows.length < UInt64.size) {ps : List (Page α)} :
    ReadThrough limit q 0 ps ↔
      ps = (List.range (max 1 (q.page limit 0).totalPages.toNat)).map (q.pageAt limit) := by
  have hfirst : UInt64.ofNat (0 * limit.toNat) = 0 := by simp
  have h : ReadThrough limit q 0
      ((List.range (max 1 (q.page limit 0).totalPages.toNat)).map (q.pageAt limit)) := by
    cases hn : (q.page limit 0).totalPages.toNat with
    | zero =>
      have hrows := (totalPages_page_le_iff hl hr).1 hn.le
      have hzero : q.pageAt limit 0 = q.page limit 0 := by rw [pageAt, hfirst]
      refine .last (congrArg Except.ok hzero.symm) ?_
      rw [hzero]
      exact (page_past_end hl hr (by omega)).2
    | succ m =>
      rw [max_eq_right (Nat.succ_le_succ (Nat.zero_le m)), List.range_eq_range', ← hfirst]
      exact readThrough_pageAt hl hr (by omega) rfl
  constructor
  · intro h'
    exact h'.unique h
  · intro h'
    rwa [h']

/-- The pages are the rows, cut into slices of the limit of which only the last may be shorter. They
are the same whatever else the builder is told before or between, and they are what a reader gets
who starts at the first row and goes on as long as there is a next page. -/
theorem pages_partition_rows (q : Recording α) (limit : UInt32) (hl : limit ≠ 0)
    (hr : q.rows.length < UInt64.size) :
    let n := (q.page limit 0).totalPages.toNat
    ((List.range n).flatMap fun k ↦ (q.pageAt limit k).content) = q.rows ∧
    (∀ k < n, IsPageOf q.rows limit.toNat n k (q.pageAt limit k)) ∧
    (∀ (os : List Operation) k,
      (QueryBuilder.page (os.foldl Operation.perform q) limit
        (UInt64.ofNat (k * limit.toNat))).result = .ok (q.pageAt limit k)) ∧
    (∃ ps, (∀ ps', ReadThrough limit q 0 ps' ↔ ps' = ps) ∧ ps.length = max 1 n ∧
      ps.flatMap Page.content = q.rows) ∧
    ∀ offset : UInt64, q.rows.length ≤ offset.toNat →
      (q.page limit offset).content = [] ∧ (q.page limit offset).hasNext = false := by
  intro n
  refine ⟨?_, fun k hk ↦ isPageOf_pageAt hl hr hk, fun os k ↦ ?_, ?_,
    fun offset h ↦ page_past_end hl hr h⟩
  · exact flatMap_content_pageAt hl hr le_rfl fun k hk ↦ .inr hk
  · exact congrArg Except.ok (page_congr (rows_foldl_perform q os))
  · refine ⟨_, fun ps ↦ readThrough_iff hl hr, by simp [n], ?_⟩
    rw [List.flatMap_map]
    exact flatMap_content_pageAt hl hr (le_max_right 1 _) fun k hk ↦ by omega

theorem pages_partition_rows_exact_and_empty :
    let q : Recording ℕ := { rows := [5, 3, 5, 1, 4, 2] }
    let empty : Recording ℕ := {}
    (List.range 2).flatMap (fun k ↦ (q.pageAt 3 k).content) = q.rows ∧
    IsPageOf q.rows 3 2 1 (q.pageAt 3 1) ∧ (q.pageAt 3 1).hasNext = false ∧
    (∃ ps, ReadThrough 4 q 0 ps ∧ ps.length = 2 ∧ ps.flatMap Page.content = q.rows) ∧
    (∃ ps, ReadThrough 4 empty 0 ps ∧ ps.length = 1 ∧ ps.flatMap Page.content = []) ∧
    (q.page 3 6).content = [] ∧ (q.page 3 6).hasNext = false := by
  intro q empty
  have hcount : (q.page 3 0).totalPages.toNat = 2 := by decide
  have hcount' : (q.page 4 0).totalPages.toNat = 2 := by decide
  have hnone : (empty.page 4 0).totalPages.toNat = 0 := by decide
  obtain ⟨hall, hplace, -, -, hpast⟩ :=
    pages_partition_rows q 3 (by decide) (by decide)
  obtain ⟨-, -, -, ⟨ps, hps, hlength, hcontent⟩, -⟩ :=
    pages_partition_rows q 4 (by decide) (by decide)
  obtain ⟨-, -, -, ⟨ps', hps', hlength', hcontent'⟩, -⟩ :=
    pages_partition_rows empty 4 (by decide) (by decide)
  rw [hcount] at hall hplace
  rw [hcount'] at hlength
  rw [hnone] at hlength'
  have hlast := hplace 1 (by decide)
  have hend : ¬ (q.pageAt 3 1).hasNext = true := by
    rw [hlast.hasNext]
    decide
  exact ⟨hall, hlast, Bool.eq_false_iff.2 hend, ⟨ps, (hps ps).2 rfl, hlength, hcontent⟩,
    ⟨ps', (hps' ps').2 rfl, hlength', hcontent'⟩, hpast 6 (by decide)⟩

end Recording

end Listing
