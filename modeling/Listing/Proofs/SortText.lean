import Listing.Catalog.Sorts
import Listing.Proofs.Text
import Mathlib.Data.List.Forall2

namespace Listing

open Text (isBlank)

namespace OrderRequest

/-- The text of an instruction; one without a field has none to write. -/
def token (o : OrderRequest) : String :=
  match o.direction with
  | .asc => o.field.getD ""
  | .desc => "-" ++ o.field.getD ""

/-- A field that a sort text can name. Behind a dash it may begin with a blank. -/
structure IsKey (d : SortDirection) (s : String) : Prop where
  ne_empty : s ≠ ""
  comma : ',' ∉ s.toList
  dash : '-' ∉ s.toList.head?
  last : ∀ c ∈ s.toList.getLast?, isBlank c = false
  first : d = .asc → ∀ c ∈ s.toList.head?, isBlank c = false

instance (d : SortDirection) (s : String) : Decidable (IsKey d s) :=
  decidable_of_iff (s ≠ "" ∧ ',' ∉ s.toList ∧ '-' ∉ s.toList.head? ∧
      s.toList.getLast?.all (!isBlank ·) = true ∧
      (d = .asc → s.toList.head?.all (!isBlank ·) = true)) <| by
    simp only [Option.all_eq_true, Bool.not_eq_true']
    exact ⟨fun ⟨hne, hc, hd, hl, hf⟩ ↦ ⟨hne, hc, hd, hl, hf⟩, fun h ↦ ⟨h.1, h.2, h.3, h.4, h.5⟩⟩

def IsCompact (o : OrderRequest) : Prop := ∀ s ∈ o.field, IsKey o.direction s

instance (o : OrderRequest) : Decidable o.IsCompact :=
  inferInstanceAs (Decidable (∀ s ∈ o.field, IsKey o.direction s))

/-- The ways to write an instruction: with blanks around its text, and for descending with more
dashes in front of it. -/
def Spells (o : OrderRequest) (s : String) : Prop :=
  ∃ before dashes after, s.toList = before ++ (dashes ++ o.token.toList) ++ after ∧
    (∀ c ∈ before, isBlank c = true) ∧ (∀ c ∈ after, isBlank c = true) ∧
    (∀ c ∈ dashes, c = '-') ∧ (o.direction = .asc → dashes = [])

theorem spells_token (o : OrderRequest) : o.Spells o.token :=
  ⟨[], [], [], by simp, nofun, nofun, nofun, fun _ ↦ rfl⟩

end OrderRequest

namespace SortCatalog

open OrderRequest

def render (os : List OrderRequest) : String := Text.join "," (os.map token)

theorem parseToken_append {before after : List Char} (hb : ∀ c ∈ before, isBlank c = true)
    (ha : ∀ c ∈ after, isBlank c = true) (s : List Char) :
    parseToken (before ++ s ++ after) = parseToken s := by
  simp only [parseToken, Text.trimBoth_append_append hb ha]

theorem parseToken_eq {s dashes key : List Char} (hs : Text.trimBoth s = dashes ++ key)
    (hd : ∀ c ∈ dashes, c = '-') (hk : '-' ∉ key.head?) :
    parseToken s =
      { field := if key.isEmpty then none else some (String.ofList key)
        direction := if dashes.isEmpty then .asc else .desc } := by
  have hkey : key.dropWhile (· = '-') = key := by
    cases key with
    | nil => rfl
    | cons c key =>
      have hc : c ≠ '-' := fun h ↦ hk (congrArg some h)
      exact List.dropWhile_cons_of_neg (by simpa using hc)
  have hfield : (dashes ++ key).dropWhile (· = '-') = key := by
    rw [List.dropWhile_append_of_pos (by simpa using hd), hkey]
  rw [parseToken, hs, hfield]
  cases dashes with
  | nil => simp
  | cons c dashes =>
    have hlt : key.length < (c :: dashes ++ key).length := by
      rw [List.length_append, List.length_cons]
      omega
    rw [if_pos hlt, List.isEmpty_cons, if_neg Bool.false_ne_true]

theorem exists_dashes (s : List Char) : ∃ dashes key, Text.trimBoth s = dashes ++ key ∧
    (∀ c ∈ dashes, c = '-') ∧ '-' ∉ key.head? := by
  refine ⟨(Text.trimBoth s).takeWhile (· = '-'), (Text.trimBoth s).dropWhile (· = '-'),
    List.takeWhile_append_dropWhile.symm, ?_, ?_⟩
  · intro c hc
    simpa using List.mem_takeWhile_imp hc
  · have h := List.head?_dropWhile_not (· = '-') (Text.trimBoth s)
    intro hc
    rw [hc] at h
    simp at h

theorem isCompact_parseToken {s : List Char} (h : ',' ∉ s) : (parseToken s).IsCompact := by
  obtain ⟨dashes, key, hs, hd, hk⟩ := exists_dashes s
  obtain ⟨hfirst, hlast⟩ := Text.trimBoth_eq_self_iff.1 (Text.trimBoth_trimBoth s)
  have hsub : Text.trimBoth s ⊆ s := Text.trimBoth_subset s
  rw [hs] at hfirst hlast hsub
  rw [parseToken_eq hs hd hk]
  intro field hfield
  have hne : key ≠ [] := by
    rintro rfl
    cases hfield
  obtain rfl : String.ofList key = field := by simpa [hne] using hfield
  constructor
  · simpa using hne
  · rw [String.toList_ofList]
    exact fun hc ↦ h (hsub (List.mem_append_right dashes hc))
  · rwa [String.toList_ofList]
  · intro c hc
    rw [String.toList_ofList] at hc
    exact hlast c (by rw [List.getLast?_append_of_ne_nil _ hne, hc])
  · intro hasc c hc
    rw [String.toList_ofList] at hc
    have hdashes : dashes = [] := by simpa using hasc
    exact hfirst c (by rw [hdashes, List.nil_append, hc])

theorem toList_token (o : OrderRequest) : ∃ dashes,
    o.token.toList = dashes ++ (o.field.getD "").toList ∧
      (∀ c ∈ dashes, c = '-') ∧ (dashes = [] ↔ o.direction = .asc) := by
  unfold token
  cases o.direction with
  | asc => exact ⟨[], rfl, nofun, by simp⟩
  | desc => exact ⟨['-'], String.toList_append, by simp, by simp⟩

theorem trimBoth_dashes {dashes key : List Char} (hd : ∀ c ∈ dashes, c = '-')
    (hfirst : dashes = [] → ∀ c, key.head? = some c → isBlank c = false)
    (hlast : ∀ c, key.getLast? = some c → isBlank c = false) :
    Text.trimBoth (dashes ++ key) = dashes ++ key := by
  have hdash : ∀ c ∈ dashes, isBlank c = false := by
    intro c hc
    rw [hd c hc]
    decide
  refine Text.trimBoth_eq_self_iff.2 ⟨fun c hc ↦ ?_, fun c hc ↦ ?_⟩
  · cases dashes with
    | nil => exact hfirst rfl c hc
    | cons d dashes =>
      obtain rfl : d = c := Option.some.inj hc
      exact hdash d List.mem_cons_self
  · by_cases hk : key = []
    · rw [hk, List.append_nil] at hc
      exact hdash c (List.mem_of_getLast? hc)
    · rw [List.getLast?_append_of_ne_nil _ hk] at hc
      exact hlast c hc

theorem parseToken_dashes {o : OrderRequest} (ho : o.IsCompact) {dashes : List Char}
    (hd : ∀ c ∈ dashes, c = '-') (hasc : dashes = [] ↔ o.direction = .asc) :
    parseToken (dashes ++ (o.field.getD "").toList) = o := by
  have hdirection : (if dashes.isEmpty then .asc else .desc) = o.direction := by
    simp only [List.isEmpty_iff, hasc]
    cases o.direction <;> rfl
  rcases o with ⟨_ | key, d⟩
  · have ht : Text.trimBoth (dashes ++ []) = dashes ++ [] := trimBoth_dashes hd nofun nofun
    have hkey : ((none : Option String).getD "").toList = [] := rfl
    rw [hkey, parseToken_eq ht hd (by simp), hdirection]
    rfl
  · obtain ⟨hne, -, hdash, hlast, hfirst⟩ := ho key rfl
    have ht := trimBoth_dashes hd (fun h ↦ hfirst (hasc.1 h)) hlast
    have hkey : key.toList ≠ [] := by simpa using hne
    rw [Option.getD_some, parseToken_eq ht hd hdash, hdirection]
    simp [hkey]

theorem parseToken_of_spells {o : OrderRequest} (ho : o.IsCompact) {s : String} (h : o.Spells s) :
    parseToken s.toList = o := by
  obtain ⟨before, dashes, after, hs, hb, ha, hdashes, hd⟩ := h
  obtain ⟨mark, ht, hmark, hm⟩ := toList_token o
  rw [hs, parseToken_append hb ha, ht, ← List.append_assoc]
  refine parseToken_dashes ho ?_ ?_
  · intro c hc
    exact (List.mem_append.1 hc).elim (hdashes c) (hmark c)
  · rw [List.append_eq_nil_iff, hm]
    exact ⟨And.right, fun h ↦ ⟨hd h, h⟩⟩

theorem comma_notMem_of_blank {s : List Char} (h : ∀ c ∈ s, isBlank c = true) : ',' ∉ s :=
  fun hc ↦ absurd (h _ hc) (by decide)

theorem comma_notMem_of_spells {o : OrderRequest} (ho : o.IsCompact) {s : String} (h : o.Spells s) :
    ',' ∉ s.toList := by
  obtain ⟨before, dashes, after, hs, hb, ha, hdashes, -⟩ := h
  obtain ⟨mark, ht, hmark, -⟩ := toList_token o
  have hkey : ',' ∉ (o.field.getD "").toList := by
    cases hf : o.field with
    | none => simp
    | some key => exact (ho key hf).comma
  rw [hs, ht]
  simp only [List.mem_append, not_or]
  refine ⟨⟨comma_notMem_of_blank hb, fun hc ↦ ?_, fun hc ↦ ?_, hkey⟩, comma_notMem_of_blank ha⟩
  · exact absurd (hdashes _ hc) (by decide)
  · exact absurd (hmark _ hc) (by decide)

theorem parse_eq (raw : String) : parse raw = (Text.piecesAt ',' raw.toList).map parseToken := by
  obtain ⟨before, after, hs, hb, ha⟩ := Text.exists_blanks raw.toList
  have hleft : ∀ s, (Text.piecesAt ',' (before ++ s)).map parseToken =
      (Text.piecesAt ',' s).map parseToken := by
    intro s
    obtain ⟨p, ps, hp, hbp⟩ := Text.piecesAt_append_left (comma_notMem_of_blank hb) s
    have ht : parseToken (before ++ p ++ []) = parseToken p :=
      parseToken_append hb (List.forall_mem_nil _) p
    rw [List.append_nil] at ht
    rw [hp, hbp, List.map_cons, List.map_cons, ht]
  have hright : ∀ s, (Text.piecesAt ',' (s ++ after)).map parseToken =
      (Text.piecesAt ',' s).map parseToken := by
    intro s
    obtain ⟨ps, p, hp, hpa⟩ := Text.piecesAt_append_right (comma_notMem_of_blank ha) s
    have ht : parseToken ([] ++ p ++ after) = parseToken p :=
      parseToken_append (List.forall_mem_nil _) ha p
    rw [List.nil_append] at ht
    rw [hp, hpa, List.map_append, List.map_append, List.map_singleton, List.map_singleton, ht]
  rw [parse, ← hleft, ← hright, ← hs]

theorem map_parseToken_of_spells {os : List OrderRequest} (h : ∀ o ∈ os, o.IsCompact)
    {tokens : List String} (ht : List.Forall₂ Spells os tokens) :
    (∀ s ∈ tokens, ',' ∉ s.toList) ∧ (tokens.map String.toList).map parseToken = os := by
  induction ht with
  | nil => exact ⟨nofun, rfl⟩
  | @cons o s os tokens hs _ ih =>
    obtain ⟨ho, hos⟩ := List.forall_mem_cons.1 h
    obtain ⟨hcomma, hread⟩ := ih hos
    refine ⟨List.forall_mem_cons.2 ⟨comma_notMem_of_spells ho hs, hcomma⟩, ?_⟩
    rw [List.map_cons, List.map_cons, parseToken_of_spells ho hs, hread]

theorem parse_join {os : List OrderRequest} (hne : os ≠ []) (h : ∀ o ∈ os, o.IsCompact)
    {tokens : List String} (ht : List.Forall₂ Spells os tokens) :
    parse (Text.join "," tokens) = os := by
  have htokens : tokens ≠ [] := by
    rintro rfl
    exact hne (List.forall₂_nil_right_iff.1 ht)
  obtain ⟨hcomma, hread⟩ := map_parseToken_of_spells h ht
  have hpieces : Text.piecesAt ',' (Text.join "," tokens).toList = tokens.map String.toList :=
    Text.piecesAt_join htokens hcomma
  rw [parse_eq, hpieces, hread]

/-- A sort text gives at least one instruction, and only such as a sort text can give. Those are
read back from their text as they were, and so they are if there are blanks around them and more
dashes in front of those that are descending. -/
theorem parse_inverts_render (raw : String) :
    (parse raw ≠ [] ∧ ∀ o ∈ parse raw, o.IsCompact) ∧
    parse (render (parse raw)) = parse raw ∧
    ∀ os, os ≠ [] → (∀ o ∈ os, o.IsCompact) → parse (render os) = os ∧
      ∀ tokens, List.Forall₂ Spells os tokens → parse (Text.join "," tokens) = os := by
  have himage : parse raw ≠ [] ∧ ∀ o ∈ parse raw, o.IsCompact := by
    rw [parse_eq]
    refine ⟨?_, fun o ho ↦ ?_⟩
    · simpa using Text.piecesAt_ne_nil ',' raw.toList
    · obtain ⟨p, hp, rfl⟩ := List.mem_map.1 ho
      exact isCompact_parseToken (Text.notMem_of_mem_piecesAt hp)
  have hrender : ∀ os, os ≠ [] → (∀ o ∈ os, o.IsCompact) → parse (render os) = os := by
    intro os hne hos
    refine parse_join hne hos ?_
    exact List.forall₂_map_right_iff.2 (List.forall₂_same.2 fun o _ ↦ spells_token o)
  exact ⟨himage, hrender _ himage.1 himage.2, fun os hne hos ↦
    ⟨hrender os hne hos, fun tokens ht ↦ parse_join hne hos ht⟩⟩

theorem parse_inverts_render_blank_behind_dash :
    let os : List OrderRequest :=
      [⟨some " name", .desc⟩, ⟨none, .asc⟩, ⟨some "last-seen at", .asc⟩, ⟨none, .desc⟩]
    render os = "- name,,last-seen at,-" ∧ (∀ o ∈ os, o.IsCompact) ∧
    parse (render os) = os ∧ parse "\t--- name ,  , last-seen at\n, -- " = os := by
  intro os
  have hos : ∀ o ∈ os, o.IsCompact := by decide
  have hspells : List.Forall₂ Spells os ["\t--- name ", "  ", " last-seen at\n", " -- "] := by
    refine .cons ⟨['\t'], ['-', '-'], [' '], rfl, ?_⟩ (.cons ⟨[' '], [], [' '], rfl, ?_⟩
      (.cons ⟨[' '], [], ['\n'], rfl, ?_⟩ (.cons ⟨[' '], ['-'], [' '], rfl, ?_⟩ .nil)))
    all_goals simp [isBlank]
  have hjoin : Text.join "," ["\t--- name ", "  ", " last-seen at\n", " -- "] =
    "\t--- name ,  , last-seen at\n, -- " := rfl
  obtain ⟨-, -, h⟩ := parse_inverts_render ""
  obtain ⟨hrender, htokens⟩ := h os (List.cons_ne_nil _ _) hos
  exact ⟨by decide, hos, hrender, hjoin ▸ htokens _ hspells⟩

end SortCatalog

end Listing
