import Listing.Endpoint
import Listing.Proofs.Operation
import Listing.Recording

namespace Listing

/-- A builder that keeps every call, and the builder that answers. -/
structure Logged (β : Type) where
  builder : β
  calls : List Operation := []

namespace Logged

variable {β row conditions α : Type}

def after (q : Logged β) (o : Operation) (r : Run β α) : Run (Logged β) α :=
  ⟨⟨r.state, q.calls ++ [o]⟩, r.result⟩

instance [QueryBuilder β row conditions] : QueryBuilder (Logged β) row conditions where
  addPredicate q p := q.after (.predicate p) (ClauseBuilder.addPredicate q.builder p)
  addOrder q field direction :=
    q.after (.order field direction) (ClauseBuilder.addOrder q.builder field direction)
  select q fields := ⟨QueryBuilder.select q.builder fields, q.calls ++ [.select fields]⟩
  addSelect q fields := ⟨QueryBuilder.addSelect q.builder fields, q.calls ++ [.addSelect fields]⟩
  limit q n := ⟨QueryBuilder.limit q.builder n, q.calls ++ [.limit n]⟩
  offset q n := ⟨QueryBuilder.offset q.builder n, q.calls ++ [.offset n]⟩
  get q := q.after .get (QueryBuilder.get q.builder)
  page q limit offset := q.after (.page limit offset) (QueryBuilder.page q.builder limit offset)
  findFirst q := q.after .findFirst (QueryBuilder.findFirst q.builder)
  conditions q := QueryBuilder.conditions q.builder

end Logged

def Params.AgreeOn (names : List String) (p p' : Params) : Prop :=
  ∀ name ∈ names, p.get? name = p'.get? name

def RequestSource.AgreeOn (names : List String) (r r' : RequestSource) : Prop :=
  ∀ name ∈ names, r.param name = r'.param name

theorem FilterCatalog.applyLookup_congr {β : Type} [ClauseBuilder β] {c : FilterCatalog}
    {lookup lookup' : String → Option String} (h : ∀ f ∈ c, lookup f.param = lookup' f.param)
    (q : β) : c.applyLookup q lookup = c.applyLookup q lookup' := by
  refine Run.each_congr (fun f hf q ↦ ?_) q
  rw [applyFilter, applyFilter, h f hf]

namespace Endpoint

variable {β row conditions : Type}

/-- All names under which an endpoint looks for texts. -/
def readNames (e : Endpoint β) : List String :=
  e.filters.map Filter.param ++ [e.config.sortParam, e.config.limitParam, e.config.offsetParam]

def logged (e : Endpoint β) : Endpoint (Logged β) := { e with builder := { builder := e.builder } }

theorem applyNamed_congr [ClauseBuilder β] {e : Endpoint β} {lookup lookup' : String → Option String}
    (h : ∀ name ∈ e.readNames, lookup name = lookup' name) :
    e.applyNamed lookup = e.applyNamed lookup' := by
  have hf : ∀ f ∈ e.filters, lookup f.param = lookup' f.param := by
    intro f hf
    apply h
    exact List.mem_append_left _ (List.mem_map_of_mem hf)
  have hs : lookup e.config.sortParam = lookup' e.config.sortParam := by
    apply h
    simp [readNames]
  rw [applyNamed, applyNamed, FilterCatalog.applyLookup_congr hf, hs]

theorem apply_congr_request [ClauseBuilder β] {e : Endpoint β} {r r' : RequestSource}
    (hm : r.method = r'.method)
    (hb : ({ e with request := some r } : Endpoint β).inputSource = .ok .body → r.body = r'.body)
    (hp : ({ e with request := some r } : Endpoint β).inputSource = .ok .request →
      r.AgreeOn e.readNames r') :
    ({ e with request := some r } : Endpoint β).apply =
      ({ e with request := some r' } : Endpoint β).apply := by
  have hs : ({ e with request := some r } : Endpoint β).inputSource =
      ({ e with request := some r' } : Endpoint β).inputSource := by
    unfold inputSource
    cases e.config.bodyMode <;> simp only [hm]
  unfold apply
  rw [← hs]
  cases hi : ({ e with request := some r } : Endpoint β).inputSource with
  | error err => rfl
  | ok source =>
    cases source with
    | params => rfl
    | nothing => rfl
    | request => exact applyNamed_congr (e := e) (hp hi)
    | body =>
      have hb := hb hi
      simp only [Option.map_some, Option.getD_some, hb]
      rfl

variable [QueryBuilder β row conditions]

/-- Whatever is asked of the endpoints, the builder ends up the same and so does the result. -/
structure SameOutcome (e e' : Endpoint β) : Prop where
  apply : e.apply = e'.apply
  get : e.get = e'.get
  page : ∀ limit offset, e.page limit offset = e'.page limit offset
  findFirst : e.findFirst = e'.findFirst

/-- Endpoints with the same outcome whose builder is also given the same calls. -/
def Indistinguishable (e e' : Endpoint β) : Prop :=
  SameOutcome e e' ∧ SameOutcome e.logged e'.logged

theorem sameOutcome_of_apply {e e' : Endpoint β} (h : e.apply = e'.apply)
    (hc : e.config = e'.config)
    (hp : ∀ name ∈ e.readNames, (e.params.bind fun p ↦ p.get? name) =
      e'.params.bind fun p ↦ p.get? name) : SameOutcome e e' := by
  have hl := hp e.config.limitParam (by simp [readNames])
  have ho := hp e.config.offsetParam (by simp [readNames])
  refine ⟨h, by rw [get, get, h], fun limit offset ↦ ?_, by rw [findFirst, findFirst, h]⟩
  simp only [page, override, h, ← hc, hl, ho]

theorem sameOutcome_of_params (e : Endpoint β) (p : Params) (r r' : Option RequestSource) :
    SameOutcome ({ e with params := some p, request := r } : Endpoint β)
      { e with params := some p, request := r' } :=
  sameOutcome_of_apply rfl rfl fun _ _ ↦ rfl

theorem sameOutcome_of_agreeOn {e : Endpoint β} {p p' : Params} (h : p.AgreeOn e.readNames p') :
    SameOutcome ({ e with params := some p } : Endpoint β) { e with params := some p' } :=
  sameOutcome_of_apply (applyNamed_congr (e := e) h) rfl h

theorem sameOutcome_of_request {e : Endpoint β} {r r' : RequestSource}
    (hm : r.method = r'.method)
    (hb : ({ e with request := some r } : Endpoint β).inputSource = .ok .body → r.body = r'.body)
    (hp : ({ e with request := some r } : Endpoint β).inputSource = .ok .request →
      r.AgreeOn e.readNames r') :
    SameOutcome ({ e with request := some r } : Endpoint β) { e with request := some r' } :=
  sameOutcome_of_apply (apply_congr_request hm hb hp) rfl fun _ _ ↦ rfl

/-- Explicit parameters hide the request, a body that must be read hides the parameters of the
request, parameters that are read hide the body, and no other names than those of the endpoint
count. -/
theorem reads_chosen_input_only (e : Endpoint β) :
    (∀ (p : Params) (r r' : Option RequestSource),
      Indistinguishable { e with params := some p, request := r }
        { e with params := some p, request := r' }) ∧
    (∀ r r' : RequestSource, e.params = none → e.config.bodyMode = .only → r.method = r'.method →
      r.body = r'.body →
      Indistinguishable { e with request := some r } { e with request := some r' }) ∧
    (∀ r r' : RequestSource, (e.config.bodyMode = .disabled ∨
        e.config.bodyMode = .enabled ∧ e.config.isBodyMethod r.method = false) →
      r.method = r'.method → (∀ name, r.param name = r'.param name) →
      Indistinguishable { e with request := some r } { e with request := some r' }) ∧
    (∀ p p' : Params, p.AgreeOn e.readNames p' →
      Indistinguishable { e with params := some p } { e with params := some p' }) ∧
    ∀ r r' : RequestSource, r.method = r'.method → r.body = r'.body →
      r.AgreeOn e.readNames r' →
      Indistinguishable { e with request := some r } { e with request := some r' } := by
  refine ⟨fun p r r' ↦ ?_, fun r r' hn ho hm hb ↦ ?_, fun r r' hc hm hp ↦ ?_, fun p p' h ↦ ?_,
    fun r r' hm hb hp ↦ ?_⟩
  · exact ⟨sameOutcome_of_params e p r r', sameOutcome_of_params e.logged p r r'⟩
  · have hi : ({ e with request := some r } : Endpoint β).inputSource ≠ .ok .request := by
      unfold inputSource
      rw [hn, ho]
      by_cases hr : e.config.isBodyMethod r.method = true <;> simp [hr]
    exact ⟨sameOutcome_of_request hm (fun _ ↦ hb) fun h ↦ absurd h hi,
      sameOutcome_of_request (e := e.logged) hm (fun _ ↦ hb) fun h ↦ absurd h hi⟩
  · have hi : ({ e with request := some r } : Endpoint β).inputSource ≠ .ok .body := by
      unfold inputSource
      rcases hc with hc | ⟨hc, hr⟩
      · rw [hc]
        split <;> simp
      · rw [hc]
        split <;> simp [hr]
    exact ⟨sameOutcome_of_request hm (fun h ↦ absurd h hi) fun _ name _ ↦ hp name,
      sameOutcome_of_request (e := e.logged) hm (fun h ↦ absurd h hi) fun _ name _ ↦ hp name⟩
  · exact ⟨sameOutcome_of_agreeOn h, sameOutcome_of_agreeOn (e := e.logged) h⟩
  · exact ⟨sameOutcome_of_request hm (fun _ ↦ hb) fun _ ↦ hp,
      sameOutcome_of_request (e := e.logged) hm (fun _ ↦ hb) fun _ ↦ hp⟩

theorem reads_chosen_input_only_shared_name :
    let e : Endpoint (Recording String) := {
      builder := { rows := ["ann", "joe"] }
      filters := [.ofKind "age" .comparison, .ofKind "name" (.partialMatch .final)]
      sorts := [⟨"age", "person.age"⟩]
      config := { limitParam := "age" } }
    let only : Endpoint (Recording String) := { e with config.bodyMode := .only }
    let enabled : Endpoint (Recording String) := { e with config.bodyMode := .enabled }
    let p : Params := [("age", "1"), ("name", "jo"), ("x", "2")]
    let p' : Params := [("name", "jo"), ("token", "t"), ("age", "1"), ("age", "3")]
    let malformed (p : Params) : Request := { Request.post "\x7b" with params := p }
    let get (text : Option String) : Request := { Request.get with params := p, bodyText := text }
    let unreadable : RequestSource := {
      param := p.get?
      method := "GET"
      body := .error (Problem.invalidBody "connection closed").toError }
    only.params = none ∧ only.config.bodyMode = .only ∧ (malformed p).body = (malformed []).body ∧
    enabled.config.bodyMode = .enabled ∧ enabled.config.isBodyMethod (get none).method = false ∧
    p.AgreeOn e.readNames p' ∧
    Indistinguishable { e with params := some p, request := some (malformed p') }
      { e with params := some p, request := none } ∧
    Indistinguishable { only with request := some (malformed p) }
      { only with request := some (malformed []) } ∧
    Indistinguishable { enabled with request := some (get (some "\x7b")) }
      { enabled with request := some (get none) } ∧
    Indistinguishable { enabled with request := some (get none) }
      { enabled with request := some unreadable } ∧
    Indistinguishable { e with params := some p } { e with params := some p' } ∧
    Indistinguishable { e with request := some (malformed p) }
      { e with request := some (malformed p') } ∧
    (({ e with params := some p' } : Endpoint (Recording String)).logged.page 20 0).state.calls =
      [.predicate (.and "age" .equal (.string "1")), .predicate (.and "name" .like (.string "jo%")),
        .page 1 0] := by
  intro e only enabled p p' malformed get unreadable
  have hbody : (malformed p).body = (malformed []).body := rfl
  have hmethod : enabled.config.isBodyMethod (get none).method = false := by decide
  have hp : p.AgreeOn e.readNames p' := by
    unfold Params.AgreeOn
    decide
  obtain ⟨ha, -, -, hd, hr⟩ := reads_chosen_input_only e
  obtain ⟨-, hb, -⟩ := reads_chosen_input_only only
  obtain ⟨-, -, hc, -⟩ := reads_chosen_input_only enabled
  exact ⟨rfl, rfl, hbody, rfl, hmethod, hp, ha p _ _, hb _ _ rfl rfl rfl hbody,
    hc _ _ (.inr ⟨rfl, hmethod⟩) rfl fun _ ↦ rfl, hc _ _ (.inr ⟨rfl, hmethod⟩) rfl fun _ ↦ rfl,
    hd p p' hp, hr _ _ rfl rfl hp, rfl⟩

end Endpoint

end Listing
