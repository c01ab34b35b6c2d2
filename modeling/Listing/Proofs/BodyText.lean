import Listing.Proofs.Json.Bare
import Listing.Proofs.Priority
import Listing.Request

namespace Listing

namespace Json

mutual

/-- How many arrays and objects are open at once, at most, in the text of a document. -/
def depth : Json → Nat
  | .array items => itemDepth items + 1
  | .object members => memberDepth members + 1
  | _ => 0

def itemDepth : List Json → Nat
  | [] => 0
  | v :: r => max (depth v) (itemDepth r)

def memberDepth : List (Option String × Json) → Nat
  | [] => 0
  | (_, v) :: r => max (depth v) (memberDepth r)

end

@[simp]
theorem depth_text (s : String) : (text s).depth = 0 := by
  simp [text, depth]

@[simp]
theorem depth_optionalText (s : Option String) : (optionalText s).depth = 0 := by
  cases s <;> simp [optionalText, depth]

theorem nullableText?_optionalText (s : Option String) :
    nullableText? (optionalText s) = some s := by
  cases s <;> rfl

theorem word?_text {α : Type} (ofName? : String → Option α) (limit : Nat) (s : String) :
    word? ofName? limit (text s) = ofName? s := by
  cases limit <;> rfl

end Json

namespace Body

open Json

def childMembers : List FilterNode → List (Option String × Json)
  | [] => []
  | c :: r => [(some "subFilters", .array (nodesJson (c :: r)))]

theorem nodeJson_eq (field value : Option String) (o : Operator) (k : Combinator)
    (children : List FilterNode) : nodeJson (.mk field value o k children) =
      .object ([
        (some "field", optionalText field),
        (some "value", optionalText value),
        (some "operator", text o.name),
        (some "type", text k.name)] ++ childMembers children) := by
  cases children <;> simp [nodeJson, nodesJson, childMembers]

theorem depth_nodeJson (field value : Option String) (o : Operator) (k : Combinator)
    (children : List FilterNode) :
    (nodeJson (.mk field value o k children)).depth = memberDepth (childMembers children) + 1 := by
  simp [nodeJson_eq, depth, memberDepth]

mutual

/-- The document of a node in which the values at some places have no quotes if they have such a
form. A place is told by the positions among siblings on the way to it. -/
def nodeJsonWith (bare : List ℕ → Bool) : FilterNode → Json
  | .mk field value operator combinator children =>
    .object ([
      (some "field", Json.optionalText field),
      (some "value", Json.written (bare []) value),
      (some "operator", Json.text operator.name),
      (some "type", Json.text combinator.name)] ++
      (match children with
        | [] => []
        | c :: r => [(some "subFilters",
          .array (nodeJsonWith (fun place ↦ bare (0 :: place)) c :: nodesJsonWith bare 1 r))]))

def nodesJsonWith (bare : List ℕ → Bool) (position : ℕ) : List FilterNode → List Json
  | [] => []
  | n :: r => nodeJsonWith (fun place ↦ bare (position :: place)) n ::
      nodesJsonWith bare (position + 1) r

end

def toJsonWith (bare : List ℕ → Bool) (b : Body) : Json :=
  .record [("filters", .array (nodesJsonWith bare 0 b.filters)),
    ("sorts", .array (b.sorts.map orderJson))]

mutual

theorem nodeJsonWith_false : ∀ n : FilterNode, nodeJsonWith (fun _ ↦ false) n = nodeJson n
  | .mk field value o k [] => rfl
  | .mk field value o k (c :: r) => by
    rw [nodeJsonWith, nodeJson, nodeJsonWith_false c, nodesJsonWith_false r]
    rfl

theorem nodesJsonWith_false : ∀ (ns : List FilterNode) (position : ℕ),
    nodesJsonWith (fun _ ↦ false) position ns = nodesJson ns
  | [], _ => rfl
  | n :: r, position => by
    rw [nodesJsonWith, nodesJson, nodeJsonWith_false n, nodesJsonWith_false r]

end

theorem toJsonWith_false (b : Body) : b.toJsonWith (fun _ ↦ false) = b.toJson := by
  rw [toJsonWith, toJson, nodesJsonWith_false]

def childMembersWith (bare : List ℕ → Bool) : List FilterNode → List (Option String × Json)
  | [] => []
  | c :: r => [(some "subFilters", .array (nodesJsonWith bare 0 (c :: r)))]

theorem nodeJsonWith_eq (bare : List ℕ → Bool) (field value : Option String) (o : Operator)
    (k : Combinator) (children : List FilterNode) :
    nodeJsonWith bare (.mk field value o k children) =
      .object ([
        (some "field", optionalText field),
        (some "value", written (bare []) value),
        (some "operator", text o.name),
        (some "type", text k.name)] ++ childMembersWith bare children) := by
  cases children <;> simp [nodeJsonWith, nodesJsonWith, childMembersWith]

mutual

theorem wellFormed_nodeJsonWith : ∀ (n : FilterNode) (bare : List ℕ → Bool),
    (nodeJsonWith bare n).WellFormed
  | .mk field value o k children, bare => by
    have hc := wellFormed_of_mem_nodesJsonWith children bare 0
    rw [nodeJsonWith_eq]
    refine .object ?_ ?_
    · cases children <;> simp [childMembersWith]
    · rw [List.forall_mem_append, List.forall_mem_cons, List.forall_mem_cons,
        List.forall_mem_cons, List.forall_mem_singleton]
      refine ⟨⟨wellFormed_optionalText field, wellFormed_written _ value, .text _, .text _⟩, ?_⟩
      cases children with
      | nil => exact nofun
      | cons c r => exact List.forall_mem_singleton.2 (.array hc)

theorem wellFormed_of_mem_nodesJsonWith : ∀ (ns : List FilterNode) (bare : List ℕ → Bool)
    (position : ℕ), ∀ j ∈ nodesJsonWith bare position ns, j.WellFormed
  | [], _, _ => nofun
  | n :: r, bare, position => by
    rw [nodesJsonWith, List.forall_mem_cons]
    exact ⟨wellFormed_nodeJsonWith n _, wellFormed_of_mem_nodesJsonWith r bare _⟩

end

theorem wellFormed_toJsonWith (bare : List ℕ → Bool) (b : Body) :
    (b.toJsonWith bare).WellFormed := by
  refine .object ?_ ?_
  · simp
  · refine List.forall_mem_cons.2 ⟨.array (wellFormed_of_mem_nodesJsonWith b.filters bare 0),
      List.forall_mem_singleton.2 (.array ?_)⟩
    rw [List.forall_mem_map]
    intro o _
    refine .object ?_ ?_
    · simp
    · exact List.forall_mem_cons.2 ⟨wellFormed_optionalText o.field,
        List.forall_mem_singleton.2 (.text _)⟩

theorem parts?_nodeJsonWith (bare : List ℕ → Bool) (field value : Option String) (o : Operator)
    (k : Combinator) (children : List FilterNode) :
    parts? nodeKeys (nodeJsonWith bare (.mk field value o k children)) =
      some [some (optionalText field), some (written (bare []) value), some (text o.name),
        some (text k.name), ((childMembersWith bare children).map Prod.snd).head?] := by
  cases children <;> rfl

mutual

/-- A written node is read back unless it nests too deep. Values without quotes open no arrays or
objects, so that it nests as deep as with them. -/
theorem node?_nodeJsonWith : ∀ (n : FilterNode) (bare : List ℕ → Bool) (limit : ℕ),
    node? limit (nodeJsonWith bare n) = if (nodeJson n).depth ≤ limit then some n else none
  | .mk field value o k children, _, 0 => by
    rw [node?, depth_nodeJson, if_neg (by omega)]
  | .mk field value o k children, bare, limit + 1 => by
    have hc : orDefault [] (nodes? limit) ((childMembersWith bare children).map Prod.snd).head? =
        if memberDepth (childMembers children) ≤ limit then some children else none := by
      cases children with
      | nil => rfl
      | cons c r =>
        cases limit with
        | zero => simp [childMembersWith, childMembers, memberDepth, depth, orDefault, nodes?]
        | succ limit =>
          simpa [childMembersWith, childMembers, memberDepth, depth, orDefault, nodes?] using
            mapM_node?_nodesJsonWith (c :: r) bare 0 limit
    rw [node?, parts?_nodeJsonWith, depth_nodeJson]
    simp only [hc, Nat.add_le_add_iff_right]
    simp only [orDefault, nullableText?_optionalText, scalar?_written, word?_text,
      Operator.ofName?_name, Combinator.ofName?_name]
    split_ifs <;> rfl

theorem mapM_node?_nodesJsonWith : ∀ (ns : List FilterNode) (bare : List ℕ → Bool)
    (position limit : ℕ), (nodesJsonWith bare position ns).mapM (node? limit) =
      if itemDepth (nodesJson ns) ≤ limit then some ns else none
  | [], _, _, limit => by simp [nodesJsonWith, nodesJson, itemDepth]
  | n :: r, bare, position, limit => by
    rw [nodesJsonWith, nodesJson, itemDepth, List.mapM_cons, node?_nodeJsonWith n,
      mapM_node?_nodesJsonWith r]
    simp only [Nat.max_le]
    split_ifs <;> simp_all

end

theorem order?_orderJson (o : OrderRequest) : order? (orderJson o) = some o := by
  have hp : parts? ["field", "sort"] (orderJson o) =
      some [some (optionalText o.field), some (text o.direction.name)] := rfl
  simp [order?, hp, orDefault, nullableText?_optionalText, word?_text, SortDirection.ofName?_name]

theorem mapM_order?_map (os : List OrderRequest) : (os.map orderJson).mapM order? = some os := by
  induction os with
  | nil => rfl
  | cons o os ih => simp [order?_orderJson, ih]

theorem itemDepth_map_orderJson (os : List OrderRequest) : itemDepth (os.map orderJson) ≤ 1 := by
  induction os with
  | nil => exact Nat.zero_le 1
  | cons o os ih =>
    have ho : (orderJson o).depth = 1 := by simp [orderJson, record, depth, memberDepth]
    rw [List.map_cons, itemDepth, ho]
    exact Nat.max_le.2 ⟨Nat.le_refl 1, ih⟩

theorem ofJson?_toJsonWith (bare : List ℕ → Bool) (b : Body) :
    ofJson? (b.toJsonWith bare) = if b.toJson.depth ≤ nestingLimit then some b else none := by
  have hp : parts? ["filters", "sorts"] (b.toJsonWith bare) =
      some [some (.array (nodesJsonWith bare 0 b.filters)),
        some (.array (b.sorts.map orderJson))] := rfl
  have hd : b.toJson.depth ≤ nestingLimit ↔ itemDepth (nodesJson b.filters) ≤ nestingLimit - 2 := by
    have ho := itemDepth_map_orderJson b.sorts
    simp only [toJson, record, List.map_cons, List.map_nil, depth, memberDepth, nestingLimit]
    omega
  have hf : orDefault [] (nodes? (nestingLimit - 1))
      (some (.array (nodesJsonWith bare 0 b.filters))) =
      if b.toJson.depth ≤ nestingLimit then some b.filters else none := by
    simp only [hd]
    exact mapM_node?_nodesJsonWith b.filters bare 0 (nestingLimit - 2)
  have hs : orDefault [] orders? (some (.array (b.sorts.map orderJson))) = some b.sorts :=
    mapM_order?_map b.sorts
  simp only [ofJson?, hp, hf, hs]
  split_ifs <;> rfl

theorem ofJson?_toJson (b : Body) :
    ofJson? b.toJson = if b.toJson.depth ≤ nestingLimit then some b else none := by
  rw [← ofJson?_toJsonWith (fun _ ↦ false), toJsonWith_false]

theorem read?_print (b : Body) : Json.read? b.print = some b.toJson := by
  have hw := wellFormed_toJsonWith (fun _ ↦ false) b
  rw [toJsonWith_false] at hw
  exact Json.read?_print hw

theorem parse_print_toJsonWith {b : Body} (hd : b.toJson.depth ≤ Json.nestingLimit)
    (bare : List ℕ → Bool) : parse (b.toJsonWith bare).print = .ok b := by
  have hread : read? (b.toJsonWith bare).print = some b := by
    rw [read?, Json.read?_print (wellFormed_toJsonWith bare b), Option.bind_some,
      ofJson?_toJsonWith, if_pos hd]
  rw [parse, hread]

theorem parse_print {b : Body} (hd : b.toJson.depth ≤ Json.nestingLimit) :
    parse b.print = .ok b := by
  have hread := parse_print_toJsonWith hd fun _ ↦ false
  rwa [toJsonWith_false] at hread

end Body

/-- A request that carries a body gives back that body, and nothing else, if the text opens no more
arrays and objects inside one another than readers allow. A text that opens more is refused. -/
theorem Request.body_postBody (b : Body) :
    (postBody b).bodyText = some b.print ∧ Json.read? b.print = some b.toJson ∧
      (b.toJson.depth ≤ Json.nestingLimit → (postBody b).body = .ok b) ∧
      (Json.nestingLimit < b.toJson.depth →
        ∃ e, (postBody b).body = .error e ∧ e.code = .invalidBody ∧ e.code.name = "S2008") := by
  have hr : (postBody b).body = Body.parse b.print := rfl
  have ht : Body.read? b.print =
      if b.toJson.depth ≤ Json.nestingLimit then some b else none := by
    rw [Body.read?, Body.read?_print, Option.bind_some, Body.ofJson?_toJson]
  refine ⟨rfl, Body.read?_print b, fun hd ↦ ?_, fun hd ↦ ?_⟩
  · rw [hr, Body.parse, ht, if_pos hd]
  · rw [hr, Body.parse, ht, if_neg (by omega)]
    exact ⟨_, rfl, rfl, rfl⟩

/-- A group within a group and so on, with an empty leaf in the innermost. -/
def FilterNode.nested : Nat → FilterNode
  | 0 => .mk none none .equal .and []
  | n + 1 => .mk none none .equal .and [nested n]

theorem Body.depth_nested (n : Nat) :
    (toJson { filters := [FilterNode.nested n] }).depth = 2 * n + 3 := by
  have hn : (nodeJson (FilterNode.nested n)).depth = 2 * n + 1 := by
    induction n with
    | zero => rfl
    | succ n ih =>
      simp only [FilterNode.nested, depth_nodeJson, childMembers, nodesJson, Json.memberDepth,
        Json.depth, Json.itemDepth, ih]
      omega
  simp only [toJson, Json.record, List.map_cons, List.map_nil, nodesJson, Json.depth,
    Json.memberDepth, Json.itemDepth, hn]
  omega

theorem Request.body_postBody_at_the_limit :
    (let b : Body := {
        filters := [.mk (some "a\"b\\c") (some "\u0000\n\u001fé") .between .or
          [.mk none none .isNull .and []]]
        sorts := [⟨none, .desc⟩] };
      (postBody b).body = .ok b) ∧
    (let b : Body := { filters := [FilterNode.nested 62] };
      (postBody b).body = .ok b) ∧
    (let b : Body := { filters := [FilterNode.nested 63] };
      ∃ e, (postBody b).body = .error e ∧ e.code = .invalidBody ∧ e.code.name = "S2008") :=
  ⟨(body_postBody _).2.2.1 (by decide),
    (body_postBody _).2.2.1 (by rw [Body.depth_nested]; decide),
    (body_postBody _).2.2.2 (by rw [Body.depth_nested]; decide)⟩

theorem Endpoint.apply_congr_post {β : Type} [ClauseBuilder β] (e : Endpoint β)
    {text text' : String} (h : Body.parse text = Body.parse text') :
    ({ e with request := some (Request.post text) } : Endpoint β).apply =
      ({ e with request := some (Request.post text') } : Endpoint β).apply := by
  apply apply_congr_request
  · rfl
  · intro _
    exact h
  · intro _ name _
    rfl

/-- Numbers and truth values may be given without quotes wherever their texts are values. The body
is the same, and so is all that catalogs and endpoints make of it. -/
theorem Request.body_post_without_quotes (b : Body) (hd : b.toJson.depth ≤ Json.nestingLimit)
    (bare : List ℕ → Bool) :
    let r := post (b.toJsonWith bare).print
    (∀ s j, Json.bare? s = some j ↔ Json.IsBare s j) ∧ r.body = .ok b ∧
      (∀ (β : Type) [ClauseBuilder β] (c : FilterCatalog) (q : β),
        (r.body.map fun b' ↦ c.applyBody q b'.filters) = .ok (c.applyBody q b.filters)) ∧
      ∀ (β : Type) [ClauseBuilder β] (e : Endpoint β),
        ({ e with request := some r } : Endpoint β).apply =
          ({ e with request := some (postBody b) } : Endpoint β).apply := by
  intro r
  have hparse : Body.parse (b.toJsonWith bare).print = .ok b := Body.parse_print_toJsonWith hd bare
  have hbody : r.body = .ok b := hparse
  refine ⟨fun s j ↦ Json.bare?_eq_some_iff, hbody, fun β _ c q ↦ ?_, fun β _ e ↦ ?_⟩
  · rw [hbody]
    rfl
  · apply Endpoint.apply_congr_post
    rw [hparse, Body.parse_print hd]

theorem Request.body_post_without_quotes_at_the_bounds :
    let leaf (value : String) : FilterNode := .mk (some "a") (some value) .equal .and []
    let b : Body := {
      filters := [leaf "-9223372036854775808", leaf "007",
        .mk none none .equal .or [leaf "18446744073709551615", leaf "true"], leaf "5"] }
    let text := "\x7b\"filters\":[" ++
      "\x7b\"field\":\"a\",\"value\":-9223372036854775808," ++
        "\"operator\":\"EQUAL\",\"type\":\"AND\"\x7d," ++
      "\x7b\"field\":\"a\",\"value\":\"007\",\"operator\":\"EQUAL\",\"type\":\"AND\"\x7d," ++
      "\x7b\"field\":null,\"value\":null,\"operator\":\"EQUAL\",\"type\":\"OR\"," ++
        "\"subFilters\":[\x7b\"field\":\"a\",\"value\":18446744073709551615," ++
          "\"operator\":\"EQUAL\",\"type\":\"AND\"\x7d," ++
        "\x7b\"field\":\"a\",\"value\":true,\"operator\":\"EQUAL\",\"type\":\"AND\"\x7d]\x7d," ++
      "\x7b\"field\":\"a\",\"value\":\"5\",\"operator\":\"EQUAL\",\"type\":\"AND\"\x7d]," ++
      "\"sorts\":[]\x7d"
    b.toJson.depth ≤ Json.nestingLimit ∧ (post text).body = .ok b := by
  intro leaf b text
  have hd : b.toJson.depth ≤ Json.nestingLimit := by decide
  have htext : (b.toJsonWith fun place ↦ place ≠ [3]).print = text := by decide +kernel
  obtain ⟨-, hbody, -⟩ := body_post_without_quotes b hd fun place ↦ place ≠ [3]
  rw [htext] at hbody
  exact ⟨hd, hbody⟩

end Listing
