import Listing.Catalog.Filters

namespace Listing

namespace FilterNode

mutual

/-- The nodes without children at and below a node. -/
def leaves : FilterNode → List FilterNode
  | .mk field value operator combinator [] => [.mk field value operator combinator []]
  | .mk _ _ _ _ (n :: r) => leaves n ++ leavesOf r

def leavesOf : List FilterNode → List FilterNode
  | [] => []
  | n :: r => leaves n ++ leavesOf r

end

end FilterNode

namespace FilterCatalog

open FilterNode

def predicateOf (c : FilterCatalog) (n : FilterNode) : Except QueryError (Option Predicate) :=
  c.leafPredicate n.field n.value n.operator n.combinator

variable {β : Type} [ClauseBuilder β]

def applyAsLeaf (c : FilterCatalog) (q : β) (n : FilterNode) : Run β Unit :=
  c.applyLeaf q n.field n.value n.operator n.combinator

mutual

theorem applyNode_eq_each (c : FilterCatalog) : ∀ (n : FilterNode) (q : β),
    c.applyNode q n = Run.each c.applyAsLeaf q (leaves n)
  | .mk field value operator combinator [], q => by
    rw [applyNode, leaves, Run.each]
    simp only [applyAsLeaf, Run.each_nil, FilterNode.field, FilterNode.value, FilterNode.operator,
      FilterNode.combinator]
    rcases c.applyLeaf q field value operator combinator with ⟨q', e | a⟩ <;> rfl
  | .mk _ _ _ _ (n :: r), q => by
    rw [applyNode, leaves, Run.each_append, applyNode_eq_each c n q]
    simp only [applyBody_eq_each c r]

/-- A forest is applied leaf by leaf. -/
theorem applyBody_eq_each (c : FilterCatalog) : ∀ (ns : List FilterNode) (q : β),
    c.applyBody q ns = Run.each c.applyAsLeaf q (leavesOf ns)
  | [], q => by rw [applyBody, leavesOf, Run.each_nil]
  | n :: r, q => by
    rw [applyBody, leavesOf, Run.each_append, applyNode_eq_each c n q]
    simp only [applyBody_eq_each c r]

end

theorem applyNode_of_isGroup_eq_false {c : FilterCatalog} {n : FilterNode}
    (hn : n.isGroup = false) (q : β) : c.applyNode q n = c.applyAsLeaf q n := by
  rcases n with ⟨field, value, operator, k, _ | ⟨m, r⟩⟩
  · rw [applyNode]
    rfl
  · cases hn

theorem applyBody_singleton {c : FilterCatalog} {n : FilterNode} (hn : n.isGroup = false) (q : β) :
    c.applyBody q [n] = c.applyAsLeaf q n := by
  rw [applyBody, applyNode_of_isGroup_eq_false hn]
  rcases c.applyAsLeaf q n with ⟨q', e | a⟩ <;> rfl

end FilterCatalog

end Listing
