import Listing.Catalog.Sorts
import Listing.Proofs.Outcome

namespace Listing

open Outcome

def OrderRequest.fault (o : OrderRequest) : QueryError :=
  match o.field with
  | none => Problem.sortFieldMissing.toError
  | some name => (Problem.sortFieldNotValid name).toError

theorem OrderRequest.code_fault (o : OrderRequest) : o.fault.code = .invalidSort := by
  unfold fault
  cases o.field <;> rfl

namespace SortCatalog

def Faulty (c : SortCatalog) (o : OrderRequest) : Prop :=
  ∀ name ∈ o.field, ∀ k ∈ c, k.external ≠ name

instance (c : SortCatalog) (o : OrderRequest) : Decidable (c.Faulty o) :=
  inferInstanceAs (Decidable (∀ name ∈ o.field, ∀ k ∈ c, k.external ≠ name))

/-- The order has the direction of the instruction and the field that the first entry of its key
stands for. -/
def StandsFor (c : SortCatalog) (o : OrderRequest) (order : String × SortDirection) : Prop :=
  ∃ before k after, c = before ++ k :: after ∧ (∀ k' ∈ before, k'.external ≠ k.external) ∧
    o.field = some k.external ∧ order = (k.internal, o.direction)

variable {c : SortCatalog} {o : OrderRequest}

theorem find?_eq_some_iff {name : String} {k : SortKey} : c.find? name = some k ↔
    k.external = name ∧
      ∃ before after, c = before ++ k :: after ∧ ∀ k' ∈ before, k'.external ≠ k.external := by
  rw [find?, List.find?_eq_some_iff_append]
  constructor
  · rintro ⟨hk, before, after, hc, hb⟩
    obtain rfl : k.external = name := by simpa using hk
    exact ⟨rfl, before, after, hc, fun k' hk' ↦ by simpa using hb k' hk'⟩
  · rintro ⟨rfl, before, after, hc, hb⟩
    exact ⟨by simp, before, after, hc, fun k' hk' ↦ by simpa using hb k' hk'⟩

theorem resolve_eq_ok {order : String × SortDirection} :
    c.resolve o = .ok order ↔ c.StandsFor o order := by
  unfold resolve
  constructor
  · intro h
    split at h
    next => cases h
    next name hname =>
      split at h
      next => cases h
      next k hk =>
        cases h
        obtain ⟨rfl, before, after, hc, hb⟩ := find?_eq_some_iff.1 hk
        exact ⟨before, k, after, hc, hb, hname, rfl⟩
  · rintro ⟨before, k, after, hc, hb, hname, rfl⟩
    have hk : c.find? k.external = some k := find?_eq_some_iff.2 ⟨rfl, before, after, hc, hb⟩
    simp only [hname, hk]

theorem find?_eq_none_iff {name : String} :
    c.find? name = none ↔ ∀ k ∈ c, k.external ≠ name := by
  simp [find?]

theorem resolve_eq_error {e : QueryError} :
    c.resolve o = .error e ↔ c.Faulty o ∧ e = o.fault := by
  unfold resolve Faulty OrderRequest.fault
  rcases o.field with _ | name
  · simp [eq_comm]
  · simp only [Option.mem_some_iff, forall_eq', ← find?_eq_none_iff]
    rcases c.find? name with _ | k <;> simp [eq_comm]

theorem not_faulty_of_standsFor {order : String × SortDirection} (h : c.StandsFor o order) :
    ¬c.Faulty o := by
  obtain ⟨before, k, after, rfl, -, hname, -⟩ := h
  exact fun hf ↦ hf k.external hname k (List.mem_append_right before List.mem_cons_self) rfl

variable {orders : List OrderRequest}

theorem not_faulty_of_forall₂ {os : List (String × SortDirection)}
    (h : List.Forall₂ c.StandsFor orders os) : ∀ o ∈ orders, ¬c.Faulty o := by
  have hand := h.imp fun o order ho ↦ And.intro (not_faulty_of_standsFor ho) ho
  exact ((List.forall₂_and_left _ _).1 hand).1

theorem mapM_resolve_eq_ok {os : List (String × SortDirection)} :
    orders.mapM c.resolve = .ok os ↔ List.Forall₂ c.StandsFor orders os := by
  simp only [mapM_eq_ok, resolve_eq_ok]

theorem exists_first_faulty {e : QueryError} (h : orders.mapM c.resolve = .error e) :
    ∃ before o after, orders = before ++ o :: after ∧ (∀ o' ∈ before, ¬c.Faulty o') ∧
      c.Faulty o ∧ e = o.fault := by
  obtain ⟨before, o, after, os, ho, hb, he⟩ := mapM_eq_error.1 h
  have hb : List.Forall₂ c.StandsFor before os := hb.imp fun _ _ ↦ resolve_eq_ok.1
  exact ⟨before, o, after, ho, not_faulty_of_forall₂ hb, resolve_eq_error.1 he⟩

end SortCatalog

end Listing
