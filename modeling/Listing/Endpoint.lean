import Listing.Catalog.Filters
import Listing.Catalog.Sorts
import Listing.Config

namespace Listing

inductive InputSource
  | params
  | body
  | request
  | nothing
  deriving DecidableEq, Repr

def InputSource.name : InputSource → String
  | params => "params"
  | body => "body"
  | request => "request"
  | nothing => "nothing"

structure Endpoint (β : Type) where
  builder : β
  filters : FilterCatalog := []
  sorts : SortCatalog := []
  config : Config := {}
  request : Option RequestSource := none
  params : Option Params := none

namespace Endpoint

variable {β row conditions : Type}

def withParam (e : Endpoint β) (name value : String) : Endpoint β :=
  { e with params := some ((e.params.getD []).insert name value) }

def inputSource (e : Endpoint β) : Except QueryError InputSource :=
  if e.params.isSome then .ok .params
  else
    match e.config.bodyMode, e.request with
    | .disabled, some _ => .ok .request
    | .disabled, none => .ok .nothing
    | .enabled, some r => .ok (if e.config.isBodyMethod r.method then .body else .request)
    | .enabled, none => .ok .nothing
    | .only, some r =>
      if e.config.isBodyMethod r.method then .ok .body
      else .error (Problem.bodyRequired r.method).toError
    | .only, none => .error (Problem.bodyRequired "missing").toError

variable [ClauseBuilder β]

def applyNamed (e : Endpoint β) (lookup : String → Option String) : Run β Unit :=
  (e.filters.applyLookup e.builder lookup).andThen fun q _ ↦
    e.sorts.applyOptional q (lookup e.config.sortParam)

def applyBody (e : Endpoint β) (b : Body) : Run β Unit :=
  (e.filters.applyBody e.builder b.filters).andThen fun q _ ↦ e.sorts.applyOrders q b.sorts

def apply (e : Endpoint β) : Run β Unit :=
  match e.inputSource with
  | .error err => ⟨e.builder, .error err⟩
  | .ok .params => e.applyNamed fun name ↦ e.params.bind fun p ↦ p.get? name
  | .ok .request => e.applyNamed fun name ↦ e.request.bind fun r ↦ r.param name
  | .ok .nothing => ⟨e.builder, .ok ()⟩
  | .ok .body =>
    match (e.request.map RequestSource.body).getD (.ok {}) with
    | .error err => ⟨e.builder, .error err⟩
    | .ok b => e.applyBody b

/-- A number among the explicit parameters, which wins over `fallback` if it can be read. -/
def override {α : Type} (e : Endpoint β) (read? : List Char → Option α) (name : String)
    (fallback : α) : α :=
  match (e.params.bind fun p ↦ p.get? name).bind fun raw ↦ read? (Text.trimBoth raw.toList) with
  | some n => n
  | none => fallback

end Endpoint

namespace Endpoint

variable {β row conditions : Type} [QueryBuilder β row conditions]

def get (e : Endpoint β) : Run β (List row) := e.apply.andThen fun q _ ↦ QueryBuilder.get q

def page (e : Endpoint β) (limit : UInt32) (offset : UInt64) : Run β (Page row) :=
  e.apply.andThen fun q _ ↦
    QueryBuilder.page q (e.override Number.uint32? e.config.limitParam limit)
      (e.override Number.uint64? e.config.offsetParam offset)

def firstPage (e : Endpoint β) (limit : UInt32) : Run β (Page row) := e.page limit 0

def findFirst (e : Endpoint β) : Run β (Option row) :=
  e.apply.andThen fun q _ ↦ QueryBuilder.findFirst q

end Endpoint

end Listing
