import Listing.Builder
import Listing.Request

namespace Listing

/-- A key by which clients may sort and the field it stands for. -/
structure SortKey where
  external : String
  internal : String
  deriving DecidableEq, Repr

abbrev SortCatalog := List SortKey

namespace SortCatalog

def find? (c : SortCatalog) (external : String) : Option SortKey :=
  List.find? (fun k ↦ k.external = external) c

/-- One instruction: any dashes, then the key. -/
def parseToken (s : List Char) : OrderRequest :=
  let token := Text.trimBoth s
  let field := token.dropWhile (· = '-')
  { field := if field.isEmpty then none else some (String.ofList field)
    direction := if field.length < token.length then .desc else .asc }

def parse (raw : String) : List OrderRequest :=
  (Text.piecesAt ',' (Text.trimBoth raw.toList)).map parseToken

def resolve (c : SortCatalog) (o : OrderRequest) : Except QueryError (String × SortDirection) :=
  match o.field with
  | none => .error Problem.sortFieldMissing.toError
  | some name =>
    match c.find? name with
    | none => .error (Problem.sortFieldNotValid name).toError
    | some k => .ok (k.internal, o.direction)

variable {β : Type} [ClauseBuilder β]

/-- Adds the instructions in order, once all of them are known to be allowed. -/
def applyOrders (c : SortCatalog) (q : β) (orders : List OrderRequest) : Run β Unit :=
  match orders.mapM c.resolve with
  | .error e => ⟨q, .error e⟩
  | .ok resolved => addOrders q resolved

def applyText (c : SortCatalog) (q : β) (raw : String) : Run β Unit := c.applyOrders q (parse raw)

def applyOptional (c : SortCatalog) (q : β) : Option String → Run β Unit
  | none => ⟨q, .ok ()⟩
  | some raw => if Text.isBlankText raw then ⟨q, .ok ()⟩ else c.applyText q raw

end SortCatalog

end Listing
