import Listing.Body
import Listing.Error

namespace Listing

/-- Named texts; of several with one name the first counts. -/
abbrev Params := List (String × String)

def Params.insert (p : Params) (name value : String) : Params := (name, value) :: p

def Params.get? (p : Params) (name : String) : Option String := p.lookup name

def Body.parse (text : String) : Except QueryError Body :=
  match Body.read? text with
  | some b => .ok b
  | none => .error ((Problem.invalidBody "not a filter request").toError.withOrigin .json)

def defaultBodyMethod : String := "POST"

/-- What is asked of a request: the texts of its parameters, its method and its body. -/
structure RequestSource where
  param : String → Option String
  method : String
  body : Except QueryError Body

/-- A request that is kept in memory. -/
structure Request where
  params : Params := []
  method : String
  bodyText : Option String := none

namespace Request

def ofMethod (method : String) : Request := { method := Text.upper method }

def get : Request := ofMethod "GET"

def post (text : String) : Request := { ofMethod defaultBodyMethod with bodyText := some text }

def postBody (b : Body) : Request := post b.print

def body (r : Request) : Except QueryError Body :=
  match r.bodyText with
  | some text => Body.parse text
  | none => .ok {}

def source (r : Request) : RequestSource where
  param := r.params.get?
  method := r.method
  body := r.body

instance : Coe Request RequestSource := ⟨source⟩

end Request

end Listing
