import Listing.Request

namespace Listing

inductive BodyMode
  | disabled
  | enabled
  | only
  deriving DecidableEq, Repr, Inhabited

namespace BodyMode

def all : List BodyMode := [disabled, enabled, only]

def name : BodyMode → String
  | disabled => "disabled"
  | enabled => "enabled"
  | only => "only"

def ofName? (s : String) : Option BodyMode := all.find? fun m ↦ m.name = s

def parse (s : String) : Except QueryError BodyMode :=
  let word := Text.lower (Text.trim s)
  if ["disabled", "off", "false"].contains word then .ok disabled
  else if ["enabled", "on", "true"].contains word then .ok enabled
  else if word = "only" then .ok only
  else .error (Problem.invalidConfiguration
    ("Unknown body mode '" ++ word ++ "', expected disabled, enabled or only")).toError

end BodyMode

structure Config where
  sortParam : String := "sort"
  limitParam : String := "limit"
  offsetParam : String := "offset"
  bodyMode : BodyMode := .disabled
  bodyMethod : String := defaultBodyMethod
  deriving DecidableEq, Repr

namespace Config

def variableName (setting value : String) : Except QueryError String :=
  if (Text.trim value).isEmpty then
    .error (Problem.invalidConfiguration (setting ++ " cannot be empty")).toError
  else .ok (Text.trim value)

def nameFrom (environment : Params) (setting fallback : String) : Except QueryError String :=
  match environment.get? setting with
  | some v => variableName setting v
  | none => .ok fallback

def ofEnvironment (environment : Params) : Except QueryError Config := do
  let sortParam ← nameFrom environment "SIEVE_SORT_PARAM" "sort"
  let limitParam ← nameFrom environment "SIEVE_LIMIT_PARAM" "limit"
  let offsetParam ← nameFrom environment "SIEVE_OFFSET_PARAM" "offset"
  let bodyMode ← match environment.get? "SIEVE_BODY_MODE" with
    | some v => BodyMode.parse v
    | none => pure .disabled
  let bodyMethod ← match environment.get? "SIEVE_BODY_METHOD" with
    | some v => (variableName "SIEVE_BODY_METHOD" v).map Text.upper
    | none => pure defaultBodyMethod
  pure { sortParam, limitParam, offsetParam, bodyMode, bodyMethod }

def withBodyMethod (c : Config) (method : String) : Config :=
  { c with bodyMethod := Text.upper method }

def isBodyMethod (c : Config) (method : String) : Bool := Text.sameLetters method c.bodyMethod

def toJson (c : Config) : Json :=
  .record [("sort_param", .text c.sortParam), ("limit_param", .text c.limitParam),
    ("offset_param", .text c.offsetParam), ("body_mode", .text c.bodyMode.name),
    ("body_method", .text c.bodyMethod)]

def keys : List String := ["sort_param", "limit_param", "offset_param", "body_mode", "body_method"]

def ofJson? (j : Json) : Option Config :=
  match Json.parts? keys j with
  | some [sort, limit, offset, mode, method] => do
    let sortParam ← Json.orDefault "sort" Json.text? sort
    let limitParam ← Json.orDefault "limit" Json.text? limit
    let offsetParam ← Json.orDefault "offset" Json.text? offset
    let bodyMode ← Json.orDefault .disabled (Json.word? BodyMode.ofName? 1) mode
    let bodyMethod ← Json.orDefault defaultBodyMethod Json.text? method
    pure { sortParam, limitParam, offsetParam, bodyMode, bodyMethod }
  | _ => none

def read? (text : String) : Option Config := (Json.read? text).bind ofJson?

end Config

end Listing
