import Listing.Request

namespace Listing

inductive LogLevel
  | trace
  | debug
  | info
  | warn
  | error
  deriving DecidableEq, Repr

inductive LogFormat
  | json
  | pretty
  | compact
  deriving DecidableEq, Repr

namespace LogLevel

def name : LogLevel → String
  | trace => "trace"
  | debug => "debug"
  | info => "info"
  | warn => "warn"
  | error => "error"

def all : List LogLevel := [trace, debug, info, warn, error]

def ofName? (s : String) : Option LogLevel := all.find? fun l ↦ l.name = s

def parse (s : String) : Except String LogLevel :=
  let word := Text.lower (Text.trim s)
  if word = "warning" then .ok warn
  else match ofName? word with
    | some l => .ok l
    | none => .error ("unknown log level '" ++ word ++ "'")

end LogLevel

namespace LogFormat

def name : LogFormat → String
  | json => "json"
  | pretty => "pretty"
  | compact => "compact"

def all : List LogFormat := [json, pretty, compact]

def ofName? (s : String) : Option LogFormat := all.find? fun f ↦ f.name = s

def parse (s : String) : Except String LogFormat :=
  let word := Text.lower (Text.trim s)
  match ofName? word with
  | some f => .ok f
  | none => .error ("unknown log format '" ++ word ++ "'")

end LogFormat

structure LogSettings where
  level : LogLevel
  format : LogFormat := .json
  deriving DecidableEq, Repr

namespace LogSettings

def isDebug (environment : Params) : Bool :=
  match environment.get? "SIEVE_DEBUG" with
  | some v => ["true", "1", "yes"].contains (Text.lower (Text.trim v))
  | none => false

def defaultLevel : Bool → LogLevel
  | true => .debug
  | false => .warn

/-- The settings that environment variables describe; without a level and without the debug
switch nothing is logged. A level or format that is not understood is passed over. -/
def ofEnvironment? (environment : Params) : Option LogSettings :=
  let given := environment.get? "SIEVE_LOG_LEVEL"
  if !isDebug environment && given.isNone then none
  else some {
    level := (given.bind fun s ↦ (LogLevel.parse s).toOption).getD
      (defaultLevel (isDebug environment))
    format :=
      ((environment.get? "SIEVE_LOG_FORMAT").bind fun s ↦ (LogFormat.parse s).toOption).getD .json }

def targets : List String := ["sieve", "sieve_query", "sieve_sql", "sieve_mongodb"]

def directives (s : LogSettings) : String :=
  Text.join "," (targets.map fun t ↦ t ++ "=" ++ s.level.name)

end LogSettings

end Listing
