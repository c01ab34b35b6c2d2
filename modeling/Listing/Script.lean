namespace Listing

inductive ScriptedFailure
  | fetch
  | decode
  | count
  deriving DecidableEq, Repr

def ScriptedFailure.ofName? : String → Option ScriptedFailure
  | "fetch" => some fetch
  | "decode" => some decode
  | "count" => some count
  | _ => none

structure Script (call : Type) where
  rows : List String := []
  total : UInt64 := 0
  failure : Option ScriptedFailure := none
  log : List call := []

def Script.record {call : Type} (x : Script call) (c : call) : Script call :=
  { x with log := x.log ++ [c] }

end Listing
