import Listing.Json.Printer

namespace Listing.Json

open Number

def isSpace (c : Char) : Bool := c = ' ' || c = '\n' || c = '\t' || c = '\r'

def skipSpace (s : List Char) : List Char := s.dropWhile isSpace

/-- A piece of a string: a character, or a 16-bit unit given by its number. -/
inductive StringPiece
  | char (c : Char)
  | unit (n : Nat)
  deriving DecidableEq, Repr

def simpleEscape? : Char → Option Char
  | '"' => some '"'
  | '\\' => some '\\'
  | '/' => some '/'
  | 'b' => some (Char.ofNat 8)
  | 'f' => some (Char.ofNat 12)
  | 'n' => some '\n'
  | 'r' => some '\r'
  | 't' => some '\t'
  | _ => none

def readPieces : List Char → Option (List StringPiece × List Char)
  | [] => none
  | '"' :: r => some ([], r)
  | '\\' :: 'u' :: a :: b :: c :: d :: r => do
    let n := (← hexValue? a) * 4096 + (← hexValue? b) * 256 + (← hexValue? c) * 16 + (← hexValue? d)
    let (ps, r) ← readPieces r
    pure (.unit n :: ps, r)
  | '\\' :: c :: r => do
    let e ← simpleEscape? c
    let (ps, r) ← readPieces r
    pure (.char e :: ps, r)
  | c :: r =>
    if c.toNat < 32 || c = '\\' then none
    else do
      let (ps, r) ← readPieces r
      pure (.char c :: ps, r)

def isHighSurrogate (n : Nat) : Bool := 0xD800 ≤ n && n < 0xDC00

def isLowSurrogate (n : Nat) : Bool := 0xDC00 ≤ n && n < 0xE000

/-- The text that pieces make up; a surrogate counts only as half of a pair. -/
def assemble : List StringPiece → Option (List Char)
  | [] => some []
  | .char c :: r => (c :: ·) <$> assemble r
  | .unit n :: .unit m :: r =>
    if isHighSurrogate n then
      if isLowSurrogate m then
        (Char.ofNat (0x10000 + (n - 0xD800) * 1024 + (m - 0xDC00)) :: ·) <$> assemble r
      else none
    else if isLowSurrogate n then none
    else (Char.ofNat n :: ·) <$> assemble (.unit m :: r)
  | .unit n :: r =>
    if isHighSurrogate n || isLowSurrogate n then none else (Char.ofNat n :: ·) <$> assemble r

def readString (s : List Char) : Option (Option String × List Char) :=
  (readPieces s).map fun p ↦ ((assemble p.1).map String.ofList, p.2)

def leadingRun (s : List Char) : List Char × List Char :=
  (s.takeWhile Char.isDigit, s.dropWhile Char.isDigit)

/-- The digits before the point: a lone zero, or digits that begin with another one. -/
def readWhole : List Char → Option (List Char × List Char)
  | '0' :: r =>
    match r with
    | c :: _ => if c.isDigit then none else some (['0'], r)
    | [] => some (['0'], r)
  | s => if (leadingRun s).1.isEmpty then none else some (leadingRun s)

def readFraction : List Char → Option (Option (List Char) × List Char)
  | '.' :: r =>
    if (leadingRun r).1.isEmpty then none else some (some (leadingRun r).1, (leadingRun r).2)
  | s => some (none, s)

def readExponent : List Char → Option (Option (Bool × List Char) × List Char)
  | [] => some (none, [])
  | c :: r =>
    if c = 'e' || c = 'E' then
      let (negative, r) := match r with
        | '-' :: r => (true, r)
        | '+' :: r => (false, r)
        | r => (false, r)
      if (leadingRun r).1.isEmpty then none
      else some (some (negative, (leadingRun r).1), (leadingRun r).2)
    else some (none, c :: r)

def readLiteral (s : List Char) : Option (JsonLiteral × List Char) := do
  let (negative, s) := match s with
    | '-' :: r => (true, r)
    | r => (false, r)
  let (whole, s) ← readWhole s
  let (fraction, s) ← readFraction s
  let (exponent, s) ← readExponent s
  pure (⟨negative, whole, fraction, exponent⟩, s)

def afterWord? (word : String) (s : List Char) : Option (List Char) :=
  if word.toList.isPrefixOf s then some (s.drop word.toList.length) else none

def readScalar (s : List Char) : Option (Json × List Char) :=
  match s with
  | '"' :: r => (readString r).map fun p ↦ (.string p.1, p.2)
  | 'n' :: _ => (afterWord? "null" s).map fun r ↦ (.null, r)
  | 't' :: _ => (afterWord? "true" s).map fun r ↦ (.bool true, r)
  | 'f' :: _ => (afterWord? "false" s).map fun r ↦ (.bool false, r)
  | _ => (readLiteral s).map fun p ↦ (.number p.1, p.2)

def readKey (s : List Char) : Option (Option String × List Char) :=
  match skipSpace s with
  | '"' :: r => do
    let (k, r) ← readString r
    match skipSpace r with
    | ':' :: r => some (k, r)
    | _ => none
  | _ => none

mutual

/-- A value at the start of a text and what follows it. The number bounds the steps taken. -/
def readValue : Nat → List Char → Option (Json × List Char)
  | 0, _ => none
  | fuel + 1, s =>
    match skipSpace s with
    | '[' :: r =>
      match skipSpace r with
      | ']' :: r => some (.array [], r)
      | r => (readItems fuel r).map fun p ↦ (.array p.1, p.2)
    | '\x7b' :: r =>
      match skipSpace r with
      | '\x7d' :: r => some (.object [], r)
      | r => (readMembers fuel r).map fun p ↦ (.object p.1, p.2)
    | s => readScalar s

def readItems : Nat → List Char → Option (List Json × List Char)
  | 0, _ => none
  | fuel + 1, s => do
    let (v, r) ← readValue fuel s
    match skipSpace r with
    | ',' :: r => do
      let (vs, r) ← readItems fuel r
      pure (v :: vs, r)
    | ']' :: r => pure ([v], r)
    | _ => none

def readMembers : Nat → List Char → Option (List (Option String × Json) × List Char)
  | 0, _ => none
  | fuel + 1, s => do
    let (k, r) ← readKey s
    let (v, r) ← readValue fuel r
    match skipSpace r with
    | ',' :: r => do
      let (ms, r) ← readMembers fuel r
      pure ((k, v) :: ms, r)
    | '\x7d' :: r => pure ([(k, v)], r)
    | _ => none

end

def read? (s : String) : Option Json := do
  let (v, r) ← readValue (s.toList.length + 1) s.toList
  if (skipSpace r).isEmpty then some v else none

end Listing.Json
