import Listing.Time.Fields
import Listing.Text.Case

namespace Listing.Time

open Listing.Text Listing.Number

def leadingNumber? (least most : Nat) (s : List Char) : Option (Nat × List Char) :=
  let ds := (s.take most).takeWhile Char.isDigit
  if least ≤ ds.length && fitsSigned 64 (ofDigits ds) then some (ofDigits ds, s.drop ds.length) else none

def NumericField.width : NumericField → List Char → Nat
  | .year, _ => 4
  | .isoYear, _ => 4
  | .quarter, _ => 1
  | .weekdayFromSunday, _ => 1
  | .weekdayFromMonday, _ => 1
  | .dayOfYear, _ => 3
  | .nanosecond, _ => 9
  | .timestamp, s => s.length
  | _, _ => 2

def NumericField.isSigned : NumericField → Bool
  | .year => true
  | .isoYear => true
  | _ => false

/-- A number after any blanks. A year with a sign may have any count of digits. -/
def readNumber? (field : NumericField) (s : List Char) : Option (Int × List Char) :=
  let s := trimStart s
  match field.isSigned, s with
  | true, '-' :: r => (leadingNumber? 1 r.length r).map fun p ↦ (-(p.1 : Int), p.2)
  | true, '+' :: r => (leadingNumber? 1 r.length r).map fun p ↦ ((p.1 : Int), p.2)
  | _, s => (leadingNumber? 1 (field.width s) s).map fun p ↦ ((p.1 : Int), p.2)

def dropWord? (word : String) (s : List Char) : Option (List Char) :=
  let n := word.toList.length
  if (s.take n).map asciiLower = word.toList then some (s.drop n) else none

/-- The index of the first name whose short form starts the text. With `long`, the other letters
of the name are taken too if they follow. -/
def readName? (names : List (String × String)) (long : Bool) (s : List Char) :
    Option (Nat × List Char) :=
  match names.zipIdx.findSome? fun p ↦ (dropWord? p.1.1 s).map fun r ↦ (p.2, p.1.2, r) with
  | none => none
  | some (n, ending, r) => some (n, if long then (dropWord? ending r).getD r else r)

def monthNames : List (String × String) :=
  [("jan", "uary"), ("feb", "ruary"), ("mar", "ch"), ("apr", "il"), ("may", ""), ("jun", "e"),
    ("jul", "y"), ("aug", "ust"), ("sep", "tember"), ("oct", "ober"), ("nov", "ember"),
    ("dec", "ember")]

def weekdayNames : List (String × String) :=
  [("mon", "day"), ("tue", "sday"), ("wed", "nesday"), ("thu", "rsday"), ("fri", "day"),
    ("sat", "urday"), ("sun", "day")]

/-- Up to nine digits as a fraction of a billion; further digits are passed over. -/
def readFraction? (s : List Char) : Option (Nat × List Char) :=
  (leadingNumber? 1 9 s).map fun p ↦
    (p.1 * Nat.pow 10 (9 - (s.length - p.2.length)), p.2.dropWhile Char.isDigit)

def readFixedFraction? (width : Nat) (s : List Char) : Option (Nat × List Char) :=
  (leadingNumber? width width s).map fun p ↦ (p.1 * Nat.pow 10 (9 - width), p.2)

def readSignedOffset? (style : OffsetStyle) (s : List Char) : Option (Int × List Char) := do
  let (negative, s) ← match s with
    | '+' :: r => some (false, r)
    | '-' :: r => some (true, r)
    | '−' :: r => some (true, r)
    | _ => none
  let (hours, s) ← leadingNumber? 2 2 s
  let s ← if style.oneColon then (match s with
      | ':' :: r => some r
      | _ => none)
    else some (s.dropWhile fun c ↦ c = ':' || isBlank c)
  let (minutes, s) ← if style.hoursOnly && s.isEmpty then some (0, s) else leadingNumber? 2 2 s
  if minutes < 60 then
    let seconds : Int := hours * 3600 + minutes * 60
    some (if negative then -seconds else seconds, s)
  else none

def readOffset? (style : OffsetStyle) (s : List Char) : Option (Int × List Char) :=
  let zulu := match s with
    | c :: r => if style.zulu && (c = 'Z' || c = 'z') then some r else none
    | [] => none
  let word := if style.word then dropWord? "utc" s else none
  match word, zulu with
  | some r, _ => some (0, r)
  | none, some r => some (0, r)
  | none, none => readSignedOffset? style s

def PatternItem.read? (f : Fields) (s : List Char) : PatternItem → Option (Fields × List Char)
  | .blanks => some (f, trimStart s)
  | .literal text => if text.isPrefixOf s then some (f, s.drop text.length) else none
  | .number field => do
    let (n, s) ← readNumber? field s
    pure (← f.set? field n, s)
  | .exactNumber field width => do
    let (n, s) ← leadingNumber? width width s
    pure (← f.set? field n, s)
  | .monthName long => do
    let (n, s) ← readName? monthNames long s
    pure (← f.setMonth? (n + 1 : Nat), s)
  | .weekdayName long => do
    let (n, s) ← readName? weekdayNames long s
    pure (← f.setWeekday? (.ofIndex n), s)
  | .halfOfDay => do
    let (n, s) ← readName? [("am", ""), ("pm", "")] false s
    pure (← f.setHalf? n, s)
  | .fraction => match s with
    | '.' :: s => do
      let (n, s) ← readFraction? s
      pure (← f.setNanosecond? n, s)
    | s => some (f, s)
  | .fixedFraction width => match s with
    | '.' :: s => do
      let (n, s) ← readFixedFraction? width s
      pure (← f.setNanosecond? n, s)
    | s => some (f, s)
  | .fractionDigits width => do
    let (n, s) ← readFixedFraction? width s
    pure (← f.setNanosecond? n, s)
  | .zoneName => some (f, s.dropWhile fun c ↦ !isBlank c)
  | .offset style => do
    let (n, s) ← readOffset? style (if style.oneColon then s else trimStart s)
    pure (← f.setOffset? n, s)
  | .timeMark => match s with
    | c :: s => if c = 'T' || c = 't' || c = ' ' then some (f, s) else none
    | [] => none

/-- The parts of a text that consists of the items, one after another, and of nothing else. -/
def readFields? : Fields → List PatternItem → List Char → Option Fields
  | f, [], s => if s.isEmpty then some f else none
  | f, item :: items, s =>
    match item.read? f s with
    | some (f, s) => readFields? f items s
    | none => none

def fieldsOf? (pattern text : String) : Option Fields := do
  readFields? {} (← patternItems? pattern) text.toList

def Date.ofText? (pattern text : String) : Option Date := do (← fieldsOf? pattern text).date.toOption

/-- The date and time that a text gives by a pattern; an offset in it is passed over. -/
def DateTime.ofText? (pattern text : String) : Option DateTime := do
  (← fieldsOf? pattern text).dateTime? 0

/-- The moment of an internet timestamp, such as `2024-05-06T07:08:09.5+02:00`. -/
def Moment.ofText? (text : String) : Option Moment := do
  let f ← readFields? {} PatternItem.strictMoment text.toList
  let east ← f.offset
  if -86340 ≤ east && east ≤ 86340 then
    let t ← f.dateTime? east
    Moment.mk <$> t.addSeconds? (-east)
  else none

end Listing.Time
