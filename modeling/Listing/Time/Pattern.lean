import Listing.Text.Blank
import Listing.Number.Decimal

namespace Listing.Time

open Listing.Text

inductive NumericField
  | year
  | century
  | yearOfCentury
  | isoYear
  | isoYearOfCentury
  | quarter
  | month
  | day
  | weekFromSunday
  | weekFromMonday
  | isoWeek
  | weekdayFromSunday
  | weekdayFromMonday
  | dayOfYear
  | hour
  | hourOfHalf
  | minute
  | second
  | nanosecond
  | timestamp
  deriving DecidableEq, Repr

structure OffsetStyle where
  zulu : Bool
  word : Bool
  /-- Minutes may be left out. -/
  hoursOnly : Bool
  /-- A single colon must part hours and minutes; otherwise any colons and blanks may. -/
  oneColon : Bool
  deriving DecidableEq, Repr

inductive PatternItem
  | blanks
  | literal (text : List Char)
  | number (field : NumericField)
  | exactNumber (field : NumericField) (width : Nat)
  /-- A month, by the first three letters of its name or, if `long`, also by the name. -/
  | monthName (long : Bool)
  | weekdayName (long : Bool)
  | halfOfDay
  | fraction
  /-- A point and exactly so many digits, or nothing. -/
  | fixedFraction (width : Nat)
  | fractionDigits (width : Nat)
  | zoneName
  | offset (style : OffsetStyle)
  | timeMark
  deriving DecidableEq, Repr

namespace PatternItem

def plainOffset : PatternItem := .offset ⟨false, false, false, false⟩

def monthDayYear : List PatternItem :=
  [.number .month, .literal ['/'], .number .day, .literal ['/'], .number .yearOfCentury]

def yearMonthDay : List PatternItem :=
  [.number .year, .literal ['-'], .number .month, .literal ['-'], .number .day]

def hourMinute : List PatternItem := [.number .hour, .literal [':'], .number .minute]

def clock : List PatternItem := hourMinute ++ [.literal [':'], .number .second]

def halfDayClock : List PatternItem :=
  [.number .hourOfHalf, .literal [':'], .number .minute, .literal [':'], .number .second,
    .blanks, .halfOfDay]

def fullStamp : List PatternItem :=
  [.weekdayName false, .blanks, .monthName false, .blanks, .number .day, .blanks] ++ clock ++
    [.blanks, .number .year]

/-- A moment with its offset, blanks before the marks being allowed. -/
def looseMoment : List PatternItem :=
  [.number .year, .blanks, .literal ['-'], .number .month, .blanks, .literal ['-'], .number .day,
    .timeMark, .number .hour, .blanks, .literal [':'], .number .minute, .blanks, .literal [':'],
    .number .second, .fraction, .blanks, .offset ⟨true, true, false, false⟩]

def strictMoment : List PatternItem :=
  [.exactNumber .year 4, .literal ['-'], .exactNumber .month 2, .literal ['-'],
    .exactNumber .day 2, .timeMark, .exactNumber .hour 2, .literal [':'], .exactNumber .minute 2,
    .literal [':'], .exactNumber .second 2, .fraction, .offset ⟨true, false, false, true⟩]

def ofLetter? : Char → Option (List PatternItem)
  | 'A' => some [.weekdayName true]
  | 'B' => some [.monthName true]
  | 'C' => some [.number .century]
  | 'D' => some monthDayYear
  | 'F' => some yearMonthDay
  | 'G' => some [.number .isoYear]
  | 'H' => some [.number .hour]
  | 'I' => some [.number .hourOfHalf]
  | 'M' => some [.number .minute]
  | 'P' => some [.halfOfDay]
  | 'R' => some hourMinute
  | 'S' => some [.number .second]
  | 'T' => some clock
  | 'U' => some [.number .weekFromSunday]
  | 'V' => some [.number .isoWeek]
  | 'W' => some [.number .weekFromMonday]
  | 'X' => some clock
  | 'Y' => some [.number .year]
  | 'Z' => some [.zoneName]
  | 'a' => some [.weekdayName false]
  | 'b' => some [.monthName false]
  | 'c' => some fullStamp
  | 'd' => some [.number .day]
  | 'e' => some [.number .day]
  | 'f' => some [.number .nanosecond]
  | 'g' => some [.number .isoYearOfCentury]
  | 'h' => some [.monthName false]
  | 'j' => some [.number .dayOfYear]
  | 'k' => some [.number .hour]
  | 'l' => some [.number .hourOfHalf]
  | 'm' => some [.number .month]
  | 'n' => some [.blanks]
  | 'p' => some [.halfOfDay]
  | 'q' => some [.number .quarter]
  | 'r' => some halfDayClock
  | 's' => some [.number .timestamp]
  | 't' => some [.blanks]
  | 'u' => some [.number .weekdayFromMonday]
  | 'v' => some [.number .day, .literal ['-'], .monthName false, .literal ['-'], .number .year]
  | 'w' => some [.number .weekdayFromSunday]
  | 'x' => some monthDayYear
  | 'y' => some [.number .yearOfCentury]
  | 'z' => some [plainOffset]
  | '+' => some looseMoment
  | '%' => some [.literal ['%']]
  | _ => none

/-- The items of one directive, read after its percent sign, and the rest of the pattern. A
padding mark may stand only before a directive that is a single number. -/
def directive? : List Char → Option (List PatternItem × List Char)
  | '#' :: 'z' :: r => some ([.offset ⟨true, false, true, false⟩], r)
  | ':' :: 'z' :: r => some ([plainOffset], r)
  | ':' :: ':' :: 'z' :: r => some ([plainOffset], r)
  | ':' :: ':' :: ':' :: 'z' :: r => some ([plainOffset], r)
  | '.' :: 'f' :: r => some ([.fraction], r)
  | '.' :: '3' :: 'f' :: r => some ([.fixedFraction 3], r)
  | '.' :: '6' :: 'f' :: r => some ([.fixedFraction 6], r)
  | '.' :: '9' :: 'f' :: r => some ([.fixedFraction 9], r)
  | '3' :: 'f' :: r => some ([.fractionDigits 3], r)
  | '6' :: 'f' :: r => some ([.fractionDigits 6], r)
  | '9' :: 'f' :: r => some ([.fractionDigits 9], r)
  | [] => none
  | c :: r =>
    if c = '-' || c = '0' || c = '_' then
      match r with
      | [] => none
      | d :: r => match ofLetter? d with
        | some [.number field] => some ([.number field], r)
        | _ => none
    else (ofLetter? c).map fun items ↦ (items, r)

def readAll? : Nat → List Char → Option (List PatternItem)
  | _, [] => some []
  | 0, _ => none
  | fuel + 1, '%' :: r => do
    let (items, rest) ← directive? r
    (items ++ ·) <$> readAll? fuel rest
  | fuel + 1, c :: r =>
    if isBlank c then (.blanks :: ·) <$> readAll? fuel r
    else (.literal [c] :: ·) <$> readAll? fuel r

end PatternItem

def patternItems? (pattern : String) : Option (List PatternItem) :=
  PatternItem.readAll? pattern.toList.length pattern.toList

end Listing.Time
