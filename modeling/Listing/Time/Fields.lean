import Listing.Number.Decimal
import Listing.Time.Instant
import Listing.Time.Pattern

namespace Listing.Time

open Listing.Number (fitsSigned)

structure Fields where
  year : Option Int := none
  century : Option Nat := none
  yearOfCentury : Option Nat := none
  isoYear : Option Int := none
  isoYearOfCentury : Option Nat := none
  quarter : Option Nat := none
  month : Option Nat := none
  day : Option Nat := none
  weekFromSunday : Option Nat := none
  weekFromMonday : Option Nat := none
  isoWeek : Option Nat := none
  weekday : Option Weekday := none
  dayOfYear : Option Nat := none
  half : Option Nat := none
  hourOfHalf : Option Nat := none
  minute : Option Nat := none
  second : Option Nat := none
  nanosecond : Option Nat := none
  timestamp : Option Int := none
  offset : Option Int := none
  deriving DecidableEq, Repr

inductive Undetermined
  | notEnough
  | outOfRange
  | impossible
  deriving DecidableEq, Repr

/-- A part that was read before keeps its value. -/
def agree? {α : Type} [DecidableEq α] (old : Option α) (new : α) : Option (Option α) :=
  match old with
  | none => some (some new)
  | some a => if a = new then some (some a) else none

def within? (lo hi : Nat) (n : Int) : Option Nat :=
  if (lo : Int) ≤ n && n ≤ (hi : Int) then some n.toNat else none

namespace Fields

def setYear? (f : Fields) (n : Int) : Option Fields :=
  if fitsSigned 32 n then (agree? f.year n).map fun v ↦ { f with year := v } else none

def setHour? (f : Fields) (n : Int) : Option Fields := do
  let h ← within? 0 23 n
  let half ← agree? f.half (h / 12)
  let hourOfHalf ← agree? f.hourOfHalf (h % 12)
  pure { f with half, hourOfHalf }

def setWeekday? (f : Fields) (w : Weekday) : Option Fields :=
  (agree? f.weekday w).map fun v ↦ { f with weekday := v }

def setMonth? (f : Fields) (n : Int) : Option Fields := do
  pure { f with month := ← agree? f.month (← within? 1 12 n) }

def setHalf? (f : Fields) (n : Nat) : Option Fields := do
  pure { f with half := ← agree? f.half n }

def setNanosecond? (f : Fields) (n : Int) : Option Fields := do
  pure { f with nanosecond := ← agree? f.nanosecond (← within? 0 999999999 n) }

def setOffset? (f : Fields) (n : Int) : Option Fields := do
  pure { f with offset := ← agree? f.offset n }

/-- Adds a part, unless its number is out of range or it was read before with another. -/
def set? (f : Fields) (field : NumericField) (n : Int) : Option Fields :=
  match field with
  | .year => f.setYear? n
  | .century => do
    pure { f with century := ← agree? f.century (← within? 0 0x7FFFFFFF n) }
  | .yearOfCentury => do
    pure { f with yearOfCentury := ← agree? f.yearOfCentury (← within? 0 99 n) }
  | .isoYear =>
    if fitsSigned 32 n then (agree? f.isoYear n).map fun v ↦ { f with isoYear := v } else none
  | .isoYearOfCentury => do
    pure { f with isoYearOfCentury := ← agree? f.isoYearOfCentury (← within? 0 99 n) }
  | .quarter => do pure { f with quarter := ← agree? f.quarter (← within? 1 4 n) }
  | .month => f.setMonth? n
  | .day => do pure { f with day := ← agree? f.day (← within? 1 31 n) }
  | .weekFromSunday => do
    pure { f with weekFromSunday := ← agree? f.weekFromSunday (← within? 0 53 n) }
  | .weekFromMonday => do
    pure { f with weekFromMonday := ← agree? f.weekFromMonday (← within? 0 53 n) }
  | .isoWeek => do pure { f with isoWeek := ← agree? f.isoWeek (← within? 1 53 n) }
  | .weekdayFromSunday => do f.setWeekday? (.ofIndex ((← within? 0 6 n) + 6))
  | .weekdayFromMonday => do f.setWeekday? (.ofIndex ((← within? 1 7 n) - 1))
  | .dayOfYear => do pure { f with dayOfYear := ← agree? f.dayOfYear (← within? 1 366 n) }
  | .hour => f.setHour? n
  | .hourOfHalf => do
    pure { f with hourOfHalf := ← agree? f.hourOfHalf ((← within? 1 12 n) % 12) }
  | .minute => do pure { f with minute := ← agree? f.minute (← within? 0 59 n) }
  | .second => do pure { f with second := ← agree? f.second (← within? 0 60 n) }
  | .nanosecond => f.setNanosecond? n
  | .timestamp => (agree? f.timestamp n).map fun v ↦ { f with timestamp := v }

/-- The year that a full year, a century and a year of a century give together. Two digits alone
mean a year from 1970 to 2069; a century alone means no year. -/
def resolveYear (year : Option Int) (century yearOfCentury : Option Nat) :
    Except Undetermined (Option Int) :=
  match year, century, yearOfCentury with
  | y, none, none => .ok y
  | some y, c, r =>
    if y < 0 then .error .impossible
    else
      let n := y.toNat
      if c.getD (n / 100) = n / 100 && r.getD (n % 100) = n % 100 then .ok (some y)
      else .error .impossible
  | none, some c, some r =>
    if fitsSigned 32 (c * 100 + r : Nat) then .ok (some (c * 100 + r : Nat)) else .error .outOfRange
  | none, none, some r => .ok (some (if r < 70 then 2000 + r else 1900 + r : Nat))
  | none, some _, none => .error .notEnough

def isOrUnread {α : Type} [DecidableEq α] (read : Option α) (actual : α) : Bool :=
  read.all fun a ↦ a = actual

def isYearPart (read : Option Nat) (y : Int) (part : Nat → Nat) : Bool :=
  read.all fun a ↦ 0 ≤ y && a = part y.toNat

def fitsCalendar (f : Fields) (d : Date) : Bool :=
  isOrUnread f.year d.year && isYearPart f.century d.year (· / 100) &&
    isYearPart f.yearOfCentury d.year (· % 100) && isOrUnread f.month d.month &&
    isOrUnread f.day d.day

def fitsIsoWeek (f : Fields) (d : Date) : Bool :=
  isOrUnread f.isoYear d.isoWeek.1 && isYearPart f.isoYearOfCentury d.isoWeek.1 (· % 100) &&
    isOrUnread f.isoWeek d.isoWeek.2 && isOrUnread f.weekday d.weekday

def fitsOrdinal (f : Fields) (d : Date) : Bool :=
  isOrUnread f.dayOfYear d.ordinal && isOrUnread f.weekFromSunday (d.weeksFrom .sunday) &&
    isOrUnread f.weekFromMonday (d.weeksFrom .monday)

/-- The ways in which parts name a day, the first that has its parts being taken. -/
def candidate (f : Fields) (year isoYear : Option Int) : Except Undetermined Date :=
  let ofRange (e : Undetermined) (d : Option Date) : Except Undetermined Date :=
    match d with
    | some d => .ok d
    | none => .error e
  let byIsoWeek : Except Undetermined Date :=
    match isoYear, f.isoWeek, f.weekday with
    | some y, some week, some w => ofRange .outOfRange (Date.ofIsoWeek? y week w)
    | _, _, _ => .error .notEnough
  match year with
  | none => byIsoWeek
  | some y =>
    let ofWeek (week : Nat) (w start : Weekday) : Except Undetermined Date :=
      if minYear ≤ y && y ≤ maxYear then ofRange .impossible (Date.ofWeek? y week w start)
      else .error .outOfRange
    match f.month, f.day, f.dayOfYear, f.weekFromSunday, f.weekFromMonday, f.weekday with
    | some m, some d, _, _, _, _ => ofRange .outOfRange (Date.of? y m d)
    | _, _, some n, _, _, _ => ofRange .outOfRange (Date.ofOrdinal? y n)
    | _, _, _, some week, _, some w => ofWeek week w .sunday
    | _, _, _, _, some week, some w => ofWeek week w .monday
    | _, _, _, _, _, _ => byIsoWeek

def date (f : Fields) : Except Undetermined Date := do
  let year ← resolveYear f.year f.century f.yearOfCentury
  let isoYear ← resolveYear f.isoYear none f.isoYearOfCentury
  let d ← f.candidate year isoYear
  if f.fitsCalendar d && f.fitsIsoWeek d && f.fitsOrdinal d && isOrUnread f.quarter d.quarter then
    pure d
  else throw .impossible

/-- The time of day; the minute is needed, a missing second is zero and second 60 is a leap
second. -/
def time (f : Fields) : Except Undetermined Clock := do
  match f.half, f.hourOfHalf, f.minute with
  | some half, some hour, some minute =>
    let nano ← match f.nanosecond, f.second with
      | none, _ => pure 0
      | some n, some _ => pure n
      | some _, none => throw .notEnough
    let second := f.second.getD 0
    let clock := if second = 60 then Clock.of? (half * 12 + hour) minute 59 (billion + nano)
      else Clock.of? (half * 12 + hour) minute second nano
    match clock with
    | some t => pure t
    | none => throw .outOfRange
  | _, _, _ => throw .notEnough

def completed (f : Fields) (timestamp : Int) : Option Fields := do
  let t ← DateTime.ofSeconds? timestamp 0
  let t ← if f.second = some 60 then
      if t.time.second = 59 then some t
      else if t.time.second = 0 then t.addSeconds? (-1)
      else none
    else some t
  let f ← if f.second = some 60 then some f else f.set? .second t.time.second
  let f ← f.setYear? t.date.year
  let f ← f.set? .dayOfYear t.date.ordinal
  let f ← f.setHour? t.time.hour
  f.set? .minute t.time.minute

/-- The date and time that the parts determine, if `east` seconds are added to universal time.
A count of seconds since 1970 must fit them or, if they are not enough, completes them. -/
def dateTime? (f : Fields) (east : Int) : Option DateTime :=
  match f.date, f.time, f.timestamp with
  | .ok d, .ok t, none => some ⟨d, t⟩
  | .ok d, .ok t, some given =>
    let actual := (DateTime.mk d t).seconds - east
    if given = actual || (billion ≤ t.nano && given = actual + 1) then some ⟨d, t⟩ else none
  | _, _, none => none
  | d, t, some given =>
    if (d matches .error .outOfRange) || (t matches .error .outOfRange) ||
        (d matches .error .impossible) || (t matches .error .impossible) then none
    else do
      let f ← f.completed (given + east)
      match f.date, f.time with
      | .ok d, .ok t => some ⟨d, t⟩
      | _, _ => none

end Fields

end Listing.Time
