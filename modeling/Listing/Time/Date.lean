namespace Listing.Time

def minYear : Int := -262143

def maxYear : Int := 262142

def isLeapYear (y : Int) : Bool := y % 4 == 0 && (y % 100 != 0 || y % 400 == 0)

def daysInMonth (y : Int) (m : Nat) : Nat :=
  if m = 2 then if isLeapYear y then 29 else 28
  else if m = 4 || m = 6 || m = 9 || m = 11 then 30
  else 31

def daysInYear (y : Int) : Nat := if isLeapYear y then 366 else 365

def IsDate (y : Int) (m d : Nat) : Prop :=
  minYear ≤ y ∧ y ≤ maxYear ∧ 1 ≤ m ∧ m ≤ 12 ∧ 1 ≤ d ∧ d ≤ daysInMonth y m

instance (y : Int) (m d : Nat) : Decidable (IsDate y m d) := by unfold IsDate; infer_instance

structure Date where
  year : Int
  month : Nat
  day : Nat
  isDate : IsDate year month day
  deriving DecidableEq, Repr

inductive Weekday
  | monday | tuesday | wednesday | thursday | friday | saturday | sunday
  deriving DecidableEq, Repr

namespace Weekday

def all : List Weekday := [monday, tuesday, wednesday, thursday, friday, saturday, sunday]

def index : Weekday → Nat
  | monday => 0
  | tuesday => 1
  | wednesday => 2
  | thursday => 3
  | friday => 4
  | saturday => 5
  | sunday => 6

def ofIndex (n : Nat) : Weekday :=
  match n % 7 with
  | 0 => monday
  | 1 => tuesday
  | 2 => wednesday
  | 3 => thursday
  | 4 => friday
  | 5 => saturday
  | _ => sunday

/-- How many days a weekday comes after the last `start`. -/
def daysSince (w start : Weekday) : Nat := (w.index + 7 - start.index) % 7

end Weekday

def daysBeforeYear (y : Int) : Int :=
  let p := y - 1
  365 * p + p / 4 - p / 100 + p / 400

def daysBeforeMonth (y : Int) (m : Nat) : Nat :=
  (List.range (m - 1)).foldl (fun n k ↦ n + daysInMonth y (k + 1)) 0

def epochDays : Int := 719162

/-- The days since 1970-01-01 of a day of a year; the first day of the year is day 1. -/
def dayNumber (y : Int) (ordinal : Nat) : Int := daysBeforeYear y + ordinal - 1 - epochDays

/-- The year and the day of the year of a day counted from 1970-01-01. -/
def yearAndOrdinal (n : Int) : Int × Nat :=
  let z := n + epochDays
  let era := z / 146097
  let r := (z % 146097).toNat
  let century := min (r / 36524) 3
  let r := r - century * 36524
  let four := r / 1461
  let r := r % 1461
  let one := min (r / 365) 3
  (400 * era + 100 * century + 4 * four + one + 1, r - one * 365 + 1)

def monthAndDay (y : Int) : Nat → Nat → Nat → Nat × Nat
  | 0, m, left => (m, left)
  | fuel + 1, m, left =>
    if left ≤ daysInMonth y m then (m, left)
    else monthAndDay y fuel (m + 1) (left - daysInMonth y m)

namespace Date

def of? (y : Int) (m d : Nat) : Option Date :=
  if h : IsDate y m d then some ⟨y, m, d, h⟩ else none

def ofOrdinal? (y : Int) (ordinal : Nat) : Option Date :=
  if 1 ≤ ordinal && ordinal ≤ daysInYear y then
    let (m, d) := monthAndDay y 11 1 ordinal
    of? y m d
  else none

def ofDayNumber? (n : Int) : Option Date :=
  let (y, ordinal) := yearAndOrdinal n
  ofOrdinal? y ordinal

def ordinal (d : Date) : Nat := daysBeforeMonth d.year d.month + d.day

def dayNumber (d : Date) : Int := Time.dayNumber d.year d.ordinal

def weekday (d : Date) : Weekday := .ofIndex ((d.dayNumber + 3) % 7).toNat

/-- The year and number of the ISO week: those of its Thursday. -/
def isoWeek (d : Date) : Int × Nat :=
  let (y, ordinal) := yearAndOrdinal (d.dayNumber + 3 - d.weekday.index)
  (y, (ordinal - 1) / 7 + 1)

/-- Weeks of the year so far, if each begins on `start` and the first `start` begins week 1. -/
def weeksFrom (d : Date) (start : Weekday) : Nat := (d.ordinal + 6 - d.weekday.daysSince start) / 7

def quarter (d : Date) : Nat := (d.month - 1) / 3 + 1

def ofIsoWeek? (y : Int) (week : Nat) (w : Weekday) : Option Date :=
  let fourth := Time.dayNumber y 4
  let monday := fourth - (fourth + 3) % 7
  let n := monday + 7 * ((week : Int) - 1) + w.index
  (ofDayNumber? n).filter fun d ↦ d.isoWeek == (y, week)

/-- The day `w` of a numbered week, if weeks begin on `start` and the first `start` of the year
begins week 1. The day must fall in the year. -/
def ofWeek? (y : Int) (week : Nat) (w start : Weekday) : Option Date :=
  let jan1 := Weekday.ofIndex ((Time.dayNumber y 1 + 3) % 7).toNat
  let ordinal : Int := 1 + start.daysSince jan1 + ((week : Int) - 1) * 7 + w.daysSince start
  if 1 ≤ ordinal then ofOrdinal? y ordinal.toNat else none

end Date

end Listing.Time
