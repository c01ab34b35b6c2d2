import Listing.Number.Decimal
import Listing.Time.Instant

namespace Listing.Time

open Listing.Number

def yearDigits (y : Int) : List Char :=
  if 0 ≤ y && y ≤ 9999 then paddedDigits 4 y.toNat
  else (if y < 0 then '-' else '+') :: paddedDigits 4 y.natAbs

def Date.chars (d : Date) : List Char :=
  yearDigits d.year ++ '-' :: paddedDigits 2 d.month ++ '-' :: paddedDigits 2 d.day

def Date.text (d : Date) : String := String.ofList d.chars

def fractionDigits (nano : Nat) : List Char :=
  if nano = 0 then []
  else if nano % 1000000 = 0 then '.' :: paddedDigits 3 (nano / 1000000)
  else if nano % 1000 = 0 then '.' :: paddedDigits 6 (nano / 1000)
  else '.' :: paddedDigits 9 nano

/-- A leap second is written as second 60. -/
def Clock.chars (t : Clock) : List Char :=
  let (second, nano) :=
    if billion ≤ t.nano then (t.second + 1, t.nano - billion) else (t.second, t.nano)
  paddedDigits 2 t.hour ++ ':' :: paddedDigits 2 t.minute ++ ':' :: paddedDigits 2 second ++
    fractionDigits nano

def DateTime.text (separator : Char) (t : DateTime) : String :=
  String.ofList (t.date.chars ++ separator :: t.time.chars)

def Moment.text (zone : String) (t : Moment) : String := t.universal.text 'T' ++ zone

end Listing.Time
