import Listing.Time.Date

namespace Listing.Time

def billion : Nat := 1000000000

def IsClock (h m s n : Nat) : Prop :=
  h < 24 ∧ m < 60 ∧ s < 60 ∧ (n < billion ∨ s = 59 ∧ n < 2 * billion)

instance (h m s n : Nat) : Decidable (IsClock h m s n) := by unfold IsClock; infer_instance

structure Clock where
  hour : Nat
  minute : Nat
  second : Nat
  nano : Nat
  isClock : IsClock hour minute second nano
  deriving DecidableEq, Repr

structure DateTime where
  date : Date
  time : Clock
  deriving DecidableEq, Repr

/-- A moment, as the date and time that universal time shows then. -/
structure Moment where
  universal : DateTime
  deriving DecidableEq, Repr

namespace Clock

def of? (h m s n : Nat) : Option Clock :=
  if isClock : IsClock h m s n then some { hour := h, minute := m, second := s, nano := n, isClock } else none

def secondOfDay (t : Clock) : Nat := t.hour * 3600 + t.minute * 60 + t.second

def ofSecondOfDay? (n nano : Nat) : Option Clock := of? (n / 3600) (n / 60 % 60) (n % 60) nano

def midnight : Clock := ⟨0, 0, 0, 0, by decide⟩

end Clock

namespace DateTime

/-- The seconds since the start of 1970; a leap second counts as the one before it. -/
def seconds (t : DateTime) : Int := t.date.dayNumber * 86400 + t.time.secondOfDay

def ofSeconds? (n : Int) (nano : Nat) : Option DateTime := do
  let date ← Date.ofDayNumber? (n / 86400)
  let time ← Clock.ofSecondOfDay? (n % 86400).toNat nano
  pure ⟨date, time⟩

def addSeconds? (t : DateTime) (n : Int) : Option DateTime := ofSeconds? (t.seconds + n) t.time.nano

def milliseconds (t : DateTime) : Int := t.seconds * 1000 + (t.time.nano / 1000000 : Nat)

end DateTime

end Listing.Time
