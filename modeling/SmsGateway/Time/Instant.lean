import SmsGateway.Time.Date

/-!
Instants in coordinated universal time, to the nanosecond. A leap second is the second nanosecond
count from `10 ^ 9` on in the second before it, so instants are ordered by day, second of the day
and nanosecond. `Instant.elapsed` counts the time between two instants; a leap second counts when
it lies between them within the day.
-/

namespace SmsGateway.Time

/-- Seconds of a day, leap seconds apart. -/
def daySeconds : Nat := 86400

def secondNanos : Nat := 1000000000

/-- An instant: the day, the second of the day, and the nanosecond, which is past the second's end
within a leap second. -/
structure Instant where
  date : Date
  second : Nat
  nano : Nat
  second_lt : second < daySeconds
  nano_lt : nano < 2 * secondNanos
  deriving DecidableEq

namespace Instant

def rank (t : Instant) : Int :=
  (t.date.dayNumber * daySeconds + t.second) * (2 * secondNanos : Nat) + t.nano

def later (a b : Instant) : Instant :=
  if a.rank < b.rank then b else a

def isLeap (t : Instant) : Bool :=
  decide (secondNanos ≤ t.nano)

/-- The second that a leap second adds to the time from `start` to `finish`. -/
def leapAdjustment (finish start : Instant) : Int :=
  if start.second < finish.second then (if start.isLeap then 1 else 0)
  else if finish.second < start.second then (if finish.isLeap then -1 else 0)
  else 0

def elapsed (finish start : Instant) : Int :=
  ((finish.date.dayNumber - start.date.dayNumber) * daySeconds +
    ((finish.second : Int) - start.second) + leapAdjustment finish start) * secondNanos +
      ((finish.nano : Int) - start.nano)

/-- The instant of a local time that is `offset` seconds ahead of universal time. -/
def ofLocal? (date : Date) (second nano : Nat) (offset : Int) : Option Instant :=
  let shifted := (second : Int) - offset
  let date? :=
    if shifted < 0 then date.previous?
    else if (daySeconds : Int) ≤ shifted then date.next?
    else some date
  match date? with
  | none => none
  | some day =>
      let second := (shifted % (daySeconds : Int)).toNat
      if h : second < daySeconds ∧ nano < 2 * secondNanos then
        some ⟨day, second, nano, h.1, h.2⟩
      else none

end Instant

end SmsGateway.Time
