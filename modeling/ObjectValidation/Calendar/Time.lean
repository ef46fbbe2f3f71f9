import ObjectValidation.Calendar.Date

/-!
Times of day to the nanosecond, and days with a time. A second may have up to two thousand million nanoseconds:
from a thousand million on it is shown as the next one, so second 59 is shown as 60, which is how leap seconds
are kept. Such a second is a value of its own, other than the next one.
-/

namespace ObjectValidation

structure TimeOfDay where
  hour : Nat
  minute : Nat
  second : Nat
  nanosecond : Nat
  hour_lt : hour < 24
  minute_lt : minute < 60
  second_lt : second < 60
  nanosecond_lt : nanosecond < 2000000000
  deriving DecidableEq, Repr

namespace TimeOfDay

def of? (hour minute second nanosecond : Nat) : Option TimeOfDay :=
  if h : hour < 24 ∧ minute < 60 ∧ second < 60 ∧ nanosecond < 2000000000 then
    some ⟨hour, minute, second, nanosecond, h.1, h.2.1, h.2.2.1, h.2.2.2⟩
  else none

def midnight : TimeOfDay := ⟨0, 0, 0, 0, by decide, by decide, by decide, by decide⟩

/-- Earlier times come first, and those with more nanoseconds later in the same second. -/
def order (a b : TimeOfDay) : Ordering :=
  (compare a.hour b.hour).then ((compare a.minute b.minute).then
    ((compare a.second b.second).then (compare a.nanosecond b.nanosecond)))

/-- The second as a clock shows it: the next one after a thousand million nanoseconds, 60 after 59. -/
def shownSecond (t : TimeOfDay) : Nat := t.second + t.nanosecond / 1000000000

/-- Three, six or nine digits of the second's fraction, as few as are exact. -/
def fractionText (t : TimeOfDay) : String :=
  let n := t.nanosecond % 1000000000
  if n = 0 then ""
  else if n % 1000000 = 0 then "." ++ padded 3 (n / 1000000)
  else if n % 1000 = 0 then "." ++ padded 6 (n / 1000)
  else "." ++ padded 9 n

def display (t : TimeOfDay) : String :=
  padded 2 t.hour ++ ":" ++ padded 2 t.minute ++ ":" ++ padded 2 t.shownSecond ++ t.fractionText

end TimeOfDay

structure DateTime where
  date : Date
  time : TimeOfDay
  deriving DecidableEq, Repr

namespace DateTime

def epoch : DateTime := ⟨.epoch, .midnight⟩

def order (a b : DateTime) : Ordering := (a.date.order b.date).then (a.time.order b.time)

/-- The day and the time with something between them. -/
def displayWith (between : String) (t : DateTime) : String :=
  t.date.display ++ between ++ t.time.display

end DateTime

/-- A moment, given by the day and time at the prime meridian. -/
structure Instant where
  utc : DateTime
  deriving DecidableEq, Repr

end ObjectValidation
