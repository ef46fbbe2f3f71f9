import ObjectValidation.Calendar.Time

/-!
Patterns for writing days and times: sequences of fields and fixed text. Fields have two digits or more,
except those that are named for having no zero in front.
-/

namespace ObjectValidation

inductive DatePart where
  | year
  | month
  | monthPlain
  | day
  | dayPlain
  | text (s : String)
  deriving DecidableEq, Repr

inductive TimePart where
  | hour
  | hourOfHalfPlain
  | minute
  | second
  | half
  | text (s : String)
  deriving DecidableEq, Repr

namespace DatePart

def write (d : Date) : DatePart → String
  | year => Date.yearText d.year
  | month => padded 2 d.month
  | monthPlain => toString d.month
  | day => padded 2 d.day
  | dayPlain => toString d.day
  | text s => s

end DatePart

namespace TimePart

/-- The hour on a dial of twelve, where midnight and noon are twelve. -/
def hourOfHalf (hour : Nat) : Nat := if hour % 12 = 0 then 12 else hour % 12

def write (t : TimeOfDay) : TimePart → String
  | hour => padded 2 t.hour
  | hourOfHalfPlain => toString (hourOfHalf t.hour)
  | minute => padded 2 t.minute
  | second => padded 2 t.shownSecond
  | half => if t.hour < 12 then "AM" else "PM"
  | text s => s

end TimePart

def Date.write (pattern : List DatePart) (d : Date) : String :=
  String.join (pattern.map (DatePart.write d))

def TimeOfDay.write (pattern : List TimePart) (t : TimeOfDay) : String :=
  String.join (pattern.map (TimePart.write t))

end ObjectValidation
