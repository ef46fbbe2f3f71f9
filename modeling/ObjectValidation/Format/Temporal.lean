import ObjectValidation.Format.Formatter

/-!
Days and times in a locale. A moment at midnight is written as its day alone, a local date and time always
with the time.
-/

namespace ObjectValidation

def DateTime.write (conventions : Conventions) (t : DateTime) : String :=
  t.date.write conventions.date ++ " " ++ t.time.write conventions.time

def Instant.write (conventions : Conventions) (t : Instant) : String :=
  if t.utc.time = .midnight then t.utc.date.write conventions.date else t.utc.write conventions

def Formatter.temporal : Formatter := fun locale v => .done <|
  match v with
  | .date d => d.write locale.conventions.date
  | .time t => t.write locale.conventions.time
  | .dateTime t => t.write locale.conventions
  | .timestamp t => t.write locale.conventions
  | v => v.display

end ObjectValidation
