import ObjectValidation.Calendar.Pattern
import ObjectValidation.Locale.Basic

/-!
How numbers, days and times are written in a locale.
-/

namespace ObjectValidation

structure Conventions where
  grouping : String
  decimal : String
  date : List DatePart
  time : List TimePart
  deriving DecidableEq, Repr

namespace Conventions

def yearFirst (separator : String) : List DatePart :=
  [.year, .text separator, .month, .text separator, .day]

def dayFirst (separator : String) : List DatePart :=
  [.day, .text separator, .month, .text separator, .year]

def clock24 : List TimePart := [.hour, .text ":", .minute, .text ":", .second]

def clock12 : List TimePart :=
  [.hourOfHalfPlain, .text ":", .minute, .text ":", .second, .text " ", .half]

/-- The conventions of locales that have none of their own here. -/
def root : Conventions := ⟨",", ".", yearFirst "-", clock24⟩

def american : Conventions :=
  ⟨",", ".", [.monthPlain, .text "/", .dayPlain, .text "/", .year], clock12⟩

def british : Conventions := ⟨",", ".", dayFirst "/", clock24⟩

def latin : Conventions := ⟨".", ",", dayFirst "/", clock24⟩

def german : Conventions := ⟨".", ",", dayFirst ".", clock24⟩

/-- Groups of digits are set apart by a narrow space that does not break. -/
def french : Conventions := ⟨"\u202f", ",", dayFirst "/", clock24⟩

/-- Groups of digits are set apart by a space that does not break. -/
def slavic : Conventions := ⟨"\u00a0", ",", dayFirst ".", clock24⟩

def eastAsian : Conventions := ⟨",", ".", yearFirst "/", clock24⟩

end Conventions

def Locale.conventions (l : Locale) : Conventions :=
  if l.language = "en" then
    if l.country = "US" ∨ l.country = "" then .american else .british
  else if l.language ∈ ["pt", "es", "it", "nl"] then .latin
  else if l.language = "de" then .german
  else if l.language = "fr" then .french
  else if l.language ∈ ["ru", "uk"] then .slavic
  else if l.language ∈ ["ja", "zh", "ko"] then .eastAsian
  else .root

end ObjectValidation
