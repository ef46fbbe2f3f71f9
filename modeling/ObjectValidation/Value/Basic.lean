import ObjectValidation.Calendar.Time
import ObjectValidation.Number.Decimal
import ObjectValidation.Number.Float

/-!
Captured values: what a violation or a constraint keeps of the object it speaks about. Every value knows
the name of its type, and has a written form that is the same in every language.
-/

namespace ObjectValidation

abbrev TypeName := String

namespace TypeName

/-- The name under which the formatter of last resort is registered. -/
def any : TypeName := "any"
def null : TypeName := "null"
def bool : TypeName := "bool"
def integer : TypeName := "integer"
def float : TypeName := "float"
def decimal : TypeName := "decimal"
def text : TypeName := "string"
def char : TypeName := "char"
def date : TypeName := "date"
def time : TypeName := "time"
def dateTime : TypeName := "datetime"
def timestamp : TypeName := "timestamp"
def list : TypeName := "list"
def array : TypeName := "array"
def number : TypeName := "number"
def temporal : TypeName := "temporal"
def iterable : TypeName := "iterable"
def enum : TypeName := "enum"

end TypeName

/-- Enumeration values and objects carry the name of their own type. Lists grow, arrays have a fixed
length; a timestamp is a moment, a date-time is local. -/
inductive Value where
  | null
  | bool (b : Bool)
  | integer (n : Int64)
  | float (x : Double)
  | decimal (d : Decimal)
  | text (s : String)
  | char (c : Char)
  | date (d : Date)
  | time (t : TimeOfDay)
  | dateTime (t : DateTime)
  | timestamp (t : Instant)
  | enum (typeName : TypeName) (variant : String)
  | list (items : List Value)
  | array (items : List Value)
  | object (typeName : TypeName) (fields : List (String × Value))

namespace Value

instance : Inhabited Value := ⟨null⟩

def typeName : Value → TypeName
  | null => .null
  | bool _ => .bool
  | integer _ => .integer
  | float _ => .float
  | decimal _ => .decimal
  | text _ => .text
  | char _ => .char
  | date _ => .date
  | time _ => .time
  | dateTime _ => .dateTime
  | timestamp _ => .timestamp
  | enum name _ => name
  | list _ => .list
  | array _ => .array
  | object name _ => name

def isNull : Value → Bool
  | null => true
  | _ => false

/-- The value unless it is null. -/
def nonNull? (v : Value) : Option Value := if v.isNull then none else some v

/-- The first field of a name, for an object. -/
def field? (v : Value) (name : String) : Option Value :=
  match v with
  | object _ fields => (fields.find? fun f => f.1 == name).map Prod.snd
  | _ => none

mutual

/-- The written form: items in brackets, fields in parentheses after the type's name. -/
def display : Value → String
  | null => "null"
  | bool b => if b then "true" else "false"
  | integer n => toString n.toInt
  | float x => x.display
  | decimal d => d.display
  | text s => s
  | char c => c.toString
  | date d => d.display
  | time t => t.display
  | dateTime t => t.displayWith " "
  | timestamp t => t.utc.displayWith " " ++ " UTC"
  | enum _ variant => variant
  | list items => "[" ++ ", ".intercalate (displayItems items) ++ "]"
  | array items => "[" ++ ", ".intercalate (displayItems items) ++ "]"
  | object name fields => name ++ "(" ++ ", ".intercalate (displayFields fields) ++ ")"

def displayItems : List Value → List String
  | [] => []
  | v :: rest => display v :: displayItems rest

def displayFields : List (String × Value) → List String
  | [] => []
  | (name, v) :: rest => (name ++ "=" ++ display v) :: displayFields rest

end

end Value

end ObjectValidation
