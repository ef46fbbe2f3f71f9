import ObjectValidation.Json.Basic
import ObjectValidation.Value.Basic

/-!
Captured values as JSON: numbers stay numbers, decimals and days become texts, objects lose their type.
-/

namespace ObjectValidation.Value

mutual

def toJson : Value → Json
  | null => .null
  | bool b => .bool b
  | integer n => .integer n.toInt
  | float x => .float x
  | decimal d => .string d.display
  | text s => .string s
  | char c => .string c.toString
  | date d => .string d.display
  | time t => .string t.display
  | dateTime t => .string (t.displayWith "T")
  | timestamp t => .string (t.utc.displayWith "T" ++ "Z")
  | enum _ variant => .string variant
  | list items => .array (itemsToJson items)
  | array items => .array (itemsToJson items)
  | object _ fields => .object (fieldsToJson fields)

def itemsToJson : List Value → List Json
  | [] => []
  | v :: rest => toJson v :: itemsToJson rest

def fieldsToJson : List (String × Value) → List (String × Json)
  | [] => []
  | (name, v) :: rest => (name, toJson v) :: fieldsToJson rest

end

end ObjectValidation.Value
