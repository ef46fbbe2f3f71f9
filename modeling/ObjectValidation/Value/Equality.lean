import ObjectValidation.Value.Basic

/-!
Equality of captured values is total, so that values can live in sets: all patterns of not-a-number are
equal, the two zeros are equal, and decimals must agree in scale as well as in value. Hashing feeds on
exactly what equality looks at.
-/

namespace ObjectValidation.Value

mutual

/-- Values of different kinds are never equal, a list and an array with the same items included. -/
def same : Value → Value → Bool
  | null, null => true
  | bool a, bool b => a == b
  | integer a, integer b => a == b
  | float a, float b => a.canonical == b.canonical
  | decimal a, decimal b => a.mantissa == b.mantissa && a.scale == b.scale
  | text a, text b => a == b
  | char a, char b => a == b
  | date a, date b => a == b
  | time a, time b => a == b
  | dateTime a, dateTime b => a == b
  | timestamp a, timestamp b => a == b
  | enum t a, enum u b => t == u && a == b
  | list a, list b => sameItems a b
  | array a, array b => sameItems a b
  | object t a, object u b => t == u && sameFields a b
  | _, _ => false

def sameItems : List Value → List Value → Bool
  | [], [] => true
  | v :: a, w :: b => same v w && sameItems a b
  | _, _ => false

def sameFields : List (String × Value) → List (String × Value) → Bool
  | [], [] => true
  | (m, v) :: a, (n, w) :: b => m == n && same v w && sameFields a b
  | _, _ => false

end

instance : BEq Value := ⟨same⟩

/-- What hashing reads of a value: numbers and texts, one after the other. -/
inductive Token where
  | number (n : Int)
  | text (s : String)
  deriving DecidableEq, Repr, Hashable

def dateTokens (d : Date) : List Token := [.number d.year, .number d.month, .number d.day]

def timeTokens (t : TimeOfDay) : List Token :=
  [.number t.hour, .number t.minute, .number t.second, .number t.nanosecond]

mutual

/-- The kind first, then the contents; a sequence says how long it is. -/
def tokens : Value → List Token
  | null => [.number 0]
  | bool b => [.number 1, .number (if b then 1 else 0)]
  | integer n => [.number 2, .number n.toInt]
  | float x => [.number 3, .number x.canonical]
  | decimal d => [.number 4, .number d.mantissa, .number d.scale]
  | text s => [.number 5, .text s]
  | char c => [.number 6, .number c.toNat]
  | date d => .number 7 :: dateTokens d
  | time t => .number 8 :: timeTokens t
  | dateTime t => .number 9 :: (dateTokens t.date ++ timeTokens t.time)
  | timestamp t => .number 10 :: (dateTokens t.utc.date ++ timeTokens t.utc.time)
  | enum t a => [.number 11, .text t, .text a]
  | list items => .number 12 :: .number items.length :: itemTokens items
  | array items => .number 13 :: .number items.length :: itemTokens items
  | object t fields => .number 14 :: .text t :: .number fields.length :: fieldTokens fields

def itemTokens : List Value → List Token
  | [] => []
  | v :: rest => tokens v ++ itemTokens rest

def fieldTokens : List (String × Value) → List Token
  | [] => []
  | (name, v) :: rest => .text name :: (tokens v ++ fieldTokens rest)

end

instance : Hashable Value := ⟨fun v => hash v.tokens⟩

end ObjectValidation.Value
