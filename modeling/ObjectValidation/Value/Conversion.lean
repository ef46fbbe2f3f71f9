import ObjectValidation.Collection.OrderedSet
import ObjectValidation.Value.Basic

/-!
Capturing the values of a program. Whole numbers beyond 64 signed bits are captured as decimals, an absent
value as null, collections that can grow as lists and fixed-length ones as arrays.
-/

namespace ObjectValidation

class ToValue (α : Type) where
  toValue : α → Value

export ToValue (toValue)

namespace Value

/-- Whether a whole number fits 64 signed bits. -/
def fitsInteger (n : Int) : Bool := decide (-0x8000000000000000 ≤ n) && decide (n < 0x8000000000000000)

def ofInt (n : Int) : Value :=
  if fitsInteger n then integer (Int64.ofInt n) else decimal (Decimal.ofInt n)

end Value

instance : ToValue Value := ⟨id⟩
instance : ToValue Bool := ⟨.bool⟩
instance : ToValue Int8 := ⟨fun n => .integer n.toInt64⟩
instance : ToValue Int16 := ⟨fun n => .integer n.toInt64⟩
instance : ToValue Int32 := ⟨fun n => .integer n.toInt64⟩
instance : ToValue Int64 := ⟨.integer⟩
instance : ToValue ISize := ⟨fun n => .ofInt n.toInt⟩
instance : ToValue UInt8 := ⟨fun n => .ofInt n.toNat⟩
instance : ToValue UInt16 := ⟨fun n => .ofInt n.toNat⟩
instance : ToValue UInt32 := ⟨fun n => .ofInt n.toNat⟩
instance : ToValue UInt64 := ⟨fun n => .ofInt n.toNat⟩
instance : ToValue USize := ⟨fun n => .ofInt n.toNat⟩
instance : ToValue Nat := ⟨fun n => .ofInt n⟩
instance : ToValue Double := ⟨.float⟩
instance : ToValue Single := ⟨fun x => .float x.widen⟩
instance : ToValue Decimal := ⟨.decimal⟩
instance : ToValue String := ⟨.text⟩
instance : ToValue Char := ⟨.char⟩
instance : ToValue Date := ⟨.date⟩
instance : ToValue TimeOfDay := ⟨.time⟩
instance : ToValue DateTime := ⟨.dateTime⟩
instance : ToValue Instant := ⟨.timestamp⟩

instance {α : Type} [ToValue α] : ToValue (Option α) := ⟨fun
  | none => .null
  | some a => toValue a⟩

instance {α : Type} [ToValue α] : ToValue (List α) := ⟨fun items => .list (items.map toValue)⟩

instance {α : Type} [Ord α] [ToValue α] : ToValue (OrderedSet α) :=
  ⟨fun s => .list (s.elements.map toValue)⟩

instance {α : Type} {n : Nat} [ToValue α] : ToValue (Vector α n) :=
  ⟨fun items => .array (items.toList.map toValue)⟩

end ObjectValidation
