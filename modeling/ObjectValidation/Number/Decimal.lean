import ObjectValidation.Number.Numeral

/-!
Decimal numbers that keep the number of fraction digits they were written with. Two decimals may be equal
in value and differ in scale; comparisons look at the value, the written form shows the scale.
-/

namespace ObjectValidation

/-- The number `mantissa / 10 ^ scale`. -/
structure Decimal where
  mantissa : Int
  scale : Nat
  deriving Repr

namespace Decimal

def ofInt (n : Int) : Decimal := ⟨n, 0⟩

/-- The mantissa over a scale that is at least as large. -/
def mantissaAt (d : Decimal) (scale : Nat) : Int := d.mantissa * Nat.pow 10 (scale - d.scale)

/-- Compares the values, whatever the scales. -/
def compareValue (a b : Decimal) : Ordering :=
  let scale := max a.scale b.scale
  compare (a.mantissaAt scale) (b.mantissaAt scale)

/-- Equality of the values; the scales may differ. -/
instance : BEq Decimal := ⟨fun a b => a.compareValue b == .eq⟩

def display (d : Decimal) : String :=
  signed (decide (d.mantissa < 0)) (withPlaces d.mantissa.natAbs d.scale)

end Decimal

end ObjectValidation
