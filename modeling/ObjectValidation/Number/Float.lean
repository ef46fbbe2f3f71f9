import ObjectValidation.Number.Numeral
import ObjectValidation.Number.Shortest

/-!
Binary floating-point numbers, kept as their bit patterns. Order, written form and conversion between
widths are computed exactly on whole numbers.
-/

namespace ObjectValidation

/-- A binary interchange format: bits of the fraction and of the exponent below a sign bit. -/
structure FloatFormat where
  fraction : Nat
  exponent : Nat

namespace FloatFormat

def binary32 : FloatFormat := ⟨23, 8⟩

def binary64 : FloatFormat := ⟨52, 11⟩

variable (f : FloatFormat)

/-- The power of two that the lowest bit of the smallest numbers stands for. -/
def minExponent : Int := 2 - Nat.pow 2 (f.exponent - 1) - f.fraction

def signBit : Nat := Nat.pow 2 (f.fraction + f.exponent)

/-- The pattern of infinity; larger ones below the sign bit are no numbers. -/
def infinity : Nat := (Nat.pow 2 f.exponent - 1) * Nat.pow 2 f.fraction

def quietNaN : Nat := f.infinity + Nat.pow 2 (f.fraction - 1)

def isNegative (bits : Nat) : Bool := decide (f.signBit ≤ bits)

/-- The pattern without its sign. -/
def magnitude (bits : Nat) : Nat := bits % f.signBit

def isNaN (bits : Nat) : Bool := decide (f.infinity < f.magnitude bits)

def isFinite (bits : Nat) : Bool := decide (f.magnitude bits < f.infinity)

/-- The absolute value of a finite number. -/
def unpack (bits : Nat) : Binary :=
  let biased := f.magnitude bits / Nat.pow 2 f.fraction
  let low := f.magnitude bits % Nat.pow 2 f.fraction
  if biased = 0 then ⟨low, f.minExponent, false⟩
  else
    ⟨Nat.pow 2 f.fraction + low, f.minExponent + (biased - 1 : Nat), low == 0 && decide (1 < biased)⟩

/-- The pattern of the number nearest to `num / den`, the even one of two equally near. -/
def nearest (num den : Nat) : Nat :=
  if num = 0 then 0 else
  let log := (Nat.log2 num : Int) - Nat.log2 den
  let reaches := decide (den * Nat.pow 2 log.toNat ≤ num * Nat.pow 2 (-log).toNat)
  let q := max f.minExponent ((if reaches then log else log - 1) - f.fraction)
  let num := num * Nat.pow 2 (-q).toNat
  let den := den * Nat.pow 2 q.toNat
  let below := num / den
  let twice := 2 * (num % den)
  let m := if twice < den ∨ (twice = den ∧ below % 2 = 0) then below else below + 1
  min f.infinity ((q - f.minExponent).toNat * Nat.pow 2 f.fraction + m)

/-- The pattern nearest to a decimal. -/
def ofScientific (s : Scientific) : Nat :=
  f.nearest (s.digits * Nat.pow 10 s.exponent.toNat) (Nat.pow 10 (-s.exponent).toNat)

/-- Orders the numbers by value, with both zeros alike. -/
def orderKey (bits : Nat) : Int :=
  if f.isNegative bits then -(f.magnitude bits : Int) else f.magnitude bits

/-- The order of two patterns, if both are numbers. -/
def compare? (a b : Nat) : Option Ordering :=
  if f.isNaN a || f.isNaN b then none else some (compare (f.orderKey a) (f.orderKey b))

/-- One pattern for all patterns that count as the same captured value. -/
def canonical (bits : Nat) : Nat :=
  if f.isNaN bits then f.quietNaN else if f.magnitude bits = 0 then 0 else bits

/-- The shortest decimal for the absolute value of a finite number. -/
def shortest (bits : Nat) : Scientific := (f.unpack bits).shortest

/-- Written without an exponent; whole numbers have no point, and zero keeps its sign. -/
def display (bits : Nat) : String :=
  if f.isNaN bits then "NaN"
  else signed (f.isNegative bits) <|
    if f.isFinite bits then
      let s := f.shortest bits
      withPlaces (s.digits * Nat.pow 10 s.exponent.toNat) (-s.exponent).toNat
    else "inf"

end FloatFormat

/-- A floating-point number of 64 bits. -/
structure Double where
  bits : UInt64
  deriving Repr

/-- A floating-point number of 32 bits. -/
structure Single where
  bits : UInt32
  deriving Repr

namespace Double

def isNaN (x : Double) : Bool := FloatFormat.binary64.isNaN x.bits.toNat

def isFinite (x : Double) : Bool := FloatFormat.binary64.isFinite x.bits.toNat

def isNegative (x : Double) : Bool := FloatFormat.binary64.isNegative x.bits.toNat

def shortest (x : Double) : Scientific := FloatFormat.binary64.shortest x.bits.toNat

def compare? (x y : Double) : Option Ordering :=
  FloatFormat.binary64.compare? x.bits.toNat y.bits.toNat

/-- Not-a-number differs from itself and the two zeros are equal. -/
instance : BEq Double := ⟨fun x y => x.compare? y == some .eq⟩

def canonical (x : Double) : Nat := FloatFormat.binary64.canonical x.bits.toNat

def display (x : Double) : String := FloatFormat.binary64.display x.bits.toNat

end Double

namespace Single

def compare? (x y : Single) : Option Ordering :=
  FloatFormat.binary32.compare? x.bits.toNat y.bits.toNat

instance : BEq Single := ⟨fun x y => x.compare? y == some .eq⟩

/-- The 64-bit number that the shortest decimal for this number reads as, so that a short decimal stays
short. -/
def widen (x : Single) : Double :=
  let f := FloatFormat.binary32
  let g := FloatFormat.binary64
  let bits := x.bits.toNat
  if f.isNaN bits then ⟨.ofNat g.quietNaN⟩
  else
    let magnitude := if f.isFinite bits then g.ofScientific (f.shortest bits) else g.infinity
    ⟨.ofNat (if f.isNegative bits then g.signBit + magnitude else magnitude)⟩

end Single

end ObjectValidation
