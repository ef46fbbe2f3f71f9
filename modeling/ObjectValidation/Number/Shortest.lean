/-!
The shortest decimal that reads back to a binary floating-point value. The value and the reals that round
to it are written as whole numbers of one decimal unit, so every comparison is exact. Coarser decimal
grids are tried before finer ones; of the two neighbours of the value on a grid the nearer is taken, and
the upper one at a tie.
-/

namespace ObjectValidation

/-- The value `m * 2 ^ q`; below a power of two the next smaller value is half as far away as the
next larger one. -/
structure Binary where
  m : Nat
  q : Int
  narrowBelow : Bool
  deriving DecidableEq, Repr

/-- The value `digits * 10 ^ exponent`. -/
structure Scientific where
  digits : Nat
  exponent : Int
  deriving DecidableEq, Repr

/-- A value and the ends of the interval that rounds to it, in units of `10 ^ exponent`. -/
structure Rounding where
  value : Nat
  low : Nat
  high : Nat
  closed : Bool
  exponent : Int

namespace Binary

/-- `k * 2 ^ q` in units of `10 ^ min q 0`. -/
def units (k : Nat) (q : Int) : Nat := k * Nat.pow 2 q.toNat * Nat.pow 5 (-q).toNat

/-- The interval reaches halfway to both neighbours; its ends belong to it when the mantissa is even. -/
def rounding (x : Binary) : Rounding where
  value := units (4 * x.m) (x.q - 2)
  low := units (if x.narrowBelow then 4 * x.m - 1 else 4 * x.m - 2) (x.q - 2)
  high := units (4 * x.m + 2) (x.q - 2)
  closed := x.m % 2 == 0
  exponent := min (x.q - 2) 0

end Binary

namespace Rounding

/-- Whether a whole number of units rounds to the value. -/
def holds (r : Rounding) (n : Nat) : Bool :=
  if r.closed then decide (r.low ≤ n ∧ n ≤ r.high) else decide (r.low < n ∧ n < r.high)

/-- The neighbour of the value on the grid of multiples of `10 ^ j` that rounds to the value. -/
def onGrid? (r : Rounding) (j : Nat) : Option Nat :=
  let below := r.value / Nat.pow 10 j
  let above := below + 1
  match r.holds (below * Nat.pow 10 j), r.holds (above * Nat.pow 10 j) with
  | true, true => some (if 2 * r.value < (below + above) * Nat.pow 10 j then below else above)
  | true, false => some below
  | false, true => some above
  | false, false => none

/-- The first hit on the grids from `10 ^ j` down to single units, where the value itself is a hit. -/
def search (r : Rounding) : Nat → Scientific
  | 0 => ⟨r.value, r.exponent⟩
  | j + 1 =>
    match r.onGrid? (j + 1) with
    | some digits => ⟨digits, r.exponent + ↑(j + 1)⟩
    | none => r.search j

end Rounding

/-- Moves trailing zeros of the digits, at most `bound` of them, into the exponent. -/
def Scientific.strip (s : Scientific) : Nat → Scientific
  | 0 => s
  | bound + 1 =>
    if s.digits ≠ 0 ∧ s.digits % 10 = 0 then
      Scientific.strip ⟨s.digits / 10, s.exponent + 1⟩ bound
    else s

/-- The fewest digits that read back to the value; zero has the digit zero. -/
def Binary.shortest (x : Binary) : Scientific :=
  if x.m = 0 then ⟨0, 0⟩
  else
    let r := x.rounding
    let width := (toString r.value).length
    (r.search (width - 1)).strip width

end ObjectValidation
