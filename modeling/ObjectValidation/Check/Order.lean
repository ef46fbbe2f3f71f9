import ObjectValidation.Check.Basic

/-!
Checks by order and by sign. A type says which of its values are less than others and which are at most
others; for some pairs, such as those with a not-a-number, none of it may hold. Signs are taken relative to
the type's zero, which for a type without numbers is its most ordinary value.
-/

namespace ObjectValidation

class Comparable (α : Type) where
  lt : α → α → Bool
  le : α → α → Bool
  gt : α → α → Bool := fun a b => lt b a
  ge : α → α → Bool := fun a b => le b a

/-- The order of a comparison that does not decide all pairs. -/
abbrev Comparable.ofPartial {α : Type} (compare? : α → α → Option Ordering) : Comparable α where
  lt a b := compare? a b == some .lt
  le a b := compare? a b == some .lt || compare? a b == some .eq
  gt a b := compare? a b == some .gt
  ge a b := compare? a b == some .gt || compare? a b == some .eq

abbrev Comparable.ofTotal {α : Type} (compare : α → α → Ordering) : Comparable α :=
  .ofPartial fun a b => some (compare a b)

/-- Lexicographic comparison; a list that continues another is greater. -/
def compareLists {α : Type} (compare : α → α → Ordering) : List α → List α → Ordering
  | [], [] => .eq
  | [], _ :: _ => .lt
  | _ :: _, [] => .gt
  | a :: as, b :: bs => (compare a b).then (compareLists compare as bs)

/-- An absent value comes before every present one. -/
def compareOptions {α : Type} (compare : α → α → Ordering) : Option α → Option α → Ordering
  | none, none => .eq
  | none, some _ => .lt
  | some _, none => .gt
  | some a, some b => compare a b

class HasZero (α : Type) where
  zero : α

namespace Check

variable {α : Type} [ToValue α]

section

variable [Comparable α]

def isLessThan (bound : α) : Check α :=
  ofPresent ((builtIn "Less").withParam "value" bound) fun a => Comparable.lt a bound

def isLessThanOrEqualTo (bound : α) : Check α :=
  ofPresent ((builtIn "LessOrEqual").withParam "value" bound) fun a => Comparable.le a bound

def isGreaterThan (bound : α) : Check α :=
  ofPresent ((builtIn "Greater").withParam "value" bound) fun a => Comparable.gt a bound

def isGreaterThanOrEqualTo (bound : α) : Check α :=
  ofPresent ((builtIn "GreaterOrEqual").withParam "value" bound) fun a => Comparable.ge a bound

/-- Both ends belong to the range. -/
def isBetween (start stop : α) : Check α :=
  ofPresent (((builtIn "Between").withParam "start" start).withParam "end" stop) fun a =>
    Comparable.le start a && Comparable.le a stop

def isNotBetween (start stop : α) : Check α :=
  ofPresent (((builtIn "NotBetween").withParam "start" start).withParam "end" stop) fun a =>
    Comparable.lt a start || Comparable.lt stop a

end

section

variable [BEq α] [HasZero α]

def isZero : Check α := ofPresent (builtIn "Zero") fun a => a == HasZero.zero

def isNotZero : Check α := ofPresent (builtIn "NotZero") fun a => a != HasZero.zero

end

section

variable [Comparable α] [HasZero α]

def isPositive : Check α := ofPresent (builtIn "Positive") fun a => Comparable.gt a HasZero.zero

def isNegative : Check α := ofPresent (builtIn "Negative") fun a => Comparable.lt a HasZero.zero

end

end Check

instance : Comparable Bool := .ofTotal compare
instance : Comparable Int8 := .ofTotal compare
instance : Comparable Int16 := .ofTotal compare
instance : Comparable Int32 := .ofTotal compare
instance : Comparable Int64 := .ofTotal compare
instance : Comparable ISize := .ofTotal compare
instance : Comparable UInt8 := .ofTotal compare
instance : Comparable UInt16 := .ofTotal compare
instance : Comparable UInt32 := .ofTotal compare
instance : Comparable UInt64 := .ofTotal compare
instance : Comparable USize := .ofTotal compare
instance : Comparable Double := .ofPartial Double.compare?
instance : Comparable Single := .ofPartial Single.compare?
instance : Comparable Decimal := .ofTotal Decimal.compareValue
instance : Comparable Char := .ofTotal compare
instance : Comparable String := .ofTotal compare
instance : Comparable Date := .ofTotal Date.order
instance : Comparable TimeOfDay := .ofTotal TimeOfDay.order
instance : Comparable DateTime := .ofTotal DateTime.order
instance : Comparable Instant := .ofTotal fun a b => a.utc.order b.utc
instance {α : Type} [Ord α] : Comparable (Option α) := .ofTotal (compareOptions compare)
instance {α : Type} [Ord α] : Comparable (List α) := .ofTotal (compareLists compare)
instance {α : Type} {n : Nat} [Ord α] : Comparable (Vector α n) :=
  .ofTotal fun a b => compareLists compare a.toList b.toList
instance {α : Type} [Ord α] : Comparable (OrderedSet α) :=
  .ofTotal fun a b => compareLists compare a.elements b.elements

instance : HasZero Bool := ⟨false⟩
instance : HasZero Int8 := ⟨0⟩
instance : HasZero Int16 := ⟨0⟩
instance : HasZero Int32 := ⟨0⟩
instance : HasZero Int64 := ⟨0⟩
instance : HasZero ISize := ⟨0⟩
instance : HasZero UInt8 := ⟨0⟩
instance : HasZero UInt16 := ⟨0⟩
instance : HasZero UInt32 := ⟨0⟩
instance : HasZero UInt64 := ⟨0⟩
instance : HasZero USize := ⟨0⟩
instance : HasZero Double := ⟨⟨0⟩⟩
instance : HasZero Single := ⟨⟨0⟩⟩
instance : HasZero Decimal := ⟨⟨0, 0⟩⟩
instance : HasZero Char := ⟨'\x00'⟩
instance : HasZero String := ⟨""⟩
instance : HasZero Date := ⟨.epoch⟩
instance : HasZero TimeOfDay := ⟨.midnight⟩
instance : HasZero DateTime := ⟨.epoch⟩
instance : HasZero Instant := ⟨⟨.epoch⟩⟩
instance {α : Type} : HasZero (Option α) := ⟨none⟩
instance {α : Type} : HasZero (List α) := ⟨[]⟩
instance {α : Type} {n : Nat} [HasZero α] : HasZero (Vector α n) := ⟨.replicate n HasZero.zero⟩
instance {α : Type} [Ord α] : HasZero (OrderedSet α) := ⟨.empty⟩

end ObjectValidation
