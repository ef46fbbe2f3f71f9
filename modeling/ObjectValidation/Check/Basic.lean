import ObjectValidation.Constraint

/-!
A check pairs a constraint with the rule that decides it. A property may be absent, and every rule of the
catalogue but one accepts an absent property: a property that must be there says so with a check of its own.
-/

namespace ObjectValidation

structure Check (α : Type) where
  constraint : Constraint
  accepts : Option α → Bool

namespace Check

variable {α : Type}

/-- A check that looks at present values only. -/
def ofPresent (constraint : Constraint) (test : α → Bool) : Check α where
  constraint := constraint
  accepts
    | some a => test a
    | none => true

end Check

/-- The built-in constraint of a short name. -/
def builtIn (shortName : String) : Constraint := .named ("vigil.constraints." ++ shortName)

namespace Check

variable {α : Type}

def isNull : Check α := ⟨builtIn "Null", Option.isNone⟩

/-- The one check that an absent value fails. -/
def isNotNull : Check α := ⟨builtIn "NotNull", Option.isSome⟩

/-- A rule of the caller's own. -/
def isValid (test : α → Bool) : Check α := ofPresent (builtIn "Valid") test

end Check

end ObjectValidation
