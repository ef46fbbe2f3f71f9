import ObjectValidation.Check

/-!
The checks of the catalogue, with whatever values, bounds and types they are given. Each has the message key
of its short name, and parameters whose names depend on the short name alone.
-/

namespace ObjectValidation.Check

inductive Catalogued : {α : Type} → Check α → Prop where
  | isNull {α : Type} : Catalogued (isNull : Check α)
  | isNotNull {α : Type} : Catalogued (isNotNull : Check α)
  | isValid {α : Type} (test : α → Bool) : Catalogued (isValid test)
  | isEqualTo {α : Type} [ToValue α] [BEq α] (expected : α) : Catalogued (isEqualTo expected)
  | isNotEqualTo {α : Type} [ToValue α] [BEq α] (unexpected : α) : Catalogued (isNotEqualTo unexpected)
  | isEqualToIgnoringCase (expected : String) : Catalogued (isEqualToIgnoringCase expected)
  | isIn {α : Type} [ToValue α] [BEq α] (values : List α) : Catalogued (isIn values)
  | isNotIn {α : Type} [ToValue α] [BEq α] (values : List α) : Catalogued (isNotIn values)
  | isLessThan {α : Type} [ToValue α] [Comparable α] (bound : α) : Catalogued (isLessThan bound)
  | isLessThanOrEqualTo {α : Type} [ToValue α] [Comparable α] (bound : α) :
      Catalogued (isLessThanOrEqualTo bound)
  | isGreaterThan {α : Type} [ToValue α] [Comparable α] (bound : α) : Catalogued (isGreaterThan bound)
  | isGreaterThanOrEqualTo {α : Type} [ToValue α] [Comparable α] (bound : α) :
      Catalogued (isGreaterThanOrEqualTo bound)
  | isBetween {α : Type} [ToValue α] [Comparable α] (start stop : α) : Catalogued (isBetween start stop)
  | isNotBetween {α : Type} [ToValue α] [Comparable α] (start stop : α) :
      Catalogued (isNotBetween start stop)
  | isZero {α : Type} [BEq α] [HasZero α] : Catalogued (isZero : Check α)
  | isNotZero {α : Type} [BEq α] [HasZero α] : Catalogued (isNotZero : Check α)
  | isPositive {α : Type} [Comparable α] [HasZero α] : Catalogued (isPositive : Check α)
  | isNegative {α : Type} [Comparable α] [HasZero α] : Catalogued (isNegative : Check α)
  | isEmpty {α : Type} [Length α] : Catalogued (isEmpty : Check α)
  | isNotEmpty {α : Type} [Length α] : Catalogued (isNotEmpty : Check α)
  | hasSize {α : Type} [Length α] (least greatest : Nat) : Catalogued (hasSize least greatest : Check α)
  | isBlank : Catalogued isBlank
  | isNotBlank : Catalogued isNotBlank
  | contains (part : String) : Catalogued (contains part)
  | startsWith (start : String) : Catalogued (startsWith start)
  | endsWith (ending : String) : Catalogued (endsWith ending)
  | fits (e : RegexEngine) (r : e.Compiled) : Catalogued (fits e r)

/-- The short names of the catalogue in its order, each with the names of its parameters. -/
def parameterNames : List (String × List String) :=
  [("Null", []), ("NotNull", []), ("Equals", ["value"]), ("NotEquals", ["value"]),
   ("EqualsIgnoringCase", ["value"]), ("In", ["values"]), ("NotIn", ["values"]), ("Valid", []),
   ("Less", ["value"]), ("LessOrEqual", ["value"]), ("Greater", ["value"]), ("GreaterOrEqual", ["value"]),
   ("Between", ["start", "end"]), ("NotBetween", ["start", "end"]), ("Zero", []), ("NotZero", []),
   ("Positive", []), ("Negative", []), ("Empty", []), ("NotEmpty", []), ("Size", ["min", "max"]),
   ("Blank", []), ("NotBlank", []), ("Contains", ["value"]), ("StartsWith", ["prefix"]),
   ("EndsWith", ["suffix"]), ("Matches", ["regex"])]

theorem Catalogued.exists_parameterNames {α : Type} {c : Check α} (h : c.Catalogued) :
    ∃ entry ∈ parameterNames,
      c.constraint.messageKey = (builtIn entry.1).messageKey ∧
      c.constraint.params.map Prod.fst = entry.2 := by
  cases h <;> exact ⟨(_, _), by simp [parameterNames], rfl, rfl⟩

end ObjectValidation.Check
