import ObjectValidation.Check.Basic

/-!
The names of the constraints in the catalogue, in the catalogue's order.
-/

namespace ObjectValidation.Check

def builtInNames : List String :=
  ["Null", "NotNull", "Equals", "NotEquals", "EqualsIgnoringCase", "In", "NotIn", "Valid", "Less",
   "LessOrEqual", "Greater", "GreaterOrEqual", "Between", "NotBetween", "Zero", "NotZero", "Positive",
   "Negative", "Empty", "NotEmpty", "Size", "Blank", "NotBlank", "Contains", "StartsWith", "EndsWith",
   "Matches"].map fun shortName => (builtIn shortName).name

end ObjectValidation.Check
