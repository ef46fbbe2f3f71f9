import ObjectValidation.Check.Basic

/-!
Checks against given values, by the equality of the property's own type.
-/

namespace ObjectValidation.Check

variable {α : Type} [ToValue α] [BEq α]

def isEqualTo (expected : α) : Check α :=
  ofPresent ((builtIn "Equals").withParam "value" expected) fun a => a == expected

def isNotEqualTo (unexpected : α) : Check α :=
  ofPresent ((builtIn "NotEquals").withParam "value" unexpected) fun a => a != unexpected

def isIn (values : List α) : Check α :=
  ofPresent ((builtIn "In").withParam "values" values) fun a => values.any fun b => b == a

def isNotIn (values : List α) : Check α :=
  ofPresent ((builtIn "NotIn").withParam "values" values) fun a => !values.any fun b => b == a

end ObjectValidation.Check
