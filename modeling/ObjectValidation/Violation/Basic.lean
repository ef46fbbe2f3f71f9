import ObjectValidation.Constraint
import ObjectValidation.Path

/-!
A violation says where an object broke a constraint and with which value. A null is kept as the absence of
a value.
-/

namespace ObjectValidation

structure Violation where
  path : String
  value : Option Value
  constraint : Constraint

namespace Violation

/-- The violation of a constraint by a value at a path. -/
def of (path : String) (value : Value) (constraint : Constraint) : Violation :=
  ⟨path, value.nonNull?, constraint⟩

/-- Moves a violation found inside a nested object under the path of that object. -/
def rebased (v : Violation) (parent : String) : Violation :=
  { v with path := Path.rebase parent v.path }

instance : BEq Violation where
  beq a b := a.path == b.path && a.value == b.value && a.constraint == b.constraint

def display (v : Violation) : String :=
  "[" ++ v.path ++ "] " ++ v.constraint.name ++
    match v.value with
    | some value => " (value: " ++ value.display ++ ")"
    | none => ""

def toJson (v : Violation) : Json :=
  .object [("propertyPath", v.path), ("value", v.value.map Value.toJson),
    ("constraint", v.constraint.toJson)]

end Violation

end ObjectValidation
