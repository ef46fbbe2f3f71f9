import ObjectValidation.Json.Basic
import ObjectValidation.Value.Conversion
import ObjectValidation.Value.Equality
import ObjectValidation.Value.Json

/-!
Constraints name the rule that an object broke and carry the parameters that a message about it needs.
-/

namespace ObjectValidation

structure Constraint where
  name : String
  messageKey : String
  params : List (String × Value) := []

namespace Constraint

def messageKeySuffix : String := ".message"

/-- A constraint whose message key is its name with the usual suffix. -/
def named (name : String) : Constraint := ⟨name, name ++ messageKeySuffix, []⟩

def withMessageKey (c : Constraint) (key : String) : Constraint := { c with messageKey := key }

def withParam {α : Type} [ToValue α] (c : Constraint) (name : String) (value : α) : Constraint :=
  { c with params := c.params ++ [(name, toValue value)] }

/-- The part of the name after its last point. -/
def shortName (c : Constraint) : String :=
  String.ofList (c.name.toList.reverse.takeWhile fun ch => ch != '.').reverse

/-- The first parameter of a name. -/
def param? (c : Constraint) (name : String) : Option Value :=
  (c.params.find? fun p => p.1 == name).map Prod.snd

instance : BEq Constraint where
  beq a b := a.name == b.name && a.messageKey == b.messageKey && Value.sameFields a.params b.params

def tokens (c : Constraint) : List Value.Token :=
  .text c.name :: .text c.messageKey :: .number c.params.length :: Value.fieldTokens c.params

def paramsJson (c : Constraint) : Json := .object (Value.fieldsToJson c.params)

def toJson (c : Constraint) : Json :=
  .object [("name", c.name), ("messageKey", c.messageKey), ("params", c.paramsJson)]

end Constraint

end ObjectValidation
