import ObjectValidation.Bundle.Resolver
import ObjectValidation.Template
import ObjectValidation.Violation.Basic

/-!
Messages about violations. The parameters of a message are those of the constraint, after the offending
value; a parameter of the constraint that is called `value` takes the place of the offending one.
-/

namespace ObjectValidation

/-- The parameters that a template may refer to. -/
def Violation.params (v : Violation) : Table Value :=
  (Table.empty.insert "value" (v.value.getD .null)).insertAll v.constraint.params

/-- Fills in the template of a key, written for the locale of the bundle that has it. -/
def MessageBundle.interpolate (b : MessageBundle) (key : String) (params : Table Value) :
    StateM FormatterRegistry (Except LocalizationError String) :=
  match b.getMessage key with
  | .error e => return .error e
  | .ok template => do return .ok (← Template.render template params b.locale)

/-- A violation with a message about it. -/
structure ViolationMessage where
  path : String
  value : Option Value
  constraint : Constraint
  message : String

namespace ViolationMessage

def of (v : Violation) (message : String) : ViolationMessage :=
  ⟨v.path, v.value, v.constraint, message⟩

/-- The path before the message, unless the path is empty. -/
def display (m : ViolationMessage) : String :=
  if m.path.isEmpty then m.message else m.path ++ ": " ++ m.message

def toJson (m : ViolationMessage) : Json :=
  .object [("propertyPath", m.path),
    ("value", m.value.map Value.toJson),
    ("constraint", m.constraint.toJson), ("message", m.message)]

end ViolationMessage

/-- The message about a violation, from a bundle. -/
def MessageBundle.messageFor (b : MessageBundle) (v : Violation) :
    StateM FormatterRegistry (Except LocalizationError ViolationMessage) := do
  match ← b.interpolate v.constraint.messageKey v.params with
  | .error e => return .error e
  | .ok text => return .ok (.of v text)

/-- The messages about violations, in order, up to the first that cannot be written. -/
def MessageBundle.messagesFor (b : MessageBundle) :
    List Violation → StateM FormatterRegistry (Except LocalizationError (List ViolationMessage))
  | [] => return .ok []
  | v :: rest => do
    match ← b.messageFor v with
    | .error e => return .error e
    | .ok first =>
      match ← b.messagesFor rest with
      | .error e => return .error e
      | .ok others => return .ok (first :: others)

end ObjectValidation
