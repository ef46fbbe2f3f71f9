import ObjectValidation.Locale.Conventions
import ObjectValidation.Value.Basic

/-!
Formatters write a value for a locale. A formatter may ask for the texts of other values, usually the parts
of its own, and goes on with the texts it gets; what it asks and what it does with the answers is data, so
that whoever runs it decides how the parts are written.
-/

namespace ObjectValidation

/-- A text, or a value whose text is needed first. -/
inductive Rendering where
  | done (text : String)
  | ask (part : Value) (next : String → Rendering)

namespace Rendering

/-- Asks for the texts of values, in order. -/
def askAll : List Value → (List String → Rendering) → Rendering
  | [], next => next []
  | v :: rest, next => ask v fun text => askAll rest fun texts => next (text :: texts)

end Rendering

abbrev Formatter := Locale → Value → Rendering

/-- The formatter that a function of the value alone makes. -/
def Formatter.ofText (write : Value → String) : Formatter := fun _ v => .done (write v)

end ObjectValidation
