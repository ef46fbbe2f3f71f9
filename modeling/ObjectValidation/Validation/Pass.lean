import ObjectValidation.Validation.Abortable

/-!
The two sorts of passes behind one interface, so that rules which go into nested objects and elements can be
written once and run in either sort.
-/

namespace ObjectValidation

class ValidationPass (m : outParam (Type → Type)) (n : Type → Type) where
  /-- What only records takes part in every pass. -/
  ofRecording {α : Type} : Recording m α → n α
  nested {α : Type} : Property α → (α → n Unit) → n Unit
  forEach {α ε : Type} [Elements α ε] : Property α → (ε → n Unit) → n Unit
  forEachIndexed {α ε : Type} [Elements α ε] : Property α → (Nat → ε → n Unit) → n Unit

instance {m : Type → Type} [Monad m] : ValidationPass m (Recording m) where
  ofRecording := id
  nested := Property.nested
  forEach := Property.forEach
  forEachIndexed := Property.forEachIndexed

instance {m : Type → Type} [Monad m] : ValidationPass m (Abortable m) where
  ofRecording := Abortable.ofRecording
  nested := Property.nestedOrAbort
  forEach := Property.forEachOrAbort
  forEachIndexed := Property.forEachIndexedOrAbort

end ObjectValidation
