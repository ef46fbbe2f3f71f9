import ObjectValidation.Check.Basic

/-!
Checks on how much a text or a collection holds. A text is counted in characters.
-/

namespace ObjectValidation

class Length (α : Type) where
  length : α → Nat

instance : Length String := ⟨String.length⟩
instance {α : Type} : Length (List α) := ⟨List.length⟩
instance {α : Type} {n : Nat} : Length (Vector α n) := ⟨fun _ => n⟩
instance {α : Type} [Ord α] : Length (OrderedSet α) := ⟨fun s => s.elements.length⟩
instance {α β : Type} [Ord α] : Length (OrderedMap α β) := ⟨fun m => m.entries.length⟩

namespace Check

variable {α : Type} [Length α]

def isEmpty : Check α := ofPresent (builtIn "Empty") fun a => Length.length a == 0

def isNotEmpty : Check α := ofPresent (builtIn "NotEmpty") fun a => decide (0 < Length.length a)

/-- Both bounds are allowed sizes. -/
def hasSize (least greatest : Nat) : Check α :=
  ofPresent (((builtIn "Size").withParam "min" least).withParam "max" greatest) fun a =>
    decide (least ≤ Length.length a) && decide (Length.length a ≤ greatest)

end Check

end ObjectValidation
