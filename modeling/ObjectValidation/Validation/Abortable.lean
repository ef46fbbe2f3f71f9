import ObjectValidation.Validation.Property

/-!
Passes that ask the outside world. A question may fail to get an answer, and such a failure, like one that a
block raises itself, aborts the pass at once: what was recorded about the part under validation is dropped,
and what the enclosing contexts had recorded before is left as it was.
-/

namespace ObjectValidation

/-- A pass that may fail with a `φ`. -/
abbrev Fallible (φ : Type) (m : Type → Type) := ExceptT φ (Recording m)

abbrev FallibleBlock (φ : Type) (m : Type → Type) (α : Type) := α → Fallible φ m Unit

/-- A pass that may be aborted for a stated cause. -/
abbrev Abortable (m : Type → Type) := Fallible String m

abbrev AbortableBlock (m : Type → Type) (α : Type) := α → Abortable m Unit

/-- The ways in which such a pass fails. -/
inductive ValidationError where
  | invalid (violations : ViolationSet)
  | aborted (cause : String)

def ValidationError.message : ValidationError → String
  | invalid violations => violations.display
  | aborted cause => "validation aborted: " ++ cause

namespace Abortable

variable {m : Type → Type} [Monad m] {φ α : Type}

/-- Whatever only records can take part in a pass that may be aborted. -/
def ofRecording (pass : Recording m α) : Fallible φ m α := ExceptT.lift pass

def abort (cause : φ) : Fallible φ m α := throw cause

/-- How a block ends on an object on its own, and what it has recorded by then. -/
def outcome (block : FallibleBlock φ m α) (object : α) : m (Except φ Unit × ViolationSet) :=
  StateT.run (block object).run ∅

/-- Runs a block on a part of the object, and takes over what it recorded unless it was aborted. -/
def within (path : String) (block : FallibleBlock φ m α) (object : α) : Fallible φ m Unit := do
  let (result, found) ← ofRecording (StateT.lift (outcome block object))
  match result with
  | .error cause => abort cause
  | .ok () => ofRecording (Recording.merge path found)

end Abortable

namespace Property

variable {φ α ε : Type} {m : Type → Type} [Monad m]

/-- Checks a property by a question whose answer may fail to arrive. -/
def ask [ToValue α] (p : Property α) (constraint : Constraint)
    (question : Option α → m (Except φ Bool)) : Fallible φ m Unit := do
  match ← Abortable.ofRecording (StateT.lift (question p.value)) with
  | .error cause => Abortable.abort cause
  | .ok true => pure ()
  | .ok false => Abortable.ofRecording (p.record constraint)

def nestedOrAbort (p : Property α) (block : FallibleBlock φ m α) : Fallible φ m Unit :=
  match p.value with
  | none => pure ()
  | some object => Abortable.within p.path block object

def eachFromOrAbort (path : String) (block : Nat → FallibleBlock φ m ε) :
    Nat → List ε → Fallible φ m Unit
  | _, [] => pure ()
  | i, e :: rest => do
    Abortable.within (Path.index path i) (block i) e
    eachFromOrAbort path block (i + 1) rest

def forEachIndexedOrAbort [Elements α ε] (p : Property α) (block : Nat → FallibleBlock φ m ε) :
    Fallible φ m Unit :=
  match p.value with
  | none => pure ()
  | some collection => eachFromOrAbort p.path block 0 (Elements.elements collection)

def forEachOrAbort [Elements α ε] (p : Property α) (block : FallibleBlock φ m ε) : Fallible φ m Unit :=
  p.forEachIndexedOrAbort fun _ => block

end Property

/-- Validates an object by a block that may be aborted. -/
def validateOrAbort {m : Type → Type} [Monad m] {α : Type} (object : α)
    (block : AbortableBlock m α) : m (Except ValidationError Unit) := do
  let (result, found) ← Abortable.outcome block object
  match result with
  | .error cause => return .error (.aborted cause)
  | .ok () => return (found.toResult ()).mapError .invalid

end ObjectValidation
