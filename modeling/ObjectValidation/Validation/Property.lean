import ObjectValidation.Check.Basic
import ObjectValidation.Collection.OrderedSet
import ObjectValidation.Text.Quoted
import ObjectValidation.Violation.Set

/-!
Validating an object. A block selects properties of the object and applies checks to them; every check that
fails is recorded and none stops the pass. Nested objects and elements of collections are validated by
blocks of their own, whose paths are relative to them, and what such a block records is moved under the path
of the property. Whatever else a block does happens in the caller's monad `m`.
-/

namespace ObjectValidation

/-- A pass in which violations are recorded. -/
abbrev Recording (m : Type → Type) := StateT ViolationSet m

/-- The rules for an object. -/
abbrev Block (m : Type → Type) (α : Type) := α → Recording m Unit

/-- A selected part of an object: the path that violations of it are recorded under, and its value unless it
is absent. -/
structure Property (α : Type) where
  path : String
  value : Option α

/-- An entry of a map, validated as an object with two fields. -/
structure Entry (κ ν : Type) where
  key : κ
  value : ν

/-- Collections whose elements can be validated one by one, in order. -/
class Elements (α : Type) (ε : outParam Type) where
  elements : α → List ε

instance {ε : Type} : Elements (List ε) ε := ⟨id⟩
instance {ε : Type} {n : Nat} : Elements (Vector ε n) ε := ⟨Vector.toList⟩
instance {ε : Type} [Ord ε] : Elements (OrderedSet ε) ε := ⟨OrderedSet.elements⟩
instance {κ ν : Type} [Ord κ] : Elements (OrderedMap κ ν) (Entry κ ν) :=
  ⟨fun m => m.entries.map fun e => ⟨e.1, e.2⟩⟩

section

variable {m : Type → Type} [Monad m] {α : Type}

/-- What a block records about an object on its own. -/
def Block.violations (block : Block m α) (object : α) : m ViolationSet := do
  let (_, found) ← (block object).run ∅
  return found

/-- Takes over what was recorded about a part of the object. -/
def Recording.merge (path : String) (found : ViolationSet) : Recording m Unit :=
  modify fun s => s.merge path found

end

namespace Property

variable {α β ε κ ν : Type}

def field (name : String) (get : α → β) (object : α) : Property β := ⟨name, some (get object)⟩

def optionalField (name : String) (get : α → Option β) (object : α) : Property β :=
  ⟨name, get object⟩

/-- The object itself as a property without a name. -/
def whole (object : α) : Property α := ⟨"", some object⟩

/-- A description for people who trace a pass; it leaves the value out. -/
def describe (p : Property α) : String :=
  "Property \x7b path: " ++ Text.quoted p.path ++ ", present: " ++
    (if p.value.isSome then "true" else "false") ++ ", .. \x7d"

variable {m : Type → Type} [Monad m]

def record [ToValue α] (p : Property α) (constraint : Constraint) : Recording m Unit :=
  modify fun s => s.insert (.of p.path (toValue p.value) constraint)

def check [ToValue α] (p : Property α) (c : Check α) : Recording m Unit :=
  if c.accepts p.value then pure () else p.record c.constraint

/-- Validates the value by rules of its own; an absent value has nothing to validate. -/
def nested (p : Property α) (block : Block m α) : Recording m Unit :=
  match p.value with
  | none => pure ()
  | some object => do
    let found ← block.violations object
    Recording.merge p.path found

/-- Validates elements under consecutive positions. -/
def eachFrom (path : String) (block : Nat → Block m ε) : Nat → List ε → Recording m Unit
  | _, [] => pure ()
  | i, e :: rest => do
    let found ← (block i).violations e
    Recording.merge (Path.index path i) found
    eachFrom path block (i + 1) rest

def forEachIndexed [Elements α ε] (p : Property α) (block : Nat → Block m ε) : Recording m Unit :=
  match p.value with
  | none => pure ()
  | some collection => eachFrom p.path block 0 (Elements.elements collection)

def forEach [Elements α ε] (p : Property α) (block : Block m ε) : Recording m Unit :=
  p.forEachIndexed fun _ => block

/-- Validates entries under the texts of their keys. -/
def eachKeyed [ToString κ] (path : String) (block : Block m (Entry κ ν)) :
    List (Entry κ ν) → Recording m Unit
  | [] => pure ()
  | e :: rest => do
    let found ← block.violations e
    Recording.merge (Path.key path (toString e.key)) found
    eachKeyed path block rest

/-- Validates the entries of a map under their positions. -/
def forEachEntry [Elements α (Entry κ ν)] (p : Property α) (block : Block m (Entry κ ν)) :
    Recording m Unit :=
  p.forEach block

def forEachEntryKeyed [Elements α (Entry κ ν)] [ToString κ] (p : Property α)
    (block : Block m (Entry κ ν)) : Recording m Unit :=
  match p.value with
  | none => pure ()
  | some map => eachKeyed p.path block (Elements.elements map)

end Property

/-- Types whose objects come with rules of their own. -/
class Validatable (m : Type → Type) (α : Type) where
  constraints : Block m α

section

variable {m : Type → Type} [Monad m] {α : Type}

/-- Validates the value by the rules of its type. -/
def Property.cascade [Validatable m α] (p : Property α) : Recording m Unit :=
  p.nested Validatable.constraints

/-- Validates an object by a block: success, or all violations that the block recorded. -/
def validate (object : α) (block : Block m α) : m (Except ViolationSet Unit) := do
  let found ← block.violations object
  return found.toResult ()

end

end ObjectValidation
