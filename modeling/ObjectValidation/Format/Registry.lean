import ObjectValidation.Format.Number
import ObjectValidation.Format.Plain
import ObjectValidation.Format.Temporal
import ObjectValidation.Types.Graph

/-!
Which formatter writes a value: that of the nearest type in the value's ancestry that has one, an override
before the built-in one of the same type. Where no type of the ancestry has any, an override for all values
comes before the formatter of last resort. Writing a value remembers the enumeration types it meets.
-/

namespace ObjectValidation

namespace Formatter

def builtIns : Table Formatter :=
  .ofList [(TypeName.enum, enum), (TypeName.number, number), (TypeName.temporal, temporal),
    (TypeName.iterable, sequence), (TypeName.array, sequence)]

end Formatter

structure FormatterRegistry where
  types : TypeGraph := .standard
  overrides : Table Formatter := .empty

namespace FormatterRegistry

def new : FormatterRegistry := {}

instance : Inhabited FormatterRegistry := ⟨new⟩

def declare (r : FormatterRegistry) (d : TypeDecl) : FormatterRegistry :=
  { r with types := r.types.declare d }

def override? (r : FormatterRegistry) (t : TypeName) : Option Formatter := r.overrides.get? t

def set (r : FormatterRegistry) (t : TypeName) (f : Formatter) : FormatterRegistry :=
  { r with overrides := r.overrides.insert t f }

def remove (r : FormatterRegistry) (t : TypeName) : FormatterRegistry :=
  { r with overrides := r.overrides.erase t }

/-- The formatter registered for exactly this type. -/
def registered? (r : FormatterRegistry) (t : TypeName) : Option Formatter :=
  (r.overrides.get? t).or (Formatter.builtIns.get? t)

/-- The formatter of the first registered type of an ancestry. -/
def resolve (r : FormatterRegistry) (ancestry : List TypeName) : Formatter :=
  (ancestry.findSome? r.registered?).getD ((r.overrides.get? TypeName.any).getD Formatter.any)

/-- The formatter for the values of a type, given by its name. -/
def formatterFor (r : FormatterRegistry) (t : TypeName) : Formatter := r.resolve (r.types.ancestry t)

/-- The formatter for a value. -/
def formatterOf (r : FormatterRegistry) (v : Value) : Formatter := r.resolve (r.types.ancestryOf v)

/-- The registry after the formatter for a value has been looked up. -/
def note (r : FormatterRegistry) (v : Value) : FormatterRegistry :=
  { r with types := r.types.note v }

def lookUp (v : Value) : StateM FormatterRegistry Formatter :=
  modifyGet fun r => (r.formatterOf v, r.note v)

/-- What comes of a rendering: every value that it asks for is written by the formatter of that value, whatever the
value is. Formatters that keep asking leave it without a result. -/
def written? (locale : Locale) (r : FormatterRegistry) : Rendering → Option (String × FormatterRegistry)
  | .done text => some (text, r)
  | .ask part next => do
    let (text, r) ← r.note part |>.written? locale (r.formatterOf part locale part)
    r |>.written? locale (next text)
partial_fixpoint

/-- Writes a value with a given formatter; what that asks for is written as usual. Writing that never ends has no
text; the plain form of the value stands for it. -/
def formatWith (formatter : Formatter) (locale : Locale) (v : Value) : StateM FormatterRegistry String :=
  fun r => (written? locale r (formatter locale v)).getD (v.display, r)

/-- Writes a value with its own formatter. -/
def format (locale : Locale) (v : Value) : StateM FormatterRegistry String := do
  formatWith (← lookUp v) locale v

/-- The types that have an override, sorted. -/
def overriddenTypes (r : FormatterRegistry) : List TypeName := r.overrides.sorted.map Prod.fst

end FormatterRegistry

end ObjectValidation
