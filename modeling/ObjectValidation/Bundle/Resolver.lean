import ObjectValidation.Bundle.Embedded
import ObjectValidation.Bundle.Resolution

/-!
Resolving requests from several sources. For each name the first source that has it answers, and the answer
is kept, also that no source has it; a failure is not kept. A new source makes everything kept void.
-/

namespace ObjectValidation

/-- What is known of bundle names: their table, or that there is none. -/
abbrev BundleCache := Table (Option Messages)

structure BundleResolver (m : Type → Type) where
  sources : List (BundleSource m) := []
  cache : BundleCache := .empty

/-- A lookup that may fail and remembers what it learned up to then. -/
abbrev Lookup (m : Type → Type) := ExceptT LocalizationError (StateT BundleCache m)

section

variable {m : Type → Type} [Monad m]

/-- Asks sources in order until one has the bundle. -/
def firstFound (name : String) :
    List (BundleSource m) → m (Except LocalizationError (Option Messages))
  | [] => pure (.ok none)
  | source :: rest => do
    match ← source name with
    | .error e => return .error e
    | .ok (some messages) => return .ok (some messages)
    | .ok none => firstFound name rest

namespace Lookup

variable (sources : List (BundleSource m))

/-- The table of a name, from what is known or else from the sources. -/
def load (name : String) : Lookup m (Option Messages) := do
  match (← get : BundleCache).get? name with
  | some known => return known
  | none =>
    let found ← ExceptT.mk (StateT.lift (firstFound name sources))
    modify fun cache : BundleCache => cache.insert name found
    return found

/-- The tables that exist among those of a base for several locales. -/
def loadAll (base : String) : List Locale → Lookup m (List Messages)
  | [] => return []
  | locale :: rest => do
    let found ← load sources (bundleName base locale)
    let others ← loadAll base rest
    return found.toList ++ others

/-- The table of a candidate with those of its parents, if the candidate exists. -/
def chain (c : Candidate) : Lookup m (Option (List Messages)) := do
  match ← load sources (bundleName c.baseName c.locale) with
  | none => return none
  | some head => return some (head :: (← loadAll sources c.baseName c.locale.parents))

/-- The first candidate that exists. -/
def firstExisting : List Candidate → Lookup m (Option MessageBundle)
  | [] => return none
  | c :: rest => do
    match ← chain sources c with
    | some tables => return some ⟨c.baseName, c.locale, c.step, tables⟩
    | none => firstExisting rest

def resolve (q : BundleRequest) : Lookup m MessageBundle := do
  match ← firstExisting sources q.candidates with
  | some bundle => return bundle
  | none => throw q.notFound

end Lookup

namespace BundleResolver

instance : Inhabited (BundleResolver m) := ⟨{}⟩

/-- A resolver for the bundles that come with the library. -/
def withEmbedded : BundleResolver m := { sources := [EmbeddedBundles.source] }

def addSource {m : Type → Type} (r : BundleResolver m) (source : BundleSource m) : BundleResolver m :=
  { sources := r.sources ++ [source], cache := .empty }

def clearCache {m : Type → Type} (r : BundleResolver m) : BundleResolver m :=
  { r with cache := .empty }

/-- Answers a request, and keeps what the sources said on the way. -/
def resolve (q : BundleRequest) :
    StateT (BundleResolver m) m (Except LocalizationError MessageBundle) := fun r => do
  let (result, cache) ← StateT.run (Lookup.resolve r.sources q).run r.cache
  return (result, { r with cache })

end BundleResolver

end

end ObjectValidation
