import ObjectValidation.Config
import ObjectValidation.Message

/-!
A localizer turns violations into messages. It holds the formatters, the sources of bundles, the locale that
stands in where none is asked for, and the names of the bundles to look in first and last.
-/

namespace ObjectValidation

structure Localizer (m : Type → Type) where
  registry : FormatterRegistry := .new
  resolver : BundleResolver m
  defaultLocale : Locale := .root
  baseName : String := defaultBaseName
  fallbackBaseName : String := defaultBaseName

/-- What a localizer is made from; the embedded bundles come after the given sources. -/
structure LocalizerSetup (m : Type → Type) where
  registry : FormatterRegistry := .new
  sources : List (BundleSource m) := []
  embedded : Bool := true
  defaultLocale : Locale := .root
  baseName : String := defaultBaseName
  fallbackBaseName : String := defaultBaseName

namespace LocalizerSetup

variable {m : Type → Type} [Monad m]

def build (s : LocalizerSetup m) : Localizer m where
  registry := s.registry
  resolver := { sources := s.sources ++ if s.embedded then [EmbeddedBundles.source] else [] }
  defaultLocale := s.defaultLocale
  baseName := s.baseName
  fallbackBaseName := s.fallbackBaseName

/-- The setup of a configuration: its directories are sources, in order. -/
def ofConfig (read : String → m (Except ReadFailure String)) (c : Config) : LocalizerSetup m where
  sources := c.bundleDirs.map (BundleSource.directory read)
  embedded := c.embeddedBundles
  defaultLocale := c.defaultLocale.getD .root
  baseName := c.baseName
  fallbackBaseName := c.fallbackBaseName

end LocalizerSetup

namespace Localizer

variable {m : Type → Type} [Monad m]

/-- A localizer with the embedded bundles and no settings of its own. -/
def standard : Localizer m := LocalizerSetup.build {}

/-- An operation of a localizer, which may learn from its sources on the way. -/
abbrev Session (m : Type → Type) := StateT (Localizer m) m

def withRegistry {α : Type} (action : StateM FormatterRegistry α) : Session m α :=
  modifyGet fun l =>
    let (a, registry) := Id.run (action.run l.registry)
    (a, { l with registry })

def withResolver {α : Type} (action : StateT (BundleResolver m) m α) : Session m α := fun l => do
  let (a, resolver) ← action.run l.resolver
  return (a, { l with resolver })

/-- The request for a base and a locale, either of which may be left to the localizer. -/
def request (l : Localizer m) (base : Option String) (locale : Option Locale) : BundleRequest where
  baseName := base.getD l.baseName
  locale := locale.getD l.defaultLocale
  fallbackBaseName := l.fallbackBaseName
  defaultLocale := l.defaultLocale

def bundle (base : Option String) (locale : Option Locale) :
    Session m (Except LocalizationError MessageBundle) := do
  let l : Localizer m ← get
  withResolver (BundleResolver.resolve (l.request base locale))

def format (v : Value) (locale : Option Locale) : Session m String := do
  let l : Localizer m ← get
  withRegistry (FormatterRegistry.format (locale.getD l.defaultLocale) v)

def setDefaultLocale (l : Localizer m) (locale : Locale) : Localizer m :=
  { l with defaultLocale := locale }

def interpolate (b : MessageBundle) (key : String) (params : Table Value) :
    Session m (Except LocalizationError String) :=
  withRegistry (b.interpolate key params)

/-- The message about a violation, from the bundle found for the base and the locale. -/
def toMessage (v : Violation) (base : Option String) (locale : Option Locale) :
    Session m (Except LocalizationError ViolationMessage) := do
  match ← bundle base locale with
  | .error e => return .error e
  | .ok b => withRegistry (b.messageFor v)

/-- The messages about several violations, all from the one bundle found for the base and the locale. -/
def mapToMessage (violations : List Violation) (base : Option String) (locale : Option Locale) :
    Session m (Except LocalizationError (List ViolationMessage)) := do
  match ← bundle base locale with
  | .error e => return .error e
  | .ok b => withRegistry (b.messagesFor violations)

end Localizer

end ObjectValidation
