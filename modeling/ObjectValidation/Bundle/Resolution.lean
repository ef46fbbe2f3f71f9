import ObjectValidation.Bundle.Source

/-!
Which bundle answers a request. The request names a base and a locale, and stands beside a fallback base and
a default locale. Six steps are tried in turn, and the first file that exists wins: the base for the exact
locale and for its language, the fallback base likewise, then the base and the fallback base for the default
locale, where the exact locale, the language and the root are tried. A locale without a usable language or
country leaves out the files that it would need.
-/

namespace ObjectValidation

inductive ResolutionStep where
  | exactLocale
  | language
  | fallbackExactLocale
  | fallbackLanguage
  | defaultLocale
  | fallbackDefaultLocale
  deriving DecidableEq, Repr

namespace ResolutionStep

def all : List ResolutionStep :=
  [exactLocale, language, fallbackExactLocale, fallbackLanguage, defaultLocale,
   fallbackDefaultLocale]

def number : ResolutionStep → Nat
  | exactLocale => 1
  | language => 2
  | fallbackExactLocale => 3
  | fallbackLanguage => 4
  | defaultLocale => 5
  | fallbackDefaultLocale => 6

def usesFallbackBase : ResolutionStep → Bool
  | fallbackExactLocale => true
  | fallbackLanguage => true
  | fallbackDefaultLocale => true
  | _ => false

def display (s : ResolutionStep) : String := "step " ++ toString s.number

/-- The name of the step in JSON documents. -/
def jsonName : ResolutionStep → String
  | exactLocale => "exactLocale"
  | language => "language"
  | fallbackExactLocale => "fallbackExactLocale"
  | fallbackLanguage => "fallbackLanguage"
  | defaultLocale => "defaultLocale"
  | fallbackDefaultLocale => "fallbackDefaultLocale"

end ResolutionStep

/-- The name of the bundle of a base for a locale. -/
def bundleName (base : String) (locale : Locale) : String :=
  if locale.isRoot then base else base ++ "_" ++ locale.tag

namespace Locale

/-- The locale itself, if both parts are usable. -/
def usable? (l : Locale) : Option Locale :=
  if l.hasValidLanguage && l.hasValidCountry then some l else none

/-- The locale of the language alone, if that is usable. -/
def language? (l : Locale) : Option Locale :=
  if l.hasValidLanguage then some l.withoutCountry else none

/-- The more general locales, nearest first. -/
def parents (l : Locale) : List Locale :=
  if !l.country.isEmpty then [l.withoutCountry, root]
  else if !l.language.isEmpty then [root]
  else []

end Locale

structure BundleRequest where
  baseName : String
  locale : Locale
  fallbackBaseName : String
  defaultLocale : Locale

/-- A file that may answer a request. -/
structure Candidate where
  step : ResolutionStep
  baseName : String
  locale : Locale
  deriving DecidableEq, Repr

namespace BundleRequest

def base (q : BundleRequest) (step : ResolutionStep) : String :=
  if step.usesFallbackBase then q.fallbackBaseName else q.baseName

def locales (q : BundleRequest) : ResolutionStep → List Locale
  | .exactLocale => q.locale.usable?.toList
  | .fallbackExactLocale => q.locale.usable?.toList
  | .language => q.locale.language?.toList
  | .fallbackLanguage => q.locale.language?.toList
  | .defaultLocale => q.defaultLocale.usable?.toList ++ q.defaultLocale.language?.toList ++ [.root]
  | .fallbackDefaultLocale =>
    q.defaultLocale.usable?.toList ++ q.defaultLocale.language?.toList ++ [.root]

/-- The files that may answer, in the order in which they are tried. -/
def candidates (q : BundleRequest) : List Candidate :=
  ResolutionStep.all.flatMap fun step =>
    (q.locales step).map fun locale => ⟨step, q.base step, locale⟩

def notFound (q : BundleRequest) : LocalizationError :=
  .bundleNotFound q.baseName q.fallbackBaseName q.defaultLocale

end BundleRequest

/-- A bundle that was found, with its own table first and then those of its parents. -/
structure MessageBundle where
  baseName : String
  locale : Locale
  step : ResolutionStep
  chain : List Messages

namespace MessageBundle

def get? (b : MessageBundle) (key : String) : Option String := b.chain.findSome? fun t => t.get? key

def contains (b : MessageBundle) (key : String) : Bool := b.chain.any fun t => t.contains key

def getMessage (b : MessageBundle) (key : String) : Except LocalizationError String :=
  match b.get? key with
  | some template => .ok template
  | none => .error (.missingMessage key b.baseName b.locale)

end MessageBundle

end ObjectValidation
