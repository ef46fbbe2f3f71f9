import ObjectValidation.Text.Blank

/-!
Locales: a language and a country, either of which may be empty. Nothing is refused when a locale is read;
whoever needs a usable language or country asks for it.
-/

namespace ObjectValidation

structure Locale where
  language : String
  country : String
  deriving DecidableEq, Repr

namespace Locale

def root : Locale := ⟨"", ""⟩

instance : Inhabited Locale := ⟨root⟩

/-- The language in lower and the country in upper case, both of ASCII letters only and without white space
around them. -/
def ofParts (language country : List Char) : Locale where
  language := String.ofList ((Text.trimChars language).map Char.toLower)
  country := String.ofList ((Text.trimChars country).map Char.toUpper)

def new (language country : String) : Locale := ofParts language.toList country.toList

def languageOnly (language : String) : Locale := new language ""

/-- What ends the part of a tag that names the locale: an encoding or a variant follows. -/
def endsName (c : Char) : Bool := c == '.' || c == '@'

def separates (c : Char) : Bool := c == '_' || c == '-'

/-- The names that systems give to having no locale. -/
def isUnlocalized (name : List Char) : Bool :=
  let lower := name.map Char.toLower
  lower == ['c'] || lower == ['p', 'o', 's', 'i', 'x']

/-- The first two parts of a name between separators. -/
def firstTwoParts (name : List Char) : List Char × List Char :=
  let tail := name.dropWhile fun c => !separates c
  (name.takeWhile fun c => !separates c, tail.tail.takeWhile fun c => !separates c)

def parseChars (tag : List Char) : Locale :=
  let name := (Text.trimChars tag).takeWhile fun c => !endsName c
  if name.isEmpty || isUnlocalized name then root
  else ofParts (firstTwoParts name).1 (firstTwoParts name).2

def parse (tag : String) : Locale := parseChars tag.toList

def isRoot (l : Locale) : Bool := l.language.isEmpty && l.country.isEmpty

def withoutCountry (l : Locale) : Locale := languageOnly l.language

/-- Two or three ASCII letters. -/
def hasValidLanguage (l : Locale) : Bool :=
  let s := l.language.toList
  (s.length == 2 || s.length == 3) && s.all Char.isAlpha

/-- Two ASCII letters or three ASCII digits. -/
def hasValidCountry (l : Locale) : Bool :=
  let s := l.country.toList
  (s.length == 2 && s.all Char.isAlpha) || (s.length == 3 && s.all Char.isDigit)

/-- The language and the country, joined when there is a country; the root locale has the empty tag. -/
def tag (l : Locale) : String :=
  if l.country.isEmpty then l.language else l.language ++ "_" ++ l.country

def display (l : Locale) : String := if l.isRoot then "root" else l.tag

end Locale

end ObjectValidation
