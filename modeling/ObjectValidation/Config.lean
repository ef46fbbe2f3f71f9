import ObjectValidation.Bundle.Source
import ObjectValidation.Json.Basic
import ObjectValidation.Text.Decode

/-!
The configuration of a localizer, from a JSON document or from the environment. Every setting has a default.
-/

namespace ObjectValidation

def defaultBaseName : String := "vigil/messages"

structure Config where
  defaultLocale : Option Locale := none
  baseName : String := defaultBaseName
  fallbackBaseName : String := defaultBaseName
  bundleDirs : List String := []
  embeddedBundles : Bool := true
  deriving DecidableEq, Repr

namespace Config

/-- A change that a document makes to a configuration. -/
inductive Setting where
  | defaultLocale (l : Option Locale)
  | baseName (s : String)
  | fallbackBaseName (s : String)
  | bundleDirs (dirs : List String)
  | embeddedBundles (b : Bool)
  | unknown

def apply (c : Config) : Setting → Config
  | .defaultLocale l => { c with defaultLocale := l }
  | .baseName s => { c with baseName := s }
  | .fallbackBaseName s => { c with fallbackBaseName := s }
  | .bundleDirs dirs => { c with bundleDirs := dirs }
  | .embeddedBundles b => { c with embeddedBundles := b }
  | .unknown => c

/-- The names of the settings, in the order in which a list gives them. -/
def settingNames : List String :=
  ["default_locale", "base_name", "fallback_base_name", "bundle_dirs", "embedded_bundles"]

open Json (Reader)

/-- Reads the setting of a name. A setting that is not known is passed over. -/
def setting (name : String) : Reader Setting := fun s =>
  match name with
  | "default_locale" =>
    (Reader.orNull Reader.string s).map fun (tag, s) => (.defaultLocale (tag.map Locale.parse), s)
  | "base_name" => (Reader.string s).map fun (a, s) => (.baseName a, s)
  | "fallback_base_name" => (Reader.string s).map fun (a, s) => (.fallbackBaseName a, s)
  | "bundle_dirs" => (Reader.array Reader.string s).map fun (a, s) => (.bundleDirs a, s)
  | "embedded_bundles" => (Reader.bool s).map fun (a, s) => (.embeddedBundles a, s)
  | _ => (Reader.skipValue s).map fun (_, s) => (.unknown, s)

/-- An object of settings, none of which is given twice. -/
def ofObject : Reader Config := fun s => do
  let (members, s) ← Reader.object setting s
  let names := (members.map Prod.fst).filter settingNames.contains
  if names.eraseDups.length = names.length then
    return (members.foldl (fun c m => c.apply m.2) {}, s)
  else none

/-- The settings of the given names in order, up to the end of the list. -/
def listRest (c : Config) : List String → Reader Config
  | [], s => (Reader.token ']' s).map fun (_, s) => (c, s)
  | name :: names, s =>
    match Reader.token ']' s with
    | some (_, s) => some (c, s)
    | none => do
      let (_, s) ← Reader.token ',' s
      let (change, s) ← setting name s
      listRest (c.apply change) names s

/-- A list of settings without their names; those missing at the end keep their defaults. -/
def ofArray : Reader Config := fun s => do
  let (_, s) ← Reader.token '[' s
  match Reader.token ']' s with
  | some (_, s) => return ({}, s)
  | none =>
    let (change, s) ← setting "default_locale" s
    listRest (Config.apply {} change) settingNames.tail s

def parse (text : String) : Except LocalizationError Config :=
  match Reader.document (fun s => (ofObject s).or (ofArray s)) text with
  | some c => .ok c
  | none => .error .invalidConfig

/-- Reads a configuration from a file. -/
def parseFile {m : Type → Type} [Monad m] (read : String → m (Except ReadFailure String))
    (path : String) : m (Except LocalizationError Config) := do
  match ← read path with
  | .ok text => return parse text
  | .error failure => return .error (.unreadable path failure)

def toJson (c : Config) : Json :=
  .object [
    ("default_locale", c.defaultLocale.map Locale.tag),
    ("base_name", c.baseName),
    ("fallback_base_name", c.fallbackBaseName),
    ("bundle_dirs", c.bundleDirs),
    ("embedded_bundles", c.embeddedBundles)]

section

variable {m : Type → Type} [Monad m]

/-- The environment: the bytes under a name, if there are any. -/
abbrev Environment (m : Type → Type) := String → m (Option ByteArray)

/-- A variable that holds text other than white space. -/
def textOf? (bytes : Option ByteArray) : Option String := do
  let text ← String.fromUTF8? (← bytes)
  if Text.isBlank text then none else some text

def lookUpText (env : Environment m) (name : String) : m (Option String) := do
  return textOf? (← env name)

/-- The first of several variables that holds text. -/
def firstText (env : Environment m) : List String → m (Option String)
  | [] => return none
  | name :: rest => do
    match ← lookUpText env name with
    | some text => return some text
    | none => firstText env rest

/-- The directories of a list with colons between them. -/
def splitDirs (bytes : ByteArray) : List String :=
  let parts := FilePath.splitAt 0x3A (bytes.toList.map UInt8.toNat)
  (parts.filter fun part => !part.isEmpty).map Text.decode

/-- The configuration that the environment gives. The first locale variable with text in it decides, also
when it names no locale. -/
def fromEnvironment (env : Environment m) : m Config := do
  let tag ← firstText env ["VIGIL_LOCALE", "LC_ALL", "LANG"]
  let baseName ← lookUpText env "VIGIL_BASE_NAME"
  let fallbackBaseName ← lookUpText env "VIGIL_FALLBACK_BASE_NAME"
  let dirs ← env "VIGIL_BUNDLE_DIRS"
  let locale := (tag.map Locale.parse).filter fun l => !l.isRoot
  return {
    defaultLocale := locale
    baseName := baseName.getD defaultBaseName
    fallbackBaseName := fallbackBaseName.getD defaultBaseName
    bundleDirs := (dirs.map splitDirs).getD [] }

end

end Config

end ObjectValidation
