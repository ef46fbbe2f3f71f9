import ObjectValidation.Locale.Basic

/-!
What can go wrong when messages are looked up. None of it is a violation: such a failure ends the lookup at
once.
-/

namespace ObjectValidation

/-- Why a file could not be read as text. -/
inductive ReadFailure where
  | isDirectory
  | notDirectory
  | notText
  | badName
  | missing
  deriving DecidableEq, Repr

def ReadFailure.message : ReadFailure → String
  | isDirectory => "is a directory"
  | notDirectory => "not a directory"
  | notText => "not valid text"
  | badName => "not a file name"
  | missing => "no such file or directory"

inductive LocalizationError where
  | missingMessage (key baseName : String) (locale : Locale)
  | bundleNotFound (baseName fallbackBaseName : String) (locale : Locale)
  | invalidBundle (name : String)
  | invalidConfig
  | unreadable (path : String) (failure : ReadFailure)
  deriving DecidableEq, Repr

namespace LocalizationError

/-- The message up to the underlying cause. -/
def heading : LocalizationError → String
  | missingMessage key baseName locale =>
    "no message for key '" ++ key ++ "' in bundle '" ++ baseName ++ "' (" ++ locale.display ++ ")"
  | bundleNotFound baseName fallbackBaseName locale =>
    "no bundle found for '" ++ baseName ++ "' (fallback '" ++ fallbackBaseName ++ "') in " ++
      locale.display
  | invalidBundle name => "invalid bundle '" ++ name ++ "': "
  | invalidConfig => "invalid localizer configuration: "
  | unreadable path _ => "failed to read " ++ path ++ ": "

/-- The underlying cause in words, where there is one. -/
def cause : LocalizationError → String
  | missingMessage .. => ""
  | bundleNotFound .. => ""
  | invalidBundle _ => "not an object of texts"
  | invalidConfig => "not a configuration"
  | unreadable _ failure => failure.message

def message (e : LocalizationError) : String := e.heading ++ e.cause

end LocalizationError

end ObjectValidation
