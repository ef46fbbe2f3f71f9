import ObjectValidation.Error
import ObjectValidation.Files
import ObjectValidation.Json.Reader
import ObjectValidation.Table

/-!
Where messages come from. A source has a flat table of templates for each bundle name it knows, and says so
when it does not know a name; asking it is an effect in the caller's monad `m`.
-/

namespace ObjectValidation

abbrev Messages := Table String

/-- Gives the table of a bundle name, none if it has no such bundle, or the reason why that cannot be told. -/
abbrev BundleSource (m : Type → Type) := String → m (Except LocalizationError (Option Messages))

/-- Reads a table from the text of a bundle: an object of texts. -/
def Messages.parse (name text : String) : Except LocalizationError Messages :=
  match Json.Reader.document (Json.Reader.object fun _ => Json.Reader.string) text with
  | some entries => .ok (.ofList entries)
  | none => .error (.invalidBundle name)

namespace BundleSource

variable {m : Type → Type} [Monad m]

/-- A source that holds its tables in memory. -/
def memory (bundles : Table Messages) : BundleSource m := fun name => pure (.ok (bundles.get? name))

/-- Adds entries to the table of a name, over those of the same key. -/
def addEntries (bundles : Table Messages) (name : String) (entries : List (String × String)) :
    Table Messages :=
  bundles.insert name (((bundles.get? name).getD .empty).insertAll entries)

/-- The file of a bundle in a directory: each part of the name between slashes is a step of the path, and
the last one gets the ending for JSON. -/
def filePath (root name : String) : String := FilePath.pushAll root (FilePath.steps name) ++ ".json"

/-- A source that reads files from a directory; a missing file is a bundle it does not have. -/
def directory (read : String → m (Except ReadFailure String)) (root : String) : BundleSource m :=
  fun name => do
    match ← read (filePath root name) with
    | .ok text => return (Messages.parse name text).map some
    | .error .missing => return .ok none
    | .error failure => return .error (.unreadable (filePath root name) failure)

end BundleSource

end ObjectValidation
