import ObjectValidation.Bundle.Source

/-!
The bundles that come with the library: messages for every constraint of the catalogue, in English, German
and Brazilian Portuguese. They are texts like those of all other bundles, and are read when they are asked for.
-/

namespace ObjectValidation.EmbeddedBundles

def english : String :=
  "\x7b
  \"vigil.constraints.Null.message\": \"Must be null\",
  \"vigil.constraints.NotNull.message\": \"Must not be null\",
  \"vigil.constraints.Equals.message\": \"Must be equal to \x7bvalue\x7d\",
  \"vigil.constraints.NotEquals.message\": \"Must not be equal to \x7bvalue\x7d\",
  \"vigil.constraints.EqualsIgnoringCase.message\": \"Must be equal to \x7bvalue\x7d ignoring case\",
  \"vigil.constraints.In.message\": \"Must be one of \x7bvalues\x7d\",
  \"vigil.constraints.NotIn.message\": \"Must not be one of \x7bvalues\x7d\",
  \"vigil.constraints.Valid.message\": \"Must be valid\",
  \"vigil.constraints.Less.message\": \"Must be less than \x7bvalue\x7d\",
  \"vigil.constraints.LessOrEqual.message\": \"Must be less than or equal to \x7bvalue\x7d\",
  \"vigil.constraints.Greater.message\": \"Must be greater than \x7bvalue\x7d\",
  \"vigil.constraints.GreaterOrEqual.message\": \"Must be greater than or equal to \x7bvalue\x7d\",
  \"vigil.constraints.Between.message\": \"Must be between \x7bstart\x7d and \x7bend\x7d\",
  \"vigil.constraints.NotBetween.message\": \"Must not be between \x7bstart\x7d and \x7bend\x7d\",
  \"vigil.constraints.Zero.message\": \"Must be zero\",
  \"vigil.constraints.NotZero.message\": \"Must not be zero\",
  \"vigil.constraints.Positive.message\": \"Must be positive\",
  \"vigil.constraints.Negative.message\": \"Must be negative\",
  \"vigil.constraints.Empty.message\": \"Must be empty\",
  \"vigil.constraints.NotEmpty.message\": \"Must not be empty\",
  \"vigil.constraints.Size.message\": \"Size must be between \x7bmin\x7d and \x7bmax\x7d\",
  \"vigil.constraints.Blank.message\": \"Must be blank\",
  \"vigil.constraints.NotBlank.message\": \"Must not be blank\",
  \"vigil.constraints.Contains.message\": \"Must contain \x7bvalue\x7d\",
  \"vigil.constraints.StartsWith.message\": \"Must start with \x7bprefix\x7d\",
  \"vigil.constraints.EndsWith.message\": \"Must end with \x7bsuffix\x7d\",
  \"vigil.constraints.Matches.message\": \"Must match \x7bregex\x7d\"
\x7d
"

def brazilian : String :=
  "\x7b
  \"vigil.constraints.Null.message\": \"Deve ser nulo\",
  \"vigil.constraints.NotNull.message\": \"Não deve ser nulo\",
  \"vigil.constraints.Equals.message\": \"Deve ser igual a \x7bvalue\x7d\",
  \"vigil.constraints.NotEquals.message\": \"Não deve ser igual a \x7bvalue\x7d\",
  \"vigil.constraints.EqualsIgnoringCase.message\": \"Deve ser igual a \x7bvalue\x7d, ignorando maiúsculas e minúsculas\",
  \"vigil.constraints.In.message\": \"Deve ser um de \x7bvalues\x7d\",
  \"vigil.constraints.NotIn.message\": \"Não deve ser um de \x7bvalues\x7d\",
  \"vigil.constraints.Valid.message\": \"Deve ser válido\",
  \"vigil.constraints.Less.message\": \"Deve ser menor que \x7bvalue\x7d\",
  \"vigil.constraints.LessOrEqual.message\": \"Deve ser menor ou igual a \x7bvalue\x7d\",
  \"vigil.constraints.Greater.message\": \"Deve ser maior que \x7bvalue\x7d\",
  \"vigil.constraints.GreaterOrEqual.message\": \"Deve ser maior ou igual a \x7bvalue\x7d\",
  \"vigil.constraints.Between.message\": \"Deve estar entre \x7bstart\x7d e \x7bend\x7d\",
  \"vigil.constraints.NotBetween.message\": \"Não deve estar entre \x7bstart\x7d e \x7bend\x7d\",
  \"vigil.constraints.Zero.message\": \"Deve ser zero\",
  \"vigil.constraints.NotZero.message\": \"Não deve ser zero\",
  \"vigil.constraints.Positive.message\": \"Deve ser positivo\",
  \"vigil.constraints.Negative.message\": \"Deve ser negativo\",
  \"vigil.constraints.Empty.message\": \"Deve ser vazio\",
  \"vigil.constraints.NotEmpty.message\": \"Não deve ser vazio\",
  \"vigil.constraints.Size.message\": \"O tamanho deve estar entre \x7bmin\x7d e \x7bmax\x7d\",
  \"vigil.constraints.Blank.message\": \"Deve estar em branco\",
  \"vigil.constraints.NotBlank.message\": \"Não deve estar em branco\",
  \"vigil.constraints.Contains.message\": \"Deve conter \x7bvalue\x7d\",
  \"vigil.constraints.StartsWith.message\": \"Deve começar com \x7bprefix\x7d\",
  \"vigil.constraints.EndsWith.message\": \"Deve terminar com \x7bsuffix\x7d\",
  \"vigil.constraints.Matches.message\": \"Deve corresponder a \x7bregex\x7d\"
\x7d
"

def german : String :=
  "\x7b
  \"vigil.constraints.Null.message\": \"Muss null sein\",
  \"vigil.constraints.NotNull.message\": \"Darf nicht null sein\",
  \"vigil.constraints.Equals.message\": \"Muss gleich \x7bvalue\x7d sein\",
  \"vigil.constraints.NotEquals.message\": \"Darf nicht gleich \x7bvalue\x7d sein\",
  \"vigil.constraints.EqualsIgnoringCase.message\": \"Muss ohne Beachtung der Groß-/Kleinschreibung gleich \x7bvalue\x7d sein\",
  \"vigil.constraints.In.message\": \"Muss einer der Werte \x7bvalues\x7d sein\",
  \"vigil.constraints.NotIn.message\": \"Darf keiner der Werte \x7bvalues\x7d sein\",
  \"vigil.constraints.Valid.message\": \"Muss gültig sein\",
  \"vigil.constraints.Less.message\": \"Muss kleiner als \x7bvalue\x7d sein\",
  \"vigil.constraints.LessOrEqual.message\": \"Muss kleiner oder gleich \x7bvalue\x7d sein\",
  \"vigil.constraints.Greater.message\": \"Muss größer als \x7bvalue\x7d sein\",
  \"vigil.constraints.GreaterOrEqual.message\": \"Muss größer oder gleich \x7bvalue\x7d sein\",
  \"vigil.constraints.Between.message\": \"Muss zwischen \x7bstart\x7d und \x7bend\x7d liegen\",
  \"vigil.constraints.NotBetween.message\": \"Darf nicht zwischen \x7bstart\x7d und \x7bend\x7d liegen\",
  \"vigil.constraints.Zero.message\": \"Muss null sein\",
  \"vigil.constraints.NotZero.message\": \"Darf nicht null sein\",
  \"vigil.constraints.Positive.message\": \"Muss positiv sein\",
  \"vigil.constraints.Negative.message\": \"Muss negativ sein\",
  \"vigil.constraints.Empty.message\": \"Muss leer sein\",
  \"vigil.constraints.NotEmpty.message\": \"Darf nicht leer sein\",
  \"vigil.constraints.Size.message\": \"Größe muss zwischen \x7bmin\x7d und \x7bmax\x7d liegen\",
  \"vigil.constraints.Blank.message\": \"Muss leer sein\",
  \"vigil.constraints.NotBlank.message\": \"Darf nicht leer sein\",
  \"vigil.constraints.Contains.message\": \"Muss \x7bvalue\x7d enthalten\",
  \"vigil.constraints.StartsWith.message\": \"Muss mit \x7bprefix\x7d beginnen\",
  \"vigil.constraints.EndsWith.message\": \"Muss mit \x7bsuffix\x7d enden\",
  \"vigil.constraints.Matches.message\": \"Muss \x7bregex\x7d entsprechen\"
\x7d
"

/-- The texts in order, by name. The root bundle has the text of the English one. -/
def texts : List (String × String) :=
  [("vigil/messages", english), ("vigil/messages_en", english), ("vigil/messages_pt_BR", brazilian),
    ("vigil/messages_de", german)]

def names : List String := texts.map Prod.fst

/-- Reads the text of a name, if there is one. -/
def load (name : String) : Except LocalizationError (Option Messages) :=
  match texts.find? fun text => text.1 == name with
  | some (name, text) => (Messages.parse name text).map some
  | none => .ok none

def source {m : Type → Type} [Monad m] : BundleSource m := fun name => pure (load name)

end ObjectValidation.EmbeddedBundles
