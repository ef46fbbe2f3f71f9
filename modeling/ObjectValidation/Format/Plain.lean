import ObjectValidation.Format.Formatter

/-!
Formatters that look at no locale: the plain form, the variant of an enumeration value, and sequences, whose
items are written by whatever formatter is theirs.
-/

namespace ObjectValidation.Formatter

/-- The formatter of last resort. -/
def any : Formatter := ofText Value.display

def enum : Formatter := ofText fun
  | .enum _ variant => variant
  | v => v.display

/-- The items of a sequence with a separator between them. -/
def joined (separator : String) (items : List Value) : Rendering :=
  .askAll items fun texts => .done (separator.intercalate texts)

/-- Writes the parts of a value with a separator between them, those of an object after their names. -/
def separated (separator : String) : Formatter := fun _ v =>
  match v with
  | .list items => joined separator items
  | .array items => joined separator items
  | .object _ fields => .askAll (fields.map Prod.snd) fun texts =>
      .done (separator.intercalate (fields.zipWith (fun f text => f.1 ++ "=" ++ text) texts))
  | v => .done v.display

def sequence : Formatter := fun _ v =>
  match v with
  | .list items => joined ", " items
  | .array items => joined ", " items
  | v => .done v.display

end ObjectValidation.Formatter
