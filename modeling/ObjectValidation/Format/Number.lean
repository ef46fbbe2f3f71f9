import ObjectValidation.Format.Formatter

/-!
Numbers in a locale: the digits of the whole part in groups of three from the right, and the locale's sign
between the whole part and the fraction.
-/

namespace ObjectValidation

namespace Numeral

/-- Puts a separator in front of every digit that is followed by a multiple of three digits, except the
first. -/
def groupTail (separator : List Char) : List Char → List Char
  | [] => []
  | c :: rest =>
    (if (rest.length + 1) % 3 = 0 then separator else []) ++ c :: groupTail separator rest

def group (separator : List Char) : List Char → List Char
  | [] => []
  | c :: rest => c :: groupTail separator rest

/-- A plain numeral without its minus. -/
def localizeUnsigned (conventions : Conventions) (digits : List Char) : List Char :=
  let whole := digits.takeWhile fun c => c != '.'
  group conventions.grouping.toList whole ++
    match digits.drop whole.length with
    | [] => []
    | _ :: fraction => conventions.decimal.toList ++ fraction

def localizeChars (conventions : Conventions) : List Char → List Char
  | '-' :: digits => '-' :: localizeUnsigned conventions digits
  | digits => localizeUnsigned conventions digits

/-- Writes a plain numeral by the conventions of a locale. -/
def localize (conventions : Conventions) (plain : String) : String :=
  String.ofList (localizeChars conventions plain.toList)

end Numeral

/-- Writes numbers by the conventions of the locale; other values, and floating-point values that are no
finite numbers, keep their plain form. -/
def Formatter.number : Formatter := fun locale v => .done <|
  let localized := Numeral.localize locale.conventions v.display
  match v with
  | .integer _ => localized
  | .float x => if x.isFinite then localized else v.display
  | .decimal _ => localized
  | _ => v.display

end ObjectValidation
