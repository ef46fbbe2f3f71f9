/-!
Plain decimal numerals: an optional minus, integer digits, and a point before the fraction digits.
-/

namespace ObjectValidation

/-- Digits of a number, with zeros in front up to a width. -/
def padded (width n : Nat) : String :=
  let digits := toString n
  String.ofList (List.replicate (width - digits.length) '0') ++ digits

/-- `n / 10 ^ places` with exactly `places` fraction digits. -/
def withPlaces (n places : Nat) : String :=
  if places = 0 then toString n
  else toString (n / Nat.pow 10 places) ++ "." ++ padded places (n % Nat.pow 10 places)

def signed (negative : Bool) (numeral : String) : String :=
  if negative then "-" ++ numeral else numeral

end ObjectValidation
