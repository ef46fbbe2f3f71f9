import ObjectValidation.Text.Ranges

/-!
White space in all scripts, and what is left of a text without it. A text is blank exactly when trimming
leaves nothing.
-/

namespace ObjectValidation.Text

/-- The characters that count as white space. -/
def blankRanges : List (Nat × Nat) :=
  [(0x09, 0x0D), (0x20, 0x20), (0x85, 0x85), (0xA0, 0xA0), (0x1680, 0x1680), (0x2000, 0x200A),
   (0x2028, 0x2029), (0x202F, 0x202F), (0x205F, 0x205F), (0x3000, 0x3000)]

def isBlankChar (c : Char) : Bool := inRanges blankRanges c

/-- Drops the white space at the end. -/
def trimEnd (s : List Char) : List Char := (s.reverse.dropWhile isBlankChar).reverse

/-- Drops the white space at both ends. -/
def trimChars (s : List Char) : List Char := trimEnd (s.dropWhile isBlankChar)

def isBlank (s : String) : Bool := (trimChars s.toList).isEmpty

end ObjectValidation.Text
