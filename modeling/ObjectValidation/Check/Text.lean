import ObjectValidation.Check.Basic
import ObjectValidation.Text.Blank
import ObjectValidation.Text.Lowercase

/-!
Checks on the content of texts.
-/

namespace ObjectValidation

/-- Whether the second list stands somewhere in the first without gaps. -/
def Text.occursIn (part : List Char) : List Char → Bool
  | [] => part.isEmpty
  | c :: rest => part.isPrefixOf (c :: rest) || occursIn part rest

namespace Check

def isBlank : Check String := ofPresent (builtIn "Blank") Text.isBlank

def isNotBlank : Check String := ofPresent (builtIn "NotBlank") fun s => !Text.isBlank s

def contains (part : String) : Check String :=
  ofPresent ((builtIn "Contains").withParam "value" part) fun s =>
    Text.occursIn part.toList s.toList

def startsWith (start : String) : Check String :=
  ofPresent ((builtIn "StartsWith").withParam "prefix" start) fun s =>
    start.toList.isPrefixOf s.toList

def endsWith (ending : String) : Check String :=
  ofPresent ((builtIn "EndsWith").withParam "suffix" ending) fun s =>
    ending.toList.isSuffixOf s.toList

def isEqualToIgnoringCase (expected : String) : Check String :=
  ofPresent ((builtIn "EqualsIgnoringCase").withParam "value" expected) fun s =>
    Text.lowercase s == Text.lowercase expected

end Check

end ObjectValidation
