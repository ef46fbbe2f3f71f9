import ObjectValidation.Check.Basic
import ObjectValidation.Regex.Engine

/-!
The check of a whole text against a regular expression.
-/

namespace ObjectValidation.Check

def fits (e : RegexEngine) (r : e.Compiled) : Check String :=
  ofPresent ((builtIn "Matches").withParam "regex" (e.source r)) (e.matchesWhole r)

end ObjectValidation.Check
