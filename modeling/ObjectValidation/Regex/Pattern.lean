import ObjectValidation.Regex.Engine
import ObjectValidation.Regex.Match
import ObjectValidation.Regex.Parser

/-!
Patterns as read and matched here, as one library of regular expressions.
-/

namespace ObjectValidation

/-- A pattern and the expression it stands for. -/
structure Pattern where
  source : String
  regex : Regex

namespace Pattern

def ofString? (source : String) : Option Pattern :=
  (Regex.ofChars? source.toList).map fun r => ⟨source, r⟩

/-- A library that knows a part of the usual syntax: no classes named by a property of characters, no word boundaries
with one side, names of groups in ASCII that may be repeated, neither the flag for line ends of two characters nor
bytes in place of characters. It compiles expressions of any size. -/
abbrev engine : RegexEngine where
  Compiled := Pattern
  compile := ofString?
  source := Pattern.source
  find p text := p.regex.find text.toList.toArray
  isMatch p text := p.regex.isMatch text.toList.toArray

end Pattern

end ObjectValidation
