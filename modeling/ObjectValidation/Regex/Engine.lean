/-!
What the check of patterns needs of a library of regular expressions, and matching of whole texts with it. A text
matches if the match that is found first covers it, or else if the source in a group between the two ends of a
text has a match.
-/

namespace ObjectValidation

/-- A library of regular expressions. Places in a text count its characters. -/
structure RegexEngine where
  Compiled : Type
  /-- The expression of a source, where the library accepts the source. -/
  compile : String → Option Compiled
  source : Compiled → String
  /-- The place where the match that is found first begins, and the place where it ends. -/
  find : Compiled → String → Option (Nat × Nat)
  isMatch : Compiled → String → Bool

namespace RegexEngine

/-- The source in a group between the two ends of a text. -/
def anchored (source : String) : String := "\\A(?:" ++ source ++ ")\\z"

/-- Whether an expression matches the whole of a text. Where the match that is found first covers less, a longer one
is looked for with the anchored source; if the library refuses that, none is found. -/
def matchesWhole (e : RegexEngine) (r : e.Compiled) (text : String) : Bool :=
  match e.find r text with
  | none => false
  | some (i, j) =>
    if i = 0 ∧ j = text.length then true
    else
      match e.compile (anchored (e.source r)) with
      | some whole => e.isMatch whole text
      | none => false

end RegexEngine

end ObjectValidation
