import ObjectValidation.Format.Registry

/-!
Message templates. A name between braces is a placeholder; it is replaced by the text of the parameter of
that name, if there is one, and stays as it is otherwise. A brace that opens no placeholder is text, and a
replacement is never looked at again.
-/

namespace ObjectValidation

namespace Template

inductive Piece where
  | text (c : Char)
  | placeholder (name : List Char)
  deriving DecidableEq, Repr

def isBrace (c : Char) : Bool := c == '\x7b' || c == '\x7d'

/-- The name of a placeholder and what follows it, after the opening brace. -/
def name? (s : List Char) : Option (List Char × List Char) :=
  let name := s.takeWhile fun c => !isBrace c
  match s.drop name.length with
  | '\x7d' :: rest => some (name, rest)
  | _ => none

theorem name?_length {s name rest : List Char} (h : name? s = some (name, rest)) :
    rest.length < s.length := by
  simp only [name?] at h
  split at h
  · rename_i tail heq
    have := congrArg List.length heq
    simp only [List.length_drop, List.length_cons] at this
    cases h
    omega
  · cases h

def parse (s : List Char) : List Piece :=
  match s with
  | [] => []
  | c :: rest =>
    if c = '\x7b' then
      match _h : name? rest with
      | some (name, after) => .placeholder name :: parse after
      | none => .text c :: parse rest
    else .text c :: parse rest
termination_by s.length
decreasing_by
  · have := name?_length _h
    simp only [List.length_cons]
    omega
  all_goals simp

/-- The text of a piece in the template. -/
def Piece.source : Piece → List Char
  | text c => [c]
  | placeholder name => '\x7b' :: (name ++ ['\x7d'])

/-- The value that a piece stands for: placeholders need a name. -/
def Piece.value? (params : Table Value) : Piece → Option Value
  | text _ => none
  | placeholder name => if name.isEmpty then none else params.get? (String.ofList name)

def renderPieces (params : Table Value) (locale : Locale) :
    List Piece → StateM FormatterRegistry (List Char)
  | [] => pure []
  | p :: rest => do
    let head ← match p.value? params with
      | some v => do pure (← FormatterRegistry.format locale v).toList
      | none => pure p.source
    let tail ← renderPieces params locale rest
    return head ++ tail

/-- Fills in the parameters of a template, written for a locale. -/
def render (template : String) (params : Table Value) (locale : Locale) :
    StateM FormatterRegistry String := do
  let chars ← renderPieces params locale (parse template.toList)
  return String.ofList chars

end Template

end ObjectValidation
