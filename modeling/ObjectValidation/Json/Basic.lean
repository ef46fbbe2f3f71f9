import ObjectValidation.Number.Float

/-!
JSON documents and their text. An object keeps its members as they were added; a reader of a repeated name
takes the last.
-/

namespace ObjectValidation

inductive Json where
  | null
  | bool (b : Bool)
  | integer (n : Int)
  | float (x : Double)
  | string (s : String)
  | array (items : List Json)
  | object (members : List (String × Json))

namespace Json

instance : Inhabited Json := ⟨null⟩

def hexDigit (n : Nat) : Char := "0123456789abcdef".toList.getD n '0'

/-- Quotes, backslashes and control characters are escaped. -/
def escapeChar (c : Char) : List Char :=
  match c with
  | '"' => ['\\', '"']
  | '\\' => ['\\', '\\']
  | '\n' => ['\\', 'n']
  | '\r' => ['\\', 'r']
  | '\t' => ['\\', 't']
  | '\x08' => ['\\', 'b']
  | '\x0c' => ['\\', 'f']
  | c =>
    if c.toNat < 0x20 then ['\\', 'u', '0', '0', hexDigit (c.toNat / 16), hexDigit (c.toNat % 16)]
    else [c]

def stringText (s : String) : String :=
  String.ofList ('"' :: (s.toList.flatMap escapeChar ++ ['"']))

/-- A point tells a floating-point number from a whole one; what is not finite is written as null. -/
def floatText (x : Double) : String :=
  if !x.isFinite then "null"
  else if x.display.toList.contains '.' then x.display
  else x.display ++ ".0"

mutual

/-- The document without white space. -/
def render : Json → String
  | null => "null"
  | bool b => if b then "true" else "false"
  | integer n => toString n
  | float x => floatText x
  | string s => stringText s
  | array items => "[" ++ ",".intercalate (renderItems items) ++ "]"
  | object members => "\x7b" ++ ",".intercalate (renderMembers members) ++ "\x7d"

def renderItems : List Json → List String
  | [] => []
  | v :: rest => render v :: renderItems rest

def renderMembers : List (String × Json) → List String
  | [] => []
  | (name, v) :: rest => (stringText name ++ ":" ++ render v) :: renderMembers rest

end

/-- Plain data with an evident form as JSON. -/
class Form (α : Type) where
  of : α → Json

export Form (of)

instance : Form Json := ⟨id⟩
instance : Form Bool := ⟨bool⟩
instance : Form Int := ⟨integer⟩
instance : Form Nat := ⟨fun n => integer n⟩
instance : Form String := ⟨string⟩

instance {α : Type} [Form α] : Form (List α) := ⟨fun items => array (items.map of)⟩

/-- Nothing is null. -/
instance {α : Type} [Form α] : Form (Option α) := ⟨fun
  | none => null
  | some a => of a⟩

/-- A pair is a list of two. -/
instance {α β : Type} [Form α] [Form β] : Form (α × β) := ⟨fun p => array [of p.1, of p.2]⟩

/-- Plain data may stand where a document is expected. -/
instance {α : Type} [Form α] : CoeHead α Json := ⟨of⟩

/-- The member a reader finds under a name. -/
def member? (v : Json) (name : String) : Option Json :=
  match v with
  | object members => (members.reverse.find? fun m => m.1 == name).map Prod.snd
  | _ => none

end Json

end ObjectValidation
