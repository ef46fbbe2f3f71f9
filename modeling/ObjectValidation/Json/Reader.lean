/-!
Reading JSON text straight into the shape that is wanted. Only the four blanks of the format count as white
space, nothing may follow the document, and a text must escape its control characters and pair its
surrogates. What is not wanted is checked for its form alone.
-/

namespace ObjectValidation.Json

/-- Reads from the start of a text and gives the rest, or fails. -/
abbrev Reader (α : Type) := List Char → Option (α × List Char)

namespace Reader

def isBlank (c : Char) : Bool := c == ' ' || c == '\n' || c == '\t' || c == '\r'

def skipBlanks (s : List Char) : List Char := s.dropWhile isBlank

/-- Skips white space and then one given character. -/
def token (c : Char) : Reader Unit := fun s =>
  match skipBlanks s with
  | d :: rest => if d = c then some ((), rest) else none
  | [] => none

/-- Skips white space and then a given word. -/
def word (w : List Char) : Reader Unit := fun s =>
  let s := skipBlanks s
  if w.isPrefixOf s then some ((), s.drop w.length) else none

def hexValue? (c : Char) : Option Nat :=
  if '0' ≤ c ∧ c ≤ '9' then some (c.toNat - 48)
  else if 'a' ≤ c ∧ c ≤ 'f' then some (c.toNat - 87)
  else if 'A' ≤ c ∧ c ≤ 'F' then some (c.toNat - 55)
  else none

/-- The value of the four hexadecimal digits of an escape. -/
def unit? (a b c d : Char) : Option Nat := do
  return (((← hexValue? a) * 16 + (← hexValue? b)) * 16 + (← hexValue? c)) * 16 + (← hexValue? d)

def simpleEscape? (c : Char) : Option Char :=
  match c with
  | '"' => some '"'
  | '\\' => some '\\'
  | '/' => some '/'
  | 'b' => some '\x08'
  | 'f' => some '\x0c'
  | 'n' => some '\n'
  | 'r' => some '\r'
  | 't' => some '\t'
  | _ => none

def isHighSurrogate (n : Nat) : Bool := decide (0xD800 ≤ n) && decide (n ≤ 0xDBFF)

def isLowSurrogate (n : Nat) : Bool := decide (0xDC00 ≤ n) && decide (n ≤ 0xDFFF)

/-- The characters up to the closing quote; `before` holds those already read, in reverse. -/
def stringRest (before : List Char) : Reader (List Char)
  | '"' :: rest => some (before.reverse, rest)
  | '\\' :: 'u' :: a :: b :: c :: d :: rest =>
    match unit? a b c d with
    | none => none
    | some n =>
      if isHighSurrogate n then
        match rest with
        | '\\' :: 'u' :: a' :: b' :: c' :: d' :: rest' =>
          match unit? a' b' c' d' with
          | none => none
          | some m =>
            if isLowSurrogate m then
              stringRest (Char.ofNat ((n - 0xD800) * 0x400 + (m - 0xDC00) + 0x10000) :: before) rest'
            else none
        | _ => none
      else if isLowSurrogate n then none
      else stringRest (Char.ofNat n :: before) rest
  | '\\' :: c :: rest =>
    match simpleEscape? c with
    | some e => stringRest (e :: before) rest
    | none => none
  | c :: rest => if c.toNat < 0x20 ∨ c = '\\' then none else stringRest (c :: before) rest
  | [] => none

/-- The characters of a text. -/
def chars : Reader (List Char) := fun s => do
  let (_, s) ← token '"' s
  stringRest [] s

def string : Reader String := fun s => (chars s).map fun (chars, s) => (String.ofList chars, s)

/-- Passes over a text whose escapes need not name characters. -/
def skipStringRest : Reader Unit
  | '"' :: rest => some ((), rest)
  | '\\' :: 'u' :: a :: b :: c :: d :: rest =>
    if (unit? a b c d).isSome then skipStringRest rest else none
  | '\\' :: c :: rest => if (simpleEscape? c).isSome then skipStringRest rest else none
  | c :: rest => if c.toNat < 0x20 ∨ c = '\\' then none else skipStringRest rest
  | [] => none

def bool : Reader Bool := fun s =>
  match word "true".toList s with
  | some (_, rest) => some (true, rest)
  | none => (word "false".toList s).map fun (_, rest) => (false, rest)

def isDigit (c : Char) : Bool := decide ('0' ≤ c) && decide (c ≤ '9')

/-- Passes over one digit or more. -/
def skipDigits : Reader Unit
  | c :: rest => if isDigit c then some ((), rest.dropWhile isDigit) else none
  | [] => none

def skipFraction : Reader Unit
  | '.' :: rest => skipDigits rest
  | s => some ((), s)

def skipExponent : Reader Unit
  | c :: rest =>
    if c = 'e' ∨ c = 'E' then
      match rest with
      | '+' :: rest => skipDigits rest
      | '-' :: rest => skipDigits rest
      | rest => skipDigits rest
    else some ((), c :: rest)
  | [] => some ((), [])

/-- Passes over a number; a zero in front ends its integer part. -/
def skipNumber : Reader Unit := fun s => do
  let s := match s with
    | '-' :: rest => rest
    | s => s
  let (_, s) ← match s with
    | '0' :: rest => if rest.head?.any isDigit then none else some ((), rest)
    | s => skipDigits s
  let (_, s) ← skipFraction s
  skipExponent s

/-- Reads the items of a list after its first: a comma goes before each, the closing bracket ends it. -/
def manyRest {α : Type} (close : Char) (item : Reader α) : Nat → Reader (List α)
  | 0, _ => none
  | fuel + 1, s =>
    match token close s with
    | some (_, rest) => some ([], rest)
    | none => do
      let (_, s) ← token ',' s
      let (a, s) ← item s
      let (as, s) ← manyRest close item fuel s
      return (a :: as, s)

/-- Reads items between brackets. Each item uses up a character at least, so the length of the text bounds
their number. -/
def many {α : Type} (opening close : Char) (item : Reader α) : Reader (List α) := fun s => do
  let (_, s) ← token opening s
  match token close s with
  | some (_, rest) => return ([], rest)
  | none =>
    let (a, s) ← item s
    let (as, s) ← manyRest close item (s.length + 1) s
    return (a :: as, s)

def array {α : Type} (item : Reader α) : Reader (List α) := many '[' ']' item

/-- The members of an object, each read by its name. -/
def object {α : Type} (member : String → Reader α) : Reader (List (String × α)) :=
  many '\x7b' '\x7d' fun s => do
    let (name, s) ← string s
    let (_, s) ← token ':' s
    let (a, s) ← member name s
    return ((name, a), s)

/-- Passes over any value, to a depth of nesting. -/
def skipNested : Nat → Reader Unit
  | 0, _ => none
  | depth + 1, s =>
    match skipBlanks s with
    | '"' :: rest => skipStringRest rest
    | '[' :: rest => (array (skipNested depth) ('[' :: rest)).map fun (_, s) => ((), s)
    | '\x7b' :: rest =>
      (many '\x7b' '\x7d' (fun s => do
        let (_, s) ← token '"' s
        let (_, s) ← skipStringRest s
        let (_, s) ← token ':' s
        skipNested depth s) ('\x7b' :: rest)).map fun (_, s) => ((), s)
    | 't' :: rest => word "true".toList ('t' :: rest)
    | 'f' :: rest => word "false".toList ('f' :: rest)
    | 'n' :: rest => word "null".toList ('n' :: rest)
    | s => skipNumber s

/-- Passes over any value. -/
def skipValue : Reader Unit := fun s => skipNested (s.length + 1) s

/-- Null is read as an absent value. -/
def orNull {α : Type} (value : Reader α) : Reader (Option α) := fun s =>
  match word "null".toList s with
  | some (_, rest) => some (none, rest)
  | none => (value s).map fun (a, rest) => (some a, rest)

/-- Reads a whole document. -/
def document {α : Type} (value : Reader α) (text : String) : Option α :=
  match value text.toList with
  | some (a, rest) => if skipBlanks rest = [] then some a else none
  | none => none

end Reader

end ObjectValidation.Json
