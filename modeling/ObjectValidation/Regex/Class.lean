import ObjectValidation.Regex.Basic

/-!
Reading the parts of a pattern that stand for one character: escapes and bracketed classes.
-/

namespace ObjectValidation.Regex

/-- Switches that the flags of a pattern set. -/
structure Flags where
  ignoreCase : Bool := false
  multiLine : Bool := false
  dotAll : Bool := false
  swapGreed : Bool := false
  spaced : Bool := false
  deriving DecidableEq, Repr

/-- In spaced patterns, passes over white space and over comments to the end of their line. -/
def skipSpace (flags : Flags) : List Char → List Char
  | [] => []
  | c :: rest =>
    if flags.spaced then
      if Text.isBlankChar c then skipSpace flags rest
      else if c = '#' then skipComment flags rest
      else c :: rest
    else c :: rest
where
  skipComment (flags : Flags) : List Char → List Char
    | [] => []
    | c :: rest => if c = '\n' then skipSpace flags rest else skipComment flags rest

/-- What a piece of a pattern stands for, and how deep groups, repetitions, classes, sequences and
alternatives are nested in it. -/
structure Nested (α : Type) where
  val : α
  depth : Nat

/-- What an escape or a plain character means. -/
inductive Primitive where
  | literal (c : Char)
  | set (s : CharSet)
  | anchor (a : Anchor)

def hexValue? (c : Char) : Option Nat :=
  if '0' ≤ c ∧ c ≤ '9' then some (c.toNat - 48)
  else if 'a' ≤ c ∧ c ≤ 'f' then some (c.toNat - 87)
  else if 'A' ≤ c ∧ c ≤ 'F' then some (c.toNat - 55)
  else none

def hexNumber? (digits : List Char) : Option Nat :=
  if digits.isEmpty then none
  else digits.foldl (fun n c => do return (← n) * 16 + (← hexValue? c)) (some 0)

def charOfNat? (n : Nat) : Option Char :=
  if n.isValidChar then some (Char.ofNat n) else none

/-- A character by its code point, in a fixed number of digits or in braces. -/
def hexEscape (width : Nat) : List Char → Option (Char × List Char)
  | '\x7b' :: rest =>
    let digits := rest.takeWhile fun c => c != '\x7d'
    match rest.drop digits.length with
    | _ :: rest => do return (← charOfNat? (← hexNumber? digits), rest)
    | [] => none
  | s =>
    if s.length < width then none
    else do return (← charOfNat? (← hexNumber? (s.take width)), s.drop width)

/-- ASCII signs other than letters, digits and angle brackets stand for themselves after a backslash. -/
def isEscapable (c : Char) : Bool :=
  decide (c.toNat < 128) && !c.isAlphanum && c != '<' && c != '>'

/-- Reads what follows a backslash. -/
def escape : List Char → Option (Primitive × List Char)
  | [] => none
  | c :: rest =>
    match c with
    | 'd' => some (.set .digit, rest)
    | 'D' => some (.set (.compl .digit), rest)
    | 'w' => some (.set .word, rest)
    | 'W' => some (.set (.compl .word), rest)
    | 's' => some (.set .space, rest)
    | 'S' => some (.set (.compl .space), rest)
    | 'A' => some (.anchor .textStart, rest)
    | 'z' => some (.anchor .textEnd, rest)
    | 'b' => some (.anchor .wordBoundary, rest)
    | 'B' => some (.anchor .insideOrOutsideWord, rest)
    | 'a' => some (.literal '\x07', rest)
    | 'f' => some (.literal '\x0c', rest)
    | 't' => some (.literal '\t', rest)
    | 'n' => some (.literal '\n', rest)
    | 'r' => some (.literal '\r', rest)
    | 'v' => some (.literal '\x0b', rest)
    | 'x' => (hexEscape 2 rest).map fun (c, rest) => (.literal c, rest)
    | 'u' => (hexEscape 4 rest).map fun (c, rest) => (.literal c, rest)
    | 'U' => (hexEscape 8 rest).map fun (c, rest) => (.literal c, rest)
    | c => if isEscapable c then some (.literal c, rest) else none

def classPrimitive : List Char → Option (Primitive × List Char)
  | [] => none
  | '\\' :: rest => escape rest
  | c :: rest => some (.literal c, rest)

/-- A character, a range of characters or an escaped set inside brackets. A hyphen before the closing
bracket or before another hyphen makes no range. -/
def classItem (flags : Flags) (s : List Char) : Option (CharSet × List Char) := do
  let (first, rest) ← classPrimitive s
  let rest := skipSpace flags rest
  let single : Option (CharSet × List Char) :=
    match first with
    | .literal c => some (.ofChar c, rest)
    | .set a => some (a, rest)
    | .anchor _ => none
  match rest with
  | [] => none
  | '-' :: more =>
    match skipSpace flags more with
    | [] => none
    | ']' :: _ => single
    | '-' :: _ => single
    | more =>
      match first, ← classPrimitive more with
      | .literal a, (.literal b, rest) =>
        if a.toNat ≤ b.toNat then some (.range a.toNat b.toNat, rest) else none
      | _, _ => none
  | _ => single

/-- The sets that have a name inside brackets. -/
def namedClass? (name : String) : Option CharSet :=
  let letters := CharSet.union (.range 0x41 0x5A) (.range 0x61 0x7A)
  let digits := CharSet.range 0x30 0x39
  match name with
  | "alnum" => some (.union letters digits)
  | "alpha" => some letters
  | "ascii" => some (.range 0 0x7F)
  | "blank" => some (.union (.ofChar '\t') (.ofChar ' '))
  | "cntrl" => some (.union (.range 0 0x1F) (.ofChar '\x7f'))
  | "digit" => some digits
  | "graph" => some (.range 0x21 0x7E)
  | "lower" => some (.range 0x61 0x7A)
  | "print" => some (.range 0x20 0x7E)
  | "punct" =>
    some (.union (.union (.range 0x21 0x2F) (.range 0x3A 0x40)) (.union (.range 0x5B 0x60) (.range 0x7B 0x7E)))
  | "space" => some (.union (.range 0x09 0x0D) (.ofChar ' '))
  | "upper" => some (.range 0x41 0x5A)
  | "word" => some (.union (.union letters digits) (.ofChar '_'))
  | "xdigit" => some (.union digits (.union (.range 0x41 0x46) (.range 0x61 0x66)))
  | _ => none

/-- A set named between colons, after its opening bracket. -/
def namedClass (s : List Char) : Option (CharSet × List Char) :=
  match s with
  | ':' :: rest =>
    let (negated, rest) := match rest with
      | '^' :: rest => (true, rest)
      | rest => (false, rest)
    let name := rest.takeWhile fun c => c != ':'
    match rest.drop name.length with
    | ':' :: ']' :: rest => do
      let a ← namedClass? (String.ofList name)
      return (if negated then .compl a else a, rest)
    | _ => none
  | _ => none

def Flags.fold (flags : Flags) (a : CharSet) : CharSet :=
  if flags.ignoreCase then a.ignoringCase else a

/-- The items of a class between two operators. -/
structure Items where
  set : CharSet := .nothing
  count : Nat := 0
  depth : Nat := 0

namespace Items

def add (items : Items) (a : Nested CharSet) : Items :=
  ⟨items.set.union a.val, items.count + 1, max items.depth a.depth⟩

def addChar (items : Items) (c : Char) : Items := items.add ⟨.ofChar c, 0⟩

/-- The union of the items; of a single item it is no form of its own. -/
def nested (flags : Flags) (items : Items) : Nested CharSet :=
  ⟨flags.fold items.set, if items.count ≤ 1 then items.depth else items.depth + 1⟩

end Items

/-- Leading hyphens of a class stand for themselves. -/
def leadingHyphens (flags : Flags) (items : Items) : List Char → Items × List Char
  | [] => (items, [])
  | c :: rest =>
    if c = '-' then leadingHyphens flags (items.addChar '-') rest
    else if flags.spaced && Text.isBlankChar c then leadingHyphens flags items rest
    else if flags.spaced && c == '#' then afterComment flags items rest
    else (items, c :: rest)
where
  afterComment (flags : Flags) (items : Items) : List Char → Items × List Char
    | [] => (items, [])
    | c :: rest => if c = '\n' then leadingHyphens flags items rest else afterComment flags items rest

/-- An operator of classes, with its left operand. -/
def applied (op : CharSet → CharSet → CharSet) (a b : Nested CharSet) : Nested CharSet :=
  ⟨op a.val b.val, max a.depth b.depth + 1⟩

mutual

/-- Reads the rest of a class. `left` applies the last operator and what stands before it; `items` is what
has been read since. -/
def classBody (flags : Flags) (fuel : Nat) (negated : Bool) (left : Nested CharSet → Nested CharSet)
    (items : Items) (s : List Char) : Option (Nested CharSet × List Char) :=
  match fuel with
  | 0 => none
  | fuel + 1 =>
    let closed := left (items.nested flags)
    match skipSpace flags s with
    | [] => none
    | ']' :: rest =>
      some (⟨if negated then closed.val.compl else closed.val, closed.depth + 1⟩, rest)
    | '&' :: '&' :: rest => classBody flags fuel negated (applied .inter closed) {} rest
    | '-' :: '-' :: rest => classBody flags fuel negated (applied .diff closed) {} rest
    | '~' :: '~' :: rest => classBody flags fuel negated (applied .symmDiff closed) {} rest
    | '[' :: rest =>
      match namedClass rest with
      | some (a, rest) => classBody flags fuel negated left (items.add ⟨a, 0⟩) rest
      | none => do
        let (a, rest) ← classOpen flags fuel rest
        classBody flags fuel negated left (items.add a) rest
    | s => do
      let (a, rest) ← classItem flags s
      classBody flags fuel negated left (items.add ⟨a, 0⟩) rest

/-- Reads a class after its opening bracket. A closing bracket right at the start stands for itself. -/
def classOpen (flags : Flags) (fuel : Nat) (s : List Char) :
    Option (Nested CharSet × List Char) :=
  match fuel with
  | 0 => none
  | fuel + 1 =>
    let s := skipSpace flags s
    let (negated, s) := match s with
      | '^' :: rest => (true, skipSpace flags rest)
      | s => (false, s)
    match s with
    | ']' :: rest => classBody flags fuel negated id (Items.addChar {} ']') rest
    | s =>
      let (items, s) := leadingHyphens flags {} s
      classBody flags fuel negated id items s

end

end ObjectValidation.Regex
