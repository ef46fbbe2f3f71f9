import ObjectValidation.Regex.Class

/-!
Reading patterns. Flags in parentheses hold to the end of their group; in spaced patterns white space and
comments mean nothing, so a comment in the last line takes with it what follows there. Groups, repetitions,
classes, sequences and alternatives may be nested in each other up to a limit.
-/

namespace ObjectValidation.Regex

/-- The parts of one branch; flags count as parts that nothing can be repeated of. -/
inductive Part where
  | regex (r : Nested Regex)
  | flags

namespace Part

def regex? : Part → Option Regex
  | regex r => some r.val
  | flags => none

def depth : Part → Nat
  | regex r => r.depth
  | flags => 0

end Part

/-- The depth of a form with several pieces. A single piece stands for itself and adds nothing. -/
def depthOver (depths : List Nat) : Nat :=
  match depths with
  | [] => 0
  | [d] => d
  | depths => depths.foldl max 0 + 1

/-- The parts of a branch one after the other, given in reverse. -/
def branchOf (parts : List Part) : Nested Regex :=
  ⟨ofParts ((parts.reverse.filterMap Part.regex?).flatMap Regex.parts),
    depthOver (parts.map Part.depth)⟩

/-- The branches of a group, given in reverse. -/
def choiceOf (before : List (Nested Regex)) : Nested Regex :=
  ⟨ofBranches (before.reverse.map (·.val)), depthOver (before.map (·.depth))⟩

def ofPrimitive (flags : Flags) : Primitive → Regex
  | .literal c => one (flags.fold (.ofChar c))
  | .set a => one a
  | .anchor a => anchor a

/-- Sets one flag. The flag for scripts beyond ASCII is always on. -/
def Flags.set? (flags : Flags) (on : Bool) (c : Char) : Option Flags :=
  match c with
  | 'i' => some { flags with ignoreCase := on }
  | 'm' => some { flags with multiLine := on }
  | 's' => some { flags with dotAll := on }
  | 'U' => some { flags with swapGreed := on }
  | 'x' => some { flags with spaced := on }
  | 'u' => if on then some flags else none
  | _ => none

/-- Sets flags up to a hyphen, and clears those after it. -/
def Flags.setAll? (flags : Flags) (on : Bool) : List Char → Option Flags
  | [] => some flags
  | '-' :: rest => if on && !rest.isEmpty then setAll? flags false rest else none
  | c :: rest => do setAll? (← flags.set? on c) on rest

/-- Sets and clears flags, each named once. -/
def Flags.switch? (flags : Flags) (switches : List Char) : Option Flags :=
  if switches.Nodup then flags.setAll? true switches else none

/-- What a group begins with. -/
inductive Opening where
  | group (capturing : Bool) (flags : Flags) (rest : List Char)
  | flags (flags : Flags) (rest : List Char)

def isNameChar (c : Char) : Bool := c.isAlphanum || c == '_' || c == '.' || c == '[' || c == ']'

/-- Passes over the name of a group. -/
def groupName (flags : Flags) (s : List Char) : Option Opening :=
  let name := s.takeWhile isNameChar
  match name, s.drop name.length with
  | c :: _, '>' :: rest => if c.isAlpha || c == '_' then some (.group true flags rest) else none
  | _, _ => none

/-- Reads the beginning of a group after its parenthesis. -/
def opening (flags : Flags) (s : List Char) : Option Opening :=
  match skipSpace flags s with
  | '?' :: 'P' :: '<' :: rest => groupName flags rest
  | '?' :: '<' :: rest => groupName flags rest
  | '?' :: rest =>
    let switches := rest.takeWhile fun c => c != ':' && c != ')'
    match rest.drop switches.length with
    | ':' :: rest => do return .group false (← flags.switch? switches) rest
    | ')' :: rest =>
      if switches.isEmpty then none else do return .flags (← flags.switch? switches) rest
    | _ => none
  | s => some (.group true flags s)

/-- A question mark after a repetition makes it prefer fewer rounds. -/
def greed (flags : Flags) : List Char → Bool × List Char
  | '?' :: rest => (flags.swapGreed, rest)
  | s => (!flags.swapGreed, s)

/-- The greatest count of a repetition. -/
def countLimit : Nat := 4294967295

/-- The digits of a count with white space around them. -/
def count? (s : List Char) : Option Nat × List Char :=
  let s := s.dropWhile Text.isBlankChar
  let digits := s.takeWhile Char.isDigit
  let rest := (s.drop digits.length).dropWhile Text.isBlankChar
  let n := digits.foldl (fun n c => n * 10 + (c.toNat - 48)) 0
  (if digits.isEmpty || countLimit < n then none else some n, rest)

/-- Reads the counts of a repetition after their brace. -/
def counts (flags : Flags) (s : List Char) : Option ((Nat × Option Nat) × List Char) :=
  match count? (skipSpace flags s) with
  | (some least, '\x7d' :: rest) => some ((least, some least), rest)
  | (some least, ',' :: rest) =>
    match skipSpace flags rest with
    | '\x7d' :: rest => some ((least, none), rest)
    | rest =>
      match count? rest with
      | (some most, '\x7d' :: rest) => if least ≤ most then some ((least, some most), rest) else none
      | _ => none
  | _ => none

/-- Repeats the last part of a branch. -/
def repeatLast (least : Nat) (most : Option Nat) (greedy : Bool) : List Part → Option (List Part)
  | .regex a :: parts => some (.regex ⟨repeated a.val least most greedy, a.depth + 1⟩ :: parts)
  | _ => none

/-- A part that nothing is nested in. -/
def leaf (r : Regex) : Part := .regex ⟨r, 0⟩

/-- Reads a group up to its closing parenthesis or the end of the pattern. `before` holds the finished
branches and `parts` the current one, both in reverse. -/
def readGroup : Nat → Flags → List (Nested Regex) → List Part → List Char →
    Option (Nested Regex × List Char)
  | 0, _, _, _, _ => none
  | fuel + 1, flags, before, parts, s =>
    match skipSpace flags s with
    | [] => some (choiceOf (branchOf parts :: before), [])
    | ')' :: rest => some (choiceOf (branchOf parts :: before), ')' :: rest)
    | '|' :: rest => readGroup fuel flags (branchOf parts :: before) [] rest
    | '(' :: rest => do
      match ← opening flags rest with
      | .flags flags rest => readGroup fuel flags before (.flags :: parts) rest
      | .group capturing inner rest =>
        match ← readGroup fuel inner [] [] rest with
        | (a, ')' :: after) =>
          let r := if capturing then group rest.length a.val else a.val
          readGroup fuel flags before (.regex ⟨r, a.depth + 1⟩ :: parts) after
        | _ => none
    | '[' :: rest => do
      let (a, rest) ← classOpen flags (rest.length + 1) rest
      readGroup fuel flags before (.regex ⟨one a.val, a.depth⟩ :: parts) rest
    | '?' :: rest => do
      let (greedy, rest) := greed flags rest
      readGroup fuel flags before (← repeatLast 0 (some 1) greedy parts) rest
    | '*' :: rest => do
      let (greedy, rest) := greed flags rest
      readGroup fuel flags before (← repeatLast 0 none greedy parts) rest
    | '+' :: rest => do
      let (greedy, rest) := greed flags rest
      readGroup fuel flags before (← repeatLast 1 none greedy parts) rest
    | '\x7b' :: rest => do
      let ((least, most), rest) ← counts flags rest
      let (greedy, rest) := greed flags (skipSpace flags rest)
      readGroup fuel flags before (← repeatLast least most greedy parts) rest
    | '.' :: rest =>
      let a := if flags.dotAll then CharSet.all else .compl (.ofChar '\n')
      readGroup fuel flags before (leaf (one a) :: parts) rest
    | '^' :: rest =>
      let a := if flags.multiLine then Anchor.lineStart else .textStart
      readGroup fuel flags before (leaf (anchor a) :: parts) rest
    | '$' :: rest =>
      let a := if flags.multiLine then Anchor.lineEnd else .textEnd
      readGroup fuel flags before (leaf (anchor a) :: parts) rest
    | '\\' :: rest => do
      let (p, rest) ← escape rest
      readGroup fuel flags before (leaf (ofPrimitive flags p) :: parts) rest
    | c :: rest => readGroup fuel flags before (leaf (ofPrimitive flags (.literal c)) :: parts) rest

/-- How deep the forms of a pattern may be nested. -/
def nestingLimit : Nat := 250

/-- The expression that a pattern stands for, if the pattern is well formed. -/
def ofChars? (s : List Char) : Option Regex :=
  match readGroup (s.length + 1) {} [] [] s with
  | some (r, []) => if r.depth ≤ nestingLimit then some r.val else none
  | _ => none

end ObjectValidation.Regex
