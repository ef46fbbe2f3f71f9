import ObjectValidation.Regex.CharSet

/-!
Regular expressions as data, and how they are put together. Of two branches the first is preferred, and a
repetition prefers more rounds or fewer. What can be seen from the form alone is simplified: a part that
never uses up a character is repeated at most once, and parts that all branches begin with are shared.
-/

namespace ObjectValidation

/-- A condition on a position that uses up no character. -/
inductive Anchor where
  | textStart
  | textEnd
  | lineStart
  | lineEnd
  | wordBoundary
  | insideOrOutsideWord
  deriving DecidableEq, Repr

/-- A capturing group is told from another of the same content by its place in the pattern. -/
inductive Regex where
  | empty
  | one (set : CharSet)
  | anchor (a : Anchor)
  | seq (a b : Regex)
  | alt (a b : Regex)
  | many (body : Regex) (least : Nat) (most : Option Nat) (greedy : Bool)
  | group (place : Nat) (body : Regex)
  deriving DecidableEq, Repr

namespace Regex

/-- Whether the expression uses up no character wherever it matches. -/
def isStill : Regex → Bool
  | empty => true
  | one _ => false
  | anchor _ => true
  | seq a b => a.isStill && b.isStill
  | alt a b => a.isStill && b.isStill
  | many a _ _ _ => a.isStill
  | group _ a => a.isStill

/-- The least number of characters of a match. A part that matches no character at all has none, and
leaves none for what it stands in. -/
def shortest : Regex → Option Nat
  | empty => some 0
  | one s => if s.edges.isEmpty then none else some 1
  | anchor _ => some 0
  | seq a b => do return (← a.shortest) + (← b.shortest)
  | alt a b => do return min (← a.shortest) (← b.shortest)
  | many a least _ _ => do return (← a.shortest) * least
  | group _ a => a.shortest

/-- Whether every match uses up a character. -/
def advances (a : Regex) : Bool :=
  match a.shortest with
  | some (_ + 1) => true
  | _ => false

/-- A repetition between two counts, or from a count on. -/
def repeated (a : Regex) (least : Nat) (most : Option Nat) (greedy : Bool) : Regex :=
  let (least, most) :=
    if a.isStill then (min least 1, some (min (most.getD 1) 1)) else (least, most)
  if most = some 0 then empty
  else if least = 1 ∧ most = some 1 then a
  else many a least most greedy

/-- What stands one after the other in an expression. -/
def parts : Regex → List Regex
  | empty => []
  | seq a b => a.parts ++ b.parts
  | a => [a]

def ofParts : List Regex → Regex
  | [] => empty
  | [a] => a
  | a :: rest => seq a (ofParts rest)

def branches : Regex → List Regex
  | alt a b => a.branches ++ b.branches
  | a => [a]

def alternatives : List Regex → Regex
  | [] => empty
  | [a] => a
  | a :: rest => alt a (alternatives rest)

/-- The longest list that both lists begin with. -/
def commonParts : List Regex → List Regex → List Regex
  | a :: as, b :: bs => if a = b then a :: commonParts as bs else []
  | _, _ => []

/-- The parts that all branches begin with, if there are several branches and each has several parts. -/
def sharedParts : List (List Regex) → List Regex
  | first :: second :: rest =>
    if (first :: second :: rest).all fun b => decide (2 ≤ b.length) then
      (second :: rest).foldl commonParts first
    else []
  | _ => []

/-- The choice between branches. -/
def ofBranches (bs : List Regex) : Regex :=
  let bs := bs.flatMap branches
  let split := bs.map parts
  match sharedParts split with
  | [] => alternatives bs
  | shared =>
    let rests := split.map fun b => ofParts (b.drop shared.length)
    ofParts (shared ++ [alternatives (rests.flatMap branches)])

end Regex

end ObjectValidation
