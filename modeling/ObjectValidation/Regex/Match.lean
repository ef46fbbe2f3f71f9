import ObjectValidation.Regex.Program

/-!
The match of an expression in a text: the leftmost, and of those that begin there the one that the program
prefers. A pair of a step and a position is tried once only, for the first way that leads to it, so a search
takes no longer than there are such pairs.
-/

namespace ObjectValidation

def CharSet.holdsAt (set : CharSet) (text : Array Char) (i : Nat) : Bool :=
  match text[i]? with
  | some c => set.holds c
  | none => false

/-- Whether the character before a position is in a set. -/
def CharSet.holdsBefore (set : CharSet) (text : Array Char) (i : Nat) : Bool :=
  decide (0 < i) && set.holdsAt text (i - 1)

def Anchor.holds (text : Array Char) (i : Nat) : Anchor → Bool
  | textStart => i == 0
  | textEnd => i == text.size
  | lineStart => i == 0 || (CharSet.ofChar '\n').holdsBefore text i
  | lineEnd => i == text.size || (CharSet.ofChar '\n').holdsAt text i
  | wordBoundary => CharSet.word.holdsBefore text i != CharSet.word.holdsAt text i
  | insideOrOutsideWord => CharSet.word.holdsBefore text i == CharSet.word.holdsAt text i

/-- A step of a program to be taken at a position, in a match that began at `start`. -/
structure Thread where
  start : Nat
  step : Nat
  place : Nat

namespace Thread

def moved (t : Thread) (next : Nat) : Thread := { t with step := next }

def advanced (t : Thread) (next : Nat) : Thread := { t with step := next, place := t.place + 1 }

/-- The threads that a step leads to, the preferred one first. -/
def successors (text : Array Char) (t : Thread) : Step → List Thread
  | .take set next => if set.holdsAt text t.place then [t.advanced next] else []
  | .check a next => if a.holds text t.place then [t.moved next] else []
  | .fork first second => [t.moved first, t.moved second]
  | .goto next => [t.moved next]
  | .stop => []

end Thread

namespace Program

/-- Where the pair of a step and a position is marked. -/
def mark (p : Program) (t : Thread) : Nat := t.place * p.steps.size + t.step

/-- Follows threads, the first one first, until one stops. `seen` marks the pairs that have been tried. -/
def search (p : Program) (text : Array Char) :
    Nat → List Thread → Array Bool → Option (Nat × Nat)
  | 0, _, _ => none
  | _ + 1, [], _ => none
  | fuel + 1, t :: rest, seen =>
    if seen.getD (p.mark t) true then p.search text fuel rest seen
    else
      match p.steps[t.step]? with
      | some .stop => some (t.start, t.place)
      | some s => p.search text fuel (t.successors text s ++ rest) (seen.setIfInBounds (p.mark t) true)
      | none => p.search text fuel rest seen

/-- The leftmost match by the preferences of the program, with its beginning and its end. Each pair of a
step and a position leads to at most two threads, which bounds how many there are to follow. -/
def find (p : Program) (text : Array Char) : Option (Nat × Nat) :=
  let positions := text.size + 1
  let pairs := positions * p.steps.size
  let threads := (List.range positions).map fun i => ⟨i, 0, i⟩
  p.search text (positions + 2 * pairs + 1) threads (Array.replicate pairs false)

end Program

namespace Regex

def find (r : Regex) (text : Array Char) : Option (Nat × Nat) := r.program.find text

def isMatch (r : Regex) (text : Array Char) : Bool := (r.find text).isSome

end Regex

end ObjectValidation
