import ObjectValidation.Regex.Basic

/-!
Programs for regular expressions. The steps of an expression stand next to each other, begin with its first
step, and lead out of it to one place only; where a step leads to two places, the first is preferred.
-/

namespace ObjectValidation

/-- A step of a program, with where it leads. -/
inductive Step where
  | take (set : CharSet) (next : Nat)
  | check (a : Anchor) (next : Nat)
  | fork (first second : Nat)
  | goto (next : Nat)
  | stop
  deriving DecidableEq, Repr

namespace Step

/-- Goes another round or leaves, whichever a repetition prefers. -/
def round (greedy : Bool) (again leave : Nat) : Step :=
  if greedy then fork again leave else fork leave again

end Step

namespace Regex

/-- The steps of something, given where they stand and where they lead out to. -/
abbrev Layout := Nat → Nat → List Step

/-- A number of copies one after the other. -/
def copies (body : Layout) (size : Nat) : Nat → Nat → List Step
  | 0, _ => []
  | n + 1, start => body start (start + size) ++ copies body size n (start + size)

/-- A number of copies, each of which may be the first to be left out. -/
def extras (body : Layout) (size : Nat) (greedy : Bool) (next : Nat) : Nat → Nat → List Step
  | 0, _ => []
  | n + 1, start =>
    .round greedy (start + 1) next ::
      (body (start + 1) (start + 1 + size) ++ extras body size greedy next n (start + 1 + size))

/-- The number of steps of an expression. -/
def size : Regex → Nat
  | empty => 1
  | one _ => 1
  | anchor _ => 1
  | seq a b => a.size + b.size
  | alt a b => a.size + b.size + 1
  | many a least (some most) _ => least * a.size + (most - least) * (a.size + 1) + 1
  | many a 0 none _ => if a.advances then a.size + 1 else a.size + 2
  | many a (least + 1) none _ => least * a.size + a.size + 1
  | group _ a => a.size

/-- The steps of an expression. Where rounds without end are possible, one step decides about another round
after each; before the first round another step does, unless every round uses up a character and the same
step can serve. -/
def steps : Regex → Layout
  | empty, _, next => [.goto next]
  | one set, _, next => [.take set next]
  | anchor a, _, next => [.check a next]
  | seq a b, start, next =>
    a.steps start (start + a.size) ++ b.steps (start + a.size) next
  | alt a b, start, next =>
    .fork (start + 1) (start + 1 + a.size) ::
      (a.steps (start + 1) next ++ b.steps (start + 1 + a.size) next)
  | many a least (some most) greedy, start, next =>
    copies a.steps a.size least start ++
      (extras a.steps a.size greedy next (most - least) (start + least * a.size) ++ [.goto next])
  | many a 0 none greedy, start, next =>
    if a.advances then .round greedy (start + 1) next :: a.steps (start + 1) start
    else
      .round greedy (start + 1) next ::
        (a.steps (start + 1) (start + 1 + a.size) ++ [.round greedy (start + 1) next])
  | many a (least + 1) none greedy, start, next =>
    let last := start + least * a.size
    copies a.steps a.size least start ++
      (a.steps last (last + a.size) ++ [.round greedy last next])
  | group _ a, start, next => a.steps start next

end Regex

/-- The steps of a program; it begins with the first. -/
structure Program where
  steps : Array Step

def Regex.program (r : Regex) : Program := ⟨(r.steps 0 r.size ++ [Step.stop]).toArray⟩

end ObjectValidation
