import ObjectValidation.Violation.Basic

/-!
Sets of violations in the order in which they were first found. A violation that is equal to an earlier one
changes nothing, so the list of a set is the list of everything offered to it with later duplicates left
out.
-/

namespace ObjectValidation

@[ext] structure ViolationSet where
  toList : List Violation
  /-- No two violations are equal. -/
  distinct : toList.Pairwise fun v w => (v == w) = false

namespace ViolationSet

def empty : ViolationSet := ⟨[], .nil⟩

instance : EmptyCollection ViolationSet := ⟨empty⟩

instance : Inhabited ViolationSet := ⟨empty⟩

def contains (s : ViolationSet) (v : Violation) : Bool := s.toList.any fun w => w == v

theorem distinct_concat {s : ViolationSet} {v : Violation} (h : ¬ s.contains v) :
    (s.toList ++ [v]).Pairwise fun v w => (v == w) = false := by
  rw [List.pairwise_append]
  refine ⟨s.distinct, List.pairwise_singleton _ _, fun u hu w hw => ?_⟩
  rw [List.mem_singleton.mp hw]
  exact Bool.eq_false_iff.mpr fun huv => h (List.any_eq_true.mpr ⟨u, hu, huv⟩)

def insert (s : ViolationSet) (v : Violation) : ViolationSet :=
  if h : s.contains v then s else ⟨s.toList ++ [v], distinct_concat h⟩

/-- Inserts a violation and tells whether it was new. -/
def insertNew (s : ViolationSet) (v : Violation) : Bool × ViolationSet :=
  (!s.contains v, s.insert v)

def insertAll (s : ViolationSet) (violations : List Violation) : ViolationSet :=
  violations.foldl insert s

def ofList (violations : List Violation) : ViolationSet := empty.insertAll violations

/-- Takes over the violations of a nested object, found relative to it, under its path. -/
def merge (s : ViolationSet) (parent : String) (child : ViolationSet) : ViolationSet :=
  s.insertAll (child.toList.map fun v => v.rebased parent)

def size (s : ViolationSet) : Nat := s.toList.length

def isEmpty (s : ViolationSet) : Bool := s.toList.isEmpty

def get? (s : ViolationSet) (i : Nat) : Option Violation := s.toList[i]?

/-- The violations at exactly this path. -/
def atPath (s : ViolationSet) (path : String) : List Violation := s.toList.filter fun v => v.path == path

def paths (s : ViolationSet) : List String := s.toList.map (·.path)

/-- An empty set is success; any other set is the failure. -/
def toResult {α : Type} (s : ViolationSet) (success : α) : Except ViolationSet α :=
  if s.isEmpty then .ok success else .error s

/-- Sets are equal when they have the same violations, in any order. -/
instance : BEq ViolationSet where
  beq a b := a.size == b.size && a.toList.all b.contains

def displayFrom (number : Nat) : List Violation → String
  | [] => ""
  | v :: rest => "  " ++ toString number ++ ". " ++ v.display ++ "\n" ++ displayFrom (number + 1) rest

def display (s : ViolationSet) : String :=
  "Validation failed with " ++ toString s.size ++ " constraint violation(s):\n" ++
    displayFrom 1 s.toList

def toJson (s : ViolationSet) : Json := s.toList.map Violation.toJson

end ViolationSet

end ObjectValidation
