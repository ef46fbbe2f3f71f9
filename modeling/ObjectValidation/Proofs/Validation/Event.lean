import ObjectValidation.Proofs.Path
import ObjectValidation.Proofs.Violation.Set
import ObjectValidation.Validation.Property

/-!
What a pass does, as a list of events: actions of the caller's, failures of checks, and abortions. A
recording pass follows a list of events if it performs their actions in order and offers their failures to
the set of violations, whatever the set holds already.
-/

namespace ObjectValidation

inductive Event (m : Type → Type) where
  | action (run : m Unit)
  | failure (v : Violation)
  | abort (cause : String)

namespace Event

variable {m : Type → Type}

def failure? : Event m → Option Violation
  | failure v => some v
  | _ => none

def failures (events : List (Event m)) : List Violation := events.filterMap failure?

/-- The same event seen from an enclosing object, which holds this one at a path. -/
def rebased (path : String) : Event m → Event m
  | failure v => .failure (v.rebased path)
  | e => e

@[simp] theorem failures_nil : failures ([] : List (Event m)) = [] := rfl

@[simp] theorem failures_action (run : m Unit) (es : List (Event m)) :
    failures (.action run :: es) = failures es := rfl

@[simp] theorem failures_failure (v : Violation) (es : List (Event m)) :
    failures (.failure v :: es) = v :: failures es := rfl

@[simp] theorem failures_abort (cause : String) (es : List (Event m)) :
    failures (.abort cause :: es) = failures es := rfl

@[simp] theorem failures_append (es fs : List (Event m)) :
    failures (es ++ fs) = failures es ++ failures fs := List.filterMap_append

theorem failures_rebased (path : String) (es : List (Event m)) :
    failures (es.map (rebased path)) = (failures es).map fun v => v.rebased path := by
  induction es with
  | nil => rfl
  | cons e es ih => cases e <;> simp [rebased, ih]

variable [Monad m]

def act : Event m → m Unit
  | action run => run
  | _ => pure ()

/-- The actions of events, one after the other. -/
def perform : List (Event m) → m Unit
  | [] => pure ()
  | e :: es => do
    act e
    perform es

theorem perform_rebased (path : String) (es : List (Event m)) :
    perform (es.map (rebased path)) = perform es := by
  induction es with
  | nil => rfl
  | cons e es ih =>
    rw [List.map_cons, perform, perform, ih]
    cases e <;> rfl

theorem perform_append [LawfulMonad m] (es fs : List (Event m)) :
    perform (es ++ fs) = (do perform es; perform fs) := by
  induction es with
  | nil => simp [perform]
  | cons e es ih => simp [perform, ih]

end Event

section

variable {m : Type → Type} [Monad m]

def Follows (pass : Recording m Unit) (events : List (Event m)) : Prop :=
  ∀ s : ViolationSet, StateT.run pass s = do
    Event.perform events
    return ((), s.insertAll (Event.failures events))

variable [LawfulMonad m] {α : Type} {pass next : Recording m Unit} {es fs : List (Event m)}

theorem follows_pure : Follows (pure () : Recording m Unit) [] := by
  intro s
  simp [Event.perform]

theorem follows_action (run : m Unit) :
    Follows (StateT.lift run : Recording m Unit) [.action run] := by
  intro s
  simp [Event.perform, Event.act]

theorem Follows.seq (h : Follows pass es) (hnext : Follows next fs) :
    Follows (do pass; next) (es ++ fs) := by
  intro s
  have hn := hnext (s.insertAll (Event.failures es))
  rw [StateT.run_bind, h s, Event.perform_append, Event.failures_append,
    ViolationSet.insertAll_append]
  simp only [bind_assoc, pure_bind, hn]

/-- What a block records about an object on its own is the set of its failures. -/
theorem Follows.violations {block : Block m α} {object : α} (h : Follows (block object) es) :
    block.violations object = do
      Event.perform es
      return .ofList (Event.failures es) := by
  rw [Block.violations, h ∅, ViolationSet.empty_insertAll]
  simp only [bind_assoc, pure_bind]

/-- What a block records about a part of the object is moved under the path of the part. -/
theorem Follows.within {block : Block m α} {object : α} (h : Follows (block object) es)
    (path : String) :
    Follows (do
      let found ← (block.violations object : Recording m ViolationSet)
      Recording.merge path found) (es.map (Event.rebased path)) := by
  intro s
  rw [h.violations, Event.perform_rebased, Event.failures_rebased, ← ViolationSet.merge_ofList]
  simp [Recording.merge]

end

end ObjectValidation
