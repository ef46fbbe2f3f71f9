import ObjectValidation.Proofs.Validation.Flat
import ObjectValidation.Validation.Abortable

/-!
Passes that may be aborted, beside the passes that only record. As long as nothing is aborted both do and
report the same; the first abortion ends the pass, with everything before it done and nothing after it.
-/

namespace ObjectValidation

namespace Event

variable {m : Type → Type}

def abort? : Event m → Option String
  | abort cause => some cause
  | _ => none

/-- The cause of the first abortion among events. -/
def cause? (events : List (Event m)) : Option String := events.findSome? abort?

def untilAbort (events : List (Event m)) : List (Event m) := events.takeWhile fun e => e.abort?.isNone

/-- How a pass with these events ends. -/
def verdict (events : List (Event m)) : Except String Unit :=
  match cause? events with
  | some cause => .error cause
  | none => .ok ()

@[simp] theorem cause?_nil : cause? ([] : List (Event m)) = none := rfl

@[simp] theorem cause?_action (run : m Unit) (es : List (Event m)) :
    cause? (.action run :: es) = cause? es := rfl

@[simp] theorem cause?_failure (v : Violation) (es : List (Event m)) :
    cause? (.failure v :: es) = cause? es := rfl

@[simp] theorem cause?_abort (cause : String) (es : List (Event m)) :
    cause? (.abort cause :: es) = some cause := rfl

@[simp] theorem cause?_append (es fs : List (Event m)) :
    cause? (es ++ fs) = (cause? es).or (cause? fs) := List.findSome?_append

theorem cause?_eq_none_iff {es : List (Event m)} : cause? es = none ↔ ∀ e ∈ es, e.abort? = none :=
  List.findSome?_eq_none_iff

theorem cause?_eq_none_of_notMem {es : List (Event m)} (h : ∀ cause, abort cause ∉ es) :
    cause? es = none := by
  rw [cause?_eq_none_iff]
  intro e he
  cases e with
  | action _ => rfl
  | failure _ => rfl
  | abort cause => exact absurd he (h cause)

@[simp] theorem untilAbort_nil : untilAbort ([] : List (Event m)) = [] := rfl

@[simp] theorem untilAbort_action (run : m Unit) (es : List (Event m)) :
    untilAbort (.action run :: es) = .action run :: untilAbort es := rfl

@[simp] theorem untilAbort_failure (v : Violation) (es : List (Event m)) :
    untilAbort (.failure v :: es) = .failure v :: untilAbort es := rfl

@[simp] theorem untilAbort_abort (cause : String) (es : List (Event m)) :
    untilAbort (.abort cause :: es) = [] := rfl

theorem untilAbort_append_of_none {es : List (Event m)} (h : cause? es = none) (fs : List (Event m)) :
    untilAbort (es ++ fs) = es ++ untilAbort fs := by
  rw [untilAbort, List.takeWhile_append_of_pos]
  · rfl
  · intro e he
    rw [cause?_eq_none_iff.mp h e he]
    rfl

theorem untilAbort_of_none {es : List (Event m)} (h : cause? es = none) : untilAbort es = es := by
  simpa [untilAbort] using untilAbort_append_of_none h []

theorem untilAbort_append_of_some {es : List (Event m)} {cause : String} (h : cause? es = some cause)
    (fs : List (Event m)) : untilAbort (es ++ fs) = untilAbort es := by
  induction es with
  | nil => cases h
  | cons e es ih =>
    cases he : e.abort? with
    | some _ => simp [untilAbort, he]
    | none =>
      simp only [cause?, List.findSome?_cons, he] at h
      simpa [untilAbort, he] using ih h

theorem abort?_rebased (path : String) (e : Event m) : (e.rebased path).abort? = e.abort? := by
  cases e <;> rfl

theorem cause?_rebased (path : String) (es : List (Event m)) :
    cause? (es.map (rebased path)) = cause? es := by
  simp only [cause?, List.findSome?_map]
  congr 1
  exact funext (abort?_rebased path)

theorem untilAbort_rebased (path : String) (es : List (Event m)) :
    untilAbort (es.map (rebased path)) = (untilAbort es).map (rebased path) := by
  simp only [untilAbort, List.takeWhile_map, Function.comp_def, abort?_rebased]

end Event

section

variable {m : Type → Type} [Monad m] {α ε : Type}

/-- An abortable pass that performs the actions before the first abortion and ends with its cause, or, if
there is none, leaves the failures in the set of violations. -/
def Abortable.Follows (pass : Abortable m Unit) (events : List (Event m)) : Prop :=
  ∀ s : ViolationSet, ∃ left : ViolationSet,
    StateT.run (ExceptT.run pass) s = (do
      Event.perform (Event.untilAbort events)
      return (Event.verdict events, left)) ∧
    (Event.cause? events = none → left = s.insertAll (Event.failures events))

variable [LawfulMonad m]

namespace Abortable

variable {pass next : Abortable m Unit} {es fs : List (Event m)}

theorem follows_ofRecording {pass : Recording m Unit} (h : ObjectValidation.Follows pass es)
    (hes : Event.cause? es = none) : Abortable.Follows (Abortable.ofRecording pass) es := by
  intro s
  refine ⟨s.insertAll (Event.failures es), ?_, fun _ => rfl⟩
  rw [ofRecording, ExceptT.run_lift, Event.untilAbort_of_none hes, Event.verdict, hes]
  simp [h s]

theorem follows_pure : Abortable.Follows (pure () : Abortable m Unit) [] := fun s =>
  ⟨s, by simp [Event.verdict, Event.perform], fun _ => rfl⟩

theorem Follows.seq (h : Abortable.Follows pass es) (hnext : Abortable.Follows next fs) :
    Abortable.Follows (do pass; next) (es ++ fs) := by
  intro s
  obtain ⟨left, hrun, hleft⟩ := h s
  cases hc : Event.cause? es with
  | some cause =>
    refine ⟨left, ?_, by simp [hc]⟩
    rw [Event.untilAbort_append_of_some hc, ExceptT.run_bind, StateT.run_bind, hrun]
    simp [Event.verdict, hc]
  | none =>
    obtain ⟨last, hlast, hset⟩ := hnext left
    refine ⟨last, ?_, fun hnone => ?_⟩
    · rw [Event.untilAbort_append_of_none hc, Event.perform_append, ExceptT.run_bind, StateT.run_bind,
        hrun, Event.untilAbort_of_none hc]
      simp [Event.verdict, hc, hlast]
    · rw [Event.cause?_append, hc, Option.none_or] at hnone
      rw [hset hnone, hleft hc, Event.failures_append, ViolationSet.insertAll_append]

theorem follows_abort (cause : String) :
    Abortable.Follows (Abortable.abort cause : Abortable m Unit) [.abort cause] := fun s =>
  ⟨s, by simp [abort, Event.verdict, Event.perform], by simp⟩

/-- What a set becomes by a part that ends in this way: whatever was found in the part is taken over, unless it
failed. -/
def afterPart {φ : Type} (s : ViolationSet) (path : String) (found : ViolationSet) :
    Except φ Unit → ViolationSet
  | .error _ => s
  | .ok () => s.merge path found

theorem run_within {φ : Type} (path : String) (block : FallibleBlock φ m α) (a : α) (s : ViolationSet) :
    StateT.run (ExceptT.run (Abortable.within path block a)) s = do
      let (result, found) ← Abortable.outcome block a
      return (result, afterPart s path found result) := by
  simp only [within, ofRecording, ExceptT.run_bind, ExceptT.run_lift]
  simp only [map_eq_pure_bind, bind_assoc, pure_bind, StateT.run_bind, StateT.run_lift]
  congr 1
  funext ending
  obtain ⟨result, found⟩ := ending
  cases result with
  | error cause => rfl
  | ok _ => simp [Recording.merge, afterPart]

/-- What a block records about a part of the object is moved under the path of the part, unless the block was
aborted. -/
theorem Follows.within {block : AbortableBlock m α} {a : α} (h : Abortable.Follows (block a) es)
    (path : String) :
    Abortable.Follows (Abortable.within path block a) (es.map (Event.rebased path)) := by
  intro s
  obtain ⟨found, hrun, hfound⟩ := h ∅
  refine ⟨afterPart s path found (Event.verdict es), ?_, ?_⟩
  · rw [run_within, outcome, hrun, Event.untilAbort_rebased, Event.perform_rebased]
    simp [Event.verdict, Event.cause?_rebased]
  · intro hnone
    rw [Event.cause?_rebased] at hnone
    rw [Event.verdict, hnone, afterPart, hfound hnone, ViolationSet.empty_insertAll,
      ViolationSet.merge_ofList, Event.failures_rebased]

end Abortable

/-- A block that follows its events on every object, as far as it is not aborted. -/
structure AbortableBlock.Follows (block : AbortableBlock m α) (events : α → String → List (Event m)) :
    Prop where
  follows (a : α) : Abortable.Follows (block a) (events a "")
  moves (a : α) (path : String) : events a path = (events a "").map (Event.rebased path)

theorem AbortableBlock.Follows.within {block : AbortableBlock m α} {events : α → String → List (Event m)}
    (h : AbortableBlock.Follows block events) (path : String) (a : α) :
    Abortable.Follows (Abortable.within path block a) (events a path) :=
  h.moves a path ▸ (h.follows a).within path

namespace Property

theorem run_ask {φ : Type} [ToValue α] (p : Property α) (constraint : Constraint)
    (question : Option α → m (Except φ Bool)) (s : ViolationSet) :
    StateT.run (ExceptT.run (p.ask constraint question)) s = do
      let answer ← question p.value
      return match answer with
        | .error cause => (.error cause, s)
        | .ok true => (.ok (), s)
        | .ok false => (.ok (), s.insert (.of p.path (toValue p.value) constraint)) := by
  simp only [ask, Abortable.ofRecording, ExceptT.run_bind, ExceptT.run_lift]
  simp only [map_eq_pure_bind, bind_assoc, pure_bind, StateT.run_bind, StateT.run_lift]
  congr 1
  funext answer
  cases answer with
  | error cause => rfl
  | ok accepted =>
    cases accepted with
    | true => rfl
    | false => simp [record]

theorem follows_nestedOrAbort {block : AbortableBlock m α} {events : α → String → List (Event m)}
    (h : AbortableBlock.Follows block events) (p : Property α) :
    Abortable.Follows (p.nestedOrAbort block) (p.partEvents "" events) := by
  simp only [nestedOrAbort, partEvents, Path.field, Path.rebase_empty_left]
  cases p.value with
  | none => exact Abortable.follows_pure
  | some a => simpa using h.within p.path a

theorem follows_eachFromOrAbort {block : Nat → AbortableBlock m ε}
    {events : Nat → ε → String → List (Event m)}
    (h : ∀ i, AbortableBlock.Follows (block i) (events i)) (path : String) (items : List ε) (i : Nat) :
    Abortable.Follows (eachFromOrAbort path block i items)
      ((items.zipIdx i).flatMap fun e => events e.2 e.1 (Path.index path e.2)) := by
  induction items generalizing i with
  | nil => exact Abortable.follows_pure
  | cons e rest ih =>
    have hhead := (h i).within (Path.index path i) e
    simpa [eachFromOrAbort] using hhead.seq (ih (i + 1))

theorem follows_forEachIndexedOrAbort [Elements α ε] {block : Nat → AbortableBlock m ε}
    {events : Nat → ε → String → List (Event m)}
    (h : ∀ i, AbortableBlock.Follows (block i) (events i)) (p : Property α) :
    Abortable.Follows (p.forEachIndexedOrAbort block) (p.elementEvents "" events) := by
  simp only [forEachIndexedOrAbort, elementEvents, partEvents, Path.field, Path.rebase_empty_left]
  cases p.value with
  | none => exact Abortable.follows_pure
  | some a => simpa using follows_eachFromOrAbort h p.path (Elements.elements a) 0

end Property

end

end ObjectValidation
