import ObjectValidation.Proofs.Validation.Event

/-!
Hierarchical validation as one flat walk. Rules form a finite tree for each object. A pass runs them level by
level, with a set of violations for every nested object and element; the walk goes through the tree once,
depth first, and lists what happens under full paths. Both tell the same.
-/

namespace ObjectValidation

/-- A rule for an object that is at hand: it concerns a property selected from that object. The rules of a
block are a function of the object that the block is run on, so they may depend on it. -/
inductive Rule (m : Type → Type) : Type 1 where
  /-- Something that the block does besides selecting and checking. -/
  | action (run : m Unit)
  | check {α : Type} [ToValue α] (p : Property α) (c : Check α)
  | nested {α : Type} (p : Property α) (block : α → List (Rule m))
  | cascade {α : Type} (p : Property α) (constraints : α → List (Rule m))
  | forEach {α ε : Type} [Elements α ε] (p : Property α) (block : ε → List (Rule m))
  | forEachIndexed {α ε : Type} [Elements α ε] (p : Property α) (block : Nat → ε → List (Rule m))
  | forEachEntry {α κ ν : Type} [Elements α (Entry κ ν)] (p : Property α)
      (block : Entry κ ν → List (Rule m))
  | forEachEntryKeyed {α κ ν : Type} [Elements α (Entry κ ν)] [ToString κ] (p : Property α)
      (block : Entry κ ν → List (Rule m))

namespace Property

variable {α ε κ ν : Type} {m : Type → Type}

/-- The violation of a constraint by the value of a property of an object at a path. -/
def violation [ToValue α] (p : Property α) (path : String) (constraint : Constraint) : Violation :=
  ⟨Path.field path p.path, p.value.bind fun a => (toValue a).nonNull?, constraint⟩

def checkEvents [ToValue α] (p : Property α) (path : String) (c : Check α) : List (Event m) :=
  if c.accepts p.value then [] else [.failure (p.violation path c.constraint)]

/-- The events of the value of a property, under the property's path. -/
def partEvents (p : Property α) (path : String) (events : α → String → List (Event m)) :
    List (Event m) :=
  p.value.toList.flatMap fun a => events a (Path.field path p.path)

/-- The events of the elements of a property, each under its position. -/
def elementEvents [Elements α ε] (p : Property α) (path : String)
    (events : Nat → ε → String → List (Event m)) : List (Event m) :=
  p.partEvents path fun a path =>
    (Elements.elements a).zipIdx.flatMap fun e => events e.2 e.1 (Path.index path e.2)

/-- The events of the entries of a property, each under its key. -/
def entryEvents [Elements α (Entry κ ν)] [ToString κ] (p : Property α) (path : String)
    (events : Entry κ ν → String → List (Event m)) : List (Event m) :=
  p.partEvents path fun a path =>
    (Elements.elements a).flatMap fun e => events e (Path.key path (toString e.key))

end Property

namespace Rule

variable {m : Type → Type}

section

variable [Monad m]

mutual

/-- Runs a rule as a step of a recording pass. -/
def pass : Rule m → Recording m Unit
  | .action run => StateT.lift run
  | @check _ _ _ p c => p.check c
  | .nested p block => p.nested fun a => passAll (block a)
  | .cascade p constraints =>
    let _ : Validatable m _ := ⟨fun a => passAll (constraints a)⟩
    p.cascade
  | @forEach _ _ _ _ p block => p.forEach fun e => passAll (block e)
  | @forEachIndexed _ _ _ _ p block => p.forEachIndexed fun i e => passAll (block i e)
  | @forEachEntry _ _ _ _ _ p block => p.forEachEntry fun e => passAll (block e)
  | @forEachEntryKeyed _ _ _ _ _ _ p block => p.forEachEntryKeyed fun e => passAll (block e)

def passAll : List (Rule m) → Recording m Unit
  | [] => pure ()
  | r :: rest => do
    pass r
    passAll rest

end

/-- The block that runs rules on its object. -/
def block {α : Type} (rules : α → List (Rule m)) : Block m α := fun a => passAll (rules a)

end

mutual

/-- What a rule for an object at a path does, in depth-first order. -/
def events : Rule m → String → List (Event m)
  | .action run, _ => [.action run]
  | @check _ _ _ p c, path => p.checkEvents path c
  | .nested p block, path => p.partEvents path fun a => eventsAll (block a)
  | .cascade p constraints, path => p.partEvents path fun a => eventsAll (constraints a)
  | @forEach _ _ _ _ p block, path => p.elementEvents path fun _ e => eventsAll (block e)
  | @forEachIndexed _ _ _ _ p block, path => p.elementEvents path fun i e => eventsAll (block i e)
  | @forEachEntry _ _ _ _ _ p block, path => p.elementEvents path fun _ e => eventsAll (block e)
  | @forEachEntryKeyed _ _ _ _ _ _ p block, path => p.entryEvents path fun e => eventsAll (block e)

def eventsAll : List (Rule m) → String → List (Event m)
  | [], _ => []
  | r :: rest, path => events r path ++ eventsAll rest path

end

end Rule

/-! Moving an object under a path moves everything that happens in it. -/

namespace Property

variable {α ε κ ν : Type} {m : Type → Type} (p : Property α) (parent path : String)

theorem violation_rebase [ToValue α] (constraint : Constraint) :
    p.violation (Path.rebase parent path) constraint =
      (p.violation path constraint).rebased parent := by
  simp [violation, Violation.rebased, Path.field, Path.rebase_assoc]

/-- What a property records about itself is its violation, seen from the object that it belongs to. -/
theorem violation_eq_of [ToValue α] (constraint : Constraint) :
    p.violation "" constraint = .of p.path (toValue p.value) constraint := by
  have hcaptured : (p.value.bind fun a => (toValue a).nonNull?) = (toValue p.value).nonNull? := by
    cases p.value <;> rfl
  rw [violation, hcaptured]
  rfl

theorem checkEvents_rebase [ToValue α] (c : Check α) :
    (p.checkEvents (Path.rebase parent path) c : List (Event m)) =
      (p.checkEvents path c).map (Event.rebased parent) := by
  simp only [checkEvents]
  split
  · rfl
  · rw [p.violation_rebase]
    rfl

theorem partEvents_rebase {events : α → String → List (Event m)}
    (h : ∀ a q, events a (Path.rebase parent q) = (events a q).map (Event.rebased parent)) :
    p.partEvents (Path.rebase parent path) events =
      (p.partEvents path events).map (Event.rebased parent) := by
  simp only [partEvents, Path.field, ← Path.rebase_assoc, h, List.map_flatMap]

theorem elementEvents_rebase [Elements α ε] {events : Nat → ε → String → List (Event m)}
    (h : ∀ i e q, events i e (Path.rebase parent q) = (events i e q).map (Event.rebased parent)) :
    p.elementEvents (Path.rebase parent path) events =
      (p.elementEvents path events).map (Event.rebased parent) := by
  apply p.partEvents_rebase
  intro a q
  simp only [← Path.rebase_index, h, List.map_flatMap]

theorem entryEvents_rebase [Elements α (Entry κ ν)] [ToString κ]
    {events : Entry κ ν → String → List (Event m)}
    (h : ∀ e q, events e (Path.rebase parent q) = (events e q).map (Event.rebased parent)) :
    p.entryEvents (Path.rebase parent path) events =
      (p.entryEvents path events).map (Event.rebased parent) := by
  apply p.partEvents_rebase
  intro a q
  simp only [← Path.rebase_key, h, List.map_flatMap]

end Property

namespace Rule

variable {m : Type → Type}

mutual

theorem events_rebase (parent path : String) : (r : Rule m) →
    events r (Path.rebase parent path) = (events r path).map (Event.rebased parent)
  | .action _ => rfl
  | @check _ _ _ p c => p.checkEvents_rebase parent path c
  | .nested p block =>
    p.partEvents_rebase parent path fun a q => eventsAll_rebase parent q (block a)
  | .cascade p constraints =>
    p.partEvents_rebase parent path fun a q => eventsAll_rebase parent q (constraints a)
  | @forEach _ _ _ _ p block =>
    p.elementEvents_rebase parent path fun _ e q => eventsAll_rebase parent q (block e)
  | @forEachIndexed _ _ _ _ p block =>
    p.elementEvents_rebase parent path fun i e q => eventsAll_rebase parent q (block i e)
  | @forEachEntry _ _ _ _ _ p block =>
    p.elementEvents_rebase parent path fun _ e q => eventsAll_rebase parent q (block e)
  | @forEachEntryKeyed _ _ _ _ _ _ p block =>
    p.entryEvents_rebase parent path fun e q => eventsAll_rebase parent q (block e)

theorem eventsAll_rebase (parent path : String) : (rs : List (Rule m)) →
    eventsAll rs (Path.rebase parent path) = (eventsAll rs path).map (Event.rebased parent)
  | [] => rfl
  | r :: rest => by
    rw [eventsAll, eventsAll, List.map_append, events_rebase parent path r,
      eventsAll_rebase parent path rest]

end

/-- The events under a path are those of the object on its own, moved under the path. -/
theorem eventsAll_eq_rebased (rs : List (Rule m)) (path : String) :
    eventsAll rs path = (eventsAll rs "").map (Event.rebased path) := by
  have h := eventsAll_rebase path "" rs
  rwa [Path.rebase_empty_right] at h

end Rule

/-! A recording pass follows the events of its rules. -/

section

variable {m : Type → Type} [Monad m] [LawfulMonad m] {α ε κ ν : Type}

/-- A block that follows its events on every object, where events under a path are those of the object on its
own, moved under the path. -/
structure Block.Follows (block : Block m α) (events : α → String → List (Event m)) : Prop where
  follows (a : α) : ObjectValidation.Follows (block a) (events a "")
  moves (a : α) (path : String) : events a path = (events a "").map (Event.rebased path)

/-- A pass ends with the first of all equal failures of the events that its block follows. -/
theorem Follows.validate {block : Block m α} {object : α} {es : List (Event m)}
    (h : Follows (block object) es) :
    validate object block = do
      Event.perform es
      let found := Event.failures es
      return if found.isEmpty then .ok () else .error ⟨found.eraseDups, ViolationSet.pairwise_eraseDups found⟩ := by
  rw [ObjectValidation.validate, h.violations]
  simp only [bind_assoc, pure_bind, ViolationSet.toResult_ofList]

theorem Block.Follows.within {block : Block m α} {events : α → String → List (Event m)}
    (h : block.Follows events) (path : String) (a : α) :
    ObjectValidation.Follows (do
      let found ← (block.violations a : Recording m ViolationSet)
      Recording.merge path found) (events a path) :=
  h.moves a path ▸ (h.follows a).within path

namespace Property

theorem follows_check [ToValue α] (p : Property α) (c : Check α) :
    Follows (p.check c : Recording m Unit) (p.checkEvents "" c) := by
  intro s
  simp only [check, checkEvents]
  split
  · exact follows_pure s
  · simp [record, violation_eq_of, Event.perform, Event.act]

theorem follows_nested {block : Block m α} {events : α → String → List (Event m)}
    (h : block.Follows events) (p : Property α) :
    Follows (p.nested block) (p.partEvents "" events) := by
  simp only [nested, partEvents, Path.field, Path.rebase_empty_left]
  cases p.value with
  | none => exact follows_pure
  | some a => simpa using h.within p.path a

theorem follows_eachFrom {block : Nat → Block m ε} {events : Nat → ε → String → List (Event m)}
    (h : ∀ i, (block i).Follows (events i)) (path : String) (items : List ε) (i : Nat) :
    Follows (eachFrom path block i items)
      ((items.zipIdx i).flatMap fun e => events e.2 e.1 (Path.index path e.2)) := by
  induction items generalizing i with
  | nil => exact follows_pure
  | cons e rest ih =>
    have hhead := (h i).within (Path.index path i) e
    simpa [eachFrom] using hhead.seq (ih (i + 1))

theorem follows_forEachIndexed [Elements α ε] {block : Nat → Block m ε}
    {events : Nat → ε → String → List (Event m)} (h : ∀ i, (block i).Follows (events i))
    (p : Property α) : Follows (p.forEachIndexed block) (p.elementEvents "" events) := by
  simp only [forEachIndexed, elementEvents, partEvents, Path.field, Path.rebase_empty_left]
  cases p.value with
  | none => exact follows_pure
  | some a => simpa using follows_eachFrom h p.path (Elements.elements a) 0

theorem follows_eachKeyed [ToString κ] {block : Block m (Entry κ ν)}
    {events : Entry κ ν → String → List (Event m)} (h : block.Follows events) (path : String)
    (items : List (Entry κ ν)) :
    Follows (eachKeyed path block items)
      (items.flatMap fun e => events e (Path.key path (toString e.key))) := by
  induction items with
  | nil => exact follows_pure
  | cons e rest ih =>
    have hhead := h.within (Path.key path (toString e.key)) e
    simpa [eachKeyed] using hhead.seq ih

theorem follows_forEachEntryKeyed [Elements α (Entry κ ν)] [ToString κ] {block : Block m (Entry κ ν)}
    {events : Entry κ ν → String → List (Event m)} (h : block.Follows events) (p : Property α) :
    Follows (p.forEachEntryKeyed block) (p.entryEvents "" events) := by
  simp only [forEachEntryKeyed, entryEvents, partEvents, Path.field, Path.rebase_empty_left]
  cases p.value with
  | none => exact follows_pure
  | some a => simpa using follows_eachKeyed h p.path (Elements.elements a)

end Property

namespace Rule

mutual

theorem pass_follows : (r : Rule m) → Follows (pass r) (events r "")
  | .action run => follows_action run
  | @check _ _ _ p c => p.follows_check c
  | .nested p block =>
    p.follows_nested ⟨fun a => passAll_follows (block a), fun a => eventsAll_eq_rebased (block a)⟩
  | .cascade p constraints =>
    p.follows_nested
      ⟨fun a => passAll_follows (constraints a), fun a => eventsAll_eq_rebased (constraints a)⟩
  | @forEach _ _ _ _ p block =>
    p.follows_forEachIndexed fun _ =>
      ⟨fun e => passAll_follows (block e), fun e => eventsAll_eq_rebased (block e)⟩
  | @forEachIndexed _ _ _ _ p block =>
    p.follows_forEachIndexed fun i =>
      ⟨fun e => passAll_follows (block i e), fun e => eventsAll_eq_rebased (block i e)⟩
  | @forEachEntry _ _ _ _ _ p block =>
    p.follows_forEachIndexed fun _ =>
      ⟨fun e => passAll_follows (block e), fun e => eventsAll_eq_rebased (block e)⟩
  | @forEachEntryKeyed _ _ _ _ _ _ p block =>
    p.follows_forEachEntryKeyed
      ⟨fun e => passAll_follows (block e), fun e => eventsAll_eq_rebased (block e)⟩

theorem passAll_follows : (rs : List (Rule m)) → Follows (passAll rs) (eventsAll rs "")
  | [] => follows_pure
  | r :: rest => (pass_follows r).seq (passAll_follows rest)

end

end Rule

/-- A pass over a tree of rules does what the flat walk lists: it performs the actions of the blocks in
depth-first order, each as often as the walk meets it, and ends with the first of all equal failures. Nothing
is reported that did not fail, a failure is left out only for an equal one, and success means that nothing
failed. -/
theorem validate_eq_flat_walk (rules : α → List (Rule m)) (object : α) :
    let events := Rule.eventsAll (rules object) ""
    let found := Event.failures events
    let flat : m (Except ViolationSet Unit) := do
      Event.perform events
      return if found.isEmpty then .ok () else .error ⟨found.eraseDups, ViolationSet.pairwise_eraseDups found⟩
    let constraints : Validatable m α := ⟨Rule.block rules⟩
    validate object (Rule.block rules) = flat ∧
    (do let recorded ← (Rule.block rules).violations object; return recorded.toResult ()) = flat ∧
    validate object constraints.constraints = flat ∧
    found.eraseDups.Sublist found ∧
    (∀ v ∈ found, ∃ w ∈ found.eraseDups, (w == v) = true) ∧
    found.eraseDups.Pairwise fun v w => (v == w) = false := by
  intro events found flat constraints
  have hflat : validate object (Rule.block rules) = flat :=
    Follows.validate (Rule.passAll_follows (rules object))
  refine ⟨hflat, hflat, hflat, ?_, ?_, ?_⟩
  · exact ViolationSet.ofList_toList found ▸ ViolationSet.ofList_sublist found
  · intro v hv
    exact ViolationSet.ofList_toList found ▸ ViolationSet.exists_mem_ofList hv
  · exact ViolationSet.pairwise_eraseDups found

end

/-- Rules for a table of numbers that note the position of each row they are run on. -/
def tableRules (rows : List (List Int64)) : List (Rule (StateM (List Nat))) :=
  [.forEachIndexed (Property.field "rows" id rows) fun i row =>
    [.action (modify fun seen => seen ++ [i]),
      .nested (Property.whole row) fun row =>
        [.check (Property.whole row) .isNull, .check (Property.whole row) .isNull],
      .check (Property.whole row) .isNull,
      .forEach (Property.field "cells" id row) fun cell => [.check (Property.whole cell) .isNull],
      .check (Property.optionalField "note" (fun _ => (none : Option String)) row) .isNotNull]]

theorem validate_table_flat :
    LawfulMonad (StateM (List Nat)) ∧
    StateT.run (validate [[7, 7], []] (Rule.block tableRules)) [] =
      (.error ⟨[
        ⟨"rows[0]", some (.list [.integer 7, .integer 7]), builtIn "Null"⟩,
        ⟨"rows[0].cells[0]", some (.integer 7), builtIn "Null"⟩,
        ⟨"rows[0].cells[1]", some (.integer 7), builtIn "Null"⟩,
        ⟨"rows[0].note", none, builtIn "NotNull"⟩,
        ⟨"rows[1]", some (.list []), builtIn "Null"⟩,
        ⟨"rows[1].note", none, builtIn "NotNull"⟩], by decide⟩, [0, 1]) := by
  refine ⟨inferInstance, ?_⟩
  rw [(validate_eq_flat_walk tableRules [[7, 7], []]).1]
  rfl

end ObjectValidation
