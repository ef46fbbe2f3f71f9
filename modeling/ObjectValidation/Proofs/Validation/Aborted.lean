import ObjectValidation.Proofs.Validation.Abort

/-!
What is left behind when a part of a pass fails. Blocks are followed through a world of any kind, which stands
for all that they can observe or change besides violations, so that the world at the end tells which blocks have
run, on what, and in which order. A failing part leaves the violations of the parts before it, each under its
own path, and nothing of its own.
-/

namespace ObjectValidation

variable {σ φ α β ε : Type}

namespace ViolationSet

/-- Takes over what was found in consecutive elements, the first of which has position `i`. -/
def mergeElements (s : ViolationSet) (path : String) (i : Nat) (found : List ViolationSet) : ViolationSet :=
  (found.zipIdx i).foldl (fun left part => left.merge (Path.index path part.2) part.1) s

@[simp] theorem mergeElements_nil (s : ViolationSet) (path : String) (i : Nat) :
    s.mergeElements path i [] = s := rfl

@[simp] theorem mergeElements_cons (s : ViolationSet) (path : String) (i : Nat) (first : ViolationSet)
    (others : List ViolationSet) : s.mergeElements path i (first :: others) =
      (s.merge (Path.index path i) first).mergeElements path (i + 1) others := rfl

end ViolationSet

namespace Abortable

/-- How a pass ends that starts from a set of violations in a world: its result, and the set and the world that
it leaves. -/
def runIn (pass : Fallible φ (StateM σ) α) (s : ViolationSet) (world : σ) :
    (Except φ α × ViolationSet) × σ :=
  Id.run (StateT.run (StateT.run (ExceptT.run pass) s) world)

variable {s s' : ViolationSet} {world world' : σ} {cause : φ}

@[simp] theorem runIn_pure (a : α) (s : ViolationSet) (world : σ) :
    runIn (pure a : Fallible φ (StateM σ) α) s world = ((.ok a, s), world) := rfl

theorem runIn_bind (pass : Fallible φ (StateM σ) α) (next : α → Fallible φ (StateM σ) β)
    (s : ViolationSet) (world : σ) : runIn (pass >>= next) s world =
      match runIn pass s world with
      | ((.ok a, left), later) => runIn (next a) left later
      | ((.error cause, left), later) => ((.error cause, left), later) := by
  simp only [runIn, ExceptT.run_bind, StateT.run_bind, Id.run_bind]
  obtain ⟨⟨result, left⟩, later⟩ := Id.run (StateT.run (StateT.run (ExceptT.run pass) s) world)
  cases result <;> rfl

/-- Two passes in succession fail where the first one does, or where the second does after it. -/
theorem runIn_bind_eq_error_iff {pass : Fallible φ (StateM σ) α} {next : α → Fallible φ (StateM σ) β} :
    runIn (pass >>= next) s world = ((.error cause, s'), world') ↔
      runIn pass s world = ((.error cause, s'), world') ∨
        ∃ a left later, runIn pass s world = ((.ok a, left), later) ∧
          runIn (next a) left later = ((.error cause, s'), world') := by
  rw [runIn_bind]
  obtain ⟨⟨result, left⟩, later⟩ := runIn pass s world
  cases result <;> simp

/-- Whoever catches a failure goes on from what the failing pass has left. -/
theorem runIn_tryCatch (pass : Fallible φ (StateM σ) α) (rescue : φ → Fallible φ (StateM σ) α)
    (s : ViolationSet) (world : σ) : runIn (tryCatch pass rescue) s world =
      match runIn pass s world with
      | ((.ok a, left), later) => ((.ok a, left), later)
      | ((.error cause, left), later) => runIn (rescue cause) left later := by
  simp only [runIn, ExceptT.run_tryCatch, StateT.run_bind, Id.run_bind]
  obtain ⟨⟨result, left⟩, later⟩ := Id.run (StateT.run (StateT.run (ExceptT.run pass) s) world)
  cases result <;> rfl

theorem runIn_within (path : String) (block : FallibleBlock φ (StateM σ) α) (a : α) (s : ViolationSet)
    (world : σ) : runIn (within path block a) s world =
      let ((result, found), later) := runIn (block a) ∅ world
      ((result, afterPart s path found result), later) := by
  rw [runIn, run_within, outcome, runIn]
  simp only [StateT.run_bind, Id.run_bind]
  obtain ⟨⟨result, left⟩, later⟩ := Id.run (StateT.run (StateT.run (ExceptT.run (block a)) ∅) world)
  cases result <;> rfl

theorem runIn_within_eq_error_iff {path : String} {block : FallibleBlock φ (StateM σ) α} {a : α} :
    runIn (within path block a) s world = ((.error cause, s'), world') ↔
      s' = s ∧ ∃ dropped, runIn (block a) ∅ world = ((.error cause, dropped), world') := by
  rw [runIn_within]
  obtain ⟨⟨result, left⟩, later⟩ := runIn (block a) ∅ world
  cases result with
  | ok _ => simp
  | error failure =>
    constructor
    · rintro ⟨⟩
      exact ⟨rfl, left, rfl⟩
    · rintro ⟨rfl, dropped, ⟨⟩⟩
      rfl

theorem runIn_within_eq_ok_iff {path : String} {block : FallibleBlock φ (StateM σ) α} {a : α} :
    runIn (within path block a) s world = ((.ok (), s'), world') ↔
      ∃ found, runIn (block a) ∅ world = ((.ok (), found), world') ∧ s' = s.merge path found := by
  rw [runIn_within]
  obtain ⟨⟨result, left⟩, later⟩ := runIn (block a) ∅ world
  cases result with
  | ok _ => simp [afterPart, eq_comm, and_comm]
  | error failure => simp

/-- The block is run on all the elements, under consecutive positions from `i`, and none of the runs fails. -/
inductive GoesThrough (block : Nat → FallibleBlock φ (StateM σ) ε) :
    Nat → List ε → σ → List ViolationSet → σ → Prop
  | nil (i : Nat) (world : σ) : GoesThrough block i [] world [] world
  | cons {i : Nat} {e : ε} {rest : List ε} {world next last : σ} {found : ViolationSet}
      {others : List ViolationSet} (head : runIn (block i e) ∅ world = ((.ok (), found), next))
      (tail : GoesThrough block (i + 1) rest next others last) :
      GoesThrough block i (e :: rest) world (found :: others) last

/-- The block is run on elements one by one and fails for the first time after those in `before`, in which it
finds the violations `found`. -/
def FailsAfter (block : Nat → FallibleBlock φ (StateM σ) ε) (i : Nat) (items : List ε) (world : σ)
    (before : List ε) (found : List ViolationSet) (cause : φ) (last : σ) : Prop :=
  ∃ e after middle dropped, items = before ++ e :: after ∧ GoesThrough block i before world found middle ∧
    runIn (block (i + before.length) e) ∅ middle = ((.error cause, dropped), last)

variable {block : Nat → FallibleBlock φ (StateM σ) ε} {i : Nat} {e : ε} {items rest before : List ε}
  {found : List ViolationSet}

theorem not_failsAfter_nil : ¬ FailsAfter block i [] world before found cause world' := by
  rintro ⟨e, after, middle, dropped, hitems, -⟩
  simp at hitems

/-- The first element fails, or it does not and one of the others does. -/
theorem failsAfter_cons_iff : FailsAfter block i (e :: rest) world before found cause world' ↔
    (before = [] ∧ found = [] ∧ ∃ dropped, runIn (block i e) ∅ world = ((.error cause, dropped), world')) ∨
      ∃ first next earlier others, before = e :: earlier ∧ found = first :: others ∧
        runIn (block i e) ∅ world = ((.ok (), first), next) ∧
        FailsAfter block (i + 1) rest next earlier others cause world' := by
  constructor
  · rintro ⟨e', after, middle, dropped, hitems, hthrough, hfails⟩
    cases hthrough with
    | nil =>
      obtain ⟨rfl, rfl⟩ := List.cons.inj hitems
      exact .inl ⟨rfl, rfl, dropped, hfails⟩
    | cons head tail =>
      obtain ⟨rfl, rfl⟩ := List.cons.inj hitems
      -- the rest starts one position later, so the failing element keeps its own
      refine .inr ⟨_, _, _, _, rfl, rfl, head, e', after, middle, dropped, rfl, tail, ?_⟩
      rwa [List.length_cons, Nat.add_comm _ 1, ← Nat.add_assoc] at hfails
  · rintro (⟨rfl, rfl, dropped, hfails⟩ |
      ⟨first, next, earlier, others, rfl, rfl, head, e', after, middle, dropped, rfl, tail, hfails⟩)
    · exact ⟨e, rest, world, dropped, rfl, .nil i world, hfails⟩
    · refine ⟨e', after, middle, dropped, rfl, .cons head tail, ?_⟩
      rwa [List.length_cons, Nat.add_comm _ 1, ← Nat.add_assoc]

end Abortable

namespace Property

open Abortable

variable {s s' : ViolationSet} {world world' : σ} {cause : φ}

/-- The loop over elements fails exactly as its first failing run does, with the earlier runs merged. -/
theorem runIn_eachFromOrAbort_eq_error_iff {path : String} {block : Nat → FallibleBlock φ (StateM σ) ε}
    {i : Nat} {items : List ε} :
    runIn (eachFromOrAbort path block i items) s world = ((.error cause, s'), world') ↔
      ∃ before found, FailsAfter block i items world before found cause world' ∧
        s' = s.mergeElements path i found := by
  induction items generalizing i s world with
  | nil => simp [eachFromOrAbort, not_failsAfter_nil]
  | cons e rest ih =>
    rw [eachFromOrAbort, runIn_bind_eq_error_iff, runIn_within_eq_error_iff]
    constructor
    -- either the first element fails, or its violations are merged before the loop goes on
    · rintro (⟨rfl, hfails⟩ | ⟨⟨⟩, left, next, hhead, hrest⟩)
      · exact ⟨[], [], failsAfter_cons_iff.mpr (.inl ⟨rfl, rfl, hfails⟩), rfl⟩
      · obtain ⟨first, hfirst, rfl⟩ := runIn_within_eq_ok_iff.mp hhead
        obtain ⟨earlier, others, hothers, rfl⟩ := ih.mp hrest
        exact ⟨e :: earlier, first :: others,
          failsAfter_cons_iff.mpr (.inr ⟨first, next, earlier, others, rfl, rfl, hfirst, hothers⟩), rfl⟩
    · rintro ⟨before, found, hafter, rfl⟩
      obtain ⟨rfl, rfl, hfails⟩ | ⟨first, next, earlier, others, rfl, rfl, hfirst, hothers⟩ :=
        failsAfter_cons_iff.mp hafter
      · exact .inl ⟨rfl, hfails⟩
      · exact .inr ⟨(), s.merge (Path.index path i) first, next,
          runIn_within_eq_ok_iff.mpr ⟨first, hfirst, rfl⟩, ih.mpr ⟨earlier, others, hothers, rfl⟩⟩

theorem runIn_nestedOrAbort_eq_error_iff {p : Property α} {block : FallibleBlock φ (StateM σ) α} :
    runIn (p.nestedOrAbort block) s world = ((.error cause, s'), world') ↔
      s' = s ∧ ∃ object dropped, p.value = some object ∧
        runIn (block object) ∅ world = ((.error cause, dropped), world') := by
  unfold nestedOrAbort
  cases p.value with
  | none => simp
  | some object => simp [runIn_within_eq_error_iff]

theorem runIn_ask_eq_error_iff [ToValue α] {p : Property α} {constraint : Constraint}
    {question : Option α → StateM σ (Except φ Bool)} :
    runIn (p.ask constraint question) s world = ((.error cause, s'), world') ↔
      s' = s ∧ Id.run (StateT.run (question p.value) world) = (.error cause, world') := by
  rw [runIn, run_ask, StateT.run_bind, Id.run_bind]
  obtain ⟨answer, later⟩ := Id.run (StateT.run (question p.value) world)
  cases answer with
  | error failure =>
    constructor
    · rintro ⟨⟩
      exact ⟨rfl, rfl⟩
    · rintro ⟨rfl, ⟨⟩⟩
      rfl
  | ok accepted => cases accepted <;> simp

theorem runIn_forEachIndexedOrAbort_eq_error_iff [Elements α ε] {p : Property α}
    {block : Nat → FallibleBlock φ (StateM σ) ε} :
    runIn (p.forEachIndexedOrAbort block) s world = ((.error cause, s'), world') ↔
      ∃ collection before found, p.value = some collection ∧
        FailsAfter block 0 (Elements.elements collection) world before found cause world' ∧
        s' = s.mergeElements p.path 0 found := by
  unfold forEachIndexedOrAbort
  cases p.value with
  | none => simp
  | some collection => simp [runIn_eachFromOrAbort_eq_error_iff]

/-- A part that fails leaves the set as merged so far. After a failure in a nested object, or of a question, the
set is what it was before; after the first failure in an element, the block has been run on the elements up to
this one, in order and each under its own position, and the set is what it was before with the violations of the
earlier elements under theirs. No such set has equal violations in it, and whoever catches the failure goes on
from there. -/
theorem failure_leaves_merged (p : Property α) (s s' : ViolationSet) (world world' : σ) (cause : φ) :
    (∀ block : FallibleBlock φ (StateM σ) α,
      runIn (p.nestedOrAbort block) s world = ((.error cause, s'), world') ↔
        s' = s ∧ ∃ object dropped, p.value = some object ∧
          runIn (block object) ∅ world = ((.error cause, dropped), world')) ∧
    (∀ [ToValue α] (constraint : Constraint) (question : Option α → StateM σ (Except φ Bool)),
      runIn (p.ask constraint question) s world = ((.error cause, s'), world') ↔
        s' = s ∧ Id.run (StateT.run (question p.value) world) = (.error cause, world')) ∧
    (∀ {ε : Type} [Elements α ε] (block : Nat → FallibleBlock φ (StateM σ) ε),
      runIn (p.forEachIndexedOrAbort block) s world = ((.error cause, s'), world') ↔
        ∃ collection before found, p.value = some collection ∧
          FailsAfter block 0 (Elements.elements collection) world before found cause world' ∧
          s' = s.mergeElements p.path 0 found) ∧
    (∀ {ε : Type} [Elements α ε] (block : FallibleBlock φ (StateM σ) ε),
      runIn (p.forEachOrAbort block) s world = ((.error cause, s'), world') ↔
        ∃ collection before found, p.value = some collection ∧
          FailsAfter (fun _ => block) 0 (Elements.elements collection) world before found cause world' ∧
          s' = s.mergeElements p.path 0 found) ∧
    (∀ found, (s.mergeElements p.path 0 found).toList.Pairwise fun v w => (v == w) = false) ∧
    ∀ (pass : Fallible φ (StateM σ) Unit) (rescue : φ → Fallible φ (StateM σ) Unit),
      runIn pass s world = ((.error cause, s'), world') →
        runIn (tryCatch pass rescue) s world = runIn (rescue cause) s' world' :=
  ⟨fun _ => runIn_nestedOrAbort_eq_error_iff, fun _ _ => runIn_ask_eq_error_iff,
    fun _ => runIn_forEachIndexedOrAbort_eq_error_iff, fun _ => runIn_forEachIndexedOrAbort_eq_error_iff,
    fun found => (s.mergeElements p.path 0 found).distinct,
    fun pass rescue h => by rw [runIn_tryCatch, h]⟩

/-- Rules for a quantity that note its position in the world, get over a timeout of their own, complain about
every quantity, and give up at a negative one with all the complaints about it. -/
def noteQuantity (i : Nat) (quantity : Int64) : Fallible ValidationError (StateM (List Nat)) Unit := do
  ofRecording (StateT.lift (modify fun seen => seen ++ [i]))
  tryCatch (abort (.aborted "timeout")) fun _ => pure ()
  ofRecording ((whole quantity).record (.named "even"))
  if quantity < 0 then abort (.invalid (← get))

/-- The second of three quantities ends the pass: the third is not looked at, and only the complaint about the
first is left, also after somebody has caught the failure. -/
theorem failure_leaves_merged_quantities :
    let complaint (quantity : Int64) : ViolationSet :=
      ⟨[.of "" (.integer quantity) (.named "even")], List.pairwise_singleton _ _⟩
    let left := (∅ : ViolationSet).mergeElements "quantities" 0 [complaint 3]
    let pass := (Property.mk "quantities" (some [(3 : Int64), -5, 7])).forEachIndexedOrAbort noteQuantity
    runIn pass ∅ [] = ((.error (.invalid (complaint (-5))), left), [0, 1]) ∧
      runIn (tryCatch pass fun _ => pure ()) ∅ [] = ((.ok (), left), [0, 1]) := by
  intro complaint left pass
  obtain ⟨-, -, hindexed, -, -, hcaught⟩ := failure_leaves_merged
    (Property.mk "quantities" (some [(3 : Int64), -5, 7])) ∅ left [] [0, 1]
    (ValidationError.invalid (complaint (-5)))
  have hfails : runIn pass ∅ [] = ((.error (.invalid (complaint (-5))), left), [0, 1]) :=
    (hindexed noteQuantity).mpr ⟨[3, -5, 7], [3], [complaint 3], rfl,
      ⟨-5, [7], [0], complaint (-5), rfl, .cons rfl (.nil 1 [0]), rfl⟩, rfl⟩
  exact ⟨hfails, hcaught pass (fun _ => pure ()) hfails⟩

end Property

end ObjectValidation
