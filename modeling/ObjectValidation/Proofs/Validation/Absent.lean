import ObjectValidation.Proofs.Check.Catalogue
import ObjectValidation.Proofs.Violation.Set
import ObjectValidation.Validation.Abortable

/-!
Chains of rules over an absent property. The catalogue accepts what is not there, and blocks for parts of a
value have no part to be run on; the one rule that asks for presence reports its absence, once however often
it is asked. Whatever a chain is made of, it does nothing in the caller's monad.
-/

namespace ObjectValidation

/-- The violation that an absent property is reported by. -/
def Violation.absence (path : String) : Violation := ⟨path, none, builtIn "NotNull"⟩

namespace Check

variable {α : Type}

theorem Catalogued.accepts_none_or_eq {c : Check α} (h : c.Catalogued) :
    c.accepts none = true ∨ c = Check.isNotNull := by
  cases h with
  | isNotNull => exact .inr rfl
  | _ => exact .inl rfl

end Check

section

variable {m : Type → Type} [Monad m] {α : Type}

/-- A check by a rule of the caller's own that may do something as it decides. It is asked about present
values only. -/
def Property.checkValid [ToValue α] (p : Property α) (test : α → m Bool) : Recording m Unit := do
  let valid ← match p.value with
    | some a => StateT.lift (test a)
    | none => pure true
  if valid then pure () else p.record (builtIn "Valid")

end

/-- What can be called on a property in a pass that only records. -/
inductive ChainStep (m : Type → Type) (α : Type) : Type 1 where
  | check (c : Check α) (catalogued : c.Catalogued)
  | isValid (test : α → m Bool)
  | nested (block : Block m α)
  | cascade [Validatable m α]
  | forEach {ε : Type} [Elements α ε] (block : Block m ε)
  | forEachIndexed {ε : Type} [Elements α ε] (block : Nat → Block m ε)
  | forEachEntry {κ ν : Type} [Elements α (Entry κ ν)] (block : Block m (Entry κ ν))
  | forEachEntryKeyed {κ ν : Type} [Elements α (Entry κ ν)] [ToString κ] (block : Block m (Entry κ ν))

/-- What can be called on a property in a pass that may be aborted with a `φ`. -/
inductive FallibleStep (φ : Type) (m : Type → Type) (α : Type) : Type 1 where
  | recording (step : ChainStep m α)
  | nested (block : FallibleBlock φ m α)
  | forEach {ε : Type} [Elements α ε] (block : FallibleBlock φ m ε)
  | forEachIndexed {ε : Type} [Elements α ε] (block : Nat → FallibleBlock φ m ε)

section

variable {φ : Type} {m : Type → Type} {α : Type}

/-- The call that asks for presence. -/
def ChainStep.isNotNull : ChainStep m α := .check .isNotNull .isNotNull

def FallibleStep.isNotNull : FallibleStep φ m α := .recording .isNotNull

variable [Monad m] [ToValue α]

def ChainStep.run (p : Property α) : ChainStep m α → Recording m Unit
  | check c _ => p.check c
  | isValid test => p.checkValid test
  | nested block => p.nested block
  | cascade => p.cascade
  | forEach block => p.forEach block
  | forEachIndexed block => p.forEachIndexed block
  | forEachEntry block => p.forEachEntry block
  | forEachEntryKeyed block => p.forEachEntryKeyed block

def FallibleStep.run (p : Property α) : FallibleStep φ m α → Fallible φ m Unit
  | recording step => Abortable.ofRecording (step.run p)
  | nested block => p.nestedOrAbort block
  | forEach block => p.forEachOrAbort block
  | forEachIndexed block => p.forEachIndexedOrAbort block

namespace Property

/-- Calls one after the other on the same property. -/
def chain (p : Property α) : List (ChainStep m α) → Recording m Unit
  | [] => pure ()
  | step :: rest => do
    step.run p
    p.chain rest

def chainOrAbort (p : Property α) : List (FallibleStep φ m α) → Fallible φ m Unit
  | [] => pure ()
  | step :: rest => do
    step.run p
    p.chainOrAbort rest

end Property

end

namespace ViolationSet

/-- The set that absence leaves: the violation of it comes last unless the set has it. -/
structure AddsAbsence (path : String) (s left : ViolationSet) : Prop where
  of_contains : s.contains (.absence path) = true → left = s
  of_not_contains : s.contains (.absence path) = false → left.toList = s.toList ++ [.absence path]

theorem addsAbsence_insert (path : String) (s : ViolationSet) :
    s.AddsAbsence path (s.insert (.absence path)) where
  of_contains h := insert_of_contains h
  of_not_contains h := by rw [insert_of_not_contains h]

end ViolationSet

section

variable {φ : Type} {m : Type → Type} [Monad m] {α : Type} [ToValue α]

/-- A catalogue check accepts an absent value or is the one that asks for it. -/
theorem Property.run_check_absent {c : Check α} (h : c.Catalogued) (hc : c ≠ .isNotNull) (path : String)
    (s : ViolationSet) :
    StateT.run (check ⟨path, none⟩ c : Recording m Unit) s = pure ((), s) := by
  have hnone : c.accepts none = true := h.accepts_none_or_eq.resolve_right hc
  simp [check, hnone]

theorem ChainStep.run_isNotNull_absent (path : String) (s : ViolationSet) :
    StateT.run ((isNotNull : ChainStep m α).run ⟨path, none⟩) s =
      pure ((), s.insert (.absence path)) := by
  simp [run, isNotNull, Property.check, Check.isNotNull, Property.record, Violation.of, Violation.absence]
  rfl

variable [LawfulMonad m]

theorem ChainStep.run_absent {step : ChainStep m α} (h : step ≠ isNotNull) (path : String)
    (s : ViolationSet) : StateT.run (step.run ⟨path, none⟩) s = pure ((), s) := by
  cases step with
  | check c hc =>
    refine Property.run_check_absent hc ?_ path s
    rintro rfl
    exact h rfl
  | isValid test => simp [ChainStep.run, Property.checkValid]
  | nested _ => rfl
  | cascade => rfl
  | forEach _ => rfl
  | forEachIndexed _ => rfl
  | forEachEntry _ => rfl
  | forEachEntryKeyed _ => rfl

/-- How a pass that only records ends is seen where it takes part in one that may be aborted. -/
theorem Abortable.run_of_run_ofRecording {pass : Recording m Unit} {s left : ViolationSet}
    (h : StateT.run (ofRecording pass : Fallible φ m Unit).run s = pure (.ok (), left)) :
    StateT.run pass s = pure ((), left) := by
  have hback := congrArg (fun act => (fun outcome => ((), outcome.2)) <$> act) h
  simpa [ofRecording] using hback

theorem FallibleStep.run_isNotNull_absent (path : String) (s : ViolationSet) :
    StateT.run ((isNotNull : FallibleStep φ m α).run ⟨path, none⟩).run s =
      pure (.ok (), s.insert (.absence path)) := by
  simp [FallibleStep.isNotNull, FallibleStep.run, Abortable.ofRecording, ChainStep.run_isNotNull_absent]

theorem FallibleStep.run_absent {step : FallibleStep φ m α} (h : step ≠ isNotNull) (path : String)
    (s : ViolationSet) : StateT.run (step.run ⟨path, none⟩).run s = pure (.ok (), s) := by
  cases step with
  | recording step =>
    have hstep : step ≠ .isNotNull := by
      rintro rfl
      exact h rfl
    simp [FallibleStep.run, Abortable.ofRecording, ChainStep.run_absent hstep]
  | nested _ => rfl
  | forEach _ => rfl
  | forEachIndexed _ => rfl

namespace Property

/-- Of the calls on an absent property only those that ask for presence count, and of them only the first. -/
theorem run_chainOrAbort_absent (path : String) (steps : List (FallibleStep φ m α)) (s : ViolationSet) :
    (.isNotNull ∉ steps → StateT.run (chainOrAbort ⟨path, none⟩ steps).run s = pure (.ok (), s)) ∧
    (.isNotNull ∈ steps →
      StateT.run (chainOrAbort ⟨path, none⟩ steps).run s = pure (.ok (), s.insert (.absence path))) := by
  induction steps generalizing s with
  | nil => exact ⟨fun _ => rfl, fun h => absurd h List.not_mem_nil⟩
  | cons step rest ih =>
    rw [chainOrAbort, ExceptT.run_bind, StateT.run_bind]
    by_cases hstep : step = .isNotNull
    · subst hstep
      refine ⟨fun h => absurd List.mem_cons_self h, fun _ => ?_⟩
      rw [FallibleStep.run_isNotNull_absent, pure_bind]
      by_cases hrest : .isNotNull ∈ rest
      · have hrun := (ih (s.insert (.absence path))).2 hrest
        rwa [ViolationSet.insert_insert_self] at hrun
      · exact (ih (s.insert (.absence path))).1 hrest
    · rw [FallibleStep.run_absent hstep, pure_bind, List.mem_cons]
      simpa [Ne.symm hstep] using ih s

/-- A chain that only records may stand in a pass that may be aborted, call by call or as a whole. -/
theorem chainOrAbort_map_recording (p : Property α) (steps : List (ChainStep m α)) :
    p.chainOrAbort (steps.map .recording) = (Abortable.ofRecording (p.chain steps) : Fallible φ m Unit) := by
  induction steps with
  | nil => simp [chain, chainOrAbort, Abortable.ofRecording]
  | cons step rest ih =>
    rw [List.map_cons, chainOrAbort, ih]
    simp [chain, FallibleStep.run, Abortable.ofRecording]

theorem run_chain_absent (path : String) (steps : List (ChainStep m α)) (s : ViolationSet) :
    (.isNotNull ∉ steps → StateT.run (chain ⟨path, none⟩ steps) s = pure ((), s)) ∧
    (.isNotNull ∈ steps →
      StateT.run (chain ⟨path, none⟩ steps) s = pure ((), s.insert (.absence path))) := by
  have hmem : (.isNotNull : FallibleStep Empty m α) ∈ steps.map .recording ↔ .isNotNull ∈ steps := by
    simp [FallibleStep.isNotNull]
  have h := run_chainOrAbort_absent (φ := Empty) path (steps.map .recording) s
  rw [chainOrAbort_map_recording, hmem] at h
  exact ⟨fun hs => Abortable.run_of_run_ofRecording (h.1 hs),
    fun hs => Abortable.run_of_run_ofRecording (h.2 hs)⟩

/-- A chain of calls on an absent property, of any length, made of catalogue checks with any arguments, blocks
for parts of the value, cascades and iterations, in a pass that only records and in one that may be aborted.
Without the check for presence the set is left as it was. With it, once or often, the set has the violation
that tells of the absence, new in the last place if it was not there, and nothing else. In either case nothing
is done in the monad of the blocks and the rules of the caller's own: none of them runs, and no pass is
aborted. -/
theorem chains_of_absent (p : Property α) (habsent : p.value = none) (s : ViolationSet) :
    (∀ steps : List (ChainStep m α),
      (.isNotNull ∉ steps → StateT.run (p.chain steps) s = pure ((), s)) ∧
      (.isNotNull ∈ steps →
        ∃ left, s.AddsAbsence p.path left ∧ StateT.run (p.chain steps) s = pure ((), left))) ∧
    ∀ steps : List (FallibleStep φ m α),
      (.isNotNull ∉ steps → StateT.run (p.chainOrAbort steps).run s = pure (.ok (), s)) ∧
      (.isNotNull ∈ steps →
        ∃ left, s.AddsAbsence p.path left ∧
          StateT.run (p.chainOrAbort steps).run s = pure (.ok (), left)) := by
  obtain ⟨path, _⟩ := p
  cases habsent
  have hadds := s.addsAbsence_insert path
  refine ⟨fun steps => ?_, fun steps => ?_⟩
  · obtain ⟨hwithout, hwith⟩ := run_chain_absent path steps s
    exact ⟨hwithout, fun h => ⟨_, hadds, hwith h⟩⟩
  · obtain ⟨hwithout, hwith⟩ := run_chainOrAbort_absent path steps s
    exact ⟨hwithout, fun h => ⟨_, hadds, hwith h⟩⟩

/-- Rules for tags that count how often something is looked at, and turn down whatever there is. -/
def tagRules : List (ChainStep (StateM Nat) (List String)) :=
  [.check .isNotEmpty .isNotEmpty,
    .forEach fun tag => do
      StateT.lift (modify (· + 1))
      (whole tag).check .isBlank,
    .isValid fun _ => do
      modify (· + 1)
      return false]

/-- Tags that are not there pass the rules, and are reported once if they have to be there, both times without
a look at any of them. -/
theorem chains_of_absent_tags :
    let tags : Property (List String) := ⟨"tags", none⟩
    StateT.run (tags.chain tagRules) ∅ = pure ((), ∅) ∧
      ∃ left : ViolationSet, left.toList = [.absence "tags"] ∧
        StateT.run (tags.chainOrAbort (φ := String)
          (.isNotNull :: .nested (fun _ => Abortable.abort "down") :: .isNotNull ::
            tagRules.map .recording)).run ∅ = pure (.ok (), left) := by
  intro tags
  obtain ⟨hrecording, hfallible⟩ := chains_of_absent (φ := String) (m := StateM Nat) tags rfl ∅
  have hwithout : (.isNotNull : ChainStep (StateM Nat) (List String)) ∉ tagRules := by
    simp [tagRules, ChainStep.isNotNull, Check.isNotNull, Check.isNotEmpty, Check.ofPresent, builtIn,
      Constraint.named]
  obtain ⟨left, hadds, hrun⟩ := (hfallible (.isNotNull :: .nested (fun _ => Abortable.abort "down") ::
    .isNotNull :: tagRules.map .recording)).2 List.mem_cons_self
  exact ⟨(hrecording tagRules).1 hwithout, left, hadds.of_not_contains rfl, hrun⟩

end Property

end

end ObjectValidation
