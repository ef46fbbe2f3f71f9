import ObjectValidation.Proofs.Returns
import ObjectValidation.Proofs.Validation.Abort
import Mathlib.Data.List.Basic

/-!
One tree of rules, run in a pass that may be aborted and in a pass that only records. Without an abortion the
two report the same; otherwise the first one in depth-first order ends the pass, after exactly the actions
that come before it.
-/

namespace ObjectValidation

/-- A question whose answer, or the reason why there is none, is fixed by the value that it is about. -/
structure Question (m : Type → Type) [Monad m] (α : Type) where
  test : Option α → m (Except String Bool)
  answer : Option α → Except String Bool
  returns (v : Option α) : Returns (test v) (answer v)

/-- Puts a question, whatever the answer. -/
def Question.put {m : Type → Type} [Monad m] {α : Type} (q : Question m α) (v : Option α) : m Unit := do
  let _ ← q.test v

/-- A rule of a pass that may be aborted, for an object that is at hand. -/
inductive AbortableRule (m : Type → Type) [Monad m] : Type 1 where
  /-- Whatever only records takes part in every pass. -/
  | record (r : Rule m)
  | ask {α : Type} [ToValue α] (p : Property α) (constraint : Constraint) (q : Question m α)
  | abort (cause : String)
  | nested {α : Type} (p : Property α) (block : α → List (AbortableRule m))
  | forEach {α ε : Type} [Elements α ε] (p : Property α) (block : ε → List (AbortableRule m))
  | forEachIndexed {α ε : Type} [Elements α ε] (p : Property α)
      (block : Nat → ε → List (AbortableRule m))

namespace AbortableRule

variable {m : Type → Type} [Monad m]

mutual

/-- Runs a rule as a step of a pass that may be aborted. -/
def pass : AbortableRule m → Abortable m Unit
  | .record r => Abortable.ofRecording r.pass
  | @ask _ _ _ _ p constraint q => p.ask constraint q.test
  | .abort cause => Abortable.abort cause
  | .nested p block => p.nestedOrAbort fun a => passAll (block a)
  | @forEach _ _ _ _ _ p block => p.forEachOrAbort fun e => passAll (block e)
  | @forEachIndexed _ _ _ _ _ p block => p.forEachIndexedOrAbort fun i e => passAll (block i e)

def passAll : List (AbortableRule m) → Abortable m Unit
  | [] => pure ()
  | r :: rest => do
    pass r
    passAll rest

end

def block {α : Type} (rules : α → List (AbortableRule m)) : AbortableBlock m α :=
  fun a => passAll (rules a)

mutual

/-- The rules of the pass that only records: a question is put all the same and becomes a check of its
answer, and nothing is aborted. -/
def recorded : AbortableRule m → List (Rule m)
  | .record r => [r]
  | @ask _ _ _ _ p constraint q =>
    [.action (q.put p.value), .check p ⟨constraint, fun v => (q.answer v).toOption.getD true⟩]
  | .abort _ => []
  | .nested p block => [.nested p fun a => recordedAll (block a)]
  | @forEach _ _ _ _ _ p block => [.forEach p fun e => recordedAll (block e)]
  | @forEachIndexed _ _ _ _ _ p block => [.forEachIndexed p fun i e => recordedAll (block i e)]

def recordedAll : List (AbortableRule m) → List (Rule m)
  | [] => []
  | r :: rest => recorded r ++ recordedAll rest

end

/-- What a question does: it is put, and a negative answer is a failure, a missing one an abortion. -/
def askEvents {α : Type} [ToValue α] (p : Property α) (constraint : Constraint) (q : Question m α)
    (path : String) : List (Event m) :=
  .action (q.put p.value) ::
    match q.answer p.value with
    | .error cause => [.abort cause]
    | .ok true => []
    | .ok false => [.failure (p.violation path constraint)]

mutual

/-- What a rule for an object at a path would do if no abortion ended the pass, in depth-first order. -/
def events : AbortableRule m → String → List (Event m)
  | .record r, path => r.events path
  | @ask _ _ _ _ p constraint q, path => askEvents p constraint q path
  | .abort cause, _ => [.abort cause]
  | .nested p block, path => p.partEvents path fun a => eventsAll (block a)
  | @forEach _ _ _ _ _ p block, path => p.elementEvents path fun _ e => eventsAll (block e)
  | @forEachIndexed _ _ _ _ _ p block, path => p.elementEvents path fun i e => eventsAll (block i e)

def eventsAll : List (AbortableRule m) → String → List (Event m)
  | [], _ => []
  | r :: rest, path => events r path ++ eventsAll rest path

end

theorem askEvents_rebase {α : Type} [ToValue α] (p : Property α) (constraint : Constraint)
    (q : Question m α) (parent path : String) :
    askEvents p constraint q (Path.rebase parent path) =
      (askEvents p constraint q path).map (Event.rebased parent) := by
  simp only [askEvents, List.map_cons]
  match q.answer p.value with
  | .error _ => rfl
  | .ok true => rfl
  | .ok false =>
    rw [p.violation_rebase]
    rfl

mutual

theorem events_rebase (parent path : String) : (r : AbortableRule m) →
    events r (Path.rebase parent path) = (events r path).map (Event.rebased parent)
  | .record r => r.events_rebase parent path
  | @ask _ _ _ _ p constraint q => askEvents_rebase p constraint q parent path
  | .abort _ => rfl
  | .nested p block =>
    p.partEvents_rebase parent path fun a q => eventsAll_rebase parent q (block a)
  | @forEach _ _ _ _ _ p block =>
    p.elementEvents_rebase parent path fun _ e q => eventsAll_rebase parent q (block e)
  | @forEachIndexed _ _ _ _ _ p block =>
    p.elementEvents_rebase parent path fun i e q => eventsAll_rebase parent q (block i e)

theorem eventsAll_rebase (parent path : String) : (rs : List (AbortableRule m)) →
    eventsAll rs (Path.rebase parent path) = (eventsAll rs path).map (Event.rebased parent)
  | [] => rfl
  | r :: rest => by
    rw [eventsAll, eventsAll, List.map_append, events_rebase parent path r,
      eventsAll_rebase parent path rest]

end

theorem eventsAll_eq_rebased (rs : List (AbortableRule m)) (path : String) :
    eventsAll rs path = (eventsAll rs "").map (Event.rebased path) := by
  have h := eventsAll_rebase path "" rs
  rwa [Path.rebase_empty_right] at h

end AbortableRule

/-! What only records has no abortion among its events. -/

namespace Event

variable {m : Type → Type}

theorem cause?_flatMap {β : Type} {l : List β} {f : β → List (Event m)}
    (h : ∀ b ∈ l, cause? (f b) = none) : cause? (l.flatMap f) = none := by
  rw [cause?_eq_none_iff]
  intro e he
  obtain ⟨b, hb, heb⟩ := List.mem_flatMap.mp he
  exact cause?_eq_none_iff.mp (h b hb) e heb

def isPlain (e : Event m) : Bool := e.abort?.isNone

/-- The events without the abortions among them. -/
def withoutAborts (events : List (Event m)) : List (Event m) := events.filter isPlain

theorem withoutAborts_of_none {es : List (Event m)} (h : cause? es = none) : withoutAborts es = es := by
  rw [withoutAborts, List.filter_eq_self]
  intro e he
  rw [isPlain, cause?_eq_none_iff.mp h e he]
  rfl

end Event

namespace Rule

variable {m : Type → Type}

mutual

theorem events_cause? (path : String) : (r : Rule m) → Event.cause? (events r path) = none
  | .action _ => rfl
  | @check _ _ _ p c => by
    simp only [events, Property.checkEvents]
    split <;> rfl
  | .nested _ block => Event.cause?_flatMap fun a _ => eventsAll_cause? _ (block a)
  | .cascade _ constraints => Event.cause?_flatMap fun a _ => eventsAll_cause? _ (constraints a)
  | @forEach _ _ _ _ _ block =>
    Event.cause?_flatMap fun _ _ => Event.cause?_flatMap fun e _ => eventsAll_cause? _ (block e.1)
  | @forEachIndexed _ _ _ _ _ block =>
    Event.cause?_flatMap fun _ _ => Event.cause?_flatMap fun e _ => eventsAll_cause? _ (block e.2 e.1)
  | @forEachEntry _ _ _ _ _ _ block =>
    Event.cause?_flatMap fun _ _ => Event.cause?_flatMap fun e _ => eventsAll_cause? _ (block e.1)
  | @forEachEntryKeyed _ _ _ _ _ _ _ block =>
    Event.cause?_flatMap fun _ _ => Event.cause?_flatMap fun e _ => eventsAll_cause? _ (block e)

theorem eventsAll_cause? (path : String) : (rs : List (Rule m)) →
    Event.cause? (eventsAll rs path) = none
  | [] => rfl
  | r :: rest => by
    rw [eventsAll, Event.cause?_append, events_cause? path r, eventsAll_cause? path rest]
    rfl

end

theorem eventsAll_append (rs ts : List (Rule m)) (path : String) :
    eventsAll (rs ++ ts) path = eventsAll rs path ++ eventsAll ts path := by
  induction rs with
  | nil => rfl
  | cons r rs ih => simp [eventsAll, ih]

end Rule

namespace AbortableRule

variable {m : Type → Type} [Monad m]

mutual

/-- The pass that only records has the same events but for the abortions. -/
theorem recorded_events (path : String) : (r : AbortableRule m) →
    Rule.eventsAll (recorded r) path = Event.withoutAborts (events r path)
  | .record r => by
    rw [recorded, events, Event.withoutAborts_of_none (r.events_cause? path), Rule.eventsAll,
      Rule.eventsAll, List.append_nil]
  | @ask _ _ _ _ p constraint q => by
    simp only [recorded, events, askEvents, Rule.eventsAll, Rule.events, Property.checkEvents]
    match q.answer p.value with
    | .error _ => rfl
    | .ok true => rfl
    | .ok false => rfl
  | .abort _ => rfl
  | .nested p block => by
    simp only [recorded, events, Rule.eventsAll, Rule.events, Property.partEvents, List.append_nil,
      Event.withoutAborts, List.filter_flatMap]
    exact List.flatMap_congr fun a _ => recordedAll_events _ (block a)
  | @forEach _ _ _ _ _ p block => by
    simp only [recorded, events, Rule.eventsAll, Rule.events, Property.elementEvents,
      Property.partEvents, List.append_nil, Event.withoutAborts, List.filter_flatMap]
    exact List.flatMap_congr fun a _ => List.flatMap_congr fun e _ => recordedAll_events _ (block e.1)
  | @forEachIndexed _ _ _ _ _ p block => by
    simp only [recorded, events, Rule.eventsAll, Rule.events, Property.elementEvents,
      Property.partEvents, List.append_nil, Event.withoutAborts, List.filter_flatMap]
    exact List.flatMap_congr fun a _ => List.flatMap_congr fun e _ =>
      recordedAll_events _ (block e.2 e.1)

theorem recordedAll_events (path : String) : (rs : List (AbortableRule m)) →
    Rule.eventsAll (recordedAll rs) path = Event.withoutAborts (eventsAll rs path)
  | [] => rfl
  | r :: rest => by
    rw [recordedAll, eventsAll, Rule.eventsAll_append, recorded_events path r, recordedAll_events path rest,
      Event.withoutAborts, Event.withoutAborts, Event.withoutAborts, List.filter_append]

end

variable [LawfulMonad m]

theorem follows_ask {α : Type} [ToValue α] (p : Property α) (constraint : Constraint)
    (q : Question m α) :
    Abortable.Follows (p.ask constraint q.test) (askEvents p constraint q "") := by
  intro s
  simp only [Property.run_ask, (q.returns p.value).bind_eq, askEvents]
  match q.answer p.value with
  | .error cause => exact ⟨s, by simp [Event.verdict, Event.perform, Event.act, Question.put], by simp⟩
  | .ok true => exact ⟨s, by simp [Event.verdict, Event.perform, Event.act, Question.put], by simp⟩
  | .ok false =>
    exact ⟨s.insert (.of p.path (toValue p.value) constraint),
      by simp [Event.verdict, Event.perform, Event.act, Question.put],
      by simp [Property.violation_eq_of]⟩

mutual

theorem pass_follows : (r : AbortableRule m) → Abortable.Follows (pass r) (events r "")
  | .record r => Abortable.follows_ofRecording r.pass_follows (r.events_cause? "")
  | @ask _ _ _ _ p constraint q => follows_ask p constraint q
  | .abort cause => Abortable.follows_abort cause
  | .nested p block =>
    p.follows_nestedOrAbort
      ⟨fun a => passAll_follows (block a), fun a => eventsAll_eq_rebased (block a)⟩
  | @forEach _ _ _ _ _ p block =>
    p.follows_forEachIndexedOrAbort fun _ =>
      ⟨fun e => passAll_follows (block e), fun e => eventsAll_eq_rebased (block e)⟩
  | @forEachIndexed _ _ _ _ _ p block =>
    p.follows_forEachIndexedOrAbort fun i =>
      ⟨fun e => passAll_follows (block i e), fun e => eventsAll_eq_rebased (block i e)⟩

theorem passAll_follows : (rs : List (AbortableRule m)) →
    Abortable.Follows (passAll rs) (eventsAll rs "")
  | [] => Abortable.follows_pure
  | r :: rest => (pass_follows r).seq (passAll_follows rest)

end

end AbortableRule

section

variable {m : Type → Type} [Monad m] [LawfulMonad m] {α : Type}

theorem Abortable.Follows.validateOrAbort {block : AbortableBlock m α} {object : α}
    {es : List (Event m)} (h : Abortable.Follows (block object) es) :
    validateOrAbort object block = do
      Event.perform (Event.untilAbort es)
      return match Event.cause? es with
        | some cause => .error (.aborted cause)
        | none => ((ViolationSet.ofList (Event.failures es)).toResult ()).mapError .invalid := by
  obtain ⟨left, hrun, hleft⟩ := h ∅
  rw [ObjectValidation.validateOrAbort, Abortable.outcome, hrun]
  cases hc : Event.cause? es with
  | some cause => simp [Event.verdict, hc]
  | none => simp [Event.verdict, hc, hleft hc, ViolationSet.empty_insertAll]

/-- Without an abortion a pass that may be aborted ends like the pass that only records. Otherwise it performs
the actions before the first abortion in depth-first order, no later one, and ends with the cause alone. -/
theorem validateOrAbort_agrees (rules : α → List (AbortableRule m)) (object : α) :
    let events := AbortableRule.eventsAll (rules object) ""
    ((∀ cause, Event.abort cause ∉ events) →
      validateOrAbort object (AbortableRule.block rules) = do
        let result ← validate object (Rule.block fun a => AbortableRule.recordedAll (rules a))
        return result.mapError .invalid) ∧
    ∀ before cause after, events = before ++ .abort cause :: after →
      (∀ earlier, Event.abort earlier ∉ before) →
      validateOrAbort object (AbortableRule.block rules) = do
        Event.perform before
        return .error (.aborted cause) := by
  intro events
  have habortable : Abortable.Follows (AbortableRule.block rules object) events :=
    AbortableRule.passAll_follows (rules object)
  constructor
  · intro hnone
    have hc := Event.cause?_eq_none_of_notMem hnone
    have hrecords : Follows (Rule.block (fun a => AbortableRule.recordedAll (rules a)) object) events := by
      have h := Rule.passAll_follows (AbortableRule.recordedAll (rules object))
      rwa [AbortableRule.recordedAll_events, Event.withoutAborts_of_none hc] at h
    rw [habortable.validateOrAbort, hrecords.validate, Event.untilAbort_of_none hc, hc]
    simp only [bind_assoc, pure_bind, ViolationSet.toResult_ofList]
  · intro before cause after hevents hbefore
    have hb := Event.cause?_eq_none_of_notMem hbefore
    have hc : Event.cause? events = some cause := by
      rw [hevents, Event.cause?_append, hb, Event.cause?_abort, Option.none_or]
    have huntil : Event.untilAbort events = before := by
      rw [hevents, Event.untilAbort_append_of_none hb, Event.untilAbort_abort, List.append_nil]
    rw [habortable.validateOrAbort, hc, huntil]

end

/-- Asks whether a number is registered, and notes which numbers were asked about. The answer for 0 never
comes. -/
def isRegistered : Question (StateM (List Int64)) Int64 where
  test v := do
    modify fun asked => asked ++ v.toList
    return if v = some 0 then .error "no answer" else .ok (v != some 8)
  answer v := if v = some 0 then .error "no answer" else .ok (v != some 8)
  returns v := by simp [Returns]

def registerRules (numbers : List Int64) : List (AbortableRule (StateM (List Int64))) :=
  [.forEachIndexed (Property.field "numbers" id numbers) fun _ n =>
    [.ask (Property.whole n) (builtIn "Valid") isRegistered]]

theorem validateOrAbort_register :
    LawfulMonad (StateM (List Int64)) ∧
    StateT.run (validateOrAbort [7, 8] (AbortableRule.block registerRules)) [] =
      (.error (.invalid ⟨[⟨"numbers[1]", some (.integer 8), builtIn "Valid"⟩], by decide⟩), [7, 8]) ∧
    StateT.run (validateOrAbort [8, 0, 7] (AbortableRule.block registerRules)) [] =
      (.error (.aborted "no answer"), [8, 0]) := by
  refine ⟨inferInstance, ?_, ?_⟩
  · rw [(validateOrAbort_agrees registerRules [7, 8]).1]
    · rfl
    · intro cause hmem
      have hevents : AbortableRule.eventsAll (registerRules [7, 8]) "" =
          [.action (isRegistered.put (some 7)), .action (isRegistered.put (some 8)),
            .failure ⟨"numbers[1]", some (.integer 8), builtIn "Valid"⟩] := rfl
      rw [hevents] at hmem
      simp at hmem
  · rw [(validateOrAbort_agrees registerRules [8, 0, 7]).2
      [.action (isRegistered.put (some 8)),
        .failure ⟨"numbers[0]", some (.integer 8), builtIn "Valid"⟩,
        .action (isRegistered.put (some 0))] "no answer" [.action (isRegistered.put (some 7))] rfl
      (by simp)]
    rfl

end ObjectValidation
