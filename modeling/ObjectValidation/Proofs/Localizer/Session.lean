import ObjectValidation.Localizer
import ObjectValidation.Proofs.Bundle.History
import ObjectValidation.Proofs.Template.Render

/-!
What a localizer answers while the answers of its sources are fixed. Using it changes only what it remembers
of values and of bundle names, and no answer depends on that.
-/

namespace ObjectValidation

/-- The message about a violation that a bundle gives under the rules of a registry. -/
def MessageBundle.messageOf (b : MessageBundle) (r : FormatterRegistry) (v : Violation) :
    Except LocalizationError ViolationMessage :=
  (b.getMessage v.constraint.messageKey).map fun template =>
    .of v (Template.filled r b.locale v.params template)

/-- The bundle gives the message about a violation, or says that it has none, where formatters may ask for the
texts of all values. -/
def MessageBundle.Tells (b : MessageBundle) (r : FormatterRegistry) (v : Violation)
    (outcome : Except LocalizationError ViolationMessage) : Prop :=
  match b.getMessage v.constraint.messageKey with
  | .error e => outcome = .error e
  | .ok template => ∃ chars last,
      Template.Composed v.params b.locale r (Template.parse template.toList) chars last ∧
        outcome = .ok (.of v (String.ofList chars))

theorem MessageBundle.Tells.eq_messageOf {b : MessageBundle} {r : FormatterRegistry} {v : Violation}
    {outcome : Except LocalizationError ViolationMessage} (h : b.Tells r v outcome) : outcome = b.messageOf r v := by
  unfold Tells at h
  unfold messageOf
  cases hmessage : b.getMessage v.constraint.messageKey with
  | error e =>
    rw [hmessage] at h
    exact h
  | ok template =>
    rw [hmessage] at h
    obtain ⟨chars, last, hcomposed, rfl⟩ := h
    rw [← hcomposed.filled_eq]
    rfl

/-- The message is told if all values can be written that its template names. -/
theorem MessageBundle.tells_messageOf {b : MessageBundle} {r : FormatterRegistry} {v : Violation}
    (h : ∀ template, b.getMessage v.constraint.messageKey = .ok template →
      ∀ value, Template.Names v.params template value → r.Finishes b.locale value) :
    b.Tells r v (b.messageOf r v) := by
  unfold Tells messageOf
  cases hmessage : b.getMessage v.constraint.messageKey with
  | error e => rfl
  | ok template =>
    obtain ⟨chars, last, hcomposed⟩ := Template.exists_composed_iff_names.2 (h template hmessage)
    refine ⟨chars, last, hcomposed, ?_⟩
    rw [← hcomposed.filled_eq]
    rfl

theorem MessageBundle.gives_messageFor (b : MessageBundle) (r : FormatterRegistry) (v : Violation) :
    r.Gives (b.messageFor v) (b.messageOf r v) := by
  unfold messageFor interpolate messageOf
  cases b.getMessage v.constraint.messageKey with
  | error e => exact (FormatterRegistry.gives_pure _).bind (FormatterRegistry.gives_pure _)
  | ok template =>
    have htext := Template.gives_render r b.locale v.params template
    rw [← Template.filled_eq] at htext
    have hok : r.Gives (do return Except.ok (← Template.render template v.params b.locale))
        (.ok (Template.filled r b.locale v.params template) : Except LocalizationError String) :=
      htext.bind (FormatterRegistry.gives_pure _)
    exact hok.bind (FormatterRegistry.gives_pure _)

namespace Localizer

variable {m : Type → Type} [Monad m]

/-- The second localizer is the first one after some use. -/
structure Used (sources : List (FixedSource m)) (l l' : Localizer m) : Prop where
  tracks : l'.resolver.Tracks sources
  sameRules : l'.registry.SameRules l.registry
  defaultLocale_eq : l'.defaultLocale = l.defaultLocale
  baseName_eq : l'.baseName = l.baseName
  fallbackBaseName_eq : l'.fallbackBaseName = l.fallbackBaseName

variable {sources : List (FixedSource m)}

theorem Used.trans {first second third : Localizer m} (h : Used sources first second)
    (h' : Used sources second third) : Used sources first third where
  tracks := h'.tracks
  sameRules := h'.sameRules.trans h.sameRules
  defaultLocale_eq := h'.defaultLocale_eq.trans h.defaultLocale_eq
  baseName_eq := h'.baseName_eq.trans h.baseName_eq
  fallbackBaseName_eq := h'.fallbackBaseName_eq.trans h.fallbackBaseName_eq

variable [LawfulMonad m] {α : Type} {l : Localizer m}

theorem returns_withRegistry {act : StateM FormatterRegistry α} {result : α}
    (h : l.registry.Gives act result) (htracks : l.resolver.Tracks sources) :
    ∃ l', Used sources l l' ∧
      Returns (StateT.run (withRegistry act : Session m α) l) (result, l') := by
  obtain ⟨registry, hrules, hrun⟩ := h l.registry (.refl _)
  refine ⟨{ l with registry }, ⟨htracks, hrules, rfl, rfl, rfl⟩, ?_⟩
  have hpure : StateT.run (withRegistry act : Session m α) l = pure (result, { l with registry }) := by
    rw [withRegistry, StateT.run_modifyGet, hrun]
    rfl
  rw [hpure]
  exact returns_pure _

theorem returns_bundle (htracks : l.resolver.Tracks sources) (base : Option String)
    (locale : Option Locale) :
    ∃ l', Used sources l l' ∧ l'.registry = l.registry ∧
      Returns (StateT.run (bundle base locale) l)
        (Uncached.resolve (firstAnswer sources) (l.request base locale), l') := by
  obtain ⟨resolver, htracks', hreturns⟩ := htracks.resolve (l.request base locale)
  refine ⟨{ l with resolver }, ⟨htracks', .refl _, rfl, rfl, rfl⟩, rfl, ?_⟩
  rw [bundle, StateT.run_bind, StateT.run_get, pure_bind]
  exact hreturns.bind (returns_pure _)

theorem returns_found (htracks : l.resolver.Tracks sources) (base : Option String) (locale : Option Locale) :
    Returns (StateT.run' (bundle base locale) l) (Uncached.resolve (firstAnswer sources) (l.request base locale)) := by
  obtain ⟨_, -, -, hbundle⟩ := returns_bundle htracks base locale
  exact hbundle.map Prod.fst

/-- What is made of a bundle is made of the one that a resolver without memory finds. -/
theorem returns_fromBundle (htracks : l.resolver.Tracks sources) (base : Option String) (locale : Option Locale)
    {use : MessageBundle → StateM FormatterRegistry (Except LocalizationError α)}
    {answer : MessageBundle → FormatterRegistry → Except LocalizationError α}
    (huse : ∀ b (r : FormatterRegistry), r.Gives (use b) (answer b r)) :
    ∃ l', Used sources l l' ∧
      Returns (StateT.run (do
        match ← bundle base locale with
        | .error e => return .error e
        | .ok b => withRegistry (use b) : Session m (Except LocalizationError α)) l)
        ((Uncached.resolve (firstAnswer sources) (l.request base locale)).bind fun b => answer b l.registry, l') := by
  obtain ⟨middle, hmiddle, hregistry, hbundle⟩ := returns_bundle htracks base locale
  rw [StateT.run_bind]
  cases hfound : Uncached.resolve (firstAnswer sources) (l.request base locale) with
  | error e =>
    rw [hfound] at hbundle
    exact ⟨middle, hmiddle, hbundle.bind (returns_pure _)⟩
  | ok b =>
    rw [hfound] at hbundle
    obtain ⟨last, hlast, hanswer⟩ := returns_withRegistry (huse b middle.registry) hmiddle.tracks
    rw [hregistry] at hanswer
    exact ⟨last, hmiddle.trans hlast, hbundle.bind hanswer⟩

/-- A message is the one of the bundle that a resolver without memory finds. -/
theorem returns_toMessage (htracks : l.resolver.Tracks sources) (v : Violation) (base : Option String)
    (locale : Option Locale) :
    ∃ l', Used sources l l' ∧
      Returns (StateT.run (toMessage v base locale) l)
        ((Uncached.resolve (firstAnswer sources) (l.request base locale)).bind fun b =>
          b.messageOf l.registry v, l') :=
  returns_fromBundle htracks base locale fun b r => b.gives_messageFor r v

end Localizer

end ObjectValidation
