import ObjectValidation.Proofs.Format.Calls
import ObjectValidation.Proofs.Localizer.Session

/-!
Sequences of calls of a localizer, its registry and its resolver. Whatever is asked, set or emptied, the
resolver stays a resolver for the same sources that knows nothing they would not answer. The formatters stay
the same unless one is set or removed or a type is declared.
-/

namespace ObjectValidation

inductive LocalizerCall where
  | setDefaultLocale (locale : Locale)
  | clearCache
  | resolve (q : BundleRequest)
  | registry (call : RegistryCall)
  | bundle (base : Option String) (locale : Option Locale)
  | format (v : Value) (locale : Option Locale)
  | interpolate (b : MessageBundle) (key : String) (params : Table Value)
  | toMessage (v : Violation) (base : Option String) (locale : Option Locale)
  | mapToMessage (violations : List Violation) (base : Option String) (locale : Option Locale)

/-- Whether the call may change which formatter writes a value. -/
def LocalizerCall.isChange : LocalizerCall → Bool
  | registry call => call.isChange
  | _ => false

namespace FormatterRegistry

variable {α β : Type}

/-- Whatever the rules of the registry are, the action has a fixed result and keeps them. -/
def OnlyLooksUp (act : StateM FormatterRegistry α) : Prop := ∀ r : FormatterRegistry, ∃ a, r.Gives act a

theorem onlyLooksUp_pure (a : α) : OnlyLooksUp (pure a) := fun _ => ⟨a, gives_pure a⟩

theorem OnlyLooksUp.bind {act : StateM FormatterRegistry α} {next : α → StateM FormatterRegistry β}
    (h : OnlyLooksUp act) (hnext : ∀ a, OnlyLooksUp (next a)) : OnlyLooksUp (act >>= next) := by
  intro r
  obtain ⟨a, hact⟩ := h r
  obtain ⟨b, hrest⟩ := hnext a r
  exact ⟨b, hact.bind hrest⟩

theorem onlyLooksUp_format (locale : Locale) (v : Value) : OnlyLooksUp (format locale v) :=
  fun r => ⟨r.text locale v, r.gives_format locale v⟩

theorem onlyLooksUp_interpolate (b : MessageBundle) (key : String) (params : Table Value) :
    OnlyLooksUp (b.interpolate key params) := by
  unfold MessageBundle.interpolate
  cases b.getMessage key with
  | error e => exact onlyLooksUp_pure _
  | ok template =>
    have hrender : OnlyLooksUp (Template.render template params b.locale) := fun r =>
      ⟨_, Template.gives_render r b.locale params template⟩
    exact hrender.bind fun text => onlyLooksUp_pure _

theorem onlyLooksUp_messageFor (b : MessageBundle) (v : Violation) : OnlyLooksUp (b.messageFor v) :=
  fun r => ⟨_, b.gives_messageFor r v⟩

theorem onlyLooksUp_messagesFor (b : MessageBundle) (violations : List Violation) :
    OnlyLooksUp (b.messagesFor violations) := by
  induction violations with
  | nil => exact onlyLooksUp_pure _
  | cons v rest ih =>
    refine (onlyLooksUp_messageFor b v).bind fun first => ?_
    cases first with
    | error e => exact onlyLooksUp_pure _
    | ok first =>
      refine ih.bind fun others => ?_
      cases others <;> exact onlyLooksUp_pure _

end FormatterRegistry

namespace Localizer

variable {m : Type → Type} [Monad m] {α β : Type}

/-- Makes a call and leaves its answer aside. -/
def perform : LocalizerCall → Session m Unit
  | .setDefaultLocale locale => modify fun l => l.setDefaultLocale locale
  | .clearCache => modify fun l => { l with resolver := l.resolver.clearCache }
  | .resolve q => do let _ ← withResolver (BundleResolver.resolve q)
  | .registry call => modify fun l => { l with registry := l.registry.after call }
  | .bundle base locale => do let _ ← bundle base locale
  | .format v locale => do let _ ← format v locale
  | .interpolate b key params => do let _ ← interpolate b key params
  | .toMessage v base locale => do let _ ← toMessage v base locale
  | .mapToMessage violations base locale => do let _ ← mapToMessage violations base locale

def performAll : List LocalizerCall → Session m Unit
  | [] => pure ()
  | call :: rest => do
    perform call
    performAll rest

/-- Wherever the resolver tracks the sources, the action has a fixed result and the resolver still tracks them.
On the condition, the registry keeps its rules. -/
def KeepsTrack (sources : List (FixedSource m)) (act : Session m α) (condition : Prop) : Prop :=
  ∀ l : Localizer m, l.resolver.Tracks sources →
    ∃ a l', l'.resolver.Tracks sources ∧ (condition → l'.registry.SameRules l.registry) ∧
      Returns (StateT.run act l) (a, l')

variable {sources : List (FixedSource m)} {condition : Prop}

theorem KeepsTrack.imp {act : Session m α} {condition' : Prop} (h : KeepsTrack sources act condition)
    (himp : condition' → condition) : KeepsTrack sources act condition' := by
  intro l hl
  obtain ⟨a, l', hlast, hrules, hact⟩ := h l hl
  exact ⟨a, l', hlast, hrules ∘ himp, hact⟩

variable [LawfulMonad m]

theorem keepsTrack_pure (a : α) : KeepsTrack sources (pure a : Session m α) condition :=
  fun l h => ⟨a, l, h, fun _ => .refl _, returns_pure _⟩

theorem KeepsTrack.bind {act : Session m α} {next : α → Session m β} (h : KeepsTrack sources act condition)
    (hnext : ∀ a, KeepsTrack sources (next a) condition) : KeepsTrack sources (act >>= next) condition := by
  intro l hl
  obtain ⟨a, middle, hmiddle, hrules, hact⟩ := h l hl
  obtain ⟨b, last, hlast, hrules', hrest⟩ := hnext a middle hmiddle
  refine ⟨b, last, hlast, fun hcondition => (hrules' hcondition).trans (hrules hcondition), ?_⟩
  rw [StateT.run_bind]
  exact hact.bind hrest

theorem keepsTrack_get : KeepsTrack sources (get : Session m (Localizer m)) condition :=
  fun l h => ⟨l, l, h, fun _ => .refl _, returns_pure _⟩

theorem keepsTrack_modify {f : Localizer m → Localizer m}
    (htracks : ∀ l, l.resolver.Tracks sources → (f l).resolver.Tracks sources)
    (hrules : ∀ l, condition → (f l).registry.SameRules l.registry) :
    KeepsTrack sources (modify f : Session m PUnit) condition :=
  fun l hl => ⟨⟨⟩, f l, htracks l hl, hrules l, returns_pure _⟩

theorem keepsTrack_withRegistry {act : StateM FormatterRegistry α} (h : FormatterRegistry.OnlyLooksUp act) :
    KeepsTrack sources (withRegistry act : Session m α) condition := by
  intro l hl
  obtain ⟨a, hgives⟩ := h l.registry
  obtain ⟨l', hused, hreturns⟩ := returns_withRegistry hgives hl
  exact ⟨a, l', hused.tracks, fun _ => hused.sameRules, hreturns⟩

theorem keepsTrack_resolve (q : BundleRequest) :
    KeepsTrack sources (withResolver (BundleResolver.resolve q)) condition := by
  intro l h
  obtain ⟨resolver, htracks, hreturns⟩ := h.resolve q
  exact ⟨_, { l with resolver }, htracks, fun _ => .refl _, hreturns.bind (returns_pure _)⟩

theorem keepsTrack_bundle (base : Option String) (locale : Option Locale) :
    KeepsTrack sources (bundle base locale) condition :=
  keepsTrack_get.bind fun l => keepsTrack_resolve (l.request base locale)

/-- A localizer answers from the bundle that it finds. -/
theorem keepsTrack_fromBundle (base : Option String) (locale : Option Locale)
    {use : MessageBundle → StateM FormatterRegistry (Except LocalizationError α)}
    (huse : ∀ b, FormatterRegistry.OnlyLooksUp (use b)) :
    KeepsTrack sources (do
      match ← bundle base locale with
      | .error e => return .error e
      | .ok b => withRegistry (use b)) condition := by
  refine (keepsTrack_bundle base locale).bind fun found => ?_
  cases found with
  | error e => exact keepsTrack_pure _
  | ok b => exact keepsTrack_withRegistry (huse b)

theorem keepsTrack_perform (call : LocalizerCall) :
    KeepsTrack sources (perform call) (call.isChange = false) := by
  cases call with
  | setDefaultLocale locale => exact keepsTrack_modify (fun _ h => h) fun l _ => .refl _
  | clearCache => exact keepsTrack_modify (fun _ h => h.clearCache) fun l _ => .refl _
  | resolve q => exact (keepsTrack_resolve q).bind fun _ => keepsTrack_pure _
  | registry call => exact keepsTrack_modify (fun _ h => h) fun l h =>
      FormatterRegistry.sameRules_after h l.registry
  | bundle base locale => exact (keepsTrack_bundle base locale).bind fun _ => keepsTrack_pure _
  | format v locale =>
    refine (keepsTrack_get.bind fun l => ?_).bind fun _ => keepsTrack_pure _
    exact keepsTrack_withRegistry (FormatterRegistry.onlyLooksUp_format _ v)
  | interpolate b key params =>
    have hlookUp := FormatterRegistry.onlyLooksUp_interpolate b key params
    exact (keepsTrack_withRegistry hlookUp).bind fun _ => keepsTrack_pure _
  | toMessage v base locale =>
    have hlookUp (b : MessageBundle) := FormatterRegistry.onlyLooksUp_messageFor b v
    exact (keepsTrack_fromBundle base locale hlookUp).bind fun _ => keepsTrack_pure _
  | mapToMessage violations base locale =>
    have hlookUp (b : MessageBundle) := FormatterRegistry.onlyLooksUp_messagesFor b violations
    exact (keepsTrack_fromBundle base locale hlookUp).bind fun _ => keepsTrack_pure _

theorem keepsTrack_performAll (calls : List LocalizerCall) :
    KeepsTrack sources (performAll calls) (∀ call ∈ calls, call.isChange = false) := by
  induction calls with
  | nil => exact keepsTrack_pure ()
  | cons call rest ih =>
    refine ((keepsTrack_perform call).imp fun h => ?_).bind fun _ => ih.imp fun h => ?_
    · exact (List.forall_mem_cons.1 h).1
    · exact (List.forall_mem_cons.1 h).2

end Localizer

end ObjectValidation
