import Mathlib.Data.List.Forall2
import ObjectValidation.Proofs.Localizer.FoundFile

/-!
Messages about several violations at once. They are the messages about each of the violations, in their order, and
the first violation about which there is none decides how the whole fails. This does not depend on what a localizer
was asked before.
-/

namespace ObjectValidation

/-- What comes of several things that are taken in turn, up to the first that fails. -/
def InTurn {α β ε : Type} (gives : α → Except ε β → Prop) (xs : List α) : Except ε (List β) → Prop
  | .ok results => List.Forall₂ (fun x result => gives x (.ok result)) xs results
  | .error e => ∃ x, ComesUp (fun y => ∃ result, gives y (.ok result)) xs x ∧ gives x (.error e)

section

variable {α β ε : Type} {gives : α → Except ε β → Prop} {x : α} {xs : List α} {outcome : Except ε (List β)}

theorem inTurn_nil_iff : InTurn gives [] outcome ↔ outcome = .ok [] := by
  cases outcome with
  | ok results => simp [InTurn]
  | error e => simp [InTurn, not_comesUp_nil]

theorem inTurn_cons_iff :
    InTurn gives (x :: xs) outcome ↔ (∃ e, gives x (.error e) ∧ outcome = .error e) ∨
      ∃ result rest, gives x (.ok result) ∧ InTurn gives xs rest ∧ outcome = rest.map (result :: ·) := by
  constructor
  · intro h
    cases outcome with
    | ok results =>
      obtain ⟨result, rest, hresult, hrest, rfl⟩ := List.forall₂_cons_left_iff.1 h
      exact .inr ⟨result, .ok rest, hresult, hrest, rfl⟩
    | error e =>
      obtain ⟨y, hcomesUp, hfails⟩ := h
      rcases comesUp_cons_iff.1 hcomesUp with rfl | ⟨⟨result, hresult⟩, hlater⟩
      · exact .inl ⟨e, hfails, rfl⟩
      · exact .inr ⟨result, .error e, hresult, ⟨y, hlater, hfails⟩, rfl⟩
  · rintro (⟨e, hfails, rfl⟩ | ⟨result, rest, hresult, hrest, rfl⟩)
    · exact ⟨x, comesUp_first, hfails⟩
    · cases rest with
      | ok results => exact .cons hresult hrest
      | error e =>
        obtain ⟨y, hcomesUp, hfails⟩ := hrest
        exact ⟨y, hcomesUp.later ⟨result, hresult⟩, hfails⟩

theorem mapM_eq_iff_inTurn (f : α → Except ε β) (xs : List α) (outcome : Except ε (List β)) :
    xs.mapM f = outcome ↔ InTurn (fun x result => f x = result) xs outcome := by
  induction xs generalizing outcome with
  | nil =>
    rw [inTurn_nil_iff, List.mapM_nil]
    exact eq_comm
  | cons x xs ih =>
    rw [List.mapM_cons, inTurn_cons_iff]
    cases hx : f x with
    | error e =>
      have hfails : (Except.error e >>= fun result => do return result :: (← xs.mapM f)) =
          (.error e : Except ε (List β)) := rfl
      rw [hfails]
      simp [eq_comm]
    | ok result =>
      have hgoesOn : (Except.ok result >>= fun result => do return result :: (← xs.mapM f)) =
          (xs.mapM f).map (result :: ·) := by
        cases xs.mapM f <;> rfl
      rw [hgoesOn]
      simp only [← ih, Except.ok.injEq, reduceCtorEq, false_and, exists_false, false_or]
      constructor
      · rintro rfl
        exact ⟨result, xs.mapM f, rfl, rfl, rfl⟩
      · rintro ⟨_, _, rfl, rfl, rfl⟩
        rfl

end

theorem Template.Composed.formatterOf_eq {params : Table Value} {locale : Locale} {r last : FormatterRegistry}
    {pieces : List Template.Piece} {chars : List Char} (h : Template.Composed params locale r pieces chars last) :
    last.formatterOf = r.formatterOf := by
  induction h with
  | nil => rfl
  | source _ _ ih => exact ih
  | value _ written _ ih => exact ih.trans written.formatterOf_eq

namespace MessageBundle

/-- What the bundle gives for violations in order, where formatters may ask for the texts of all values: each
message is written by the registry that the one before it leaves, and the first missing template ends it. -/
inductive TellsAll (b : MessageBundle) :
    FormatterRegistry → List Violation → Except LocalizationError (List ViolationMessage) → Prop
  | nil {r : FormatterRegistry} : b.TellsAll r [] (.ok [])
  | missing {r : FormatterRegistry} {v : Violation} {rest : List Violation} {e : LocalizationError}
      (lacks : b.getMessage v.constraint.messageKey = .error e) : b.TellsAll r (v :: rest) (.error e)
  | cons {r middle : FormatterRegistry} {v : Violation} {rest : List Violation} {template : String}
      {chars : List Char} {others : Except LocalizationError (List ViolationMessage)}
      (has : b.getMessage v.constraint.messageKey = .ok template)
      (composed : Template.Composed v.params b.locale r (Template.parse template.toList) chars middle)
      (tells : b.TellsAll middle rest others) :
      b.TellsAll r (v :: rest) (others.map (.of v (String.ofList chars) :: ·))

section

variable {b : MessageBundle} {r s : FormatterRegistry} {v : Violation} {violations : List Violation}

theorem tells_congr (b : MessageBundle) (hsame : r.formatterOf = s.formatterOf) : b.Tells r = b.Tells s := by
  funext v outcome
  exact propext ⟨fun h => h.congr ⟨rfl, rfl⟩ rfl hsame.symm, fun h => h.congr ⟨rfl, rfl⟩ rfl hsame⟩

theorem tells_error_iff {e : LocalizationError} :
    b.Tells r v (.error e) ↔ b.getMessage v.constraint.messageKey = .error e := by
  unfold Tells
  cases b.getMessage v.constraint.messageKey with
  | error e' => simp [eq_comm]
  | ok template => simp

theorem tells_ok_iff {message : ViolationMessage} :
    b.Tells r v (.ok message) ↔ ∃ template chars last, b.getMessage v.constraint.messageKey = .ok template ∧
      Template.Composed v.params b.locale r (Template.parse template.toList) chars last ∧
        message = .of v (String.ofList chars) := by
  unfold Tells
  cases b.getMessage v.constraint.messageKey with
  | error e => simp
  | ok template => simp

/-- The violations are told of one by one, whatever writing the earlier messages has changed. -/
theorem tellsAll_iff_inTurn {outcome : Except LocalizationError (List ViolationMessage)} :
    b.TellsAll r violations outcome ↔ InTurn (b.Tells r) violations outcome := by
  constructor
  · intro h
    induction h with
    | nil => exact inTurn_nil_iff.2 rfl
    | missing lacks => exact inTurn_cons_iff.2 (.inl ⟨_, tells_error_iff.2 lacks, rfl⟩)
    | cons has composed tells ih =>
      rw [tells_congr b composed.formatterOf_eq] at ih
      exact inTurn_cons_iff.2 (.inr ⟨_, _, tells_ok_iff.2 ⟨_, _, _, has, composed, rfl⟩, ih, rfl⟩)
  · intro h
    induction violations generalizing r outcome with
    | nil =>
      rw [inTurn_nil_iff.1 h]
      exact .nil
    | cons v rest ih =>
      rcases inTurn_cons_iff.1 h with ⟨e, hfails, rfl⟩ | ⟨message, others, hmessage, hothers, rfl⟩
      · exact .missing (tells_error_iff.1 hfails)
      · obtain ⟨template, chars, last, has, composed, rfl⟩ := tells_ok_iff.1 hmessage
        rw [← tells_congr b composed.formatterOf_eq] at hothers
        exact .cons has composed (ih hothers)

end

theorem gives_messagesFor (b : MessageBundle) (r : FormatterRegistry) (violations : List Violation) :
    r.Gives (b.messagesFor violations) (violations.mapM (b.messageOf r)) := by
  induction violations with
  | nil => exact FormatterRegistry.gives_pure _
  | cons v rest ih =>
    have hfirst := b.gives_messageFor r v
    rw [List.mapM_cons]
    refine hfirst.bind ?_
    cases b.messageOf r v with
    | error e => exact FormatterRegistry.gives_pure _
    | ok message =>
      refine ih.bind ?_
      cases rest.mapM (b.messageOf r) with
      | error e => exact FormatterRegistry.gives_pure _
      | ok messages => exact FormatterRegistry.gives_pure _

end MessageBundle

/-- Whether the call leaves the default locale and the formatters as they are. -/
def LocalizerCall.keepsSettings : LocalizerCall → Bool
  | setDefaultLocale _ => false
  | call => !call.isChange

theorem LocalizerCall.isChange_of_keepsSettings {call : RegistryCall} (h : (registry call).keepsSettings = true) :
    call.isChange = false := by
  have hnot : (!call.isChange) = true := h
  simpa using hnot

namespace Localizer

variable {m : Type → Type} [Monad m] {sources : List (FixedSource m)} {l l' : Localizer m}

theorem Used.refl (htracks : l.resolver.Tracks sources) : Used sources l l := ⟨htracks, .refl _, rfl, rfl, rfl⟩

theorem Used.request_eq (h : Used sources l l') (base : Option String) (locale : Option Locale) :
    l'.request base locale = l.request base locale := by
  rw [request, request, h.defaultLocale_eq, h.baseName_eq, h.fallbackBaseName_eq]

theorem Used.formatterOf_eq (h : Used sources l l') : l'.registry.formatterOf = l.registry.formatterOf :=
  funext h.sameRules.formatterOf_eq

theorem Used.messageOf_eq (h : Used sources l l') (b : MessageBundle) :
    b.messageOf l'.registry = b.messageOf l.registry :=
  funext fun v => MessageBundle.messageOf_congr ⟨rfl, rfl⟩ rfl h.formatterOf_eq v

variable [LawfulMonad m]

/-- The messages are those that the bundle found gives for each violation, up to the first that it lacks. -/
theorem returns_mapToMessage (htracks : l.resolver.Tracks sources) (violations : List Violation)
    (base : Option String) (locale : Option Locale) :
    ∃ l', Used sources l l' ∧
      Returns (StateT.run (mapToMessage violations base locale) l)
        ((Uncached.resolve (firstAnswer sources) (l.request base locale)).bind fun b =>
          violations.mapM (b.messageOf l.registry), l') :=
  returns_fromBundle htracks base locale fun b r => b.gives_messagesFor r violations

theorem returns_format (htracks : l.resolver.Tracks sources) (v : Value) (locale : Option Locale) :
    ∃ l', Used sources l l' ∧
      Returns (StateT.run (format v locale) l) (l.registry.text (locale.getD l.defaultLocale) v, l') := by
  rw [format, StateT.run_bind, StateT.run_get, pure_bind]
  exact returns_withRegistry (l.registry.gives_format (locale.getD l.defaultLocale) v) htracks

theorem returns_discard {α : Type} {act : Session m α} {a : α}
    (h : Returns (StateT.run act l) (a, l')) : Returns (StateT.run (do let _ ← act) l) ((), l') := by
  rw [StateT.run_bind]
  exact h.bind (returns_pure _)

theorem returns_perform {call : LocalizerCall} (hkeeps : call.keepsSettings)
    (htracks : l.resolver.Tracks sources) :
    ∃ l', Used sources l l' ∧ Returns (StateT.run (perform call) l) ((), l') := by
  cases call with
  | setDefaultLocale locale => cases hkeeps
  | clearCache =>
    exact ⟨{ l with resolver := l.resolver.clearCache }, ⟨htracks.clearCache, .refl _, rfl, rfl, rfl⟩, returns_pure _⟩
  | resolve q =>
    obtain ⟨resolver, htracks', hreturns⟩ := htracks.resolve q
    exact ⟨{ l with resolver }, ⟨htracks', .refl _, rfl, rfl, rfl⟩, returns_discard (hreturns.bind (returns_pure _))⟩
  | registry call =>
    have hrules := FormatterRegistry.sameRules_after (LocalizerCall.isChange_of_keepsSettings hkeeps) l.registry
    exact ⟨{ l with registry := l.registry.after call }, ⟨htracks, hrules, rfl, rfl, rfl⟩, returns_pure _⟩
  | bundle base locale =>
    obtain ⟨l', hused, -, hreturns⟩ := returns_bundle htracks base locale
    exact ⟨l', hused, returns_discard hreturns⟩
  | format v locale =>
    obtain ⟨l', hused, hreturns⟩ := returns_format htracks v locale
    exact ⟨l', hused, returns_discard hreturns⟩
  | interpolate b key params =>
    obtain ⟨text, hgives⟩ := FormatterRegistry.onlyLooksUp_interpolate b key params l.registry
    obtain ⟨l', hused, hreturns⟩ := returns_withRegistry hgives htracks
    exact ⟨l', hused, returns_discard hreturns⟩
  | toMessage v base locale =>
    obtain ⟨l', hused, hreturns⟩ := returns_toMessage htracks v base locale
    exact ⟨l', hused, returns_discard hreturns⟩
  | mapToMessage violations base locale =>
    obtain ⟨l', hused, hreturns⟩ := returns_mapToMessage htracks violations base locale
    exact ⟨l', hused, returns_discard hreturns⟩

/-- Calls that keep the settings only use the localizer. -/
theorem returns_performAll {calls : List LocalizerCall} (hkeep : ∀ call ∈ calls, call.keepsSettings)
    (htracks : l.resolver.Tracks sources) :
    ∃ l', Used sources l l' ∧ Returns (StateT.run (performAll calls) l) ((), l') := by
  induction calls generalizing l with
  | nil => exact ⟨l, .refl htracks, returns_pure _⟩
  | cons call rest ih =>
    obtain ⟨hcall, hrest⟩ := List.forall_mem_cons.1 hkeep
    obtain ⟨middle, hmiddle, hfirst⟩ := returns_perform hcall htracks
    obtain ⟨last, hlast, hothers⟩ := ih hrest hmiddle.tracks
    refine ⟨last, hmiddle.trans hlast, ?_⟩
    rw [performAll, StateT.run_bind]
    exact hfirst.bind hothers

/-- Without a bundle there is no message about any violation. -/
theorem bind_mapM_eq {found : Except LocalizationError MessageBundle} {violations : List Violation}
    (hne : violations ≠ []) (f : MessageBundle → Violation → Except LocalizationError ViolationMessage) :
    (found.bind fun b => violations.mapM (f b)) = violations.mapM fun v => found.bind fun b => f b v := by
  obtain ⟨v, rest, rfl⟩ := List.exists_cons_of_ne_nil hne
  cases found with
  | error e => simp [List.mapM_cons, Except.bind, bind]
  | ok b => rfl

/-- Several violations that are told of together have the messages that they have one by one, in their order, or
fail as the first of them that has none. This holds after any calls, and calls that keep the settings, the same
ones among them, change neither the messages one by one nor those of all. -/
theorem mapToMessage_one_by_one (sources : List (FixedSource m)) (registry : FormatterRegistry)
    (defaultLocale : Locale) (baseName fallbackBaseName : String) (earlier : List LocalizerCall)
    (violations : List Violation) (hne : violations ≠ []) (base : Option String) (locale : Option Locale) :
    let start : Localizer m :=
      { registry, resolver := { sources := sources.map FixedSource.load }, defaultLocale, baseName,
        fallbackBaseName }
    ∃ (l : Localizer m) (found : Except LocalizationError MessageBundle)
      (told : Violation → Except LocalizationError ViolationMessage)
      (outcome : Except LocalizationError (List ViolationMessage)),
      Returns (StateT.run (performAll earlier) start) ((), l) ∧
      (∀ all, outcome = all ↔ InTurn (fun v each => told v = each) violations all) ∧
      (∀ b r, found = .ok b → r.formatterOf = l.registry.formatterOf →
        ∀ all, b.TellsAll r violations all ↔ InTurn (b.Tells l.registry) violations all) ∧
      ∀ calls : List LocalizerCall, (∀ call ∈ calls, call.keepsSettings) → ∃ l',
        Returns (StateT.run (performAll calls) l) ((), l') ∧
        l'.registry.formatterOf = l.registry.formatterOf ∧
        Returns (StateT.run' (bundle base locale) l') found ∧
        (∀ v, Returns (StateT.run' (toMessage v base locale) l') (told v)) ∧
        Returns (StateT.run' (mapToMessage violations base locale) l') outcome := by
  intro start
  have htracks : start.resolver.Tracks sources := BundleResolver.tracks_new sources
  obtain ⟨⟨⟩, l, hl, -, hearlier⟩ := keepsTrack_performAll earlier start htracks
  let found := Uncached.resolve (firstAnswer sources) (l.request base locale)
  refine ⟨l, found, fun v => found.bind fun b => b.messageOf l.registry v,
    found.bind fun b => violations.mapM (b.messageOf l.registry), hearlier, ?_, ?_, ?_⟩
  · intro all
    rw [bind_mapM_eq hne]
    exact mapM_eq_iff_inTurn _ violations all
  · intro b r _ hsame all
    rw [MessageBundle.tellsAll_iff_inTurn, MessageBundle.tells_congr b hsame]
  · intro calls hkeep
    obtain ⟨l', hused, hcalls⟩ := returns_performAll hkeep hl
    have hbundle := returns_found hused.tracks base locale
    obtain ⟨_, -, hall⟩ := returns_mapToMessage hused.tracks violations base locale
    rw [hused.request_eq] at hbundle hall
    simp only [hused.messageOf_eq] at hall
    refine ⟨l', hcalls, hused.formatterOf_eq, hbundle, fun v => ?_, hall.map Prod.fst⟩
    obtain ⟨_, -, heach⟩ := returns_toMessage hused.tracks v base locale
    rw [hused.request_eq] at heach
    simp only [hused.messageOf_eq] at heach
    exact heach.map Prod.fst

def unpriced : Violation := ⟨"price", none, ⟨"shop.Priced", "unpriced", []⟩⟩

/-- The second violation has no template, so there is no message about the first one either. -/
theorem mapToMessage_one_by_one_unpriced :
    let calls : List LocalizerCall :=
      [.mapToMessage [tooMany, unpriced] (some "app") (some ⟨"pt", "BR"⟩), .clearCache, .toMessage tooMany none none]
    [tooMany, unpriced] ≠ [] ∧ (∀ call ∈ calls, call.keepsSettings) ∧
    ∃ l', Returns (StateT.run (performAll calls) shop) ((), l') ∧
      (Id.run (StateT.run (mapToMessage [tooMany, unpriced] (some "app") (some ⟨"pt", "BR"⟩)) l')).1 =
        .error (.missingMessage "unpriced" "app" ⟨"pt", ""⟩) := by
  intro calls
  have hne : [tooMany, unpriced] ≠ [] := by simp
  have hkeep : ∀ call ∈ calls, call.keepsSettings := by simp [calls, LocalizerCall.keepsSettings, LocalizerCall.isChange]
  obtain ⟨l, found, told, outcome, hearlier, hinTurn, -, hcalls⟩ := mapToMessage_one_by_one [onlyPortuguese] .new .root
    "shop" "app" [] [tooMany, unpriced] hne (some "app") (some ⟨"pt", "BR"⟩)
  obtain rfl : shop = l := congrArg Prod.snd (id_eq_of_returns hearlier)
  obtain ⟨l', hperformed, -, -, -, houtcome⟩ := hcalls calls hkeep
  obtain ⟨shop', hnothing, -, -, htold, -⟩ := hcalls [] (by simp)
  obtain rfl : shop = shop' := congrArg Prod.snd (id_eq_of_returns hnothing)
  have hmessage (v : Violation) : told v = portugueseBundle.messageOf .new v := by
    have htracks : shop.resolver.Tracks [onlyPortuguese] := BundleResolver.tracks_new [onlyPortuguese]
    obtain ⟨_, -, heach⟩ := returns_toMessage htracks v (some "app") (some ⟨"pt", "BR"⟩)
    have hsame := (id_eq_of_returns (htold v)).symm.trans (id_eq_of_returns (heach.map Prod.fst))
    exact hsame
  have hfails : InTurn (fun v each => told v = each) [tooMany, unpriced]
      (.error (.missingMessage "unpriced" "app" ⟨"pt", ""⟩)) := by
    refine ⟨unpriced, comesUp_first.later ⟨_, (hmessage tooMany).trans rfl⟩, (hmessage unpriced).trans rfl⟩
  rw [(hinTurn _).2 hfails] at houtcome
  exact ⟨hne, hkeep, l', hperformed, id_eq_of_returns houtcome⟩

end Localizer

end ObjectValidation
