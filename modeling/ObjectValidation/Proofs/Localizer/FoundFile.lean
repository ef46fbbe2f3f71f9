import ObjectValidation.Proofs.Bundle.Failure
import ObjectValidation.Proofs.Localizer.Calls

/-!
A message depends on the locale that is asked for only through the file that is found. Calls that lead to the
same file say the same of a violation, whatever they asked for and at whatever step they found it; numbers and
days are written as is usual where the file is from.
-/

namespace ObjectValidation

/-- Both bundles were found in the same file, maybe at different steps. -/
structure MessageBundle.SameFile (b b' : MessageBundle) : Prop where
  baseName_eq : b'.baseName = b.baseName
  locale_eq : b'.locale = b.locale

/-- The file has the same parents for every request, so the tables are the same. -/
theorem Files.AnsweredBy.chain_eq {files : Files} {candidates candidates' : List Candidate}
    {b b' : MessageBundle} (h : files.AnsweredBy candidates b) (h' : files.AnsweredBy candidates' b')
    (hfile : b.SameFile b') : b'.chain = b.chain := by
  obtain ⟨⟨step, base, locale⟩, head, -, hfound, -, rfl⟩ := h
  obtain ⟨⟨step', base', locale'⟩, head', -, hfound', -, rfl⟩ := h'
  obtain ⟨hbase, hlocale⟩ := hfile
  dsimp only at hbase hlocale
  subst hbase hlocale
  have hhead : head' = head := by
    have hsame := hfound'.symm.trans hfound
    exact Option.some.inj (Except.ok.inj hsame)
  rw [hhead]
  rfl

/-! Numbers, days and times as they are written by conventions alone. -/

namespace Conventions

def number (c : Conventions) (v : Value) : String :=
  match v with
  | .integer _ => Numeral.localize c v.display
  | .float x => if x.isFinite then Numeral.localize c v.display else v.display
  | .decimal _ => Numeral.localize c v.display
  | _ => v.display

def temporal (c : Conventions) (v : Value) : String :=
  match v with
  | .date d => d.write c.date
  | .time t => t.write c.time
  | .dateTime t => t.write c
  | .timestamp t => t.write c
  | v => v.display

end Conventions

theorem Formatter.number_eq (locale : Locale) (v : Value) :
    Formatter.number locale v = .done (locale.conventions.number v) := by
  cases v <;> rfl

theorem Formatter.temporal_eq (locale : Locale) (v : Value) :
    Formatter.temporal locale v = .done (locale.conventions.temporal v) := by
  cases v <;> rfl

namespace MessageBundle

/-- The outcome is the template of the bundle, filled in for the bundle's own locale, or that the bundle has no
template. Values that the formatters for numbers and for days write come by the conventions of that locale. -/
structure Decides (b : MessageBundle) (r : FormatterRegistry) (v : Violation)
    (outcome : Except LocalizationError ViolationMessage) : Prop where
  outcome_eq : outcome = (b.getMessage v.constraint.messageKey).map fun template =>
    .of v (String.ofList (Template.substitute (Template.textOf? v.params (r.text b.locale)) template.toList))
  text_number : ∀ {value}, r.formatterOf value = Formatter.number →
    r.text b.locale value = b.locale.conventions.number value
  text_temporal : ∀ {value}, r.formatterOf value = Formatter.temporal →
    r.text b.locale value = b.locale.conventions.temporal value

theorem decides_messageOf (b : MessageBundle) (r : FormatterRegistry) (v : Violation) :
    b.Decides r v (b.messageOf r v) where
  outcome_eq := by
    rw [messageOf]
    simp only [Template.filled_eq]
  text_number h := FormatterRegistry.text_of_done (by rw [h, Formatter.number_eq])
  text_temporal h := FormatterRegistry.text_of_done (by rw [h, Formatter.temporal_eq])

section

variable {b b' : MessageBundle} {r s : FormatterRegistry}

theorem getMessage_congr (hfile : b.SameFile b') (hchain : b'.chain = b.chain) (key : String) :
    b'.getMessage key = b.getMessage key := by
  simp only [getMessage, get?, hchain, hfile.baseName_eq, hfile.locale_eq]

theorem messageOf_congr (hfile : b.SameFile b') (hchain : b'.chain = b.chain)
    (hsame : s.formatterOf = r.formatterOf) (v : Violation) : b'.messageOf s v = b.messageOf r v := by
  have htext : s.text b.locale = r.text b.locale :=
    funext (FormatterRegistry.text_congr hsame b.locale)
  rw [messageOf, messageOf, getMessage_congr hfile hchain]
  simp only [Template.filled_eq, hfile.locale_eq, htext]

theorem Tells.congr {v : Violation} {outcome : Except LocalizationError ViolationMessage}
    (h : b.Tells r v outcome) (hfile : b.SameFile b') (hchain : b'.chain = b.chain)
    (hsame : s.formatterOf = r.formatterOf) : b'.Tells s v outcome := by
  unfold Tells at h ⊢
  rw [getMessage_congr hfile hchain, hfile.locale_eq]
  cases hmessage : b.getMessage v.constraint.messageKey with
  | error e => rwa [hmessage] at h
  | ok template =>
    rw [hmessage] at h
    obtain ⟨chars, last, hcomposed, houtcome⟩ := h
    obtain ⟨last', hcomposed'⟩ := hcomposed.congr hsame
    exact ⟨chars, last', hcomposed', houtcome⟩

end

theorem SameFile.symm {b b' : MessageBundle} (h : b.SameFile b') : b'.SameFile b :=
  ⟨h.baseName_eq.symm, h.locale_eq.symm⟩

end MessageBundle

namespace Localizer

variable {m : Type → Type} [Monad m] [LawfulMonad m]

/-- Two calls for a message that find the same file give the same message or miss the same one, as long as the
formatters are the same. Neither the base names, the locales and the default locales nor what is known of the
sources matter beyond that, and the conventions are those of the file. -/
theorem toMessage_of_found_file (sources : List (FixedSource m)) (registry : FormatterRegistry)
    (defaultLocale : Locale) (baseName fallbackBaseName : String) (before between : List LocalizerCall)
    (v : Violation) (base base' : Option String) (locale locale' : Option Locale) :
    let start : Localizer m :=
      { registry, resolver := { sources := sources.map FixedSource.load }, defaultLocale, baseName,
        fallbackBaseName }
    ∃ first first' second second' found found' outcome outcome',
      Returns (StateT.run (performAll before) start) ((), first) ∧
      Returns (StateT.run' (bundle base locale) first) found ∧
      Returns (StateT.run (toMessage v base locale) first) (outcome, first') ∧
      Returns (StateT.run (performAll between) first') ((), second) ∧
      Returns (StateT.run' (bundle base' locale') second) found' ∧
      Returns (StateT.run (toMessage v base' locale') second) (outcome', second') ∧
      ((∀ call ∈ between, call.isChange = false) →
        second.registry.formatterOf = first.registry.formatterOf) ∧
      ∀ b b', found = .ok b → found' = .ok b' → b.SameFile b' →
        second.registry.formatterOf = first.registry.formatterOf →
          outcome' = outcome ∧ b.Decides first.registry v outcome ∧
          ∀ told, b.Tells first.registry v told ↔ b'.Tells second.registry v told := by
  intro start
  have htracks : start.resolver.Tracks sources := BundleResolver.tracks_new sources
  obtain ⟨⟨⟩, first, hfirst, -, hbefore⟩ := keepsTrack_performAll before start htracks
  have hbundle := returns_found hfirst base locale
  obtain ⟨first', hused, hmessage⟩ := returns_toMessage hfirst v base locale
  obtain ⟨⟨⟩, second, hsecond, hrules, hbetween⟩ := keepsTrack_performAll between first' hused.tracks
  have hbundle' := returns_found hsecond base' locale'
  obtain ⟨second', -, hmessage'⟩ := returns_toMessage hsecond v base' locale'
  refine ⟨first, first', second, second', _, _, _, _, hbefore, hbundle, hmessage, hbetween, hbundle', hmessage',
    fun hlookUps => ?_, ?_⟩
  · exact funext ((hrules hlookUps).trans hused.sameRules).formatterOf_eq
  · intro b b' hfound hfound' hfile hsame
    have hchain := (Uncached.resolve_eq_ok_iff.1 hfound).chain_eq (Uncached.resolve_eq_ok_iff.1 hfound') hfile
    rw [hfound, hfound']
    refine ⟨MessageBundle.messageOf_congr hfile hchain hsame v, b.decides_messageOf first.registry v,
      fun told => ⟨fun htells => ?_, fun htells => ?_⟩⟩
    · exact htells.congr hfile hchain hsame
    · exact htells.congr hfile.symm hchain.symm hsame.symm

/-- A source that has one file, the Portuguese one. -/
def onlyPortuguese : FixedSource Id :=
  let answer (name : String) : Except LocalizationError (Option Messages) :=
    .ok (if name = "app_pt" then some (.ofList [("tooMany", "\x7bvalue\x7d")]) else none)
  ⟨answer, answer, fun _ => returns_pure _⟩

def shop : Localizer Id where
  resolver := { sources := [onlyPortuguese].map FixedSource.load }
  baseName := "shop"
  fallbackBaseName := "app"

def portugueseBundle : MessageBundle :=
  ⟨"app", ⟨"pt", ""⟩, .language, [.ofList [("tooMany", "\x7bvalue\x7d")]]⟩

def tooMany : Violation := ⟨"count", some (.integer 12345), ⟨"shop.Few", "tooMany", []⟩⟩

theorem toMessage_of_found_file_portuguese :
    ∃ first second : Localizer Id,
      Returns (StateT.run (toMessage tooMany (some "app") (some ⟨"pt", "PT"⟩)) shop)
        (.ok (.of tooMany "12.345"), first) ∧
      Returns (StateT.run (toMessage tooMany none (some ⟨"fr", "FR"⟩)) (first.setDefaultLocale ⟨"pt", "BR"⟩))
        (.ok (.of tooMany "12.345"), second) := by
  obtain ⟨first, first', second, second', found, found', outcome, outcome', hbefore, hfound, hfirst, hbetween,
    hfound', hsecond, hformatters, hsame⟩ := toMessage_of_found_file [onlyPortuguese] .new .root "shop" "app" []
      [.setDefaultLocale ⟨"pt", "BR"⟩] tooMany (some "app") none (some ⟨"pt", "PT"⟩) (some ⟨"fr", "FR"⟩)
  obtain rfl : shop = first := congrArg Prod.snd (id_eq_of_returns hbefore)
  obtain rfl : first'.setDefaultLocale ⟨"pt", "BR"⟩ = second :=
    congrArg Prod.snd (id_eq_of_returns hbetween)
  have hfile : found = .ok portugueseBundle := (id_eq_of_returns hfound).symm
  have hstate : (Id.run (StateT.run (toMessage tooMany (some "app") (some ⟨"pt", "PT"⟩)) shop)).2 = first' :=
    congrArg Prod.snd (id_eq_of_returns hfirst)
  have hfile' : found' = .ok { portugueseBundle with step := .fallbackDefaultLocale } := by
    rw [← hstate] at hfound'
    exact (id_eq_of_returns hfound').symm
  obtain ⟨rfl, hdecides, -⟩ := hsame _ _ hfile hfile' ⟨rfl, rfl⟩ (hformatters (by simp [LocalizerCall.isChange]))
  have houtcome : outcome' = .ok (.of tooMany "12.345") := by
    have htext : FormatterRegistry.new.text ⟨"pt", ""⟩ (.integer 12345) = "12.345" :=
      (hdecides.text_number (FormatterRegistry.new_formatterOf_number rfl rfl)).trans (by decide +kernel)
    have hvalue : Template.textOf? tooMany.params (FormatterRegistry.new.text ⟨"pt", ""⟩)
        (String.ofList ['v', 'a', 'l', 'u', 'e']) = some "12.345" := congrArg some htext
    rw [hdecides.outcome_eq]
    show Except.ok (ViolationMessage.of tooMany (String.ofList (Template.substitute
      (Template.textOf? tooMany.params (FormatterRegistry.new.text ⟨"pt", ""⟩))
      (Template.braced ['v', 'a', 'l', 'u', 'e'])))) = _
    rw [Template.substitute_braced_of_some (by simp [Template.isBrace]) (by simp) hvalue]
    rfl
  rw [houtcome] at hfirst hsecond
  exact ⟨first', second', hfirst, hsecond⟩

end Localizer

end ObjectValidation
