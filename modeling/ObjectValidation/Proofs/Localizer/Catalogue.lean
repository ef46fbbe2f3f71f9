import ObjectValidation.Proofs.Bundle.Embedded
import ObjectValidation.Proofs.Constraint.Parameters
import ObjectValidation.Proofs.Format.Unaffected
import ObjectValidation.Proofs.Localizer.Session

/-!
Messages about the catalogue from the embedded bundles. For every locale there is a bundle, it has a template
for every constraint of the catalogue, and every placeholder of the template is filled by a parameter of the
constraint. So the message says nothing about the offending value.
-/

namespace ObjectValidation

open Template

/-- Every opening brace of the template begins a placeholder for a parameter of the constraint. -/
def Constraint.Fills (c : Constraint) (template : String) : Prop :=
  ∀ i, template.toList[i]? = some '\x7b' →
    ∃ name value, nameAt? template.toList i = some name ∧ c.param? (String.ofList name) = some value

/-- The template in which each name of a parameter is replaced by the text of that parameter. -/
def Constraint.fill (c : Constraint) (r : FormatterRegistry) (locale : Locale) (template : String) : String :=
  String.ofList (substitute (fun name => (c.param? name).map (r.text locale)) template.toList)

namespace Check

theorem parameterNames_proper : ∀ entry ∈ parameterNames,
    entry.2.Nodup ∧ ∀ name ∈ entry.2, name.toList ≠ [] ∧ (name.toList.all fun c => !isBrace c) = true := by
  decide

variable {α : Type} {c : Check α}

theorem Catalogued.nodup_names (hc : c.Catalogued) : (c.constraint.params.map Prod.fst).Nodup := by
  obtain ⟨entry, hentry, -, hnames⟩ := hc.exists_parameterNames
  exact hnames ▸ (parameterNames_proper entry hentry).1

/-- A complete table has a template for the constraint, and the constraint fills it. -/
theorem Catalogued.exists_template (hc : c.Catalogued) {table : Messages}
    (hcomplete : EmbeddedBundles.Complete table) :
    ∃ template, table.get? c.constraint.messageKey = some template ∧ c.constraint.Fills template := by
  obtain ⟨entry, hentry, hkey, hnames⟩ := hc.exists_parameterNames
  obtain ⟨template, htemplate, hopens⟩ := hcomplete entry hentry
  refine ⟨template, hkey ▸ htemplate, fun i hi => ?_⟩
  obtain ⟨name, hname, hstands⟩ := prefix_of_opensOnly hopens hi
  obtain ⟨hne, hall⟩ := (parameterNames_proper entry hentry).2 name hname
  have hbraces : ∀ c ∈ name.toList, isBrace c = false := by simpa using hall
  obtain ⟨value, hvalues⟩ := Constraint.exists_valuesOf hc.nodup_names (hnames ▸ hname)
  refine ⟨name.toList, value, nameAt?_eq_some_iff.2 ⟨hne, hbraces, hstands⟩, ?_⟩
  rw [String.ofList_toList, Constraint.param?_eq_head?, hvalues]
  rfl

end Check

/-- If the constraint fills the template and repeats no name, what a name stands for is its parameter. -/
theorem Constraint.Fills.get?_params {c : Constraint} {template : String} (h : c.Fills template)
    (hnodup : (c.params.map Prod.fst).Nodup) {v : Violation} (hv : v.constraint = c) {i : Nat} {name : List Char}
    (hname : nameAt? template.toList i = some name) :
    v.params.get? (String.ofList name) = c.param? (String.ofList name) := by
  subst hv
  obtain ⟨name', value, hname', hvalue⟩ := h i (getElem?_of_nameAt? hname)
  obtain rfl : name' = name := Option.some.inj (hname'.symm.trans hname)
  exact Violation.get?_params_eq_param? hnodup (mem_names_of_param? hvalue)

theorem Constraint.Fills.filled_eq {c : Constraint} {template : String} (h : c.Fills template)
    (hnodup : (c.params.map Prod.fst).Nodup) {v : Violation} (hv : v.constraint = c)
    (r : FormatterRegistry) (locale : Locale) :
    filled r locale v.params template = c.fill r locale template := by
  rw [Template.filled_eq, fill]
  congr 1
  apply substitute_congr
  intro i name hname
  rw [textOf?, h.get?_params hnodup hv hname]

theorem Constraint.Fills.exists_param {c : Constraint} {template : String} (h : c.Fills template)
    (hnodup : (c.params.map Prod.fst).Nodup) {v : Violation} (hv : v.constraint = c) {value : Value}
    (hnamed : Names v.params template value) : ∃ name, (name, value) ∈ c.params := by
  obtain ⟨i, name, hname, hvalue⟩ := hnamed
  rw [h.get?_params hnodup hv hname] at hvalue
  obtain ⟨p, hp, rfl⟩ := Option.map_eq_some_iff.1 hvalue
  exact ⟨p.1, List.mem_of_find?_eq_some hp⟩

namespace Localizer

variable {m : Type → Type} [Monad m] [LawfulMonad m]

/-- The localizer looks into the embedded bundles only, and by their own name. -/
structure Embedded (l : Localizer m) : Prop where
  tracks : l.resolver.Tracks [.embedded]
  baseName_eq : l.baseName = defaultBaseName
  fallbackBaseName_eq : l.fallbackBaseName = defaultBaseName

theorem embedded_build (registry : FormatterRegistry) (locale : Locale) :
    ({ registry, defaultLocale := locale : LocalizerSetup m }.build).Embedded where
  tracks := BundleResolver.tracks_new [.embedded]
  baseName_eq := rfl
  fallbackBaseName_eq := rfl

theorem Embedded.of_used {l l' : Localizer m} (h : l.Embedded)
    (hused : Used [.embedded] l l') : l'.Embedded where
  tracks := hused.tracks
  baseName_eq := hused.baseName_eq.trans h.baseName_eq
  fallbackBaseName_eq := hused.fallbackBaseName_eq.trans h.fallbackBaseName_eq

/-- The root bundle answers if no other does, and all tables of an answer are embedded ones. -/
theorem Embedded.exists_bundle {l : Localizer m} (h : l.Embedded) (locale : Option Locale) :
    ∃ b, Uncached.resolve (firstAnswer [FixedSource.embedded (m := m)]) (l.request none locale) = .ok b ∧
      b.chain ≠ [] ∧ ∀ table ∈ b.chain, EmbeddedBundles.Complete table := by
  have hroot : (⟨true, ⟨.defaultLocale, defaultBaseName, .root⟩⟩ : Place) ∈ (l.request none locale).places := by
    simp [BundleRequest.places, request, h.baseName_eq]
  have hthere : isThere [FixedSource.embedded (m := m)]
      (Candidate.fileName ⟨.defaultLocale, defaultBaseName, .root⟩) = true := by
    have hname : "vigil/messages" ∈ EmbeddedBundles.names := List.mem_cons_self
    obtain ⟨table, htable, -⟩ := EmbeddedBundles.load_complete hname
    rw [← isSome_firstTable, Option.isSome_iff_exists]
    exact ⟨table, firstTable_embedded_iff.2 htable⟩
  obtain ⟨b, hb⟩ := (firstPlace_isOk_iff _ _).2 ⟨_, hroot, rfl, hthere⟩
  have hfound := (errorFree_embedded (m := m)).resolve_eq (l.request none locale)
  obtain ⟨hne, htables⟩ := chain_of_firstPlace hb
  refine ⟨b, hfound.trans hb, hne, fun table htable => ?_⟩
  obtain ⟨name, hname⟩ := htables table htable
  have hload := firstTable_embedded_iff.1 hname
  by_cases hnames : name ∈ EmbeddedBundles.names
  · obtain ⟨complete, hcomplete⟩ := EmbeddedBundles.load_complete hnames
    obtain rfl : table = complete := Option.some.inj (Except.ok.inj (hload.symm.trans hcomplete.1))
    exact hcomplete.2
  · rw [EmbeddedBundles.load_of_notMem hnames] at hload
    cases hload

/-- Every violation of a constraint of the catalogue has a message, whatever locale is asked for and whatever
locale stands in. The message is the template of the bundle that was found, filled with the parameters of the
constraint; so it is the same for every offending value. No placeholder of an embedded template is left over. Where
formatters may ask for the texts of all values, no other message comes out, and this one does if all parameters can be
written. -/
theorem toMessage_catalogued {α : Type} {c : Check α} (hc : c.Catalogued) {l : Localizer m}
    (hl : l.Embedded) (locale : Option Locale) :
    (∀ name ∈ EmbeddedBundles.names, ∃ table template, EmbeddedBundles.load name = .ok (some table) ∧
      table.get? c.constraint.messageKey = some template ∧ c.constraint.Fills template) ∧
    ∃ b template,
      Returns (StateT.run' (bundle none locale) l) (.ok b) ∧
      b.get? c.constraint.messageKey = some template ∧
      c.constraint.Fills template ∧
      ∀ v : Violation, v.constraint = c.constraint →
        let message : ViolationMessage := .of v (c.constraint.fill l.registry b.locale template)
        (∃ l' : Localizer m, l'.Embedded ∧
          Returns (StateT.run (toMessage v none locale) l) (.ok message, l')) ∧
        (∀ told, b.Tells l.registry v told → told = .ok message) ∧
        (l.registry.AsksNothing ∨ (∀ p ∈ c.constraint.params, l.registry.Finishes b.locale p.2) →
          b.Tells l.registry v (.ok message)) := by
  constructor
  · intro name hname
    obtain ⟨table, htable, hcomplete⟩ := EmbeddedBundles.load_complete hname
    obtain ⟨template, htemplate⟩ := hc.exists_template hcomplete
    exact ⟨table, template, htable, htemplate⟩
  obtain ⟨b, hb, hne, htables⟩ := hl.exists_bundle locale
  obtain ⟨template, htemplate, hfills⟩ :=
    MessageBundle.exists_get? hne fun table htable => hc.exists_template (htables table htable)
  refine ⟨b, template, ?_, htemplate, hfills, fun v hv => ?_⟩
  · exact hb ▸ returns_found hl.tracks none locale
  · have hkey : b.getMessage v.constraint.messageKey = .ok template := by
      rw [MessageBundle.getMessage, hv, htemplate]
    have hof : b.messageOf l.registry v =
        .ok (.of v (c.constraint.fill l.registry b.locale template)) := by
      rw [MessageBundle.messageOf, hkey, ← hfills.filled_eq hc.nodup_names hv]
      rfl
    refine ⟨?_, fun told htold => htold.eq_messageOf.trans hof, fun hends => ?_⟩
    · obtain ⟨l', hused, hmessage⟩ := returns_toMessage hl.tracks v none locale
      refine ⟨l', hl.of_used hused, ?_⟩
      rw [hb] at hmessage
      rwa [Except.bind, hof] at hmessage
    · rw [← hof]
      refine MessageBundle.tells_messageOf fun template' htemplate' value hnamed => ?_
      obtain rfl : template' = template := Except.ok.inj (htemplate'.symm.trans hkey)
      rcases hends with hasks | hparams
      · exact hasks.finishes b.locale value
      · obtain ⟨name, hmem⟩ := hfills.exists_param hc.nodup_names hv hnamed
        exact hparams (name, value) hmem

omit [LawfulMonad m] in
/-- A request is answered for the locale itself if its file is there. -/
theorem firstPlace_of_exactLocale {q : BundleRequest} {sources : List (FixedSource m)} {table : Messages}
    (husable : (q.locale.hasValidLanguage && q.locale.hasValidCountry) = true)
    (htable : firstTable sources (bundleName q.baseName q.locale) = some table) :
    ∃ rest, q.firstPlace sources = .ok ⟨q.baseName, q.locale, .exactLocale, table :: rest⟩ := by
  let file : Candidate := ⟨.exactLocale, q.baseName, q.locale⟩
  have hthere : isThere sources file.fileName = true := by
    rw [← isSome_firstTable, Candidate.fileName, htable]
    rfl
  have htables : Uncached.tables (firstTable sources) file = table :: q.locale.parents.filterMap fun locale =>
      firstTable sources (bundleName q.baseName locale) := List.filterMap_cons_some htable
  have hplace : q.firstPlace sources =
      .ok ⟨q.baseName, q.locale, .exactLocale, Uncached.tables (firstTable sources) file⟩ := by
    have hfirst : List.find? (fun p : Place => p.usable && isThere sources p.file.fileName)
        (⟨true, file⟩ :: q.places.tail) = some ⟨true, file⟩ := List.find?_cons_of_pos (by simpa using hthere)
    have hplaces : q.places = ⟨true, file⟩ :: q.places.tail := by
      rw [← husable]
      rfl
    rw [BundleRequest.firstPlace, hplaces, hfirst]
  exact ⟨_, htables ▸ hplace⟩

/-- A localizer that stands in with German. -/
def germanByDefault : Localizer Id := LocalizerSetup.build { defaultLocale := ⟨"de", ""⟩ }

def fromBraces : Check String := .isBetween "\x7bend\x7d" "m"

set_option maxRecDepth 9000 in
theorem load_brazilian : ∃ table, EmbeddedBundles.load "vigil/messages_pt_BR" = .ok (some table) ∧
    table.get? fromBraces.constraint.messageKey = some "Deve estar entre \x7bstart\x7d e \x7bend\x7d" := by
  let entry := (EmbeddedBundles.keyChars "Between".toList, "Deve estar entre \x7bstart\x7d e \x7bend\x7d".toList)
  have hcontains : EmbeddedBundles.Passes EmbeddedBundles.brazilian fun entries => entries.contains entry :=
    ⟨_, rfl, by decide +kernel⟩
  obtain ⟨chars, hchars, hcovered⟩ := EmbeddedBundles.covers_brazilian
  obtain ⟨chars', hchars', hcontained⟩ := hcontains
  obtain rfl : chars = chars' := String.ofList_injective (hchars.symm.trans hchars')
  obtain ⟨entries, hentries, hcovers⟩ := (Option.any_eq_true _ _).1 hcovered
  rw [hentries] at hcontained
  obtain ⟨table, htable, -, hget⟩ := EmbeddedBundles.parse_of_covers hentries hcovers "vigil/messages_pt_BR"
  have htemplate := hget entry (List.contains_iff_mem.1 hcontained)
  rw [← hchars] at htable
  refine ⟨table, ?_, ?_⟩
  · show (Messages.parse "vigil/messages_pt_BR" EmbeddedBundles.brazilian).map some = _
    rw [htable]
    rfl
  · rwa [EmbeddedBundles.ofList_keyChars, String.ofList_toList] at htemplate

theorem toMessage_catalogued_fromBraces :
    fromBraces.Catalogued ∧ germanByDefault.Embedded ∧
      ∃ first second : Localizer Id,
        Returns (StateT.run (toMessage (.of "n" (.text "z") fromBraces.constraint) none (some ⟨"pt", "BR"⟩))
            germanByDefault)
          (.ok (.of (.of "n" (.text "z") fromBraces.constraint) "Deve estar entre \x7bend\x7d e m"), first) ∧
        Returns (StateT.run (toMessage (.of "n" .null fromBraces.constraint) none (some ⟨"pt", "BR"⟩))
            germanByDefault)
          (.ok (.of (.of "n" .null fromBraces.constraint) "Deve estar entre \x7bend\x7d e m"), second) := by
  have hc : fromBraces.Catalogued := .isBetween "\x7bend\x7d" "m"
  have hl : germanByDefault.Embedded := embedded_build .new ⟨"de", ""⟩
  obtain ⟨-, b, template, hbundle, htemplate, -, hmessage⟩ := toMessage_catalogued hc hl (some ⟨"pt", "BR"⟩)
  obtain ⟨table, htable, hget⟩ := load_brazilian
  let q : BundleRequest := germanByDefault.request none (some ⟨"pt", "BR"⟩)
  have husable : (q.locale.hasValidLanguage && q.locale.hasValidCountry) = true := by decide
  have hname : bundleName q.baseName q.locale = "vigil/messages_pt_BR" := by decide
  rw [← hname, ← firstTable_embedded_iff (m := Id)] at htable
  obtain ⟨rest, hplace⟩ := firstPlace_of_exactLocale husable htable
  obtain rfl : ⟨defaultBaseName, ⟨"pt", "BR"⟩, .exactLocale, table :: rest⟩ = b := by
    have hfound := returns_found hl.tracks none (some ⟨"pt", "BR"⟩)
    rw [(errorFree_embedded (m := Id)).resolve_eq, hplace] at hfound
    exact Except.ok.inj ((id_eq_of_returns hfound).symm.trans (id_eq_of_returns hbundle))
  obtain rfl : "Deve estar entre \x7bstart\x7d e \x7bend\x7d" = template := by
    rw [MessageBundle.get?, List.findSome?_cons, hget] at htemplate
    exact Option.some.inj htemplate
  obtain ⟨⟨first, -, hfirst⟩, -, -⟩ := hmessage (.of "n" (.text "z") fromBraces.constraint) rfl
  obtain ⟨⟨second, -, hsecond⟩, -, -⟩ := hmessage (.of "n" .null fromBraces.constraint) rfl
  have htext : fromBraces.constraint.fill germanByDefault.registry ⟨"pt", "BR"⟩
      "Deve estar entre \x7bstart\x7d e \x7bend\x7d" = "Deve estar entre \x7bend\x7d e m" := by
    have hparams : fromBraces.constraint.params = [("start", .text "\x7bend\x7d"), ("end", .text "m")] := rfl
    have hregistry : germanByDefault.registry = .new := rfl
    simp only [Constraint.fill, Constraint.map_param?, hparams, hregistry, List.map_cons, List.map_nil,
      FormatterRegistry.new_text_text]
    decide +kernel
  rw [htext] at hfirst hsecond
  exact ⟨hc, hl, first, second, hfirst, hsecond⟩

end Localizer

end ObjectValidation
