import ObjectValidation.Proofs.Bundle.History

/-!
The six steps as ten places where a request looks for a file, each with the condition on the parts of the
locale under which it looks there. While no source fails, a request is answered from the first such place
whose file exists, whatever the resolver did before.
-/

namespace ObjectValidation

variable {m : Type → Type} [Monad m]

/-- A place to look for a file; it is passed over when the locale lacks what the file needs. -/
structure Place where
  usable : Bool
  file : Candidate

def Candidate.fileName (c : Candidate) : String := bundleName c.baseName c.locale

namespace BundleRequest

def places (q : BundleRequest) : List Place :=
  [⟨q.locale.hasValidLanguage && q.locale.hasValidCountry,
     ⟨.exactLocale, q.baseName, q.locale⟩⟩,
   ⟨q.locale.hasValidLanguage, ⟨.language, q.baseName, q.locale.withoutCountry⟩⟩,
   ⟨q.locale.hasValidLanguage && q.locale.hasValidCountry,
     ⟨.fallbackExactLocale, q.fallbackBaseName, q.locale⟩⟩,
   ⟨q.locale.hasValidLanguage, ⟨.fallbackLanguage, q.fallbackBaseName, q.locale.withoutCountry⟩⟩,
   ⟨q.defaultLocale.hasValidLanguage && q.defaultLocale.hasValidCountry,
     ⟨.defaultLocale, q.baseName, q.defaultLocale⟩⟩,
   ⟨q.defaultLocale.hasValidLanguage, ⟨.defaultLocale, q.baseName, q.defaultLocale.withoutCountry⟩⟩,
   ⟨true, ⟨.defaultLocale, q.baseName, .root⟩⟩,
   ⟨q.defaultLocale.hasValidLanguage && q.defaultLocale.hasValidCountry,
     ⟨.fallbackDefaultLocale, q.fallbackBaseName, q.defaultLocale⟩⟩,
   ⟨q.defaultLocale.hasValidLanguage,
     ⟨.fallbackDefaultLocale, q.fallbackBaseName, q.defaultLocale.withoutCountry⟩⟩,
   ⟨true, ⟨.fallbackDefaultLocale, q.fallbackBaseName, .root⟩⟩]

theorem candidates_eq (q : BundleRequest) :
    q.candidates = (q.places.filter Place.usable).map Place.file := by
  unfold candidates places
  cases hl : q.locale.hasValidLanguage <;> cases hc : q.locale.hasValidCountry <;>
    cases hdl : q.defaultLocale.hasValidLanguage <;> cases hdc : q.defaultLocale.hasValidCountry <;>
    simp [ResolutionStep.all, locales, base, ResolutionStep.usesFallbackBase, Locale.usable?,
      Locale.language?, hl, hc, hdl, hdc]

end BundleRequest

/-- The file of this name in a source, if the source has it. -/
def FixedSource.table? (source : FixedSource m) (name : String) : Option Messages :=
  match source.answer name with
  | .ok found => found
  | .error _ => none

/-- None of the sources fails, whatever it is asked for. -/
def ErrorFree (sources : List (FixedSource m)) : Prop :=
  ∀ source ∈ sources, ∀ name e, source.answer name ≠ .error e

/-- Some source has the file. -/
def isThere (sources : List (FixedSource m)) (name : String) : Bool :=
  sources.any fun source => (source.table? name).isSome

/-- The file of the first source that has it. -/
def firstTable (sources : List (FixedSource m)) (name : String) : Option Messages :=
  sources.findSome? fun source => source.table? name

theorem isSome_firstTable (sources : List (FixedSource m)) (name : String) :
    (firstTable sources name).isSome = isThere sources name :=
  List.isSome_findSome?

theorem ErrorFree.firstAnswer_eq {sources : List (FixedSource m)} (h : ErrorFree sources) :
    firstAnswer sources = fun name => .ok (firstTable sources name) := by
  funext name
  induction sources with
  | nil => rfl
  | cons source rest ih =>
    have hsource := h source List.mem_cons_self name
    have hrest : ErrorFree rest := fun other hother => h other (List.mem_cons_of_mem _ hother)
    unfold firstTable
    rw [firstAnswer, List.findSome?_cons]
    unfold FixedSource.table?
    cases hanswer : source.answer name with
    | error e => exact absurd hanswer (hsource e)
    | ok found =>
      cases found with
      | none => exact ih hrest
      | some messages => rfl

namespace Uncached

variable (table : String → Option Messages)

/-- The tables of a file and of its parents, as far as they exist. -/
def tables (c : Candidate) : List Messages :=
  (c.locale :: c.locale.parents).filterMap fun locale => table (bundleName c.baseName locale)

theorem loadAll_ok (base : String) (locales : List Locale) :
    loadAll (fun name => .ok (table name)) base locales =
      .ok (locales.filterMap fun locale => table (bundleName base locale)) := by
  induction locales with
  | nil => rfl
  | cons locale rest ih =>
    unfold loadAll
    rw [ih, List.filterMap_cons]
    cases table (bundleName base locale) <;> rfl

theorem chain_ok (c : Candidate) :
    chain (fun name => .ok (table name)) c =
      .ok (if (table c.fileName).isSome then some (tables table c) else none) := by
  unfold chain tables Candidate.fileName
  rw [List.filterMap_cons]
  simp only [loadAll_ok]
  cases table (bundleName c.baseName c.locale) <;> rfl

/-- The first candidate whose file exists, with its tables. -/
theorem firstExisting_ok (candidates : List Candidate) :
    firstExisting (fun name => .ok (table name)) candidates =
      .ok ((candidates.find? fun c => (table c.fileName).isSome).map fun c =>
        ⟨c.baseName, c.locale, c.step, tables table c⟩) := by
  induction candidates with
  | nil => rfl
  | cons c rest ih =>
    unfold firstExisting
    rw [chain_ok, List.find?_cons]
    cases (table c.fileName).isSome with
    | false => exact ih
    | true => rfl

end Uncached

/-- The answer from the first place that can be used and whose file exists. -/
def BundleRequest.firstPlace (q : BundleRequest) (sources : List (FixedSource m)) :
    Except LocalizationError MessageBundle :=
  match q.places.find? fun p => p.usable && isThere sources p.file.fileName with
  | some ⟨_, c⟩ => .ok ⟨c.baseName, c.locale, c.step, Uncached.tables (firstTable sources) c⟩
  | none => .error (.bundleNotFound q.baseName q.fallbackBaseName q.defaultLocale)

theorem find?_candidates (q : BundleRequest) (sources : List (FixedSource m)) :
    (q.candidates.find? fun c => isThere sources c.fileName) =
      (q.places.find? fun p => p.usable && isThere sources p.file.fileName).map Place.file := by
  rw [q.candidates_eq, List.find?_map, List.find?_filter]
  simp

theorem ErrorFree.resolve_eq {sources : List (FixedSource m)} (h : ErrorFree sources)
    (q : BundleRequest) : Uncached.resolve (firstAnswer sources) q = q.firstPlace sources := by
  unfold Uncached.resolve BundleRequest.firstPlace
  rw [h.firstAnswer_eq, Uncached.firstExisting_ok]
  simp only [isSome_firstTable]
  rw [find?_candidates]
  cases q.places.find? fun p => p.usable && isThere sources p.file.fileName <;> rfl

/-- A request has an answer exactly if one of its places can be used and has its file. -/
theorem firstPlace_isOk_iff (q : BundleRequest) (sources : List (FixedSource m)) :
    (∃ bundle, q.firstPlace sources = .ok bundle) ↔
      ∃ p ∈ q.places, p.usable ∧ isThere sources p.file.fileName := by
  unfold BundleRequest.firstPlace
  constructor
  · rintro ⟨bundle, hok⟩
    split at hok
    · next usable c hfirst =>
      have hfound := List.find?_some hfirst
      rw [Bool.and_eq_true] at hfound
      exact ⟨_, List.mem_of_find?_eq_some hfirst, hfound⟩
    · cases hok
  · rintro ⟨p, hp, husable, hthere⟩
    have hsome : (q.places.find? fun p => p.usable && isThere sources p.file.fileName).isSome := by
      rw [List.find?_isSome]
      exact ⟨p, hp, by rw [husable, hthere]; rfl⟩
    obtain ⟨first, hfirst⟩ := Option.isSome_iff_exists.1 hsome
    exact ⟨_, by rw [hfirst]⟩

namespace Operation

variable [LawfulMonad m]

/-- While no source fails, a request is answered from its first place that can be used and has its file,
whatever was added, emptied and asked before. It fails only if there is no such place, and never when the
root file of one of its bases exists. -/
theorem resolve_firstPlace (history : List (Operation m)) (q : BundleRequest)
    (h : ErrorFree (sourcesAfterAll [] history)) :
    let sources := sourcesAfterAll [] history
    ∃ outcome,
      Returns (StateT.run' (do let _ ← performAll history; BundleResolver.resolve q) {}) outcome ∧
      outcome = q.firstPlace sources ∧
      ((∃ bundle, outcome = .ok bundle) ↔
        ∃ p ∈ q.places, p.usable ∧ isThere sources p.file.fileName) ∧
      (isThere sources q.baseName ∨ isThere sources q.fallbackBaseName →
        ∃ bundle, outcome = .ok bundle) := by
  intro sources
  obtain ⟨r, htracks, hhistory⟩ := performAll_tracks history (BundleResolver.tracks_new [])
  obtain ⟨r', -, hresolve⟩ := htracks.resolve q
  rw [h.resolve_eq] at hresolve
  refine ⟨q.firstPlace sources, ?_, rfl, firstPlace_isOk_iff q sources, ?_⟩
  · have hboth : Returns (StateT.run (do let _ ← performAll history; BundleResolver.resolve q) {})
        (q.firstPlace sources, r') := by
      rw [StateT.run_bind]
      exact hhistory.bind hresolve
    exact hboth.map Prod.fst
  · intro hroot
    rw [firstPlace_isOk_iff]
    rcases hroot with hbase | hfallback
    · have hplace : ⟨true, ⟨.defaultLocale, q.baseName, .root⟩⟩ ∈ q.places := by
        simp [BundleRequest.places]
      exact ⟨_, hplace, rfl, hbase⟩
    · have hplace : ⟨true, ⟨.fallbackDefaultLocale, q.fallbackBaseName, .root⟩⟩ ∈ q.places := by
        simp [BundleRequest.places]
      exact ⟨_, hplace, rfl, hfallback⟩

end Operation

/-- Neither the request's language nor the country of its default locale can be used. -/
def unusableParts : BundleRequest := ⟨"app", ⟨"e1", "US"⟩, "lib", ⟨"de", "D"⟩⟩

def twoFiles : FixedSource (StateM (List String)) :=
  .noting fun name => .ok (if name = "app_de" ∨ name = "lib" then some germanTable else none)

theorem resolve_firstPlace_unusableParts :
    ErrorFree [twoFiles] ∧
      Returns (StateT.run' (do
          let _ ← Operation.performAll [.resolve unusableParts, .addSource twoFiles]
          BundleResolver.resolve unusableParts) {})
        (.ok ⟨"app", ⟨"de", ""⟩, .defaultLocale, [germanTable]⟩) := by
  have herrors : ErrorFree [twoFiles] := by
    intro source hsource name e hfails
    rw [List.mem_singleton.1 hsource] at hfails
    cases hfails
  obtain ⟨outcome, hreturns, houtcome, -⟩ :=
    Operation.resolve_firstPlace [.resolve unusableParts, .addSource twoFiles] unusableParts herrors
  have hplace : unusableParts.firstPlace [twoFiles] =
      .ok ⟨"app", ⟨"de", ""⟩, .defaultLocale, [germanTable]⟩ := rfl
  rw [houtcome] at hreturns
  exact ⟨herrors, hplace ▸ hreturns⟩

end ObjectValidation
