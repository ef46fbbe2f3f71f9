import ObjectValidation.Proofs.Bundle.Asked
import ObjectValidation.Proofs.Bundle.Failure

/-!
What is read on the way to an answer or a failure. From an empty cache a request asks the sources for no file
after the one that decides it, and no other file has any influence.
-/

namespace ObjectValidation

variable {m : Type → Type} [Monad m] {α β : Type}

/-- A source that is passed over has no such file; the first that is not passed over decides. -/
theorem firstAnswer_of_comesUp {sources : List (FixedSource m)} {name : String} {source : FixedSource m}
    (h : ComesUp (fun s => s.answer name = .ok none) sources source) (hdecides : source.answer name ≠ .ok none) :
    firstAnswer sources name = source.answer name := by
  induction sources with
  | nil => exact absurd h not_comesUp_nil
  | cons first rest ih =>
    rcases comesUp_cons_iff.1 h with rfl | ⟨hnone, hrest⟩
    · rw [firstAnswer]
      split
      · next hnone => exact absurd hnone hdecides
      · rfl
    · rw [firstAnswer, hnone]
      exact ih hrest

/-- An error is that of a source, and no source before that one has the file. -/
theorem exists_source_of_error {sources : List (FixedSource m)} {name : String} {e : LocalizationError}
    (h : firstAnswer sources name = .error e) :
    ∃ source, ComesUp (fun s => s.answer name = .ok none) sources source ∧ source.answer name = .error e := by
  rcases forall_or_comesUp (fun s : FixedSource m => s.answer name = .ok none) sources with
    hnone | ⟨source, hsource, hdecides⟩
  · rw [(firstAnswer_eq_none_iff sources name).2 hnone] at h
    cases h
  · exact ⟨source, hsource, (firstAnswer_of_comesUp hsource hdecides).symm.trans h⟩

/-- A source that notes each name it is asked for, before it answers as ever. -/
def FixedSource.noted [LawfulMonad m] (source : FixedSource m) : FixedSource (StateT (List String) m) where
  load := source.load.noted
  answer := source.answer
  returns name := by
    have hnote : Returns (modify fun asked => asked ++ [name] : StateT (List String) m PUnit) ⟨⟩ := by
      simp [Returns]
    exact hnote.bind ((source.returns name).lift)

theorem firstAnswer_noted [LawfulMonad m] (sources : List (FixedSource m)) :
    firstAnswer (sources.map FixedSource.noted) = firstAnswer sources := by
  funext name
  induction sources with
  | nil => rfl
  | cons source rest ih =>
    simp only [List.map_cons, firstAnswer, FixedSource.noted]
    rw [ih]

theorem map_load_noted [LawfulMonad m] (sources : List (FixedSource m)) :
    (sources.map FixedSource.noted).map FixedSource.load =
      (sources.map FixedSource.load).map BundleSource.noted := by
  simp [FixedSource.noted]

namespace Lookup

variable {sources : List (FixedSource (StateT (List String) m))} {P : String → Prop}

/-- From every faithful cache all names that are noted on the way have the property. -/
def ReadsOnly (sources : List (FixedSource (StateT (List String) m))) (P : String → Prop)
    (act : Lookup (StateT (List String) m) α) : Prop :=
  ∀ cache asked, Faithful sources cache → (∀ name ∈ asked, P name) →
    Ensures (StateT.run (StateT.run (ExceptT.run act) cache) asked) fun outcome => ∀ name ∈ outcome.2, P name

theorem AsksOnly.readsOnly {act : Lookup (StateT (List String) m) α} (h : AsksOnly P act) :
    ReadsOnly sources P act :=
  fun cache asked _ => h cache asked

variable [LawfulMonad m]

/-- What comes next only has to be looked at for the result that the sources lead to. -/
theorem ReadsOnly.bind {act : Lookup (StateT (List String) m) α} {result : Except LocalizationError α}
    {next : α → Lookup (StateT (List String) m) β} (h : ReadsOnly sources P act)
    (hact : Computes sources act result) (hnext : ∀ a, result = .ok a → ReadsOnly sources P (next a)) :
    ReadsOnly sources P (act >>= next) := by
  intro cache asked hcache hasked
  obtain ⟨middle, hmiddle, hreturns⟩ := hact cache hcache
  rw [ExceptT.run_bind, StateT.run_bind, StateT.run_bind]
  apply (hreturns.ensures_run (P := fun names => ∀ name ∈ names, P name) (h cache asked hcache hasked)).bind
  rintro ⟨outcome, asked'⟩ ⟨rfl, hasked'⟩
  cases hresult : result with
  | error e => exact ensures_pure hasked'
  | ok a => exact hnext a hresult middle asked' hmiddle hasked'

section

variable (hload : ∀ name, P name → ReadsOnly sources P (load (sources.map FixedSource.load) name))

include hload

theorem readsOnly_loadAll {base : String} {locales : List Locale}
    (h : ∀ name, ComesUp (Files.Readable (firstAnswer sources)) (locales.map (bundleName base)) name → P name) :
    ReadsOnly sources P (loadAll (sources.map FixedSource.load) base locales) := by
  induction locales with
  | nil => exact (asksOnly_pure []).readsOnly
  | cons locale rest ih =>
    apply (hload _ (h _ comesUp_first)).bind (computes_load _)
    intro found hfound
    have hrest := ih fun name hname => h name (hname.later ⟨found, hfound⟩)
    exact hrest.bind (computes_loadAll base rest) fun others _ => (asksOnly_pure _).readsOnly

theorem readsOnly_chain {c : Candidate} (hown : P c.fileName)
    (hparent : ∀ head name, firstAnswer sources c.fileName = .ok (some head) →
      ComesUp (Files.Readable (firstAnswer sources)) c.parentNames name → P name) :
    ReadsOnly sources P (chain (sources.map FixedSource.load) c) := by
  apply (hload _ hown).bind (computes_load _)
  intro found hfound
  cases found with
  | none => exact (asksOnly_pure none).readsOnly
  | some head =>
    have hparents := readsOnly_loadAll hload fun name hname => hparent head name hfound hname
    exact hparents.bind (computes_loadAll _ _) fun others _ => (asksOnly_pure _).readsOnly

theorem readsOnly_firstExisting {candidates : List Candidate}
    (h : ∀ name, Files.Reads (firstAnswer sources) candidates name → P name) :
    ReadsOnly sources P (firstExisting (sources.map FixedSource.load) candidates) := by
  induction candidates with
  | nil => exact (asksOnly_pure none).readsOnly
  | cons c rest ih =>
    have hchain : ReadsOnly sources P (chain (sources.map FixedSource.load) c) :=
      readsOnly_chain hload (h _ (.candidate comesUp_first)) fun head name hfound hname =>
        h name (.parent comesUp_first hfound hname)
    apply hchain.bind (computes_chain c)
    intro tables htables
    cases tables with
    | none => exact ih fun name hname => h name (hname.later (Uncached.absent_of_chain htables))
    | some tables => exact (asksOnly_pure _).readsOnly

theorem readsOnly_resolve {q : BundleRequest}
    (h : ∀ name, Files.Reads (firstAnswer sources) q.candidates name → P name) :
    ReadsOnly sources P (resolve (sources.map FixedSource.load) q) := by
  apply (readsOnly_firstExisting hload h).bind (computes_firstExisting q.candidates)
  intro found _
  cases found with
  | none => exact (asksOnly_throw _).readsOnly
  | some bundle => exact (asksOnly_pure bundle).readsOnly

end

end Lookup

namespace BundleResolver

variable [LawfulMonad m]

theorem returns_uncached (sources : List (FixedSource m)) (q : BundleRequest) :
    Returns (StateT.run' (BundleResolver.resolve q) { sources := sources.map FixedSource.load })
      (Uncached.resolve (firstAnswer sources) q) := by
  obtain ⟨r, -, hresolve⟩ := (tracks_new sources).resolve q
  exact hresolve.map Prod.fst

/-- Of a new resolver the sources are asked for nothing but what is read. -/
theorem resolve_readsOnly (sources : List (FixedSource m)) (q : BundleRequest) :
    Ensures (StateT.run (StateT.run (BundleResolver.resolve q)
        { sources := (sources.map FixedSource.load).map BundleSource.noted }) [])
      fun last => ∀ name ∈ last.2, Files.Reads (firstAnswer sources) q.candidates name := by
  let reads := Files.Reads (firstAnswer sources) q.candidates
  have hload (name : String) (hname : reads name) : Lookup.ReadsOnly (sources.map FixedSource.noted) reads
      (Lookup.load ((sources.map FixedSource.noted).map FixedSource.load) name) := by
    rw [map_load_noted]
    exact (Lookup.asksOnly_load hname).readsOnly
  have hreads := Lookup.readsOnly_resolve hload (q := q) fun name hname => by
    rwa [firstAnswer_noted] at hname
  have hlookup := hreads .empty [] (faithful_empty _) (by simp)
  rw [← map_load_noted]
  exact hlookup.bind fun last hnames => ensures_pure hnames

/-- From an empty cache a request fails with the error of a source exactly when the turn comes to a candidate
that cannot be read itself, or that is there while one of its parents cannot be read. The files that are read up
to then are all that is asked for and all that matters. What the first source has of a name, or why it cannot
tell, hides what later sources say of it. -/
theorem resolve_fails_iff (sources : List (FixedSource m)) (q : BundleRequest) :
    let files : Files := firstAnswer sources
    ∃ outcome,
      Returns (StateT.run' (BundleResolver.resolve q) { sources := sources.map FixedSource.load }) outcome ∧
      (∀ e, outcome = .error e ↔
        files.FailsAt q.candidates e ∨ e = q.notFound ∧ ∀ c ∈ q.candidates, files c.fileName = .ok none) ∧
      (∀ b, outcome = .ok b ↔ files.AnsweredBy q.candidates b) ∧
      (∀ e, files.FailsAt q.candidates e → ∃ name, files.Reads q.candidates name ∧
        ∃ source, ComesUp (fun s => s.answer name = .ok none) sources source ∧ source.answer name = .error e) ∧
      (∀ others : List (FixedSource m),
        (∀ name, files.Reads q.candidates name → firstAnswer others name = files name) →
          Returns (StateT.run' (BundleResolver.resolve q) { sources := others.map FixedSource.load }) outcome) ∧
      (∀ name source, ComesUp (fun s => s.answer name = .ok none) sources source →
        source.answer name ≠ .ok none → files name = source.answer name) ∧
      Ensures (StateT.run (StateT.run (BundleResolver.resolve q)
          { sources := (sources.map FixedSource.load).map BundleSource.noted }) [])
        fun last => ∀ name ∈ last.2, files.Reads q.candidates name := by
  intro files
  refine ⟨Uncached.resolve files q, returns_uncached sources q, fun e => Uncached.resolve_eq_error_iff,
    fun b => Uncached.resolve_eq_ok_iff, ?_, ?_, fun name source => firstAnswer_of_comesUp,
    resolve_readsOnly sources q⟩
  · intro e hfails
    obtain ⟨name, hread, herror⟩ := hfails.exists_reads
    exact ⟨name, hread, exists_source_of_error herror⟩
  · intro others hagree
    rw [← Uncached.resolve_congr hagree]
    exact returns_uncached others q

end BundleResolver

/-- The exact file, which the other source has in an invalid form. -/
def brazilianFile : FixedSource (StateM (List String)) :=
  .noting fun name => .ok (if name = "app_pt_BR" then some (.ofList [("k", "Brazilian")]) else none)

def invalidFiles : FixedSource (StateM (List String)) :=
  .noting fun name => .error (.invalidBundle name)

theorem resolve_fails_iff_invalidParent :
    Returns (StateT.run' (BundleResolver.resolve (appRequest "pt" "BR"))
      { sources := [brazilianFile, invalidFiles].map FixedSource.load }) (.error (.invalidBundle "app_pt")) := by
  obtain ⟨outcome, hreturns, herror, -⟩ :=
    BundleResolver.resolve_fails_iff [brazilianFile, invalidFiles] (appRequest "pt" "BR")
  have hfails : Files.FailsAt (firstAnswer [brazilianFile, invalidFiles]) (appRequest "pt" "BR").candidates
      (.invalidBundle "app_pt") :=
    ⟨⟨.exactLocale, "app", ⟨"pt", "BR"⟩⟩, comesUp_first, .inr ⟨⟨_, rfl⟩, "app_pt", comesUp_first, rfl⟩⟩
  rwa [(herror _).2 (.inl hfails)] at hreturns

end ObjectValidation
