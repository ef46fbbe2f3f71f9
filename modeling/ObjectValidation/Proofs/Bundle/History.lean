import ObjectValidation.Proofs.Bundle.Lookup

/-!
Histories of a resolver: sources are added, the cache is emptied and requests are answered, in any order.
What the cache holds stays faithful to the sources of the moment, so that each request is answered as a
resolver answers it that has the same sources and knows nothing yet.
-/

namespace ObjectValidation

variable {m : Type → Type} [Monad m]

inductive Operation (m : Type → Type) [Monad m] where
  | addSource (source : FixedSource m)
  | clearCache
  | resolve (q : BundleRequest)

/-- The outcome of a request to a resolver that has only these sources and has answered nothing before. -/
def freshOutcome (sources : List (FixedSource m)) (q : BundleRequest) :
    Except LocalizationError MessageBundle :=
  (Id.run (StateT.run (BundleResolver.resolve q) { sources := sources.map FixedSource.answer })).1

namespace Operation

def perform : Operation m →
    StateT (BundleResolver m) m (Option (Except LocalizationError MessageBundle))
  | addSource source => do
    modify fun r => r.addSource source.load
    return none
  | clearCache => do
    modify BundleResolver.clearCache
    return none
  | resolve q => some <$> BundleResolver.resolve q

/-- The outcomes of the requests among the operations. -/
def performAll : List (Operation m) →
    StateT (BundleResolver m) m (List (Except LocalizationError MessageBundle))
  | [] => return []
  | operation :: rest => do
    let outcome ← operation.perform
    let others ← performAll rest
    return outcome.toList ++ others

def sourcesAfter (sources : List (FixedSource m)) : Operation m → List (FixedSource m)
  | addSource source => sources ++ [source]
  | clearCache => sources
  | resolve _ => sources

def sourcesAfterAll (sources : List (FixedSource m)) : List (Operation m) → List (FixedSource m)
  | [] => sources
  | operation :: rest => sourcesAfterAll (operation.sourcesAfter sources) rest

def fresh (sources : List (FixedSource m)) : Operation m → Option (Except LocalizationError MessageBundle)
  | addSource _ => none
  | clearCache => none
  | resolve q => some (freshOutcome sources q)

/-- The outcomes when each request goes to a new resolver that has the sources of the moment. -/
def freshAll (sources : List (FixedSource m)) :
    List (Operation m) → List (Except LocalizationError MessageBundle)
  | [] => []
  | operation :: rest =>
    (operation.fresh sources).toList ++ freshAll (operation.sourcesAfter sources) rest

end Operation

/-- The resolver has these sources and knows nothing that they do not answer. -/
structure BundleResolver.Tracks (r : BundleResolver m) (sources : List (FixedSource m)) : Prop where
  sources_eq : r.sources = sources.map FixedSource.load
  faithful : Faithful sources r.cache

namespace BundleResolver

theorem tracks_new (sources : List (FixedSource m)) :
    Tracks { sources := sources.map FixedSource.load } sources :=
  ⟨rfl, faithful_empty sources⟩

theorem Tracks.addSource {r : BundleResolver m} {sources : List (FixedSource m)}
    (h : r.Tracks sources) (source : FixedSource m) :
    (r.addSource source.load).Tracks (sources ++ [source]) := by
  constructor
  · simp [BundleResolver.addSource, h.sources_eq]
  · exact faithful_empty _

theorem Tracks.clearCache {r : BundleResolver m} {sources : List (FixedSource m)}
    (h : r.Tracks sources) : r.clearCache.Tracks sources :=
  ⟨h.sources_eq, faithful_empty sources⟩

variable [LawfulMonad m]

theorem Tracks.resolve {r : BundleResolver m} {sources : List (FixedSource m)}
    (h : r.Tracks sources) (q : BundleRequest) :
    ∃ r' : BundleResolver m, r'.Tracks sources ∧
      Returns (StateT.run (BundleResolver.resolve q) r)
        (Uncached.resolve (firstAnswer sources) q, r') := by
  obtain ⟨cache, hcache, hreturns⟩ := Lookup.computes_resolve q r.cache h.faithful
  refine ⟨{ r with cache }, ⟨h.sources_eq, hcache⟩, ?_⟩
  rw [← h.sources_eq] at hreturns
  exact hreturns.bind (returns_pure _)

end BundleResolver

/-- The source without the effects of asking it. -/
def FixedSource.still (source : FixedSource m) : FixedSource Id :=
  ⟨source.answer, source.answer, fun name => returns_pure (source.answer name)⟩

theorem firstAnswer_still (sources : List (FixedSource m)) :
    firstAnswer (sources.map FixedSource.still) = firstAnswer sources := by
  funext name
  induction sources with
  | nil => rfl
  | cons source rest ih =>
    simp only [List.map_cons, firstAnswer, FixedSource.still]
    rw [ih]

theorem freshOutcome_eq (sources : List (FixedSource m)) (q : BundleRequest) :
    freshOutcome sources q = Uncached.resolve (firstAnswer sources) q := by
  have hnew := BundleResolver.tracks_new (sources.map FixedSource.still)
  obtain ⟨r, -, hreturns⟩ := hnew.resolve q
  have hsources : (sources.map FixedSource.still).map FixedSource.load =
      sources.map FixedSource.answer := by
    simp [FixedSource.still]
  rw [hsources, firstAnswer_still] at hreturns
  exact congrArg Prod.fst (id_eq_of_returns hreturns)

namespace Operation

variable [LawfulMonad m] {r : BundleResolver m} {sources : List (FixedSource m)}

/-- No operation makes the cache differ from the sources, and a request is answered as if it were the first. -/
theorem perform_tracks (operation : Operation m) (h : r.Tracks sources) :
    ∃ r' : BundleResolver m, r'.Tracks (operation.sourcesAfter sources) ∧
      Returns (StateT.run operation.perform r) (operation.fresh sources, r') := by
  cases operation with
  | addSource source =>
    refine ⟨r.addSource source.load, h.addSource source, ?_⟩
    simp only [perform, StateT.run_bind, StateT.run_modify, pure_bind]
    exact returns_pure _
  | clearCache =>
    refine ⟨r.clearCache, h.clearCache, ?_⟩
    simp only [perform, StateT.run_bind, StateT.run_modify, pure_bind]
    exact returns_pure _
  | resolve q =>
    obtain ⟨r', htracks, hreturns⟩ := h.resolve q
    refine ⟨r', htracks, ?_⟩
    simp only [fresh, perform, freshOutcome_eq, StateT.run_map]
    exact hreturns.map _

theorem performAll_tracks (history : List (Operation m)) (h : r.Tracks sources) :
    ∃ r' : BundleResolver m, r'.Tracks (sourcesAfterAll sources history) ∧
      Returns (StateT.run (performAll history) r) (freshAll sources history, r') := by
  induction history generalizing r sources with
  | nil => exact ⟨r, h, returns_pure _⟩
  | cons operation rest ih =>
    obtain ⟨middle, hmiddle, hfirst⟩ := operation.perform_tracks h
    obtain ⟨last, hlast, hrest⟩ := ih hmiddle
    refine ⟨last, hlast, ?_⟩
    unfold performAll
    rw [StateT.run_bind]
    apply hfirst.bind
    rw [StateT.run_bind]
    exact hrest.bind (returns_pure _)

/-- Whatever was added, emptied and asked before, a request is answered as by a new resolver with the same
sources. A name is known to be missing only while no source has it, and one that fails is not known at all. -/
theorem performAll_fresh (history : List (Operation m)) :
    ∃ r : BundleResolver m,
      Returns (StateT.run (performAll history) {}) (freshAll [] history, r) ∧
      (∀ name, r.cache.get? name = some none →
        ∀ source ∈ sourcesAfterAll [] history, source.answer name = .ok none) ∧
      (∀ name e, firstAnswer (sourcesAfterAll [] history) name = .error e → r.cache.get? name = none) ∧
      ∀ (sources : List (FixedSource m)) (q : BundleRequest),
        Returns (StateT.run' (BundleResolver.resolve q) { sources := sources.map FixedSource.load })
          (freshOutcome sources q) := by
  obtain ⟨r, htracks, hreturns⟩ := performAll_tracks history (BundleResolver.tracks_new [])
  refine ⟨r, hreturns, ?_, ?_, ?_⟩
  · intro name hmissing
    exact (firstAnswer_eq_none_iff _ name).1 (htracks.faithful name none hmissing)
  · intro name e hfails
    cases hknown : r.cache.get? name with
    | none => rfl
    | some known =>
      have hfound := htracks.faithful name known hknown
      rw [hfails] at hfound
      cases hfound
  · intro sources q
    obtain ⟨r', -, hfresh⟩ := (BundleResolver.tracks_new sources).resolve q
    rw [freshOutcome_eq]
    exact hfresh.map Prod.fst

end Operation

/-- A source that notes each name it is asked for. -/
def FixedSource.noting (answer : String → Except LocalizationError (Option Messages)) :
    FixedSource (StateM (List String)) where
  load name := do
    modify fun asked => asked ++ [name]
    return answer name
  answer := answer
  returns _ := rfl

def brokenPortuguese : FixedSource (StateM (List String)) :=
  .noting fun name => if name = "app_pt" then .error (.invalidBundle name) else .ok none

def germanTable : Messages := .ofList [("k", "German")]

def germanFile : FixedSource (StateM (List String)) :=
  .noting fun name => .ok (if name = "app_de_DE" then some germanTable else none)

def appRequest (language country : String) : BundleRequest :=
  ⟨"app", ⟨language, country⟩, "lib", .root⟩

/-- The German file comes after two requests that missed it, and after one that failed. -/
def lateGerman : List (Operation (StateM (List String))) :=
  [.resolve (appRequest "de" "DE"), .addSource brokenPortuguese, .resolve (appRequest "pt" "BR"),
   .resolve (appRequest "de" "DE"), .addSource germanFile, .resolve (appRequest "de" "DE"),
   .resolve (appRequest "pt" "BR")]

theorem performAll_fresh_lateGerman :
    ∃ r : BundleResolver (StateM (List String)),
      Returns (StateT.run (Operation.performAll lateGerman) {})
        ([.error (.bundleNotFound "app" "lib" .root), .error (.invalidBundle "app_pt"),
          .error (.bundleNotFound "app" "lib" .root),
          .ok ⟨"app", ⟨"de", "DE"⟩, .exactLocale, [germanTable]⟩,
          .error (.invalidBundle "app_pt")], r) := by
  obtain ⟨r, hreturns, -⟩ := Operation.performAll_fresh lateGerman
  exact ⟨r, hreturns⟩

end ObjectValidation
