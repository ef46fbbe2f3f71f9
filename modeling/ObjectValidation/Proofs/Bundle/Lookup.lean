import ObjectValidation.Bundle.Resolver
import ObjectValidation.Proofs.Returns

/-!
Lookups over sources whose answers are fixed. A cache is faithful when all it knows is what the sources
answer now. From a faithful cache a lookup gives what it would give without any cache, and it leaves a
faithful cache behind, also when it fails half-way.
-/

namespace ObjectValidation

variable {m : Type → Type} [Monad m] {α β : Type}

/-- A source whose answer depends on the name alone, whatever else asking it does. -/
structure FixedSource (m : Type → Type) [Monad m] where
  load : BundleSource m
  answer : String → Except LocalizationError (Option Messages)
  returns : ∀ name, Returns (load name) (answer name)

/-- The answer of the first source that has the bundle, or that fails. -/
def firstAnswer (sources : List (FixedSource m)) (name : String) :
    Except LocalizationError (Option Messages) :=
  match sources with
  | [] => .ok none
  | source :: rest =>
    match source.answer name with
    | .ok none => firstAnswer rest name
    | decided => decided

theorem firstAnswer_eq_none_iff (sources : List (FixedSource m)) (name : String) :
    firstAnswer sources name = .ok none ↔ ∀ source ∈ sources, source.answer name = .ok none := by
  induction sources with
  | nil => simp [firstAnswer]
  | cons source rest ih =>
    rw [firstAnswer, List.forall_mem_cons, ← ih]
    split
    · next hnone => simp [hnone]
    · next hdecided =>
      constructor
      · intro h
        exact absurd h hdecided
      · intro h
        exact absurd h.1 hdecided

/-- All that the cache knows is what the sources answer now. -/
def Faithful (sources : List (FixedSource m)) (cache : BundleCache) : Prop :=
  ∀ name known, cache.get? name = some known → firstAnswer sources name = .ok known

theorem faithful_empty (sources : List (FixedSource m)) : Faithful sources .empty := by
  intro name known h
  cases h

theorem Faithful.insert {sources : List (FixedSource m)} {cache : BundleCache} {name : String}
    {found : Option Messages} (h : Faithful sources cache)
    (hfound : firstAnswer sources name = .ok found) :
    Faithful sources (cache.insert name found) := by
  intro other known hother
  by_cases hname : other = name
  · subst hname
    rw [Table.get?_insert_self, Option.some.injEq] at hother
    rw [hfound, hother]
  · rw [Table.get?_insert_of_ne _ _ _ _ hname] at hother
    exact h other known hother

/-! What a lookup gives when every name is answered anew. -/

namespace Uncached

variable (files : String → Except LocalizationError (Option Messages))

def loadAll (base : String) : List Locale → Except LocalizationError (List Messages)
  | [] => return []
  | locale :: rest => do
    let found ← files (bundleName base locale)
    let others ← loadAll base rest
    return found.toList ++ others

def chain (c : Candidate) : Except LocalizationError (Option (List Messages)) := do
  match ← files (bundleName c.baseName c.locale) with
  | none => return none
  | some head => return some (head :: (← loadAll files c.baseName c.locale.parents))

def firstExisting : List Candidate → Except LocalizationError (Option MessageBundle)
  | [] => return none
  | c :: rest => do
    match ← chain files c with
    | some tables => return some ⟨c.baseName, c.locale, c.step, tables⟩
    | none => firstExisting rest

def resolve (q : BundleRequest) : Except LocalizationError MessageBundle := do
  match ← firstExisting files q.candidates with
  | some bundle => return bundle
  | none => throw q.notFound

end Uncached

namespace Lookup

/-- From every faithful cache the lookup gives the result, and it leaves a faithful cache. -/
def Computes (sources : List (FixedSource m)) (act : Lookup m α)
    (result : Except LocalizationError α) : Prop :=
  ∀ cache, Faithful sources cache →
    ∃ cache', Faithful sources cache' ∧
      Returns (StateT.run (ExceptT.run act) cache) (result, cache')

variable [LawfulMonad m] {sources : List (FixedSource m)}

theorem firstFound_returns (sources : List (FixedSource m)) (name : String) :
    Returns (firstFound name (sources.map FixedSource.load)) (firstAnswer sources name) := by
  induction sources with
  | nil => exact returns_pure _
  | cons source rest ih =>
    simp only [List.map_cons, firstFound, firstAnswer]
    apply (source.returns name).bind
    cases source.answer name with
    | error e => exact returns_pure _
    | ok found =>
      cases found with
      | none => exact ih
      | some messages => exact returns_pure _

theorem computes_pure (a : α) : Computes sources (pure a : Lookup m α) (pure a) :=
  fun cache h => ⟨cache, h, returns_pure _⟩

theorem computes_throw (e : LocalizationError) :
    Computes sources (throw e : Lookup m α) (throw e) :=
  fun cache h => ⟨cache, h, returns_pure _⟩

theorem Computes.bind {act : Lookup m α} {result : Except LocalizationError α}
    {next : α → Lookup m β} {nextResult : α → Except LocalizationError β}
    (h : Computes sources act result)
    (hnext : ∀ a, Computes sources (next a) (nextResult a)) :
    Computes sources (act >>= next) (result >>= nextResult) := by
  intro cache hcache
  obtain ⟨middle, hmiddle, hact⟩ := h cache hcache
  rw [ExceptT.run_bind, StateT.run_bind]
  cases result with
  | error e => exact ⟨middle, hmiddle, hact.bind (returns_pure _)⟩
  | ok a =>
    obtain ⟨last, hlast, hrest⟩ := hnext a middle hmiddle
    exact ⟨last, hlast, hact.bind hrest⟩

theorem run_get_bind (next : BundleCache → Lookup m α) (cache : BundleCache) :
    StateT.run (ExceptT.run (get >>= next)) cache = StateT.run (ExceptT.run (next cache)) cache := by
  have hget : StateT.run (ExceptT.run (get : Lookup m BundleCache)) cache =
      pure (.ok cache, cache) := by
    show StateT.run (Except.ok <$> (get : StateT BundleCache m BundleCache)) cache = _
    simp
  rw [ExceptT.run_bind, StateT.run_bind, hget, pure_bind]

theorem run_modify_bind (f : BundleCache → BundleCache) (next : PUnit → Lookup m α)
    (cache : BundleCache) :
    StateT.run (ExceptT.run (modify f >>= next)) cache =
      StateT.run (ExceptT.run (next ⟨⟩)) (f cache) := by
  have hmodify : StateT.run (ExceptT.run (modify f : Lookup m PUnit)) cache =
      pure (.ok ⟨⟩, f cache) := by
    show StateT.run (Except.ok <$> (modify f : StateT BundleCache m PUnit)) cache = _
    simp
  rw [ExceptT.run_bind, StateT.run_bind, hmodify, pure_bind]

/-- An answer is kept under its name; a failure leaves the cache as it was. -/
theorem computes_load (name : String) :
    Computes sources (load (sources.map FixedSource.load) name) (firstAnswer sources name) := by
  intro cache hcache
  unfold load
  rw [run_get_bind]
  cases hknown : cache.get? name with
  | some known =>
    rw [hcache name known hknown]
    exact ⟨cache, hcache, returns_pure _⟩
  | none =>
    have hasked : Returns (StateT.run (ExceptT.run (ExceptT.mk (StateT.lift
        (firstFound name (sources.map FixedSource.load))) : Lookup m (Option Messages))) cache)
        (firstAnswer sources name, cache) :=
      (firstFound_returns sources name).bind (returns_pure _)
    dsimp only
    rw [ExceptT.run_bind, StateT.run_bind]
    cases hfound : firstAnswer sources name with
    | error e =>
      rw [hfound] at hasked
      exact ⟨cache, hcache, hasked.bind (returns_pure _)⟩
    | ok found =>
      rw [hfound] at hasked
      refine ⟨cache.insert name found, hcache.insert hfound, hasked.bind ?_⟩
      dsimp only
      rw [run_modify_bind]
      exact returns_pure _

theorem computes_loadAll (base : String) (locales : List Locale) :
    Computes sources (loadAll (sources.map FixedSource.load) base locales)
      (Uncached.loadAll (firstAnswer sources) base locales) := by
  induction locales with
  | nil => exact computes_pure []
  | cons locale rest ih =>
    apply (computes_load (bundleName base locale)).bind
    intro found
    exact ih.bind fun others => computes_pure _

theorem computes_chain (c : Candidate) :
    Computes sources (chain (sources.map FixedSource.load) c)
      (Uncached.chain (firstAnswer sources) c) := by
  apply (computes_load (bundleName c.baseName c.locale)).bind
  intro found
  cases found with
  | none => exact computes_pure none
  | some head => exact (computes_loadAll c.baseName c.locale.parents).bind fun others => computes_pure _

theorem computes_firstExisting (candidates : List Candidate) :
    Computes sources (firstExisting (sources.map FixedSource.load) candidates)
      (Uncached.firstExisting (firstAnswer sources) candidates) := by
  induction candidates with
  | nil => exact computes_pure none
  | cons c rest ih =>
    apply (computes_chain c).bind
    intro tables
    cases tables with
    | none => exact ih
    | some tables => exact computes_pure _

theorem computes_resolve (q : BundleRequest) :
    Computes sources (resolve (sources.map FixedSource.load) q)
      (Uncached.resolve (firstAnswer sources) q) := by
  apply (computes_firstExisting q.candidates).bind
  intro found
  cases found with
  | none => exact computes_throw _
  | some bundle => exact computes_pure bundle

end Lookup

end ObjectValidation
