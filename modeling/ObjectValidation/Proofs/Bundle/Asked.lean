import ObjectValidation.Bundle.Resolver
import ObjectValidation.Proofs.Locale.FileName
import ObjectValidation.Proofs.Returns

/-!
What sources are asked for. Whatever they answer and whatever is known already, a request asks for the files
of its candidates and of their parents alone, and for locales as they can be made those are names of one of
the two bases, with a plain suffix or none.
-/

namespace ObjectValidation

variable {m : Type → Type} [Monad m] {α β : Type}

/-- A source that notes each name it is asked for, before it answers. -/
def BundleSource.noted (source : BundleSource m) : BundleSource (StateT (List String) m) := fun name => do
  modify fun asked => asked ++ [name]
  source name

namespace Lookup

/-- All names that are noted on the way have the property, also when the lookup fails. -/
def AsksOnly (P : String → Prop) (act : Lookup (StateT (List String) m) α) : Prop :=
  ∀ cache asked, (∀ name ∈ asked, P name) →
    Ensures (StateT.run (StateT.run (ExceptT.run act) cache) asked) fun outcome => ∀ name ∈ outcome.2, P name

variable [LawfulMonad m] {P : String → Prop} {sources : List (BundleSource m)}

theorem asksOnly_pure (a : α) : AsksOnly P (pure a : Lookup (StateT (List String) m) α) :=
  fun _ _ h => ensures_pure h

theorem asksOnly_throw (e : LocalizationError) :
    AsksOnly P (throw e : Lookup (StateT (List String) m) α) :=
  fun _ _ h => ensures_pure h

theorem AsksOnly.bind {act : Lookup (StateT (List String) m) α}
    {next : α → Lookup (StateT (List String) m) β} (h : AsksOnly P act)
    (hnext : ∀ a, AsksOnly P (next a)) : AsksOnly P (act >>= next) := by
  intro cache asked hasked
  rw [ExceptT.run_bind, StateT.run_bind, StateT.run_bind]
  apply (h cache asked hasked).bind
  rintro ⟨⟨result, middle⟩, asked'⟩ hasked'
  cases result with
  | error e => exact ensures_pure hasked'
  | ok a => exact hnext a middle asked' hasked'

theorem asksOnly_get : AsksOnly P (get : Lookup (StateT (List String) m) BundleCache) := by
  intro cache asked hasked
  have hget : StateT.run (StateT.run (ExceptT.run (get : Lookup (StateT (List String) m) BundleCache))
      cache) asked = pure ((.ok cache, cache), asked) := by
    show StateT.run (StateT.run (Except.ok <$> (get : StateT BundleCache (StateT (List String) m)
      BundleCache)) cache) asked = _
    simp
  rw [hget]
  exact ensures_pure hasked

theorem asksOnly_modify (f : BundleCache → BundleCache) :
    AsksOnly P (modify f : Lookup (StateT (List String) m) PUnit) := by
  intro cache asked hasked
  have hmodify : StateT.run (StateT.run (ExceptT.run (modify f : Lookup (StateT (List String) m) PUnit))
      cache) asked = pure ((.ok ⟨⟩, f cache), asked) := by
    show StateT.run (StateT.run (Except.ok <$> (modify f : StateT BundleCache (StateT (List String) m)
      PUnit)) cache) asked = _
    simp
  rw [hmodify]
  exact ensures_pure hasked

/-- A name is asked for as it is, of as many sources as it takes. -/
theorem firstFound_asks {name : String} (hname : P name) (sources : List (BundleSource m))
    (asked : List String) (hasked : ∀ n ∈ asked, P n) :
    Ensures (StateT.run (firstFound name (sources.map BundleSource.noted)) asked)
      fun outcome => ∀ n ∈ outcome.2, P n := by
  induction sources generalizing asked with
  | nil => exact ensures_pure hasked
  | cons source rest ih =>
    have hnoted : ∀ n ∈ asked ++ [name], P n := by
      intro n hn
      rcases List.mem_append.1 hn with hn | hn
      · exact hasked n hn
      · exact List.mem_singleton.1 hn ▸ hname
    have hsource : StateT.run (BundleSource.noted source name) asked =
        (fun answer => (answer, asked ++ [name])) <$> source name := by
      simp [BundleSource.noted]
    have hfirst : Ensures (StateT.run (BundleSource.noted source name) asked)
        fun outcome => ∀ n ∈ outcome.2, P n := by
      rw [hsource]
      exact (ensures_true (source name)).map fun _ _ => hnoted
    rw [List.map_cons, firstFound, StateT.run_bind]
    apply hfirst.bind
    rintro ⟨answer, asked'⟩ hasked'
    cases answer with
    | error e => exact ensures_pure hasked'
    | ok found =>
      cases found with
      | none => exact ih asked' hasked'
      | some messages => exact ensures_pure hasked'

theorem asksOnly_load {name : String} (hname : P name) :
    AsksOnly P (load (sources.map BundleSource.noted) name) := by
  unfold load
  apply asksOnly_get.bind
  intro cache
  cases cache.get? name with
  | some known => exact asksOnly_pure known
  | none =>
    have hasks : AsksOnly P (ExceptT.mk (StateT.lift (firstFound name (sources.map BundleSource.noted)))) := by
      intro cache asked hasked
      have hrun : StateT.run (StateT.run (ExceptT.run (ExceptT.mk (StateT.lift
          (firstFound name (sources.map BundleSource.noted))) :
            Lookup (StateT (List String) m) (Option Messages))) cache) asked =
          (fun outcome => ((outcome.1, cache), outcome.2)) <$>
            StateT.run (firstFound name (sources.map BundleSource.noted)) asked := by
        show StateT.run (firstFound name (sources.map BundleSource.noted) >>= fun a => pure (a, cache)) asked = _
        rw [StateT.run_bind, map_eq_pure_bind]
        rfl
      rw [hrun]
      exact (firstFound_asks hname sources asked hasked).map fun _ h => h
    exact hasks.bind fun found => (asksOnly_modify _).bind fun _ => asksOnly_pure found

theorem asksOnly_loadAll {base : String} {locales : List Locale}
    (h : ∀ locale ∈ locales, P (bundleName base locale)) :
    AsksOnly P (loadAll (sources.map BundleSource.noted) base locales) := by
  induction locales with
  | nil => exact asksOnly_pure []
  | cons locale rest ih =>
    obtain ⟨hlocale, hrest⟩ := List.forall_mem_cons.1 h
    exact (asksOnly_load hlocale).bind fun found => (ih hrest).bind fun others => asksOnly_pure _

theorem asksOnly_chain {c : Candidate}
    (h : ∀ locale ∈ c.locale :: c.locale.parents, P (bundleName c.baseName locale)) :
    AsksOnly P (chain (sources.map BundleSource.noted) c) := by
  obtain ⟨hlocale, hparents⟩ := List.forall_mem_cons.1 h
  apply (asksOnly_load hlocale).bind
  intro found
  cases found with
  | none => exact asksOnly_pure none
  | some head => exact (asksOnly_loadAll hparents).bind fun others => asksOnly_pure _

theorem asksOnly_firstExisting {candidates : List Candidate}
    (h : ∀ c ∈ candidates, ∀ locale ∈ c.locale :: c.locale.parents, P (bundleName c.baseName locale)) :
    AsksOnly P (firstExisting (sources.map BundleSource.noted) candidates) := by
  induction candidates with
  | nil => exact asksOnly_pure none
  | cons c rest ih =>
    obtain ⟨hc, hrest⟩ := List.forall_mem_cons.1 h
    apply (asksOnly_chain hc).bind
    intro tables
    cases tables with
    | none => exact ih hrest
    | some tables => exact asksOnly_pure _

theorem asksOnly_resolve {q : BundleRequest} (h : ∀ c ∈ q.candidates,
    ∀ locale ∈ c.locale :: c.locale.parents, P (bundleName c.baseName locale)) :
    AsksOnly P (resolve (sources.map BundleSource.noted) q) := by
  apply (asksOnly_firstExisting h).bind
  intro found
  cases found with
  | none => exact asksOnly_throw _
  | some bundle => exact asksOnly_pure bundle

end Lookup

namespace BundleRequest

/-- One of the two bases, as it is or with the suffix of a locale. The suffix has letters, digits and
underscores only. -/
def MayAsk (q : BundleRequest) (name : String) : Prop :=
  ∃ suffix, LocaleSuffix suffix ∧ (∀ c ∈ suffix, c = '_' ∨ c.isAlphanum) ∧
    (name = q.baseName ++ String.ofList suffix ∨ name = q.fallbackBaseName ++ String.ofList suffix)

theorem mayAsk_of_candidate {q : BundleRequest} (hlocale : q.locale.Constructed)
    (hdefault : q.defaultLocale.Constructed) {c : Candidate} (hc : c ∈ q.candidates) {locale : Locale}
    (hmem : locale ∈ c.locale :: c.locale.parents) : q.MayAsk (bundleName c.baseName locale) := by
  obtain ⟨hbase, hfile⟩ := ofFile_candidate hlocale hdefault hc
  have hlocaleFile : locale.OfFile := by
    rcases List.mem_cons.1 hmem with rfl | hparent
    · exact hfile
    · exact hfile.parents locale hparent
  obtain ⟨suffix, hsuffix, hname⟩ := hlocaleFile.exists_suffix
  refine ⟨suffix, hsuffix, hsuffix.plain, ?_⟩
  rw [hname]
  rcases hbase with hbase | hbase
  · exact .inl (by rw [hbase])
  · exact .inr (by rw [hbase])

end BundleRequest

/-- Whatever the sources do and whatever is known already, a request with locales of any origin asks for nothing
but its two bases, as they are or with an underscore and a language code after them, and maybe another
underscore and a country code. -/
theorem BundleResolver.resolve_asksFor [LawfulMonad m] (sources : List (BundleSource m)) (cache : BundleCache)
    (q : BundleRequest) (hlocale : q.locale.Constructed) (hdefault : q.defaultLocale.Constructed) :
    Ensures (StateT.run (StateT.run (BundleResolver.resolve q)
        { sources := sources.map BundleSource.noted, cache }) [])
      fun outcome => ∀ name ∈ outcome.2, q.MayAsk name := by
  have hasks : Lookup.AsksOnly q.MayAsk (Lookup.resolve (sources.map BundleSource.noted) q) :=
    Lookup.asksOnly_resolve fun c hc locale hmem =>
      BundleRequest.mayAsk_of_candidate hlocale hdefault hc hmem
  have hlookup := hasks cache [] (by simp)
  have hrun : StateT.run (StateT.run (BundleResolver.resolve q)
      { sources := sources.map BundleSource.noted, cache }) [] =
    (StateT.run (StateT.run (ExceptT.run (Lookup.resolve (sources.map BundleSource.noted) q)) cache) [] >>=
      fun outcome => pure ((outcome.1.1,
        { sources := sources.map BundleSource.noted, cache := outcome.1.2 }), outcome.2)) := rfl
  rw [hrun]
  exact hlookup.bind fun outcome hnames => ensures_pure hnames

/-- Neither part of the first locale can be used; what is odd about the tag of the second is cut off. -/
def pathLike : BundleRequest := ⟨"app", .new "../../etc" "passwd/..", "lib", .parse " De-at.UTF-8/../x"⟩

def rootOnly : BundleSource Id := .memory (.ofList [("lib", .empty)])

theorem resolve_asksFor_pathLike :
    pathLike.locale.Constructed ∧ pathLike.defaultLocale.Constructed ∧
      ∃ asked, Prod.snd (Id.run (StateT.run (StateT.run (BundleResolver.resolve pathLike)
          { sources := [rootOnly.noted] }) [])) = asked ∧
        asked = ["app_de_AT", "app_de", "app", "lib_de_AT", "lib_de", "lib"] ∧
        ∀ name ∈ asked, pathLike.MayAsk name := by
  have hlocale : pathLike.locale.Constructed := .new "../../etc" "passwd/.."
  have hdefault : pathLike.defaultLocale.Constructed := .parse " De-at.UTF-8/../x"
  have hasked := (BundleResolver.resolve_asksFor [rootOnly] .empty pathLike hlocale hdefault).of_id
  exact ⟨hlocale, hdefault, _, rfl, rfl, hasked⟩

end ObjectValidation
