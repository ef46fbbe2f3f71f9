import ObjectValidation.Proofs.Bundle.Keys
import ObjectValidation.Proofs.Collection.FirstOccurrence

/-!
Resolvers that get more sources, and resolvers with the same sources in another order. With more sources every
request that had an answer still has one, from the same place or an earlier one, and a file that is found again
keeps what it had. Sources may change places with their neighbours as long as they have no file in common.
-/

namespace ObjectValidation

variable {m : Type → Type} [Monad m] {sources more : List (FixedSource m)}

theorem isThere_append (sources more : List (FixedSource m)) (name : String) :
    isThere (sources ++ more) name = (isThere sources name || isThere more name) :=
  List.any_append

/-- A source that comes later does not change a file that is there already. -/
theorem firstTable_append_of_some {name : String} {file : Messages} (h : firstTable sources name = some file)
    (more : List (FixedSource m)) : firstTable (sources ++ more) name = some file := by
  unfold firstTable at h ⊢
  rw [List.findSome?_append, h, Option.some_or]

/-- Two sources between which order does not matter: no file is in both. -/
def FixedSource.ShareNothing (a b : FixedSource m) : Prop := ∀ name, a.table? name = none ∨ b.table? name = none

theorem firstTable_swap {a b : FixedSource m} (h : a.ShareNothing b) (front back : List (FixedSource m)) :
    firstTable (front ++ a :: b :: back) = firstTable (front ++ b :: a :: back) := by
  funext name
  simp only [firstTable, List.findSome?_append, List.findSome?_cons]
  rcases h name with ha | hb
  · rw [ha]
  · rw [hb]

namespace BundleRequest

/-- The answer comes from the first candidate whose file exists. -/
theorem firstPlace_eq_ok_iff {q : BundleRequest} {b : MessageBundle} :
    q.firstPlace sources = .ok b ↔
      ∃ c, q.candidates.find? (fun c => isThere sources c.fileName) = some c ∧
        b = ⟨c.baseName, c.locale, c.step, Uncached.tables (firstTable sources) c⟩ := by
  rw [firstPlace, find?_candidates]
  cases q.places.find? fun p => p.usable && isThere sources p.file.fileName <;> simp [eq_comm]

theorem firstPlace_congr {sources' : List (FixedSource m)} (h : firstTable sources = firstTable sources')
    (q : BundleRequest) : q.firstPlace sources = q.firstPlace sources' := by
  have hthere : isThere sources = isThere sources' :=
    funext fun name => by rw [← isSome_firstTable, h, isSome_firstTable]
  rw [firstPlace, hthere, h, firstPlace]

end BundleRequest

/-- The candidate that a bundle was found for. -/
def MessageBundle.candidate (b : MessageBundle) : Candidate := ⟨b.step, b.baseName, b.locale⟩

/-- What is found for a candidate begins with the candidate's own file. -/
theorem head?_tables {c : Candidate} {file : Messages} (h : firstTable sources c.fileName = some file) :
    (Uncached.tables (firstTable sources) c).head? = some file := by
  rw [Candidate.fileName] at h
  rw [Uncached.tables, List.filterMap_cons, h, List.head?_cons]

theorem MessageBundle.getMessage_of_head? {b : MessageBundle} {file : Messages} (h : b.chain.head? = some file)
    {key template : String} (hkey : file.get? key = some template) : b.getMessage key = .ok template := by
  obtain ⟨rest, hchain⟩ := List.head?_eq_some_iff.1 h
  rw [getMessage_eq_ok_iff, get?, hchain, List.findSome?_cons, hkey]

/-- A request that is answered is answered with more sources too, from no later candidate, and the same file is
found the same. -/
theorem exists_firstPlace_append {q : BundleRequest} {b : MessageBundle} (h : q.firstPlace sources = .ok b)
    (more : List (FixedSource m)) :
    ∃ b', q.firstPlace (sources ++ more) = .ok b' ∧
      b.candidate ∈ q.candidates ∧ b'.candidate ∈ q.candidates ∧
      q.candidates.idxOf b'.candidate ≤ q.candidates.idxOf b.candidate ∧
      (b'.baseName = b.baseName → b'.locale = b.locale →
        ∃ file, b.chain.head? = some file ∧ b'.chain.head? = some file) := by
  obtain ⟨c, hfirst, rfl⟩ := BundleRequest.firstPlace_eq_ok_iff.1 h
  have hmem := List.mem_of_find?_eq_some hfirst
  have hthere : isThere sources c.fileName = true :=
    List.find?_some (p := fun c : Candidate => isThere sources c.fileName) hfirst
  have hstill : isThere (sources ++ more) c.fileName = true := by rw [isThere_append, hthere, Bool.true_or]
  have hsome : (q.candidates.find? fun c => isThere (sources ++ more) c.fileName).isSome :=
    List.find?_isSome.2 ⟨c, hmem, hstill⟩
  obtain ⟨c', hfirst'⟩ := Option.isSome_iff_exists.1 hsome
  refine ⟨_, BundleRequest.firstPlace_eq_ok_iff.2 ⟨c', hfirst', rfl⟩, hmem, List.mem_of_find?_eq_some hfirst',
    idxOf_le_of_find? hfirst' hmem hstill, fun hbase hlocale => ?_⟩
  have hname : c'.fileName = c.fileName := by
    simp only at hbase hlocale
    rw [Candidate.fileName, hbase, hlocale, ← Candidate.fileName]
  rw [← isSome_firstTable] at hthere
  obtain ⟨file, hfile⟩ := Option.isSome_iff_exists.1 hthere
  have hfile' := firstTable_append_of_some hfile more
  rw [← hname] at hfile'
  exact ⟨file, head?_tables hfile, head?_tables hfile'⟩

namespace Operation

theorem sourcesAfterAll_append (sources : List (FixedSource m)) (history later : List (Operation m)) :
    sourcesAfterAll sources (history ++ later) = sourcesAfterAll (sourcesAfterAll sources history) later := by
  induction history generalizing sources with
  | nil => rfl
  | cons operation rest ih => exact ih (operation.sourcesAfter sources)

/-- Operations take no source away and put none in front. -/
theorem exists_sourcesAfterAll_eq (sources : List (FixedSource m)) (history : List (Operation m)) :
    ∃ more, sourcesAfterAll sources history = sources ++ more := by
  induction history generalizing sources with
  | nil => exact ⟨[], (List.append_nil _).symm⟩
  | cons operation rest ih =>
    obtain ⟨more, hmore⟩ := ih (operation.sourcesAfter sources)
    cases operation with
    | addSource source => exact ⟨source :: more, hmore.trans (List.append_assoc sources [source] more)⟩
    | clearCache => exact ⟨more, hmore⟩
    | resolve q => exact ⟨more, hmore⟩

variable [LawfulMonad m]

/-- Whatever a resolver did before and does besides, adding sources that do not fail keeps the answers to all
requests that had one: they come from the same candidate or from one that is tried earlier, and where the base
and the locale stay, every template of the file that was found stays. Resolvers whose sources differ in the order
of two neighbours that have no file in common answer all requests alike. -/
theorem resolve_monotone :
    (∀ (history later : List (Operation m)) (q : BundleRequest),
      ErrorFree (sourcesAfterAll [] (history ++ later)) →
      let before := q.firstPlace (sourcesAfterAll [] history)
      let after := q.firstPlace (sourcesAfterAll [] (history ++ later))
      Returns (StateT.run' (do let _ ← performAll history; BundleResolver.resolve q) {}) before ∧
      Returns (StateT.run' (do let _ ← performAll (history ++ later); BundleResolver.resolve q) {}) after ∧
      ∀ b, before = .ok b → ∃ b', after = .ok b' ∧
        b.candidate ∈ q.candidates ∧ b'.candidate ∈ q.candidates ∧
        q.candidates.idxOf b'.candidate ≤ q.candidates.idxOf b.candidate ∧
        (b'.baseName = b.baseName → b'.locale = b.locale →
          ∃ file, b.chain.head? = some file ∧ b'.chain.head? = some file ∧
            ∀ key template, file.get? key = some template →
              b.getMessage key = .ok template ∧ b'.getMessage key = .ok template)) ∧
    ∀ (history history' : List (Operation m)) (front back : List (FixedSource m)) (a b : FixedSource m),
      sourcesAfterAll [] history = front ++ a :: b :: back →
      sourcesAfterAll [] history' = front ++ b :: a :: back →
      ErrorFree (front ++ a :: b :: back) → a.ShareNothing b →
      ∀ q : BundleRequest, ∃ outcome,
        Returns (StateT.run' (do let _ ← performAll history; BundleResolver.resolve q) {}) outcome ∧
        Returns (StateT.run' (do let _ ← performAll history'; BundleResolver.resolve q) {}) outcome := by
  constructor
  · intro history later q herrors before after
    obtain ⟨more, hmore⟩ := exists_sourcesAfterAll_eq (sourcesAfterAll [] history) later
    rw [← sourcesAfterAll_append] at hmore
    have herrors' : ErrorFree (sourcesAfterAll [] history) := by
      intro source hsource
      apply herrors source
      rw [hmore]
      exact List.mem_append_left _ hsource
    refine ⟨returns_firstPlace history q herrors', returns_firstPlace (history ++ later) q herrors, ?_⟩
    intro b hb
    obtain ⟨b', hb', hmem, hmem', hearlier, hfile⟩ := exists_firstPlace_append hb more
    refine ⟨b', ?_, hmem, hmem', hearlier, fun hbase hlocale => ?_⟩
    · rw [← hb', ← hmore]
    · obtain ⟨file, hhead, hhead'⟩ := hfile hbase hlocale
      refine ⟨file, hhead, hhead', fun key template hkey => ?_⟩
      exact ⟨MessageBundle.getMessage_of_head? hhead hkey, MessageBundle.getMessage_of_head? hhead' hkey⟩
  · intro history history' front back a b hsources hsources' herrors hshare q
    have herrors' : ErrorFree (front ++ b :: a :: back) := by
      intro source hsource
      apply herrors source
      simp only [List.mem_append, List.mem_cons] at hsource ⊢
      tauto
    refine ⟨q.firstPlace (front ++ a :: b :: back), ?_, ?_⟩
    · rw [← hsources] at herrors ⊢
      exact returns_firstPlace history q herrors
    · rw [BundleRequest.firstPlace_congr (firstTable_swap hshare front back)]
      rw [← hsources'] at herrors' ⊢
      exact returns_firstPlace history' q herrors'

end Operation

def oldFrench : FixedSource (StateM (List String)) :=
  .noting fun name => .ok (if name = "lib_fr" then some (.ofList [("k", "vieux")]) else none)

def newFrench : FixedSource (StateM (List String)) :=
  .noting fun name => .ok (if name = "lib_fr" ∨ name = "app_fr" then some (.ofList [("k", "neuf")]) else none)

def frenchRequest (base : String) : BundleRequest := ⟨base, ⟨"fr", "FR"⟩, "lib", .root⟩

/-- The new files come after requests that missed one of them and found the other. -/
theorem resolve_monotone_french :
    let history : List (Operation (StateM (List String))) :=
      [.addSource germanFile, .addSource oldFrench, .resolve (frenchRequest "app")]
    let history' : List (Operation (StateM (List String))) := [.addSource oldFrench, .addSource germanFile]
    let later : List (Operation (StateM (List String))) := [.clearCache, .addSource newFrench]
    let sources := Operation.sourcesAfterAll [] (history ++ later)
    ErrorFree sources ∧ germanFile.ShareNothing oldFrench ∧
      (∃ b, (frenchRequest "app").firstPlace sources = .ok b ∧
        b.baseName = "app" ∧ b.getMessage "k" = .ok "neuf") ∧
      (∃ b, (frenchRequest "lib").firstPlace sources = .ok b ∧
        b.baseName = "lib" ∧ b.getMessage "k" = .ok "vieux") ∧
      ∃ outcome,
        Returns (StateT.run' (do
          let _ ← Operation.performAll history
          BundleResolver.resolve (frenchRequest "it")) {}) outcome ∧
        Returns (StateT.run' (do
          let _ ← Operation.performAll history'
          BundleResolver.resolve (frenchRequest "it")) {}) outcome := by
  intro history history' later sources
  have hfixed {answer : String → Option Messages} {name : String} {e : LocalizationError} :
      (FixedSource.noting fun name => .ok (answer name)).answer name ≠ .error e := nofun
  have herrors : ErrorFree [germanFile, oldFrench, newFrench] := by
    intro source hsource name e
    have hmem : source = germanFile ∨ source = oldFrench ∨ source = newFrench := by simpa using hsource
    rcases hmem with rfl | rfl | rfl <;> exact hfixed
  have hshare : germanFile.ShareNothing oldFrench := by
    intro name
    by_cases hname : name = "lib_fr"
    · subst hname
      exact .inl rfl
    · exact .inr (if_neg hname)
  obtain ⟨hmore, hswap⟩ := Operation.resolve_monotone (m := StateM (List String))
  obtain ⟨-, -, happ⟩ := hmore history later (frenchRequest "app") herrors
  obtain ⟨-, -, hlib⟩ := hmore history later (frenchRequest "lib") herrors
  obtain ⟨outcome, houtcome⟩ := hswap history history' [] [] germanFile oldFrench rfl rfl
    (fun source hsource => herrors source (List.mem_append_left [newFrench] hsource)) hshare (frenchRequest "it")
  refine ⟨herrors, hshare, ?_, ?_, outcome, houtcome⟩
  · obtain ⟨b', hb', -⟩ := happ _ rfl
    cases hb'
    exact ⟨_, rfl, rfl, rfl⟩
  · obtain ⟨b', hb', -, -, -, hkeeps⟩ := hlib _ rfl
    cases hb'
    obtain ⟨file, hhead, -, hkey⟩ := hkeeps rfl rfl
    cases hhead
    exact ⟨_, rfl, rfl, (hkey "k" "vieux" rfl).2⟩

end ObjectValidation
