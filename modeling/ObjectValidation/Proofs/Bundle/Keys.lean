import ObjectValidation.Proofs.Bundle.Failure
import ObjectValidation.Proofs.Locale.FileName

/-!
Looking up keys in a bundle that was found. The bundle stands for the files of its base from its locale upwards:
the country's, the language's and the root file, each as the first source has it. The first of them that is
there and has the key gives the template, and nothing else is looked at.
-/

namespace ObjectValidation

variable {m : Type → Type} [Monad m]

/-- The names of the files of a base from a locale upwards. -/
def Locale.fileNames (base : String) (l : Locale) : List String :=
  (if l.country = "" then [] else [base ++ "_" ++ l.language ++ "_" ++ l.country]) ++
    (if l.language = "" then [] else [base ++ "_" ++ l.language]) ++ [base]

def MessageBundle.fileNames (b : MessageBundle) : List String := b.locale.fileNames b.baseName

/-- A file of this name is in none of the sources, or the one that counts does not have the key. -/
def Lacks (sources : List (FixedSource m)) (key name : String) : Prop :=
  ∀ table, firstTable sources name = some table → table.get? key = none

/-- The first of these files that is there and has the key has the template under it. -/
def Stored (sources : List (FixedSource m)) (names : List String) (key template : String) : Prop :=
  ∃ name table, ComesUp (Lacks sources key) names name ∧ firstTable sources name = some table ∧
    table.get? key = some template

section

variable {sources : List (FixedSource m)} {names : List String} {key template : String}

theorem lacks_iff {name : String} :
    Lacks sources key name ↔ ((firstTable sources name).bind fun table => table.get? key) = none := by
  unfold Lacks
  cases firstTable sources name <;> simp

theorem findSome?_tables (f : Messages → Option String) :
    (names.filterMap (firstTable sources)).findSome? f = names.findSome? fun name => (firstTable sources name).bind f := by
  rw [← List.head?_filterMap, List.filterMap_filterMap, List.head?_filterMap]

theorem findSome?_eq_some_iff_stored :
    (names.filterMap (firstTable sources)).findSome? (fun table => table.get? key) = some template ↔
      Stored sources names key template := by
  rw [findSome?_tables, List.findSome?_eq_some_iff]
  constructor
  · rintro ⟨before, name, after, hsplit, hname, hbefore⟩
    obtain ⟨table, htable, hget⟩ := Option.bind_eq_some_iff.1 hname
    exact ⟨name, table, ⟨before, after, hsplit, fun other hother => lacks_iff.2 (hbefore other hother)⟩,
      htable, hget⟩
  · rintro ⟨name, table, ⟨before, after, hsplit, hbefore⟩, htable, hget⟩
    refine ⟨before, name, after, hsplit, ?_, fun other hother => lacks_iff.1 (hbefore other hother)⟩
    rw [htable, Option.bind_some, hget]

theorem findSome?_eq_none_iff_lacks :
    (names.filterMap (firstTable sources)).findSome? (fun table => table.get? key) = none ↔
      ∀ name ∈ names, Lacks sources key name := by
  rw [findSome?_tables, List.findSome?_eq_none_iff]
  exact forall₂_congr fun name _ => lacks_iff.symm

end

/-- The files that a bundle is put together from have the locale and its more general ones in their names. -/
theorem Locale.OfFile.fileNames_eq {l : Locale} (h : l.OfFile) (base : String) :
    (l :: l.parents).map (bundleName base) = l.fileNames base := by
  cases h with
  | root => simp [fileNames, Locale.parents, bundleName, Locale.root, isRoot]
  | @language language hl =>
    have hne : language ≠ "" := by simpa using hl.isEmpty_eq
    simp [fileNames, Locale.parents, bundleName, isRoot, tag, hl.isEmpty_eq, hne, Locale.root]
  | @country language country hl hc =>
    have hne : language ≠ "" := by simpa using hl.isEmpty_eq
    have hne' : country ≠ "" := by simpa using hc.isEmpty_eq
    have hparent : (⟨language, country⟩ : Locale).withoutCountry = ⟨language, ""⟩ := withoutCountry_eq hl
    simp [fileNames, Locale.parents, bundleName, isRoot, tag, hl.isEmpty_eq, hc.isEmpty_eq, hne, hne', hparent,
      Locale.root, String.append_assoc]

/-- A request that is answered is answered by one of its candidates, from the file and its parents. -/
theorem exists_candidate_of_firstPlace {q : BundleRequest} {sources : List (FixedSource m)} {b : MessageBundle}
    (h : q.firstPlace sources = .ok b) :
    ∃ c ∈ q.candidates, isThere sources c.fileName ∧
      b = ⟨c.baseName, c.locale, c.step, Uncached.tables (firstTable sources) c⟩ := by
  unfold BundleRequest.firstPlace at h
  split at h
  · next usable c hfirst =>
    have hfound := List.find?_some hfirst
    rw [Bool.and_eq_true] at hfound
    refine ⟨c, ?_, hfound.2, (Except.ok.inj h).symm⟩
    rw [q.candidates_eq]
    exact List.mem_map_of_mem (List.mem_filter.2 ⟨List.mem_of_find?_eq_some hfirst, hfound.1⟩)
  · cases h

theorem chain_eq_of_firstPlace {q : BundleRequest} {sources : List (FixedSource m)} {b : MessageBundle}
    (hlocale : q.locale.Constructed) (hdefault : q.defaultLocale.Constructed)
    (h : q.firstPlace sources = .ok b) : b.chain = b.fileNames.filterMap (firstTable sources) := by
  obtain ⟨c, hc, -, rfl⟩ := exists_candidate_of_firstPlace h
  have hfile := (BundleRequest.ofFile_candidate hlocale hdefault hc).2
  rw [MessageBundle.fileNames, ← hfile.fileNames_eq, List.filterMap_map]
  rfl

namespace MessageBundle

variable {b : MessageBundle} {key : String}

theorem getMessage_eq_ok_iff {template : String} :
    b.getMessage key = .ok template ↔ b.get? key = some template := by
  unfold getMessage
  cases b.get? key <;> simp

theorem getMessage_eq_error_iff {e : LocalizationError} :
    b.getMessage key = .error e ↔ e = .missingMessage key b.baseName b.locale ∧ b.get? key = none := by
  unfold getMessage
  cases b.get? key <;> simp [eq_comm]

theorem contains_eq : b.contains key = (b.get? key).isSome := List.isSome_findSome?.symm

end MessageBundle

namespace Operation

variable [LawfulMonad m]

theorem returns_firstPlace (history : List (Operation m)) (q : BundleRequest)
    (h : ErrorFree (sourcesAfterAll [] history)) :
    Returns (StateT.run' (do let _ ← performAll history; BundleResolver.resolve q) {})
      (q.firstPlace (sourcesAfterAll [] history)) := by
  obtain ⟨r, htracks, hhistory⟩ := performAll_tracks history (BundleResolver.tracks_new [])
  obtain ⟨r', -, hresolve⟩ := htracks.resolve q
  rw [h.resolve_eq] at hresolve
  have hboth : Returns (StateT.run (do let _ ← performAll history; BundleResolver.resolve q) {})
      (q.firstPlace (sourcesAfterAll [] history), r') := by
    rw [StateT.run_bind]
    exact hhistory.bind hresolve
  exact hboth.map Prod.fst

/-- Whatever a resolver did before, the bundle that it finds gives for a key the template of the first of its
files that is there and has the key. The key is contained exactly if there is such a file, and otherwise the
error names the key and the file that was found, whatever other files have the key. -/
theorem getMessage_stored (history : List (Operation m)) (q : BundleRequest)
    (h : ErrorFree (sourcesAfterAll [] history)) (hlocale : q.locale.Constructed)
    (hdefault : q.defaultLocale.Constructed) :
    let sources := sourcesAfterAll [] history
    Returns (StateT.run' (do let _ ← performAll history; BundleResolver.resolve q) {}) (q.firstPlace sources) ∧
    ∀ b, q.firstPlace sources = .ok b →
      (∃ name ∈ b.fileNames.head?, isThere sources name) ∧
      ∀ key,
        (∀ template, b.getMessage key = .ok template ↔ Stored sources b.fileNames key template) ∧
        (b.contains key = true ↔ ∃ template, b.getMessage key = .ok template) ∧
        ∀ e, b.getMessage key = .error e ↔
          e = .missingMessage key b.baseName b.locale ∧ ∀ name ∈ b.fileNames, Lacks sources key name := by
  intro sources
  refine ⟨returns_firstPlace history q h, fun b hfound => ⟨?_, fun key => ⟨fun template => ?_, ?_, fun e => ?_⟩⟩⟩
  · obtain ⟨c, hc, hthere, rfl⟩ := exists_candidate_of_firstPlace hfound
    have hfile := (BundleRequest.ofFile_candidate hlocale hdefault hc).2
    refine ⟨c.fileName, ?_, hthere⟩
    rw [MessageBundle.fileNames, ← hfile.fileNames_eq]
    rfl
  · rw [MessageBundle.getMessage_eq_ok_iff, MessageBundle.get?, chain_eq_of_firstPlace hlocale hdefault hfound]
    exact findSome?_eq_some_iff_stored
  · rw [MessageBundle.contains_eq, Option.isSome_iff_exists]
    exact exists_congr fun template => MessageBundle.getMessage_eq_ok_iff.symm
  · rw [MessageBundle.getMessage_eq_error_iff, MessageBundle.get?,
      chain_eq_of_firstPlace hlocale hdefault hfound]
    exact and_congr_right fun _ => findSome?_eq_none_iff_lacks

end Operation

/-- The first source hides the German file of the second, but not its root file. -/
def hidingSource : FixedSource (StateM (List String)) :=
  .noting fun name => .ok (if name = "app_de_DE" then some (.ofList [("one", "eins")]) else none)

def hiddenSource : FixedSource (StateM (List String)) :=
  .noting fun name => .ok (
    if name = "app_de_DE" then some (.ofList [("two", "zwei"), ("three", "drei")])
    else if name = "app" then some (.ofList [("two", "second"), ("one", "first")])
    else if name = "lib_de_DE" then some (.ofList [("three", "dritte")])
    else none)

def germanRequest : BundleRequest := ⟨"app", .new "DE" "de", "lib", .root⟩

theorem getMessage_stored_hidden :
    let history : List (Operation (StateM (List String))) := [.addSource hidingSource, .addSource hiddenSource]
    ErrorFree (Operation.sourcesAfterAll [] history) ∧
    germanRequest.locale.Constructed ∧ germanRequest.defaultLocale.Constructed ∧
    ∃ b, germanRequest.firstPlace (Operation.sourcesAfterAll [] history) = .ok b ∧
      b.fileNames = ["app_de_DE", "app_de", "app"] ∧
      b.getMessage "two" = .ok "second" ∧
      b.getMessage "three" = .error (.missingMessage "three" "app" ⟨"de", "DE"⟩) := by
  intro history
  have herrors : ErrorFree (Operation.sourcesAfterAll [] history) := by
    intro source hsource name e hfails
    have hmem : source = hidingSource ∨ source = hiddenSource := by
      simpa [history, Operation.sourcesAfterAll, Operation.sourcesAfter] using hsource
    rcases hmem with rfl | rfl <;> cases hfails
  have hlocale : germanRequest.locale.Constructed := .new "DE" "de"
  have hplace : germanRequest.firstPlace (Operation.sourcesAfterAll [] history) =
      .ok ⟨"app", ⟨"de", "DE"⟩, .exactLocale,
        [.ofList [("one", "eins")], .ofList [("two", "second"), ("one", "first")]]⟩ := rfl
  obtain ⟨-, hkeys⟩ := Operation.getMessage_stored history germanRequest herrors hlocale .root
  obtain ⟨-, hkey⟩ := hkeys _ hplace
  refine ⟨herrors, hlocale, .root, _, hplace, rfl, (hkey "two").1 "second" |>.2 ?_, (hkey "three").2.2 _ |>.2 ?_⟩
  · refine ⟨"app", _, ⟨["app_de_DE", "app_de"], [], rfl, ?_⟩, rfl, rfl⟩
    intro name hname
    rcases hname with _ | ⟨_, _ | ⟨_, hname⟩⟩
    · rintro table ⟨⟩
      rfl
    · rintro table ⟨⟩
    · cases hname
  · refine ⟨rfl, fun name hname => ?_⟩
    rcases hname with _ | ⟨_, _ | ⟨_, _ | ⟨_, hname⟩⟩⟩
    · rintro table ⟨⟩
      rfl
    · rintro table ⟨⟩
    · rintro table ⟨⟩
      rfl
    · cases hname

end ObjectValidation
