import ObjectValidation.Proofs.Bundle.Failure
import Mathlib.Data.List.Nodup

/-!
Lookups over sources that may say something else each time. The transcript of a lookup lists what the sources
were asked for on the way and what they said. Take any files that agree with it and with what was known before:
the lookup gives what it would give if those files never changed, and it has asked for exactly the names that
are then read and were not known.
-/

namespace ObjectValidation

variable {σ α β : Type}

/-- A name that was asked for, and what the sources said of it together. -/
abbrev Reply := String × Except LocalizationError (Option Messages)

/-- The sources are asked for names one after the other, each in the state that the world is in by then. -/
inductive Replies (sources : List (BundleSource (StateM σ))) : σ → List Reply → σ → Prop
  | nil (w : σ) : Replies sources w [] w
  | cons {w middle last : σ} {reply : Reply} {rest : List Reply}
      (first : StateT.run (firstFound reply.1 sources) w = (reply.2, middle))
      (others : Replies sources middle rest last) : Replies sources w (reply :: rest) last

theorem Replies.append {sources : List (BundleSource (StateM σ))} {w middle last : σ}
    {replies others : List Reply} (h : Replies sources w replies middle)
    (hothers : Replies sources middle others last) : Replies sources w (replies ++ others) last := by
  induction h with
  | nil w => exact hothers
  | cons first _ ih => exact .cons first (ih hothers)

/-- The files are as they are known from before, and as the sources have told. -/
structure Files.Agrees (files : Files) (cache : BundleCache) (replies : List Reply) : Prop where
  known : ∀ {name found}, cache.get? name = some found → files name = .ok found
  told : ∀ {name answer}, (name, answer) ∈ replies → files name = answer

theorem Files.Agrees.append_left {files : Files} {cache : BundleCache} {replies others : List Reply}
    (h : files.Agrees cache (replies ++ others)) : files.Agrees cache replies :=
  ⟨h.known, fun hmem => h.told (List.mem_append_left others hmem)⟩

theorem Files.exists_agrees {cache : BundleCache} {replies : List Reply}
    (hnodup : (replies.map Prod.fst).Nodup)
    (hfresh : ∀ {name answer}, (name, answer) ∈ replies → cache.get? name = none) :
    ∃ files : Files, files.Agrees cache replies := by
  refine ⟨fun name => ((cache.get? name).map .ok).getD (((Table.ofList replies).get? name).getD (.ok none)),
    fun {name found} h => ?_, fun {name answer} h => ?_⟩
  · simp [h]
  · simp [hfresh h, Table.get?_ofList_of_mem hnodup h]

namespace Lookup

/-- From a cache and a state of the world, a lookup asks for what is listed and comes to an outcome. Here `rule`
is what the lookup gives when all files stay as they are, and `reads` says which of them it then looks at. -/
structure Transcript (sources : List (BundleSource (StateM σ))) (act : Lookup (StateM σ) α)
    (rule : Files → Except LocalizationError α) (reads : Files → String → Prop) (cache : BundleCache) (w : σ)
    (replies : List Reply) (outcome : Except LocalizationError α) (cache' : BundleCache) (w' : σ) :
    Prop where
  run_eq : StateT.run (StateT.run (ExceptT.run act) cache) w = ((outcome, cache'), w')
  asked : Replies sources w replies w'
  nodup : (replies.map Prod.fst).Nodup
  fresh : ∀ {name answer}, (name, answer) ∈ replies → cache.get? name = none
  /-- What has been told of a name is kept, but not that it could not be told. -/
  kept : ∀ {name found},
    cache'.get? name = some found ↔ cache.get? name = some found ∨ (name, .ok found) ∈ replies
  noFault : ∀ {a name answer}, outcome = .ok a → (name, answer) ∈ replies → ∃ found, answer = .ok found
  outcome_eq : ∀ {files : Files}, files.Agrees cache replies → outcome = rule files
  asked_iff : ∀ {files : Files} (name), files.Agrees cache replies →
    ((∃ answer, (name, answer) ∈ replies) ↔ reads files name ∧ cache.get? name = none)

/-- The lookup has a transcript wherever it starts. -/
def Transcribed (sources : List (BundleSource (StateM σ))) (act : Lookup (StateM σ) α)
    (rule : Files → Except LocalizationError α) (reads : Files → String → Prop) : Prop :=
  ∀ cache w, ∃ replies outcome cache' w',
    Transcript sources act rule reads cache w replies outcome cache' w'

variable {sources : List (BundleSource (StateM σ))} {act : Lookup (StateM σ) α}
  {rule : Files → Except LocalizationError α} {reads : Files → String → Prop} {cache middle last : BundleCache}
  {w w' w'' : σ} {replies others : List Reply}

/-- What changes no state and asks for nothing. -/
theorem transcript_silent {outcome : Except LocalizationError α}
    (hrun : StateT.run (StateT.run (ExceptT.run act) cache) w = ((outcome, cache), w))
    (hrule : ∀ {files : Files}, files.Agrees cache [] → outcome = rule files)
    (hreads : ∀ {files : Files} {name}, reads files name → cache.get? name ≠ none) :
    Transcript sources act rule reads cache w [] outcome cache w where
  run_eq := hrun
  asked := .nil w
  nodup := List.nodup_nil
  fresh h := absurd h List.not_mem_nil
  kept := by simp
  noFault _ h := absurd h List.not_mem_nil
  outcome_eq := hrule
  asked_iff name _ := by simpa using fun hread => hreads hread

theorem transcribed_pure (a : α) :
    Transcribed sources (pure a : Lookup (StateM σ) α) (fun _ => .ok a) fun _ _ => False :=
  fun cache w => ⟨[], .ok a, cache, w, transcript_silent rfl (fun _ => rfl) fun h => h.elim⟩

theorem transcribed_throw (e : LocalizationError) :
    Transcribed sources (throw e : Lookup (StateM σ) α) (fun _ => .error e) fun _ _ => False :=
  fun cache w => ⟨[], .error e, cache, w, transcript_silent rfl (fun _ => rfl) fun h => h.elim⟩

theorem Transcribed.congr {reads' : Files → String → Prop} (h : Transcribed sources act rule reads)
    (hreads : ∀ files name, reads files name ↔ reads' files name) : Transcribed sources act rule reads' := by
  have heq : reads = reads' := funext fun files => funext fun name => propext (hreads files name)
  rwa [← heq]

section

variable {e : LocalizationError} {a : α} {next : α → Lookup (StateM σ) β}
  {nextRule : α → Files → Except LocalizationError β} {nextReads : α → Files → String → Prop}

/-- The names that two lookups look at, one after the other. -/
def readsThen (rule : Files → Except LocalizationError α) (reads : Files → String → Prop)
    (nextReads : α → Files → String → Prop) (files : Files) (name : String) : Prop :=
  reads files name ∨ ∃ a, rule files = .ok a ∧ nextReads a files name

theorem Transcript.bind_error
    (h : Transcript sources act rule reads cache w replies (.error e) middle w') :
    Transcript sources (act >>= next) (fun files => rule files >>= fun a => nextRule a files)
      (readsThen rule reads nextReads) cache w replies (.error e) middle w' where
  run_eq := by
    rw [ExceptT.run_bind, StateT.run_bind, StateT.run_bind, h.run_eq]
    rfl
  asked := h.asked
  nodup := h.nodup
  fresh := h.fresh
  kept := h.kept
  noFault hok := by cases hok
  outcome_eq hagrees := by rw [← h.outcome_eq hagrees]; rfl
  asked_iff name hagrees := by
    rw [h.asked_iff name hagrees, readsThen, ← h.outcome_eq hagrees]
    simp

/-- After a lookup without a fault a name is unknown only if it was so before and has not been asked for. -/
theorem Transcript.unknown_iff (h : Transcript sources act rule reads cache w replies (.ok a) middle w')
    {name : String} :
    middle.get? name = none ↔ cache.get? name = none ∧ ¬ ∃ answer, (name, answer) ∈ replies := by
  simp only [Option.eq_none_iff_forall_ne_some, ne_eq, h.kept, not_or]
  constructor
  · intro hnone
    refine ⟨fun found => (hnone found).1, ?_⟩
    rintro ⟨answer, hmem⟩
    obtain ⟨found, rfl⟩ := h.noFault rfl hmem
    exact (hnone found).2 hmem
  · rintro ⟨hcache, hreplies⟩ found
    exact ⟨hcache found, fun hmem => hreplies ⟨_, hmem⟩⟩

/-- What was told in the first lookup is known in the second. -/
theorem Transcript.agrees_next (h : Transcript sources act rule reads cache w replies (.ok a) middle w')
    {files : Files} (hagrees : files.Agrees cache (replies ++ others)) : files.Agrees middle others := by
  refine ⟨fun hfound => ?_, fun hmem => hagrees.told (List.mem_append_right replies hmem)⟩
  rcases h.kept.mp hfound with hcache | hmem
  · exact hagrees.known hcache
  · exact hagrees.told (List.mem_append_left others hmem)

/-- Since what the first lookup was told is known to the second, no name is asked for twice. -/
theorem Transcript.bind_ok {outcome : Except LocalizationError β}
    (h : Transcript sources act rule reads cache w replies (.ok a) middle w')
    (hnext : Transcript sources (next a) (nextRule a) (nextReads a) middle w' others outcome last w'') :
    Transcript sources (act >>= next) (fun files => rule files >>= fun a => nextRule a files)
      (readsThen rule reads nextReads) cache w (replies ++ others) outcome last w'' where
  run_eq := by
    rw [ExceptT.run_bind, StateT.run_bind, StateT.run_bind, h.run_eq]
    exact hnext.run_eq
  asked := h.asked.append hnext.asked
  nodup := by
    rw [List.map_append, List.nodup_append]
    refine ⟨h.nodup, hnext.nodup, fun name hname other hother heq => ?_⟩
    obtain ⟨reply, hreply, rfl⟩ := List.mem_map.mp hname
    obtain ⟨later, hlater, rfl⟩ := List.mem_map.mp hother
    exact (h.unknown_iff.mp (hnext.fresh hlater)).2 ⟨reply.2, heq ▸ hreply⟩
  fresh hmem := by
    rcases List.mem_append.mp hmem with hmem | hmem
    · exact h.fresh hmem
    · exact (h.unknown_iff.mp (hnext.fresh hmem)).1
  kept {name found} := by rw [hnext.kept, h.kept, List.mem_append, or_assoc]
  noFault hok hmem := by
    rcases List.mem_append.mp hmem with hmem | hmem
    · exact h.noFault rfl hmem
    · exact hnext.noFault hok hmem
  outcome_eq hagrees := by
    rw [← h.outcome_eq hagrees.append_left]
    exact hnext.outcome_eq (h.agrees_next hagrees)
  asked_iff {files} name hagrees := by
    have hfirst := h.asked_iff name hagrees.append_left
    have hrest := hnext.asked_iff name (h.agrees_next hagrees)
    have hreads : readsThen rule reads nextReads files name ↔ reads files name ∨ nextReads a files name := by
      simp [readsThen, ← h.outcome_eq hagrees.append_left]
    rw [h.unknown_iff] at hrest
    simp only [List.mem_append, exists_or]
    rw [hreads, hrest, hfirst]
    grind

theorem Transcribed.bind (nextReads : α → Files → String → Prop) (h : Transcribed sources act rule reads)
    (hnext : ∀ a, Transcribed sources (next a) (nextRule a) (nextReads a)) :
    Transcribed sources (act >>= next) (fun files => rule files >>= fun a => nextRule a files)
      (readsThen rule reads nextReads) := by
  intro cache w
  obtain ⟨replies, outcome, middle, w', hfirst⟩ := h cache w
  cases outcome with
  | error e => exact ⟨replies, .error e, middle, w', hfirst.bind_error⟩
  | ok a =>
    obtain ⟨others, outcome, last, w'', hrest⟩ := hnext a middle w'
    exact ⟨replies ++ others, outcome, last, w'', hfirst.bind_ok hrest⟩

end

/-- What is known after an answer. -/
def keep (cache : BundleCache) (reply : Reply) : BundleCache :=
  match reply.2 with
  | .ok found => cache.insert reply.1 found
  | .error _ => cache

theorem get?_keep {reply : Reply} (hunknown : cache.get? reply.1 = none) {name : String}
    {found : Option Messages} :
    (keep cache reply).get? name = some found ↔ cache.get? name = some found ∨ (name, .ok found) = reply := by
  obtain ⟨asked, answer⟩ := reply
  cases answer with
  | error e => simp [keep]
  | ok told =>
    by_cases hname : name = asked
    · subst hname
      simp only at hunknown
      simp [keep, hunknown, eq_comm]
    · simp [keep, Table.get?_insert_of_ne _ _ _ _ hname, hname]

theorem run_load_known {name : String} {found : Option Messages} (h : cache.get? name = some found) (w : σ) :
    StateT.run (StateT.run (ExceptT.run (load sources name)) cache) w = ((.ok found, cache), w) := by
  unfold load
  rw [run_get_bind, h]
  rfl

theorem run_load_unknown {name : String} {answer : Except LocalizationError (Option Messages)}
    (h : cache.get? name = none) (hasked : StateT.run (firstFound name sources) w = (answer, w')) :
    StateT.run (StateT.run (ExceptT.run (load sources name)) cache) w =
      ((answer, keep cache (name, answer)), w') := by
  have htold : StateT.run (StateT.run (ExceptT.run (ExceptT.mk (StateT.lift (firstFound name sources)) :
      Lookup (StateM σ) (Option Messages))) cache) w = ((answer, cache), w') := by
    show StateT.run (firstFound name sources >>= fun answer => pure (answer, cache)) w = _
    rw [StateT.run_bind, hasked]
    rfl
  unfold load
  rw [run_get_bind, h]
  dsimp only
  rw [ExceptT.run_bind, StateT.run_bind, StateT.run_bind, htold]
  cases answer <;> rfl

theorem transcript_asked {name : String} {answer : Except LocalizationError (Option Messages)}
    (hunknown : cache.get? name = none) (hasked : StateT.run (firstFound name sources) w = (answer, w')) :
    Transcript sources (load sources name) (fun files => files name) (fun _ read => read = name) cache w
      [(name, answer)] answer (keep cache (name, answer)) w' where
  run_eq := run_load_unknown hunknown hasked
  asked := .cons hasked (.nil w')
  nodup := by simp
  fresh hmem := by
    obtain ⟨rfl, -⟩ := Prod.mk.inj (List.mem_singleton.mp hmem)
    exact hunknown
  kept {other found} := by rw [get?_keep hunknown, List.mem_singleton]
  noFault hok hmem := by
    obtain ⟨-, rfl⟩ := Prod.mk.inj (List.mem_singleton.mp hmem)
    exact ⟨_, hok⟩
  outcome_eq hagrees := (hagrees.told (List.mem_singleton_self _)).symm
  asked_iff other _ := by
    simp only [List.mem_singleton, Prod.mk.injEq, exists_and_left, exists_eq, and_true]
    exact ⟨fun hother => ⟨hother, hother ▸ hunknown⟩, And.left⟩

theorem transcribed_load (name : String) :
    Transcribed sources (load sources name) (fun files => files name) fun _ read => read = name := by
  intro cache w
  cases hcache : cache.get? name with
  | some found =>
    refine ⟨[], .ok found, cache, w, transcript_silent (run_load_known hcache w) ?_ ?_⟩
    · intro files hagrees
      exact (hagrees.known hcache).symm
    · rintro files _ rfl
      simp [hcache]
  | none =>
    obtain ⟨⟨answer, w'⟩, hasked⟩ : ∃ told, StateT.run (firstFound name sources) w = told := ⟨_, rfl⟩
    exact ⟨_, _, _, _, transcript_asked hcache hasked⟩

theorem transcribed_loadAll (base : String) (locales : List Locale) :
    Transcribed sources (loadAll sources base locales) (fun files => Uncached.loadAll files base locales)
      fun files => ComesUp files.Readable (locales.map (bundleName base)) := by
  induction locales with
  | nil => exact (transcribed_pure []).congr fun files name => by simp [not_comesUp_nil]
  | cons locale rest ih =>
    refine Transcribed.congr ((transcribed_load (bundleName base locale)).bind _ fun found =>
      ih.bind _ fun others => transcribed_pure _) fun files name => ?_
    rw [List.map_cons, comesUp_cons_iff]
    simp [readsThen, Files.Readable]

theorem transcribed_chain (c : Candidate) :
    Transcribed sources (chain sources c) (fun files => Uncached.chain files c) fun files name =>
      name = c.fileName ∨
        ∃ head, files c.fileName = .ok (some head) ∧ ComesUp files.Readable c.parentNames name := by
  let parentReads (found : Option Messages) (files : Files) (name : String) : Prop :=
    found.isSome ∧ ComesUp files.Readable c.parentNames name
  refine Transcribed.congr ((transcribed_load c.fileName).bind parentReads fun found => ?_) fun files name => ?_
  · cases found with
    | none => exact (transcribed_pure none).congr fun files name => by simp [parentReads]
    | some head =>
      exact ((transcribed_loadAll c.baseName c.locale.parents).bind _ fun tables =>
        transcribed_pure _).congr fun files name => by simp [readsThen, parentReads, Candidate.parentNames]
  · refine or_congr_right ⟨?_, ?_⟩
    · rintro ⟨found, hfound, hsome, hparent⟩
      obtain ⟨head, rfl⟩ := Option.isSome_iff_exists.mp hsome
      exact ⟨head, hfound, hparent⟩
    · rintro ⟨head, hfound, hparent⟩
      exact ⟨some head, hfound, rfl, hparent⟩

theorem transcribed_firstExisting (candidates : List Candidate) :
    Transcribed sources (firstExisting sources candidates)
      (fun files => Uncached.firstExisting files candidates) fun files => files.Reads candidates := by
  induction candidates with
  | nil =>
    refine (transcribed_pure none).congr fun files name => ?_
    rw [false_iff]
    rintro (reached | ⟨reached, -, -⟩) <;> exact not_comesUp_nil reached
  | cons c rest ih =>
    let restReads (tables : Option (List Messages)) (files : Files) (name : String) : Prop :=
      tables = none ∧ files.Reads rest name
    refine Transcribed.congr ((transcribed_chain c).bind restReads fun tables => ?_) fun files name => ?_
    · cases tables with
      | none => exact ih.congr fun files name => by simp [restReads]
      | some tables => exact (transcribed_pure _).congr fun files name => by simp [restReads]
    · rw [Files.reads_cons_iff, ← or_assoc]
      refine or_congr_right ⟨?_, ?_⟩
      · rintro ⟨_, hchain, rfl, hrest⟩
        exact ⟨Uncached.absent_of_chain hchain, hrest⟩
      · rintro ⟨habsent, hrest⟩
        exact ⟨none, Uncached.chain_of_absent habsent, rfl, hrest⟩

theorem transcribed_resolve (q : BundleRequest) :
    Transcribed sources (resolve sources q) (fun files => Uncached.resolve files q)
      fun files => files.Reads q.candidates := by
  refine Transcribed.congr ((transcribed_firstExisting q.candidates).bind (fun _ _ _ => False)
    fun found => ?_) fun files name => by simp [readsThen]
  cases found with
  | none => exact transcribed_throw _
  | some bundle => exact transcribed_pure bundle

end Lookup

end ObjectValidation
