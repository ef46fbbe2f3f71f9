import Mathlib.Data.List.Basic
import ObjectValidation.Proofs.Bundle.FirstStep

/-!
Requests while files may fail. What a request gives is decided by the first of its candidates whose file is not
absent: it fails if that file or one of its parents cannot be read, and is answered from them otherwise.
-/

namespace ObjectValidation

section

variable {α : Type} {p q : α → Prop} {x y : α} {xs ys : List α}

/-- The turn comes to one of several things, as all before it are passed over. -/
def ComesUp (p : α → Prop) (xs : List α) (x : α) : Prop :=
  ∃ before after, xs = before ++ x :: after ∧ ∀ y ∈ before, p y

theorem not_comesUp_nil : ¬ ComesUp p [] x := by
  rintro ⟨before, after, hsplit, -⟩
  simp at hsplit

theorem comesUp_cons_iff : ComesUp p (y :: ys) x ↔ x = y ∨ p y ∧ ComesUp p ys x := by
  constructor
  · rintro ⟨before, after, hsplit, hbefore⟩
    rcases List.cons_eq_append_iff.1 hsplit with ⟨rfl, hrest⟩ | ⟨before', rfl, hrest⟩
    · cases hrest
      exact .inl rfl
    · obtain ⟨hy, hbefore⟩ := List.forall_mem_cons.1 hbefore
      exact .inr ⟨hy, before', after, hrest, hbefore⟩
  · rintro (rfl | ⟨hy, before, after, rfl, hbefore⟩)
    · exact ⟨[], ys, rfl, by simp⟩
    · exact ⟨y :: before, after, rfl, List.forall_mem_cons.2 ⟨hy, hbefore⟩⟩

theorem comesUp_first : ComesUp p (y :: ys) y := comesUp_cons_iff.2 (.inl rfl)

theorem ComesUp.later (h : ComesUp p ys x) (hy : p y) : ComesUp p (y :: ys) x :=
  comesUp_cons_iff.2 (.inr ⟨hy, h⟩)

theorem comesUp_of_forall (h : ∀ y ∈ xs, p y) (hx : x ∈ xs) : ComesUp p xs x := by
  obtain ⟨before, after, rfl⟩ := List.append_of_mem hx
  exact ⟨before, after, rfl, fun y hy => h y (List.mem_append_left _ hy)⟩

/-- All that is passed over has come up itself, so nothing else has to be known of the condition. -/
theorem ComesUp.congr (h : ComesUp p xs x) (hpq : ∀ y, ComesUp p xs y → p y → q y) : ComesUp q xs x := by
  induction xs with
  | nil => exact absurd h not_comesUp_nil
  | cons y ys ih =>
    rcases comesUp_cons_iff.1 h with rfl | ⟨hy, hx⟩
    · exact comesUp_first
    · have hrest := ih hx fun z hz => hpq z (hz.later hy)
      exact hrest.later (hpq y comesUp_first hy)

theorem forall_or_comesUp (p : α → Prop) (xs : List α) : (∀ x ∈ xs, p x) ∨ ∃ x, ComesUp p xs x ∧ ¬ p x := by
  induction xs with
  | nil => exact .inl (by simp)
  | cons y ys ih =>
    by_cases hy : p y
    · rcases ih with hrest | ⟨x, hx, hnot⟩
      · exact .inl (List.forall_mem_cons.2 ⟨hy, hrest⟩)
      · exact .inr ⟨x, hx.later hy, hnot⟩
    · exact .inr ⟨y, comesUp_first, hy⟩

end

/-- What is known of the files of all names: a table, none, or why that cannot be told. -/
abbrev Files := String → Except LocalizationError (Option Messages)

/-- The names of the parents of a file: that of the language, then that of the root. -/
def Candidate.parentNames (c : Candidate) : List String := c.locale.parents.map (bundleName c.baseName)

namespace Files

def table? (files : Files) (name : String) : Option Messages :=
  match files name with
  | .ok found => found
  | .error _ => none

/-- The file can be read, or there is none. -/
def Readable (files : Files) (name : String) : Prop := ∃ found, files name = .ok found

/-- The first of some files that cannot be read fails with the error. -/
def FailsFirst (files : Files) (names : List String) (e : LocalizationError) : Prop :=
  ∃ name, ComesUp files.Readable names name ∧ files name = .error e

/-- The turn comes to a candidate when the files of all earlier ones are absent. -/
def Reaches (files : Files) : List Candidate → Candidate → Prop :=
  ComesUp fun c => files c.fileName = .ok none

/-- A candidate is reached whose own file cannot be read, or that is there while one of its parents cannot be
read; this is the error of the first file that cannot. -/
def FailsAt (files : Files) (candidates : List Candidate) (e : LocalizationError) : Prop :=
  ∃ c, files.Reaches candidates c ∧
    (files c.fileName = .error e ∨
      (∃ head, files c.fileName = .ok (some head)) ∧ files.FailsFirst c.parentNames e)

/-- The first candidate that is there, with the tables of its parents, all of which can be read. -/
def AnsweredBy (files : Files) (candidates : List Candidate) (b : MessageBundle) : Prop :=
  ∃ c head, files.Reaches candidates c ∧ files c.fileName = .ok (some head) ∧
    (∀ name ∈ c.parentNames, files.Readable name) ∧
    b = ⟨c.baseName, c.locale, c.step, head :: c.parentNames.filterMap files.table?⟩

/-- The names that are read: those of candidates up to the first that is not absent, and those of the parents
of that one up to the first that cannot be read. -/
inductive Reads (files : Files) (candidates : List Candidate) : String → Prop
  | candidate {c : Candidate} (reached : files.Reaches candidates c) : Reads files candidates c.fileName
  | parent {c : Candidate} {head : Messages} {name : String} (reached : files.Reaches candidates c)
      (found : files c.fileName = .ok (some head)) (comesUp : ComesUp files.Readable c.parentNames name) :
      Reads files candidates name

variable {files others : Files} {e : LocalizationError} {candidates : List Candidate}

theorem Reads.later {c : Candidate} {name : String} (h : files.Reads candidates name)
    (hc : files c.fileName = .ok none) : files.Reads (c :: candidates) name := by
  cases h with
  | candidate reached => exact .candidate (reached.later hc)
  | parent reached found comesUp => exact .parent (reached.later hc) found comesUp

theorem reads_cons_iff {c : Candidate} {name : String} :
    files.Reads (c :: candidates) name ↔ name = c.fileName ∨
      (∃ head, files c.fileName = .ok (some head) ∧ ComesUp files.Readable c.parentNames name) ∨
      files c.fileName = .ok none ∧ files.Reads candidates name := by
  constructor
  · rintro (reached | ⟨reached, found, comesUp⟩)
    · rcases comesUp_cons_iff.1 reached with rfl | ⟨habsent, hrest⟩
      · exact .inl rfl
      · exact .inr (.inr ⟨habsent, .candidate hrest⟩)
    · rcases comesUp_cons_iff.1 reached with rfl | ⟨habsent, hrest⟩
      · exact .inr (.inl ⟨_, found, comesUp⟩)
      · exact .inr (.inr ⟨habsent, .parent hrest found comesUp⟩)
  · rintro (rfl | ⟨head, hfound, hname⟩ | ⟨habsent, hrest⟩)
    · exact .candidate comesUp_first
    · exact .parent comesUp_first hfound hname
    · exact hrest.later habsent

theorem readable_or_failsFirst (files : Files) (names : List String) :
    (∀ name ∈ names, files.Readable name) ∨ ∃ e, files.FailsFirst names e := by
  rcases forall_or_comesUp files.Readable names with hreadable | ⟨name, hname, hnot⟩
  · exact .inl hreadable
  · cases hfile : files name with
    | error e => exact .inr ⟨e, name, hname, hfile⟩
    | ok found => exact absurd ⟨found, hfile⟩ hnot

/-- Either all candidates are absent, or the first that is not fails, or it answers. -/
theorem absent_or_failsAt_or_answeredBy (files : Files) (candidates : List Candidate) :
    (∀ c ∈ candidates, files c.fileName = .ok none) ∨ (∃ e, files.FailsAt candidates e) ∨
      ∃ b, files.AnsweredBy candidates b := by
  rcases forall_or_comesUp (fun c : Candidate => files c.fileName = .ok none) candidates with
    habsent | ⟨c, hc, hnot⟩
  · exact .inl habsent
  · cases hfile : files c.fileName with
    | error e => exact .inr (.inl ⟨e, c, hc, .inl hfile⟩)
    | ok found =>
      cases found with
      | none => exact absurd hfile hnot
      | some head =>
        rcases files.readable_or_failsFirst c.parentNames with hreadable | ⟨e, hfails⟩
        · exact .inr (.inr ⟨_, c, head, hc, hfile, hreadable, rfl⟩)
        · exact .inr (.inl ⟨e, c, hc, .inr ⟨⟨head, hfile⟩, hfails⟩⟩)

/-- What a request fails with is what one of the files that it reads fails with. -/
theorem FailsAt.exists_reads (h : files.FailsAt candidates e) :
    ∃ name, files.Reads candidates name ∧ files name = .error e := by
  obtain ⟨c, hc, hown | ⟨⟨head, hfound⟩, name, hname, hfails⟩⟩ := h
  · exact ⟨_, .candidate hc, hown⟩
  · exact ⟨name, .parent hc hfound hname, hfails⟩

/-! Files that agree on the names that are read decide alike. -/

section

variable (hagree : ∀ name, files.Reads candidates name → others name = files name)

include hagree

theorem Reaches.congr {c : Candidate} (h : files.Reaches candidates c) : others.Reaches candidates c :=
  ComesUp.congr h fun _ hreached habsent => (hagree _ (.candidate hreached)).trans habsent

theorem readable_congr {c : Candidate} {head : Messages} {name : String}
    (hc : files.Reaches candidates c) (hfound : files c.fileName = .ok (some head))
    (hname : ComesUp files.Readable c.parentNames name) (h : files.Readable name) : others.Readable name := by
  obtain ⟨found, hfile⟩ := h
  exact ⟨found, (hagree name (.parent hc hfound hname)).trans hfile⟩

theorem FailsAt.congr (h : files.FailsAt candidates e) : others.FailsAt candidates e := by
  obtain ⟨c, hc, hown | ⟨⟨head, hfound⟩, name, hname, hfails⟩⟩ := h
  · refine ⟨c, hc.congr hagree, .inl ?_⟩
    rw [hagree _ (.candidate hc), hown]
  · refine ⟨c, hc.congr hagree, .inr ⟨⟨head, ?_⟩, name, ?_, ?_⟩⟩
    · rw [hagree _ (.candidate hc), hfound]
    · exact hname.congr fun _ => readable_congr hagree hc hfound
    · rw [hagree _ (.parent hc hfound hname), hfails]

theorem AnsweredBy.congr {b : MessageBundle} (h : files.AnsweredBy candidates b) :
    others.AnsweredBy candidates b := by
  obtain ⟨c, head, hc, hfound, hreadable, rfl⟩ := h
  have hparent : ∀ name ∈ c.parentNames, ComesUp files.Readable c.parentNames name := fun _ =>
    comesUp_of_forall hreadable
  refine ⟨c, head, hc.congr hagree, ?_, fun name hname => ?_, ?_⟩
  · rw [hagree _ (.candidate hc), hfound]
  · exact readable_congr hagree hc hfound (hparent name hname) (hreadable name hname)
  · have htables : c.parentNames.filterMap others.table? = c.parentNames.filterMap files.table? := by
      apply List.filterMap_congr
      intro name hname
      rw [table?, table?, hagree name (.parent hc hfound (hparent name hname))]
    rw [htables]

theorem absent_congr (h : ∀ c ∈ candidates, files c.fileName = .ok none) :
    ∀ c ∈ candidates, others c.fileName = .ok none := by
  intro c hc
  rw [hagree _ (.candidate (comesUp_of_forall h hc))]
  exact h c hc

end

end Files

namespace Uncached

open Files

variable {files others : Files} {e : LocalizationError} {candidates : List Candidate}

theorem loadAll_of_readable {base : String} {locales : List Locale}
    (h : ∀ name ∈ locales.map (bundleName base), files.Readable name) :
    loadAll files base locales = .ok ((locales.map (bundleName base)).filterMap files.table?) := by
  induction locales with
  | nil => rfl
  | cons locale rest ih =>
    obtain ⟨⟨found, hfound⟩, hrest⟩ := List.forall_mem_cons.1 h
    have htable : files.table? (bundleName base locale) = found := by rw [table?, hfound]
    rw [loadAll, hfound, ih hrest, List.map_cons, List.filterMap_cons, htable]
    cases found <;> rfl

theorem loadAll_of_failsFirst {base : String} {locales : List Locale}
    (h : files.FailsFirst (locales.map (bundleName base)) e) : loadAll files base locales = .error e := by
  obtain ⟨name, hname, hfails⟩ := h
  induction locales with
  | nil => exact absurd hname not_comesUp_nil
  | cons locale rest ih =>
    rcases comesUp_cons_iff.1 hname with rfl | ⟨⟨found, hfound⟩, hrest⟩
    · rw [loadAll, hfails]
      rfl
    · rw [loadAll, hfound, ih hrest]
      rfl

theorem chain_of_absent {c : Candidate} (h : files c.fileName = .ok none) : chain files c = .ok none := by
  unfold Candidate.fileName at h
  rw [chain, h]
  rfl

theorem chain_of_error {c : Candidate} (h : files c.fileName = .error e) : chain files c = .error e := by
  unfold Candidate.fileName at h
  rw [chain, h]
  rfl

theorem chain_of_found {c : Candidate} {head : Messages} (h : files c.fileName = .ok (some head)) :
    chain files c = (loadAll files c.baseName c.locale.parents).map fun tables => some (head :: tables) := by
  unfold Candidate.fileName at h
  rw [chain, h]
  cases loadAll files c.baseName c.locale.parents <;> rfl

theorem absent_of_chain {c : Candidate} (h : chain files c = .ok none) : files c.fileName = .ok none := by
  cases hfile : files c.fileName with
  | error e =>
    rw [chain_of_error hfile] at h
    cases h
  | ok found =>
    cases found with
    | none => rfl
    | some head =>
      rw [chain_of_found hfile] at h
      cases hparents : loadAll files c.baseName c.locale.parents <;> rw [hparents] at h <;> cases h

theorem firstExisting_of_absent (h : ∀ c ∈ candidates, files c.fileName = .ok none) :
    firstExisting files candidates = .ok none := by
  induction candidates with
  | nil => rfl
  | cons d rest ih =>
    obtain ⟨hd, hrest⟩ := List.forall_mem_cons.1 h
    rw [firstExisting, chain_of_absent hd]
    exact ih hrest

/-- When the turn comes to a candidate that is not absent, the later ones do not matter. -/
theorem firstExisting_of_reaches {c : Candidate} (hc : files.Reaches candidates c)
    (hdecides : chain files c ≠ .ok none) :
    firstExisting files candidates =
      (chain files c).map (Option.map fun tables => ⟨c.baseName, c.locale, c.step, tables⟩) := by
  induction candidates with
  | nil => exact absurd hc not_comesUp_nil
  | cons d rest ih =>
    rcases comesUp_cons_iff.1 hc with rfl | ⟨hd, hrest⟩
    · rw [firstExisting]
      cases hchain : chain files c with
      | error e => rfl
      | ok tables =>
        cases tables with
        | none => exact absurd hchain hdecides
        | some tables => rfl
    · rw [firstExisting, chain_of_absent hd]
      exact ih hrest

variable {q : BundleRequest}

theorem resolve_of_absent (h : ∀ c ∈ q.candidates, files c.fileName = .ok none) :
    resolve files q = .error q.notFound := by
  rw [resolve, firstExisting_of_absent h]
  rfl

theorem resolve_of_failsAt (h : files.FailsAt q.candidates e) : resolve files q = .error e := by
  obtain ⟨c, hc, hfails⟩ := h
  have hchain : chain files c = .error e := by
    rcases hfails with hown | ⟨⟨head, hfound⟩, hparents⟩
    · exact chain_of_error hown
    · rw [chain_of_found hfound, loadAll_of_failsFirst hparents]
      rfl
  rw [resolve, firstExisting_of_reaches hc (by simp [hchain]), hchain]
  rfl

theorem resolve_of_answeredBy {b : MessageBundle} (h : files.AnsweredBy q.candidates b) :
    resolve files q = .ok b := by
  obtain ⟨c, head, hc, hfound, hreadable, rfl⟩ := h
  have hchain : chain files c = .ok (some (head :: c.parentNames.filterMap files.table?)) := by
    rw [chain_of_found hfound, loadAll_of_readable hreadable]
    rfl
  rw [resolve, firstExisting_of_reaches hc (by simp [hchain]), hchain]
  rfl

theorem resolve_eq_error_iff : resolve files q = .error e ↔
    files.FailsAt q.candidates e ∨ e = q.notFound ∧ ∀ c ∈ q.candidates, files c.fileName = .ok none := by
  constructor
  · intro hresolve
    rcases absent_or_failsAt_or_answeredBy files q.candidates with habsent | ⟨e', hfails⟩ | ⟨b, hanswers⟩
    · rw [resolve_of_absent habsent, Except.error.injEq] at hresolve
      exact .inr ⟨hresolve.symm, habsent⟩
    · rw [resolve_of_failsAt hfails, Except.error.injEq] at hresolve
      exact .inl (hresolve ▸ hfails)
    · rw [resolve_of_answeredBy hanswers] at hresolve
      cases hresolve
  · rintro (hfails | ⟨rfl, habsent⟩)
    · exact resolve_of_failsAt hfails
    · exact resolve_of_absent habsent

theorem resolve_eq_ok_iff {b : MessageBundle} :
    resolve files q = .ok b ↔ files.AnsweredBy q.candidates b := by
  constructor
  · intro hresolve
    rcases absent_or_failsAt_or_answeredBy files q.candidates with habsent | ⟨e, hfails⟩ | ⟨b', hanswers⟩
    · rw [resolve_of_absent habsent] at hresolve
      cases hresolve
    · rw [resolve_of_failsAt hfails] at hresolve
      cases hresolve
    · rw [resolve_of_answeredBy hanswers, Except.ok.injEq] at hresolve
      exact hresolve ▸ hanswers
  · exact resolve_of_answeredBy

theorem resolve_congr (hagree : ∀ name, files.Reads q.candidates name → others name = files name) :
    resolve others q = resolve files q := by
  rcases absent_or_failsAt_or_answeredBy files q.candidates with habsent | ⟨e, hfails⟩ | ⟨b, hanswers⟩
  · rw [resolve_of_absent habsent, resolve_of_absent (absent_congr hagree habsent)]
  · rw [resolve_of_failsAt hfails, resolve_of_failsAt (hfails.congr hagree)]
  · rw [resolve_of_answeredBy hanswers, resolve_of_answeredBy (hanswers.congr hagree)]

end Uncached

end ObjectValidation
