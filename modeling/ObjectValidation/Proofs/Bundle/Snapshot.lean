import ObjectValidation.Proofs.Bundle.Transcript

/-!
Histories of a resolver in a changing world. What the sources say may be another thing each time. What they once
could say of a name is used until all that is known is emptied; a name of which they could not say anything is
asked for again.
-/

namespace ObjectValidation

inductive Happening (σ : Type) where
  | addSource (source : BundleSource (StateM σ))
  | clearCache
  | resolve (q : BundleRequest)
  /-- The world changes while nobody asks. -/
  | change (next : σ → σ)

/-- What matters of a history later: when all that was known was emptied, and which requests were answered, with
what the sources were asked for on the way. -/
inductive Episode where
  | emptied
  | answered (q : BundleRequest) (replies : List Reply) (outcome : Except LocalizationError MessageBundle)

/-- From a resolver and a state of the world, a history goes through these episodes. -/
inductive Unfolds {σ : Type} : BundleResolver (StateM σ) → σ → List (Happening σ) → List Episode →
    BundleResolver (StateM σ) → σ → Prop
  | nil (r : BundleResolver (StateM σ)) (w : σ) : Unfolds r w [] [] r w
  | addSource {r r' : BundleResolver (StateM σ)} {w w' : σ} {source : BundleSource (StateM σ)}
      {history : List (Happening σ)} {episodes : List Episode}
      (rest : Unfolds (r.addSource source) w history episodes r' w') :
      Unfolds r w (.addSource source :: history) (.emptied :: episodes) r' w'
  | clearCache {r r' : BundleResolver (StateM σ)} {w w' : σ} {history : List (Happening σ)}
      {episodes : List Episode} (rest : Unfolds r.clearCache w history episodes r' w') :
      Unfolds r w (.clearCache :: history) (.emptied :: episodes) r' w'
  | resolve {r middle r' : BundleResolver (StateM σ)} {w between w' : σ} {q : BundleRequest}
      {replies : List Reply} {outcome : Except LocalizationError MessageBundle}
      {history : List (Happening σ)} {episodes : List Episode}
      (run : StateT.run (StateT.run (BundleResolver.resolve q) r) w = ((outcome, middle), between))
      (asked : Replies r.sources w replies between)
      (rest : Unfolds middle between history episodes r' w') :
      Unfolds r w (.resolve q :: history) (.answered q replies outcome :: episodes) r' w'
  | change {r r' : BundleResolver (StateM σ)} {w w' : σ} {next : σ → σ} {history : List (Happening σ)}
      {episodes : List Episode} (rest : Unfolds r (next w) history episodes r' w') :
      Unfolds r w (.change next :: history) episodes r' w'

/-- Since everything was emptied last, the sources have told a table of the name, or that there is none. -/
def Settled (earlier : List Episode) (name : String) (found : Option Messages) : Prop :=
  ∃ before since, earlier = before ++ since ∧ .emptied ∉ since ∧
    ∃ q replies outcome, .answered q replies outcome ∈ since ∧ (name, .ok found) ∈ replies

/-- A request is answered from files that are as they were told earlier, where that is settled. For each other
name that is read, the sources are asked just once, and what they say now is used. -/
structure TakenFrom (files : Files) (earlier : List Episode) (q : BundleRequest) (replies : List Reply)
    (outcome : Except LocalizationError MessageBundle) : Prop where
  settled : ∀ {name found}, Settled earlier name found → files name = .ok found
  nodup : (replies.map Prod.fst).Nodup
  mem_replies_iff : ∀ {name answer}, (name, answer) ∈ replies ↔
    files.Reads q.candidates name ∧ (∀ found, ¬ Settled earlier name found) ∧ files name = answer
  ok_iff : ∀ {b}, outcome = .ok b ↔ files.AnsweredBy q.candidates b
  error_iff : ∀ {e}, outcome = .error e ↔
    files.FailsAt q.candidates e ∨ e = q.notFound ∧ ∀ c ∈ q.candidates, files c.fileName = .ok none
  /-- A failure is what the sources say now, never what they said to an earlier request. -/
  fault : ∀ {e}, outcome = .error e → e = q.notFound ∨ ∃ name, (name, .error e) ∈ replies

variable {σ : Type}

theorem Unfolds.append {r middle last : BundleResolver (StateM σ)} {w w' w'' : σ}
    {history more : List (Happening σ)} {episodes others : List Episode}
    (h : Unfolds r w history episodes middle w') (hmore : Unfolds middle w' more others last w'') :
    Unfolds r w (history ++ more) (episodes ++ others) last w'' := by
  induction h with
  | nil => exact hmore
  | addSource _ ih => exact .addSource (ih hmore)
  | clearCache _ ih => exact .clearCache (ih hmore)
  | resolve run asked _ ih => exact .resolve run asked (ih hmore)
  | change _ ih => exact .change (ih hmore)

section

variable {earlier : List Episode} {name : String} {found : Option Messages}

theorem not_settled_nil : ¬ Settled [] name found := by
  rintro ⟨before, since, hsplit, -, q, replies, outcome, hmem, -⟩
  rw [(List.append_eq_nil_iff.mp hsplit.symm).2] at hmem
  cases hmem

theorem not_settled_emptied : ¬ Settled (earlier ++ [.emptied]) name found := by
  rintro ⟨before, since, hsplit, hkept, q, replies, outcome, hmem, -⟩
  rcases List.eq_nil_or_concat since with rfl | ⟨since, last, rfl⟩
  · cases hmem
  · rw [List.concat_eq_append, ← List.append_assoc] at hsplit
    have hlast : [Episode.emptied] = [last] := (List.append_inj' hsplit rfl).2
    simp [← (List.cons.inj hlast).1] at hkept

theorem settled_answered_iff {q : BundleRequest} {replies : List Reply}
    {outcome : Except LocalizationError MessageBundle} :
    Settled (earlier ++ [.answered q replies outcome]) name found ↔
      Settled earlier name found ∨ (name, .ok found) ∈ replies := by
  constructor
  · rintro ⟨before, since, hsplit, hkept, q', replies', outcome', hmem, htold⟩
    rcases List.eq_nil_or_concat since with rfl | ⟨since, last, rfl⟩
    · cases hmem
    · rw [List.concat_eq_append] at hsplit hkept hmem
      rw [← List.append_assoc] at hsplit
      obtain ⟨hearlier, hlast⟩ := List.append_inj' hsplit rfl
      obtain rfl := (List.cons.inj hlast).1
      rcases List.mem_append.mp hmem with hmem | hmem
      · refine .inl ⟨before, since, hearlier, fun hemptied => ?_, q', replies', outcome', hmem, htold⟩
        exact hkept (List.mem_append_left _ hemptied)
      · obtain ⟨rfl, rfl, rfl⟩ := Episode.answered.inj (List.mem_singleton.mp hmem)
        exact .inr htold
  · rintro (⟨before, since, rfl, hkept, q', replies', outcome', hmem, htold⟩ | htold)
    · refine ⟨before, since ++ [.answered q replies outcome], by simp, by simp [hkept],
        q', replies', outcome', List.mem_append_left _ hmem, htold⟩
    · exact ⟨earlier, [.answered q replies outcome], rfl, by simp, q, replies, outcome,
        List.mem_singleton_self _, htold⟩

end

/-- Every request among the episodes is answered from one state of the files. -/
def AllTaken (earlier episodes : List Episode) : Prop :=
  ∀ before q replies outcome later, episodes = before ++ .answered q replies outcome :: later →
    ∃ files, TakenFrom files (earlier ++ before) q replies outcome

theorem AllTaken.emptied {earlier episodes : List Episode} (h : AllTaken (earlier ++ [.emptied]) episodes) :
    AllTaken earlier (.emptied :: episodes) := by
  intro before q replies outcome later hsplit
  rcases List.cons_eq_append_iff.mp hsplit with ⟨-, hnow⟩ | ⟨before, rfl, hrest⟩
  · cases hnow
  · simpa using h before q replies outcome later hrest

theorem AllTaken.answered {earlier episodes : List Episode} {q : BundleRequest} {replies : List Reply}
    {outcome : Except LocalizationError MessageBundle} {files : Files}
    (hnow : TakenFrom files earlier q replies outcome)
    (h : AllTaken (earlier ++ [.answered q replies outcome]) episodes) :
    AllTaken earlier (.answered q replies outcome :: episodes) := by
  intro before q' replies' outcome' later hsplit
  rcases List.cons_eq_append_iff.mp hsplit with ⟨rfl, hfirst⟩ | ⟨before, rfl, hrest⟩
  · obtain ⟨hfirst, -⟩ := List.cons.inj hfirst
    obtain ⟨rfl, rfl, rfl⟩ := Episode.answered.inj hfirst
    exact ⟨files, by simpa using hnow⟩
  · simpa using h before q' replies' outcome' later hrest

namespace BundleResolver

/-- The resolver knows what is settled, and nothing else. -/
def Remembers (r : BundleResolver (StateM σ)) (earlier : List Episode) : Prop :=
  ∀ name found, r.cache.get? name = some found ↔ Settled earlier name found

theorem remembers_new (sources : List (BundleSource (StateM σ))) : Remembers { sources } [] := by
  intro name found
  simp [not_settled_nil]

theorem remembers_emptied {r : BundleResolver (StateM σ)} (hcache : r.cache = .empty) (earlier : List Episode) :
    r.Remembers (earlier ++ [.emptied]) := by
  intro name found
  simp [hcache, not_settled_emptied]

theorem Remembers.get?_eq_none_iff {r : BundleResolver (StateM σ)} {earlier : List Episode}
    (h : r.Remembers earlier) {name : String} :
    r.cache.get? name = none ↔ ∀ found, ¬ Settled earlier name found := by
  simp only [Option.eq_none_iff_forall_ne_some, ne_eq, h name]

/-- Whatever a request was told, there are files that agree with it and with all that is settled. -/
theorem Remembers.takenFrom {r : BundleResolver (StateM σ)} {earlier : List Episode} (h : r.Remembers earlier)
    {q : BundleRequest} {w w' : σ} {replies : List Reply} {outcome : Except LocalizationError MessageBundle}
    {cache : BundleCache}
    (transcript : Lookup.Transcript r.sources (Lookup.resolve r.sources q) (fun files => Uncached.resolve files q)
      (fun files => files.Reads q.candidates) r.cache w replies outcome cache w') :
    ∃ files, TakenFrom files earlier q replies outcome := by
  obtain ⟨files, hagrees⟩ := Files.exists_agrees transcript.nodup transcript.fresh
  have hresolve := transcript.outcome_eq hagrees
  have hsettled {name found} (hsettled : Settled earlier name found) : files name = .ok found :=
    hagrees.known ((h name found).mpr hsettled)
  have hreplies {name answer} : (name, answer) ∈ replies ↔
      files.Reads q.candidates name ∧ (∀ found, ¬ Settled earlier name found) ∧ files name = answer := by
    rw [← h.get?_eq_none_iff, ← and_assoc, ← transcript.asked_iff name hagrees]
    constructor
    · intro hmem
      exact ⟨⟨answer, hmem⟩, hagrees.told hmem⟩
    · rintro ⟨⟨answer', hmem⟩, rfl⟩
      rwa [hagrees.told hmem]
  refine ⟨files, hsettled, transcript.nodup, hreplies, ?_, ?_, fun {e} herror => ?_⟩
  · rw [hresolve]
    exact Uncached.resolve_eq_ok_iff
  · rw [hresolve]
    exact Uncached.resolve_eq_error_iff
  · rcases Uncached.resolve_eq_error_iff.mp (hresolve ▸ herror) with hfails | ⟨rfl, -⟩
    · obtain ⟨name, hread, hfile⟩ := hfails.exists_reads
      -- What is settled is no failure, so the name has been asked for just now.
      refine .inr ⟨name, hreplies.mpr ⟨hread, fun found hfound => ?_, hfile⟩⟩
      cases hfile.symm.trans (hsettled hfound)
    · exact .inl rfl

/-- A request is answered from one state of the files, and what it was told is remembered. -/
theorem Remembers.resolve {r : BundleResolver (StateM σ)} {earlier : List Episode} (h : r.Remembers earlier)
    (w : σ) (q : BundleRequest) :
    ∃ replies outcome middle between,
      StateT.run (StateT.run (BundleResolver.resolve q) r) w = ((outcome, middle), between) ∧
      Replies r.sources w replies between ∧
      middle.Remembers (earlier ++ [.answered q replies outcome]) ∧
      ∃ files, TakenFrom files earlier q replies outcome := by
  obtain ⟨replies, outcome, cache, between, transcript⟩ := Lookup.transcribed_resolve q r.cache w
  refine ⟨replies, outcome, { r with cache }, between, ?_, transcript.asked, ?_, h.takenFrom transcript⟩
  · have hresolve : StateT.run (BundleResolver.resolve q) r = (do
        let told ← StateT.run (ExceptT.run (Lookup.resolve r.sources q)) r.cache
        return (told.1, { r with cache := told.2 })) := rfl
    rw [hresolve, StateT.run_bind, transcript.run_eq]
    rfl
  · intro name found
    rw [settled_answered_iff, ← h name found]
    exact transcript.kept

theorem Remembers.unfolds {r : BundleResolver (StateM σ)} {earlier : List Episode} (h : r.Remembers earlier)
    (w : σ) (history : List (Happening σ)) :
    ∃ episodes r' w', Unfolds r w history episodes r' w' ∧ r'.Remembers (earlier ++ episodes) ∧
      AllTaken earlier episodes := by
  induction history generalizing r earlier w with
  | nil => exact ⟨[], r, w, .nil r w, by simpa using h, fun before q replies outcome later => by simp⟩
  | cons happening rest ih =>
    cases happening with
    | addSource source =>
      have hemptied : (r.addSource source).Remembers (earlier ++ [.emptied]) := remembers_emptied rfl earlier
      obtain ⟨episodes, r', w', hrest, hremembers, htaken⟩ := ih hemptied w
      exact ⟨_, r', w', .addSource hrest, by simpa using hremembers, htaken.emptied⟩
    | clearCache =>
      have hemptied : r.clearCache.Remembers (earlier ++ [.emptied]) := remembers_emptied rfl earlier
      obtain ⟨episodes, r', w', hrest, hremembers, htaken⟩ := ih hemptied w
      exact ⟨_, r', w', .clearCache hrest, by simpa using hremembers, htaken.emptied⟩
    | resolve q =>
      obtain ⟨replies, outcome, middle, between, hrun, hasked, hmiddle, files, hfiles⟩ := h.resolve w q
      obtain ⟨episodes, r', w', hrest, hremembers, htaken⟩ := ih hmiddle between
      exact ⟨_, r', w', .resolve hrun hasked hrest, by simpa using hremembers, htaken.answered hfiles⟩
    | change next =>
      obtain ⟨episodes, r', w', hrest, hremembers, htaken⟩ := ih h (next w)
      exact ⟨episodes, r', w', .change hrest, hremembers, htaken⟩

/-- Whatever the sources say and however that changes, what they have told of a name is what every request goes
by until all that is known is emptied, and what they could not tell is asked of them again. What requests have
been answered with stays as it is, whatever happens later. -/
theorem unfolds_snapshot (sources : List (BundleSource (StateM σ))) (w : σ) (history : List (Happening σ)) :
    ∃ episodes r w', Unfolds { sources } w history episodes r w' ∧
      (∀ earlier q replies outcome later, episodes = earlier ++ .answered q replies outcome :: later →
        ∃ files, TakenFrom files earlier q replies outcome) ∧
      ∀ more, ∃ others r' w'', Unfolds { sources } w (history ++ more) (episodes ++ others) r' w'' := by
  obtain ⟨episodes, r, w', hunfolds, hremembers, htaken⟩ := (remembers_new sources).unfolds w history
  refine ⟨episodes, r, w', hunfolds, htaken, fun more => ?_⟩
  obtain ⟨others, r', w'', hmore, -, -⟩ := hremembers.unfolds w' more
  exact ⟨others, r', w'', hunfolds.append hmore⟩

end BundleResolver

/-- A source that fails when it is asked for the first time. -/
def recovering : BundleSource (StateM Nat) := fun name => do
  let asked ← getModify (· + 1)
  return if asked = 0 then .error (.invalidBundle name) else .ok (some germanTable)

example :
    let requests : StateT (BundleResolver (StateM Nat)) (StateM Nat) _ := do
      let first ← BundleResolver.resolve (appRequest "de" "")
      let second ← BundleResolver.resolve (appRequest "de" "")
      return (first, second)
    (Id.run (StateT.run (StateT.run requests { sources := [recovering] }) 0)).1.1 =
      (.error (.invalidBundle "app_de"),
        .ok ⟨"app", ⟨"de", ""⟩, .language, [germanTable, germanTable]⟩) := rfl

end ObjectValidation
