import ObjectValidation.Proofs.Regex.Reading.Class

/-!
Reading a pattern in front of what closes a group around it. It is read as it is on its own, with its groups moved,
and what follows is left; only where the pattern ends in a comment is nothing left.
-/

namespace ObjectValidation.Regex

namespace Opening

/-- What follows the beginning of a group. -/
def rest : Opening → List Char
  | group _ _ rest => rest
  | flags _ rest => rest

def goOn (later : List Char) : Opening → Opening
  | group capturing inner rest => group capturing inner (rest ++ later)
  | flags inner rest => flags inner (rest ++ later)

end Opening

section

variable {later : List Char} {flags : Flags} {s rest : List Char} {c : Char} {o : Opening}

theorem groupName_append (h : groupName flags s = some o) (later : List Char) :
    o.rest <:+ s ∧ groupName flags (s ++ later) = some (o.goOn later) := by
  unfold groupName at h
  simp only at h
  split at h
  · next d name after hname hdrop =>
    obtain ⟨hsuffix, htake, hdrop'⟩ := run_append hdrop later
    split at h
    · next hd =>
      cases h
      refine ⟨(List.suffix_cons _ _).trans hsuffix, ?_⟩
      simp only [groupName, htake, hdrop']
      simp only [hname, if_pos hd, Opening.goOn]
    · cases h
  · cases h

/-- Reads switches of flags after the question mark in front of them. -/
def switched (flags : Flags) (s : List Char) : Option Opening :=
  match s.drop (s.takeWhile fun c => c != ':' && c != ')').length with
  | ':' :: rest => do
    return .group false (← flags.switch? (s.takeWhile fun c => c != ':' && c != ')')) rest
  | ')' :: rest =>
    if (s.takeWhile fun c => c != ':' && c != ')').isEmpty then none
    else do return .flags (← flags.switch? (s.takeWhile fun c => c != ':' && c != ')')) rest
  | _ => none

theorem switched_append (h : switched flags s = some o) (later : List Char) :
    o.rest <:+ s ∧ switched flags (s ++ later) = some (o.goOn later) := by
  unfold switched at h
  split at h
  · next after hdrop =>
    obtain ⟨hsuffix, htake, hdrop'⟩ := run_append hdrop later
    simp only [switched, htake, hdrop', Option.bind_eq_bind, Option.bind_eq_some_iff, Option.pure_def,
      Option.some.injEq] at h ⊢
    obtain ⟨set, hset, rfl⟩ := h
    exact ⟨(List.suffix_cons _ after).trans hsuffix, set, hset, rfl⟩
  · next after hdrop =>
    obtain ⟨hsuffix, htake, hdrop'⟩ := run_append hdrop later
    split at h
    · cases h
    · next hempty =>
      simp only [switched, htake, hdrop', if_neg hempty, Option.bind_eq_bind, Option.bind_eq_some_iff,
        Option.pure_def, Option.some.injEq] at h ⊢
      obtain ⟨set, hset, rfl⟩ := h
      exact ⟨(List.suffix_cons _ after).trans hsuffix, set, hset, rfl⟩
  · cases h

theorem opening_append (hlater : Closes later) (h : opening flags s = some o) (hne : skipSpace flags s ≠ []) :
    o.rest <:+ s ∧ opening flags (s ++ later) = some (o.goOn later) := by
  unfold opening at h ⊢
  cases hspace : skipSpace flags s with
  | nil => exact absurd hspace hne
  | cons c body =>
    obtain ⟨hsuffix, hspace'⟩ := skipSpace_append hspace later
    simp only [hspace, hspace'] at h ⊢
    split at h
    · next named heq =>
      obtain ⟨rfl, rfl⟩ := List.cons.inj heq
      obtain ⟨hrest, hread⟩ := groupName_append h later
      exact ⟨hrest.trans (List.IsSuffix.trans ⟨['?', 'P', '<'], rfl⟩ hsuffix), hread⟩
    · next named heq =>
      obtain ⟨rfl, rfl⟩ := List.cons.inj heq
      obtain ⟨hrest, hread⟩ := groupName_append h later
      exact ⟨hrest.trans (List.IsSuffix.trans ⟨['?', '<'], rfl⟩ hsuffix), hread⟩
    · next after hnamed hnamed' heq =>
      obtain ⟨rfl, rfl⟩ := List.cons.inj heq
      obtain ⟨hrest, hread⟩ := switched_append h later
      refine ⟨hrest.trans ((List.suffix_cons _ body).trans hsuffix), ?_⟩
      split
      · next heq =>
        obtain ⟨t, ht⟩ := hlater.prefix_of_append ['P', '<'] (by decide) ⟨_, (List.cons.inj heq).2.symm⟩
        exact absurd ht.symm (hnamed t)
      · next heq =>
        obtain ⟨t, ht⟩ := hlater.prefix_of_append ['<'] (by decide) ⟨_, (List.cons.inj heq).2.symm⟩
        exact absurd ht.symm (hnamed' t)
      · next heq =>
        obtain ⟨-, rfl⟩ := List.cons.inj heq
        exact hread
      · next hquestion => exact absurd rfl (hquestion _)
    · next hquestion =>
      cases h
      refine ⟨hsuffix, ?_⟩
      split
      case h_4 => rfl
      all_goals
        next heq => exact absurd heq (cons_ne_of_forall hquestion)

theorem dropWhile_append_cons {p : Char → Bool} (h : s.dropWhile p = c :: rest) (later : List Char) :
    (c :: rest) <:+ s ∧ (s ++ later).dropWhile p = c :: (rest ++ later) := by
  refine ⟨h ▸ List.dropWhile_suffix p, ?_⟩
  simp [List.dropWhile_append, h]

theorem count?_append {count : Option Nat} (h : count? s = (count, c :: rest)) (later : List Char) :
    (c :: rest) <:+ s ∧ count? (s ++ later) = (count, c :: (rest ++ later)) := by
  obtain ⟨hcount, hrest⟩ := Prod.mk.inj h
  cases hblank : s.dropWhile Text.isBlankChar with
  | nil => simp [hblank] at hrest
  | cons d body =>
    obtain ⟨hbody, hblank'⟩ := dropWhile_append_cons hblank later
    rw [hblank] at hcount hrest
    cases hdrop : (d :: body).drop ((d :: body).takeWhile Char.isDigit).length with
    | nil => simp [hdrop] at hrest
    | cons e after =>
      obtain ⟨hafter, htake, hdrop'⟩ := run_append hdrop later
      rw [hdrop] at hrest
      obtain ⟨hsuffix, hrest'⟩ := dropWhile_append_cons hrest later
      rw [List.cons_append] at htake hdrop' hrest'
      refine ⟨hsuffix.trans (hafter.trans hbody), ?_⟩
      simp only [count?, hblank', htake, hdrop', hrest']
      rw [hcount]

theorem extensible_counts (flags : Flags) (later : List Char) : Extensible later (counts flags) := by
  intro s a rest h
  unfold counts at h ⊢
  cases hspace : skipSpace flags s with
  | nil => simp [hspace, count?] at h
  | cons c body =>
    obtain ⟨hsuffix, hspace'⟩ := skipSpace_append hspace later
    rw [hspace] at h
    rw [hspace']
    split at h
    · next hcount =>
      cases h
      obtain ⟨hrest, hcount'⟩ := count?_append hcount later
      rw [List.cons_append] at hcount'
      exact ⟨(List.suffix_cons _ _).trans (hrest.trans hsuffix), by simp only [hcount']⟩
    · next least after hcount =>
      obtain ⟨hafter, hcount'⟩ := count?_append hcount later
      have hafter := (List.suffix_cons _ after).trans (hafter.trans hsuffix)
      rw [List.cons_append] at hcount'
      simp only [hcount']
      cases hspace₂ : skipSpace flags after with
      | nil => simp [hspace₂, count?] at h
      | cons d upper =>
        obtain ⟨hupper, hspace₂'⟩ := skipSpace_append hspace₂ later
        simp only [hspace₂, hspace₂'] at h ⊢
        split at h
        · next heq =>
          obtain ⟨rfl, rfl⟩ := List.cons.inj heq
          cases h
          exact ⟨(List.suffix_cons _ _).trans (hupper.trans hafter), rfl⟩
        · next hbrace =>
          split at h
          · next most last hmost =>
            obtain ⟨hlast, hmost'⟩ := count?_append hmost later
            rw [List.cons_append] at hmost'
            split at h
            · next hle =>
              cases h
              refine ⟨(List.suffix_cons _ _).trans (hlast.trans (hupper.trans hafter)), ?_⟩
              split
              · next heq => exact absurd heq (cons_ne_of_forall hbrace)
              · simp only [hmost', if_pos hle]
            · cases h
          · cases h
    · cases h

end

/-- What stands after a piece of a pattern, alone and when the pattern goes on. Where a comment takes what
follows, nothing is left. -/
structure GoesOn (source later s s' : List Char) : Prop where
  suffix : s <:+ source
  eq : s' = s ++ later ∨ s = [] ∧ s' = [] ∧ MayEndInComment source

/-- What is read of a group is read with the groups moved when the pattern goes on. -/
def ReadsRegrouped (source later : List Char) (x x' : Option (Nested Regex × List Char)) : Prop :=
  ∀ ⦃a rest⦄, x = some (a, rest) →
    ∃ rest', x' = some (a.regroup later.length, rest') ∧ GoesOn source later rest rest'

section

variable {source later s s' rest rest' : List Char} {flags : Flags} {c : Char}

theorem GoesOn.of_suffix (h : s <:+ source) : GoesOn source later s (s ++ later) := ⟨h, .inl rfl⟩

theorem GoesOn.skipSpace (h : GoesOn source later s s') (hlater : Closes later) (flags : Flags) :
    GoesOn source later (skipSpace flags s) (skipSpace flags s') := by
  rcases h.eq with rfl | ⟨rfl, rfl, hcomment⟩
  · cases hspace : Regex.skipSpace flags s with
    | nil =>
      refine ⟨List.nil_suffix, ?_⟩
      exact (skipSpace_end hspace hlater).imp id fun ⟨hend, hcomment⟩ => ⟨rfl, hend, hcomment.of_suffix h.suffix⟩
    | cons c rest =>
      obtain ⟨hsuffix, hspace'⟩ := skipSpace_append hspace later
      exact ⟨hsuffix.trans h.suffix, .inl hspace'⟩
  · exact ⟨List.nil_suffix, .inr ⟨rfl, rfl, hcomment⟩⟩

theorem GoesOn.of_cons (h : GoesOn source later (c :: s) s') :
    s' = c :: (s ++ later) ∧ s <:+ source := by
  rcases h.eq with heq | ⟨hnil, -⟩
  · exact ⟨heq, (List.suffix_cons c s).trans h.suffix⟩
  · cases hnil

theorem greed_of_ne (h : s.head? ≠ some '?') : greed flags s = (!flags.swapGreed, s) := by
  unfold greed
  split
  · exact absurd rfl h
  · rfl

theorem GoesOn.greed (h : GoesOn source later s s') (hlater : Closes later) (flags : Flags) :
    (greed flags s').1 = (greed flags s).1 ∧
      GoesOn source later (greed flags s).2 (greed flags s').2 := by
  by_cases hquestion : s.head? = some '?'
  · obtain ⟨body, rfl⟩ := List.head?_eq_some_iff.mp hquestion
    obtain ⟨rfl, hsuffix⟩ := h.of_cons
    exact ⟨rfl, of_suffix hsuffix⟩
  · have hquestion' : s'.head? ≠ some '?' := by
      rcases h.eq with rfl | ⟨-, rfl, -⟩
      · exact hlater.head?_append_ne hquestion (by decide)
      · exact Option.some_ne_none _ |>.symm
    rw [greed_of_ne hquestion, greed_of_ne hquestion']
    exact ⟨rfl, h⟩

theorem ReadsRegrouped.bind {α : Type} {x x' : Option α} {f f' : α → Option (Nested Regex × List Char)}
    (h : ∀ a, x = some a → ∃ a', x' = some a' ∧ ReadsRegrouped source later (f a) (f' a')) :
    ReadsRegrouped source later (x >>= f) (x' >>= f') := by
  intro b rest hb
  obtain ⟨a, ha, hb⟩ := Option.bind_eq_some_iff.mp hb
  obtain ⟨a', ha', hf⟩ := h a ha
  obtain ⟨rest', hrest', hgoes⟩ := hf hb
  exact ⟨rest', Option.bind_eq_some_iff.mpr ⟨a', ha', hrest'⟩, hgoes⟩

/-- The characters that mean something of their own outside classes. -/
def signs : List Char := [')', '|', '(', '[', '?', '*', '+', '\x7b', '.', '^', '$', '\\']

theorem readGroup_literal (fuel : Nat) (before : List (Nested Regex)) (parts : List Part)
    (hs : Regex.skipSpace flags s = c :: rest) (hc : c ∉ signs) :
    readGroup (fuel + 1) flags before parts s =
      readGroup fuel flags before (leaf (ofPrimitive flags (.literal c)) :: parts) rest := by
  simp only [signs, List.mem_cons, List.not_mem_nil, or_false, not_or] at hc
  rw [readGroup, hs]
  split <;> simp_all

theorem readGroup_nil {fuel : Nat} {before : List (Nested Regex)} {parts : List Part} {a : Nested Regex}
    (h : readGroup fuel flags before parts [] = some (a, rest)) : rest = [] := by
  cases fuel with
  | zero => cases h
  | succ fuel =>
    cases h
    rfl

/-- Groups are read with the groups in them moved when the pattern goes on, with an amount of fuel each. -/
def RegroupsWith (source later : List Char) (fuel fuel' : Nat) : Prop :=
  ∀ flags before parts ⦃s s'⦄, GoesOn source later s s' →
    ReadsRegrouped source later (readGroup fuel flags before parts s)
      (readGroup fuel' flags (before.map (Nested.regroup later.length))
        (parts.map (Part.regroup later.length)) s')

end

namespace RegroupsWith

variable {source later s s' rest : List Char} {flags : Flags} {before : List (Nested Regex)} {parts : List Part}
  {fuel fuel' : Nat}

theorem repeats (h : RegroupsWith source later fuel fuel') (hlater : Closes later) (hs : GoesOn source later s s')
    (least : Nat) (most : Option Nat) :
    ReadsRegrouped source later
      (repeatLast least most (greed flags s).1 parts >>= fun parts =>
        readGroup fuel flags before parts (greed flags s).2)
      (repeatLast least most (greed flags s').1 (parts.map (Part.regroup later.length)) >>= fun parts =>
        readGroup fuel' flags (before.map (Nested.regroup later.length)) parts (greed flags s').2) := by
  obtain ⟨hgreedy, hrest⟩ := hs.greed hlater flags
  refine ReadsRegrouped.bind fun parts hparts => ⟨_, ?_, h flags before _ hrest⟩
  rw [hgreedy, repeatLast_regroup, hparts, Option.map_some]

theorem opens (h : RegroupsWith source later fuel fuel') (hlater : Closes later) (hs : s <:+ source) :
    ReadsRegrouped source later
      (do match ← opening flags s with
          | .flags flags rest => readGroup fuel flags before (.flags :: parts) rest
          | .group capturing inner rest =>
            match ← readGroup fuel inner [] [] rest with
            | (a, ')' :: after) =>
              let r := if capturing then group rest.length a.val else a.val
              readGroup fuel flags before (.regex ⟨r, a.depth + 1⟩ :: parts) after
            | _ => none)
      (do match ← opening flags (s ++ later) with
          | .flags flags rest =>
            readGroup fuel' flags (before.map (Nested.regroup later.length))
              (.flags :: parts.map (Part.regroup later.length)) rest
          | .group capturing inner rest =>
            match ← readGroup fuel' inner [] [] rest with
            | (a, ')' :: after) =>
              let r := if capturing then group rest.length a.val else a.val
              readGroup fuel' flags (before.map (Nested.regroup later.length))
                (.regex ⟨r, a.depth + 1⟩ :: parts.map (Part.regroup later.length)) after
            | _ => none) := by
  by_cases hspace : Regex.skipSpace flags s = []
  · -- A pattern that ends after the parenthesis has nothing that closes the group.
    intro a rest hread
    have hopening : opening flags s = some (.group true flags []) := by simp [opening, hspace]
    simp only [hopening, Option.bind_eq_bind, Option.bind_some] at hread
    obtain ⟨⟨b, after⟩, hb, hread⟩ := Option.bind_eq_some_iff.mp hread
    obtain rfl := readGroup_nil hb
    cases hread
  · refine ReadsRegrouped.bind fun o ho => ?_
    obtain ⟨hsuffix, ho'⟩ := opening_append hlater ho hspace
    have hrest : GoesOn source later o.rest (o.rest ++ later) := .of_suffix (hsuffix.trans hs)
    refine ⟨_, ho', ?_⟩
    cases o with
    | flags inner rest => exact h inner before _ hrest
    | group capturing inner rest =>
      refine ReadsRegrouped.bind fun found hfound => ?_
      obtain ⟨a, after⟩ := found
      obtain ⟨after', hread, hafter⟩ := h inner [] [] hrest hfound
      refine ⟨_, hread, ?_⟩
      rcases after with _ | ⟨c, after⟩
      · rintro _ _ ⟨⟩
      obtain ⟨rfl, hsuffix⟩ := hafter.of_cons
      by_cases hc : c = ')'
      · subst hc
        have hpart : Part.regroup later.length
              (.regex ⟨if capturing then group rest.length a.val else a.val, a.depth + 1⟩) =
            .regex ⟨if capturing then group (rest ++ later).length (a.regroup later.length).val
              else (a.regroup later.length).val, (a.regroup later.length).depth + 1⟩ := by
          cases capturing <;> simp [Part.regroup, Nested.regroup, regroup]
        have hread := h flags before
          (.regex ⟨if capturing then group rest.length a.val else a.val, a.depth + 1⟩ :: parts) (.of_suffix hsuffix)
        rwa [List.map_cons, hpart] at hread
      · intro b rest hb
        simp [hc] at hb

theorem choiceOf_branchOf_regroup (k : Nat) (before : List (Nested Regex)) (parts : List Part) :
    choiceOf (branchOf (parts.map (Part.regroup k)) :: before.map (Nested.regroup k)) =
      (choiceOf (branchOf parts :: before)).regroup k := by
  rw [branchOf_regroup, ← List.map_cons, choiceOf_regroup]

/-- At the end of the pattern the group ends, and what follows is left unless a comment takes it. -/
theorem ends (fuel fuel' : Nat) (hs : Regex.skipSpace flags s = [])
    (hrest : GoesOn source later [] (Regex.skipSpace flags s')) (hlater : Closes later) :
    ReadsRegrouped source later (readGroup (fuel + 1) flags before parts s)
      (readGroup (fuel' + 1) flags (before.map (Nested.regroup later.length))
        (parts.map (Part.regroup later.length)) s') := by
  intro a rest hread
  simp only [readGroup, hs] at hread
  cases hread
  refine ⟨Regex.skipSpace flags s', ?_, hrest⟩
  rw [← choiceOf_branchOf_regroup]
  rcases hrest.eq with heq | ⟨-, heq, -⟩
  · obtain ⟨u, rfl⟩ := List.head?_eq_some_iff.mp hlater.head
    rw [List.nil_append] at heq
    simp only [readGroup, heq]
  · simp only [readGroup, heq]

/-- One more sign or literal is read. -/
theorem succ (h : RegroupsWith source later fuel fuel') (hlater : Closes later) :
    RegroupsWith source later (fuel + 1) (fuel' + 1) := by
  intro flags before parts s s' hgoes
  have hspace := hgoes.skipSpace hlater flags
  rcases hs : Regex.skipSpace flags s with _ | ⟨c, body⟩
  · exact ends fuel fuel' hs (hs ▸ hspace) hlater
  rw [hs] at hspace
  obtain ⟨hs', hsuffix⟩ := hspace.of_cons
  have hbody : GoesOn source later body (body ++ later) := .of_suffix hsuffix
  by_cases hc : c ∈ signs
  · simp only [signs, List.mem_cons, List.not_mem_nil, or_false] at hc
    rcases hc with rfl | rfl | rfl | rfl | rfl | rfl | rfl | rfl | rfl | rfl | rfl | rfl <;>
      simp only [readGroup, hs, hs']
    · -- A closing parenthesis ends the group before it.
      rintro a rest ⟨⟩
      exact ⟨_, by rw [choiceOf_branchOf_regroup], hs' ▸ hspace⟩
    · have := h flags (branchOf parts :: before) [] hbody
      rwa [List.map_cons, ← branchOf_regroup] at this
    · exact h.opens hlater hsuffix
    · refine ReadsRegrouped.bind fun found hfound => ?_
      obtain ⟨a, rest⟩ := found
      have hlength : body.length + 1 ≤ (body ++ later).length + 1 := by
        rw [List.length_append]
        omega
      obtain ⟨hrest, hfound'⟩ := (class_readsOn flags hlater hlength).2 hfound
      exact ⟨_, hfound', h flags before _ (.of_suffix (hrest.trans hsuffix))⟩
    · exact h.repeats hlater hbody 0 (some 1)
    · exact h.repeats hlater hbody 0 none
    · exact h.repeats hlater hbody 1 none
    · refine ReadsRegrouped.bind fun found hfound => ?_
      obtain ⟨⟨least, most⟩, rest⟩ := found
      obtain ⟨hrest, hfound'⟩ := extensible_counts flags later hfound
      have hrest : GoesOn source later rest (rest ++ later) := .of_suffix (hrest.trans hsuffix)
      exact ⟨_, hfound', h.repeats hlater (hrest.skipSpace hlater flags) least most⟩
    · exact h flags before _ hbody
    · exact h flags before _ hbody
    · exact h flags before _ hbody
    · refine ReadsRegrouped.bind fun found hfound => ?_
      obtain ⟨p, rest⟩ := found
      obtain ⟨hrest, hfound'⟩ := extensible_escape hlater hfound
      have := h flags before (leaf (ofPrimitive flags p) :: parts) (.of_suffix (hrest.trans hsuffix))
      rw [List.map_cons, leaf_regroup] at this
      exact ⟨_, hfound', this⟩
  · rw [readGroup_literal fuel _ _ hs hc, readGroup_literal fuel' _ _ hs' hc]
    exact h flags before _ hbody

end RegroupsWith

/-- A pattern is read in front of what closes a group around it as it is read on its own, with its groups moved. -/
theorem regroupsWith {source later : List Char} (hlater : Closes later) {fuel fuel' : Nat} (hfuel : fuel ≤ fuel') :
    RegroupsWith source later fuel fuel' := by
  induction fuel generalizing fuel' with
  | zero => rintro flags before parts s s' - a rest ⟨⟩
  | succ fuel ih =>
    obtain ⟨fuel', rfl⟩ : ∃ n, fuel' = n + 1 := ⟨fuel' - 1, by omega⟩
    exact (ih (Nat.le_of_succ_le_succ hfuel)).succ hlater

end ObjectValidation.Regex
