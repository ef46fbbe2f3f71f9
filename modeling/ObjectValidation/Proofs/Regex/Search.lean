import ObjectValidation.Proofs.Regex.Layout

/-!
The search for a match. It follows threads and marks each pair of a step and a position, so that it tries none
twice. What it finds is at the end of a way that starts with one of the threads. While nothing is found, what a
marked pair leads to is marked or still to be followed; when no thread is left, no marked pair leads to a stop.
For an expression, a match is found exactly if there is one anywhere in the text.
-/

namespace ObjectValidation

namespace Program

variable {p : Program} {text : Array Char} {t u : Thread} {i j n fuel : Nat} {threads : List Thread}
  {seen : Array Bool}

/-- The thread has come to the end of a match. -/
def Stops (p : Program) (t : Thread) : Prop := p.steps[t.step]? = some .stop

/-- The thread is at a step of the program and at a position of the text. -/
structure Inside (p : Program) (text : Array Char) (t : Thread) : Prop where
  step_lt : t.step < p.steps.size
  place_le : t.place ≤ text.size

theorem goes_cases (h : p.Goes text t u) :
    u.start = t.start ∧ (u.place = t.place ∨ u.place = t.place + 1 ∧ t.place < text.size) := by
  obtain ⟨s, -, hu⟩ := h
  cases s with
  | take set next =>
    cases hc : text[t.place]? with
    | none => simp [Thread.successors, CharSet.holdsAt, hc] at hu
    | some c =>
      obtain ⟨hlt, -⟩ := Array.getElem?_eq_some_iff.mp hc
      simp only [Thread.successors, List.mem_ite_nil_right, List.mem_singleton] at hu
      obtain ⟨-, rfl⟩ := hu
      exact ⟨rfl, .inr ⟨rfl, hlt⟩⟩
  | check a next =>
    simp only [Thread.successors, List.mem_ite_nil_right, List.mem_singleton] at hu
    obtain ⟨-, rfl⟩ := hu
    exact ⟨rfl, .inl rfl⟩
  | fork first second =>
    simp only [Thread.successors, List.mem_cons, List.not_mem_nil, or_false] at hu
    rcases hu with rfl | rfl <;> exact ⟨rfl, .inl rfl⟩
  | goto next =>
    obtain rfl := List.mem_singleton.mp hu
    exact ⟨rfl, .inl rfl⟩
  | stop => cases hu

theorem Goes.step_lt (h : p.Goes text t u) : t.step < p.steps.size := by
  obtain ⟨s, hs, -⟩ := h
  exact (Array.getElem?_eq_some_iff.mp hs).1

theorem Goes.place_le (h : p.Goes text t u) (ht : t.place ≤ text.size) :
    t.place ≤ u.place ∧ u.place ≤ text.size := by
  obtain ⟨-, hplace⟩ := goes_cases h
  omega

theorem LeadsIn.start_eq (h : p.LeadsIn text n t u) : u.start = t.start := by
  induction n generalizing t with
  | zero => rw [show t = u from h]
  | succ n ih =>
    obtain ⟨v, hv, hrest⟩ := h
    rw [ih hrest, (goes_cases hv).1]

theorem LeadsIn.place_le (h : p.LeadsIn text n t u) (ht : t.place ≤ text.size) :
    t.place ≤ u.place ∧ u.place ≤ text.size := by
  induction n generalizing t with
  | zero => rw [← show t = u from h]; exact ⟨Nat.le_refl _, ht⟩
  | succ n ih =>
    obtain ⟨v, hv, hrest⟩ := h
    obtain ⟨hle, hsize⟩ := hv.place_le ht
    obtain ⟨hle', hsize'⟩ := ih hrest hsize
    exact ⟨Nat.le_trans hle hle', hsize'⟩

/-- Where a match began makes no difference to how it goes on. -/
theorem Goes.restart (h : p.Goes text t u) (b : Nat) :
    p.Goes text { t with start := b } { u with start := b } := by
  obtain ⟨s, hs, hu⟩ := h
  refine ⟨s, hs, ?_⟩
  cases s with
  | take set next | check a next =>
    simp only [Thread.successors, List.mem_ite_nil_right, List.mem_singleton] at hu ⊢
    exact ⟨hu.1, by rw [hu.2]; rfl⟩
  | fork first second =>
    simp only [Thread.successors, List.mem_cons, List.not_mem_nil, or_false] at hu ⊢
    exact hu.imp (fun h => by rw [h]; rfl) fun h => by rw [h]; rfl
  | goto next => exact List.mem_singleton.mpr (by rw [List.mem_singleton.mp hu]; rfl)
  | stop => cases hu

theorem search_sound (h : p.search text fuel threads seen = some (i, j)) :
    ∃ t ∈ threads, ∃ u, p.Leads text t u ∧ p.Stops u ∧ u.start = i ∧ u.place = j := by
  fun_induction p.search text fuel threads seen with
  | case1 => cases h
  | case2 => cases h
  | case3 fuel t rest seen hseen ih =>
    obtain ⟨t', ht', hfound⟩ := ih h
    exact ⟨t', List.mem_cons_of_mem t ht', hfound⟩
  | case4 fuel t rest seen hseen hs =>
    cases h
    exact ⟨t, List.mem_cons_self, t, .refl t, hs, rfl, rfl⟩
  | case5 fuel t rest seen hseen s hne hs ih =>
    obtain ⟨t', ht', u, hu, hfound⟩ := ih h
    rcases List.mem_append.mp ht' with ht' | ht'
    · exact ⟨t, List.mem_cons_self, u, Goes.leads ⟨s, hs, ht'⟩ hu, hfound⟩
    · exact ⟨t', List.mem_cons_of_mem t ht', u, hu, hfound⟩
  | case6 fuel t rest seen hseen hs ih =>
    obtain ⟨t', ht', hfound⟩ := ih h
    exact ⟨t', List.mem_cons_of_mem t ht', hfound⟩

/-- The pair of the thread's step and position has been tried. -/
def Tried (p : Program) (seen : Array Bool) (t : Thread) : Prop := seen.getD (p.mark t) true = true

/-- Of two threads at steps of the program, the same pair is marked only if they are at the same step and
position. -/
theorem mark_inj (ht : t.step < p.steps.size) (hu : u.step < p.steps.size) (h : p.mark t = p.mark u) :
    t.step = u.step ∧ t.place = u.place := by
  have hstep : t.step = u.step := by
    have := congrArg (· % p.steps.size) h
    simpa [mark, Nat.mul_add_mod_of_lt, Nat.mod_eq_of_lt, ht, hu] using this
  refine ⟨hstep, ?_⟩
  have hpos : 0 < p.steps.size := Nat.zero_lt_of_lt ht
  unfold mark at h
  rw [hstep] at h
  exact Nat.eq_of_mul_eq_mul_right hpos (Nat.add_right_cancel h)

theorem Inside.mark_lt (h : p.Inside text t) : p.mark t < (text.size + 1) * p.steps.size := by
  have := Nat.mul_le_mul_right p.steps.size h.place_le
  have := h.step_lt
  unfold mark
  rw [Nat.succ_mul]
  omega

theorem tried_set (hk : p.mark t < seen.size) :
    p.Tried (seen.setIfInBounds (p.mark t) true) u ↔ p.mark u = p.mark t ∨ p.Tried seen u := by
  unfold Tried
  by_cases h : p.mark u = p.mark t
  · simp [h, hk]
  · simp [h, Array.getD_eq_getD_getElem?, Array.getElem?_setIfInBounds_ne (Ne.symm h)]

theorem count_untried (hk : p.mark t < seen.size) (h : ¬ p.Tried seen t) :
    (seen.setIfInBounds (p.mark t) true).count false + 1 = seen.count false := by
  have hfalse : seen[p.mark t] = false := by simpa [Tried, hk] using h
  have hpos : 0 < seen.count false := Array.count_pos_iff.mpr (hfalse ▸ Array.getElem_mem hk)
  rw [Array.setIfInBounds_def, dif_pos hk, Array.count_set, hfalse]
  simpa using Nat.sub_add_cancel hpos

/-- What has been tried and what is still to be followed: nothing that was tried stops, and what it leads to
was tried or is to be followed. -/
structure Explored (p : Program) (text : Array Char) (threads : List Thread) (seen : Array Bool) : Prop where
  size_eq : seen.size = (text.size + 1) * p.steps.size
  place_le (t : Thread) (ht : t ∈ threads) : t.place ≤ text.size
  not_stops (t : Thread) (hin : p.Inside text t) (ht : p.Tried seen t) : ¬ p.Stops t
  successor (t u : Thread) (hin : p.Inside text t) (ht : p.Tried seen t) (hu : p.Goes text t u)
    (hstep : u.step < p.steps.size) : p.Tried seen u ∨ ∃ b, { u with start := b } ∈ threads

namespace Explored

/-- A thread need not be followed if its pair was tried or is none of the program. -/
theorem skip (h : p.Explored text (t :: threads) seen)
    (ht : t.step < p.steps.size → p.Tried seen t) : p.Explored text threads seen where
  size_eq := h.size_eq
  place_le u hu := h.place_le u (List.mem_cons_of_mem t hu)
  not_stops := h.not_stops
  successor u v hin hu hv hstep := by
    rcases h.successor u v hin hu hv hstep with hv | ⟨b, hb⟩
    · exact .inl hv
    · rcases List.mem_cons.mp hb with rfl | hb
      · exact .inl (ht hstep)
      · exact .inr ⟨b, hb⟩

/-- Following a thread that does not stop marks its pair and adds what it leads to. -/
theorem follow (h : p.Explored text (t :: threads) seen) {s : Step} (hs : p.steps[t.step]? = some s)
    (hne : s ≠ .stop) :
    p.Explored text (t.successors text s ++ threads) (seen.setIfInBounds (p.mark t) true) := by
  have hplace : t.place ≤ text.size := h.place_le t List.mem_cons_self
  have hstep : t.step < p.steps.size := (Array.getElem?_eq_some_iff.mp hs).1
  have hmark : p.mark t < seen.size := h.size_eq ▸ Inside.mark_lt ⟨hstep, hplace⟩
  refine ⟨by rw [Array.size_setIfInBounds, h.size_eq], fun u hu => ?_, fun u hin hu hstop => ?_,
    fun u v hin hu hv hvstep => ?_⟩
  · rcases List.mem_append.mp hu with hu | hu
    · exact (Goes.place_le ⟨s, hs, hu⟩ hplace).2
    · exact h.place_le u (List.mem_cons_of_mem t hu)
  · rcases (tried_set hmark).mp hu with hsame | hu
    · rw [Stops, (mark_inj hin.step_lt hstep hsame).1, hs] at hstop
      exact hne (Option.some.inj hstop)
    · exact h.not_stops u hin hu hstop
  · rcases (tried_set hmark).mp hu with hsame | hu
    · -- The pair of `t` itself: what it leads to is followed now, for the beginning of `t`.
      obtain ⟨hstep', hplace'⟩ := mark_inj hin.step_lt hstep hsame
      have hsuccessor := (hv.restart t.start)
      rw [hstep', hplace'] at hsuccessor
      exact .inr ⟨t.start, List.mem_append_left _ ((goes_iff hs).mp hsuccessor)⟩
    · rcases h.successor u v hin hu hv hvstep with hv | ⟨b, hb⟩
      · exact .inl ((tried_set hmark).mpr (.inr hv))
      · rcases List.mem_cons.mp hb with rfl | hb
        · exact .inl ((tried_set hmark).mpr (.inl rfl))
        · exact .inr ⟨b, List.mem_append_right _ hb⟩

/-- When nothing is left to follow, nothing that was tried leads to a stop. -/
theorem not_stops_of_leads (h : p.Explored text [] seen) (hin : p.Inside text t) (ht : p.Tried seen t)
    (hu : p.Leads text t u) : ¬ p.Stops u := by
  obtain ⟨n, hn⟩ := hu
  induction n generalizing t with
  | zero => exact hn ▸ h.not_stops t hin ht
  | succ n ih =>
    obtain ⟨v, hv, hrest⟩ := hn
    intro hstop
    have hstep : v.step < p.steps.size := by
      cases n with
      | zero => rw [show v = u from hrest]; exact (Array.getElem?_eq_some_iff.mp hstop).1
      | succ n =>
        obtain ⟨w, hw, -⟩ := hrest
        exact hw.step_lt
    rcases h.successor t v hin ht hv hstep with htried | ⟨b, hb⟩
    · exact ih ⟨hstep, (hv.place_le hin.place_le).2⟩ htried hrest hstop
    · cases hb

end Explored

theorem length_successors_le (text : Array Char) (t : Thread) (s : Step) : (t.successors text s).length ≤ 2 := by
  cases s <;> simp only [Thread.successors]
  case take | check => split <;> simp
  all_goals simp

/-- A search that finds nothing has followed every thread to all its ends, and none of them is a stop. -/
theorem search_complete (h : p.search text fuel threads seen = none)
    (hfuel : threads.length + 2 * seen.count false < fuel) (hexplored : p.Explored text threads seen)
    (hin : p.Inside text t) (ht : t ∈ threads ∨ p.Tried seen t) (hu : p.Leads text t u) : ¬ p.Stops u := by
  fun_induction p.search text fuel threads seen with
  | case1 => omega
  | case2 => exact hexplored.not_stops_of_leads hin (ht.resolve_left List.not_mem_nil) hu
  | case3 fuel t' rest seen hseen ih =>
    refine ih h (by simp only [List.length_cons] at hfuel; omega) (hexplored.skip fun _ => hseen) ?_
    rcases ht with ht | ht
    · rcases List.mem_cons.mp ht with rfl | ht
      · exact .inr hseen
      · exact .inl ht
    · exact .inr ht
  | case4 => cases h
  | case5 fuel t' rest seen hseen s hne hs ih =>
    have hstep : t'.step < p.steps.size := (Array.getElem?_eq_some_iff.mp hs).1
    have hmark : p.mark t' < seen.size :=
      hexplored.size_eq ▸ Inside.mark_lt ⟨hstep, hexplored.place_le t' List.mem_cons_self⟩
    have hcount := count_untried hmark hseen
    have hlength := length_successors_le text t' s
    refine ih h (by simp only [List.length_cons, List.length_append] at hfuel ⊢; omega)
      (hexplored.follow hs hne) ?_
    rw [tried_set hmark]
    rcases ht with ht | ht
    · rcases List.mem_cons.mp ht with rfl | ht
      · exact .inr (.inl rfl)
      · exact .inl (List.mem_append_right _ ht)
    · exact .inr (.inr ht)
  | case6 fuel t' rest seen hseen hs ih =>
    have hout : ¬ t'.step < p.steps.size := fun hlt => by simp [hlt] at hs
    refine ih h (by simp only [List.length_cons] at hfuel; omega)
      (hexplored.skip fun hlt => absurd hlt hout) ?_
    rcases ht with ht | ht
    · rcases List.mem_cons.mp ht with rfl | ht
      · exact absurd hin.step_lt hout
      · exact .inl ht
    · exact .inr ht

/-- What is found is the way from the beginning of the program, at the beginning of the match, to a stop. -/
theorem find_sound (h : p.find text = some (i, j)) :
    i ≤ text.size ∧ ∃ u, p.Leads text ⟨i, 0, i⟩ u ∧ p.Stops u ∧ u.place = j := by
  obtain ⟨t, ht, u, hu, hstop, hstart, hplace⟩ := search_sound h
  obtain ⟨k, hk, rfl⟩ := List.mem_map.mp ht
  obtain ⟨n, hn⟩ := hu
  obtain rfl : k = i := hn.start_eq.symm.trans hstart
  exact ⟨Nat.le_of_lt_succ (List.mem_range.mp hk), u, ⟨n, hn⟩, hstop, hplace⟩

theorem find_complete (h : p.find text = none) (hi : i ≤ text.size) (hu : p.Leads text ⟨i, 0, i⟩ u) :
    ¬ p.Stops u := by
  rcases Nat.eq_zero_or_pos p.steps.size with hzero | hpos
  · intro hstop
    have := (Array.getElem?_eq_some_iff.mp hstop).1
    omega
  have huntried {t : Thread} (hin : p.Inside text t) :
      ¬ p.Tried (Array.replicate ((text.size + 1) * p.steps.size) false) t := by
    have := hin.mark_lt
    simp [Tried, this]
  refine search_complete h ?_ ⟨?_, ?_, ?_, ?_⟩ ⟨hpos, hi⟩ (.inl ?_) hu
  · rw [List.length_map, List.length_range, Array.count_replicate_self]
    omega
  · rw [Array.size_replicate]
  · intro t ht
    obtain ⟨k, hk, rfl⟩ := List.mem_map.mp ht
    exact Nat.le_of_lt_succ (List.mem_range.mp hk)
  · exact fun t hin ht => absurd ht (huntried hin)
  · exact fun t u hin ht => absurd ht (huntried hin)
  · exact List.mem_map.mpr ⟨i, List.mem_range.mpr (Nat.lt_succ_of_le hi), rfl⟩

end Program

namespace Regex

variable {r : Regex} {text : Array Char} {i j : Nat}

theorem program_getElem? (r : Regex) (k : Nat) :
    r.program.steps[k]? = if k < r.size then (r.steps 0 r.size)[k]? else [Step.stop][k - r.size]? := by
  have hlength : (r.steps 0 r.size).length = r.size := (realizes_steps #[] r).length_eq 0 r.size
  rw [program, List.getElem?_toArray, List.getElem?_append, hlength]

theorem program_has (r : Regex) : r.program.Has 0 (r.steps 0 r.size) := by
  intro k s hs
  have hlt : k < r.size := by
    rw [← (realizes_steps #[] r).length_eq 0 r.size]
    exact (List.getElem?_eq_some_iff.mp hs).1
  rw [Nat.zero_add, program_getElem?, if_pos hlt, hs]

/-- The program of an expression stops after the steps of the expression and nowhere else. -/
theorem program_stops_iff {t : Thread} : r.program.Stops t ↔ t.step = r.size := by
  rw [Program.Stops, program_getElem?]
  constructor
  · intro h
    split at h
    · exact absurd (List.mem_of_getElem? h) ((realizes_steps #[] r).goesOn 0 r.size)
    · have := (List.getElem?_eq_some_iff.mp h).1
      rw [List.length_singleton] at this
      omega
  · intro h
    simp [h]

theorem program_leads_iff {t : Thread} (hstop : r.program.Stops t) (b i : Nat) :
    r.program.Leads text ⟨b, 0, i⟩ t ↔ t.start = b ∧ r.Matches text i t.place := by
  have hstep : t.step = r.size := program_stops_iff.mp hstop
  constructor
  · rintro ⟨n, hn⟩
    obtain ⟨n', -, j, hj, hrest⟩ :=
      (realizes_steps text r).sound r.program_has hn (.inr (Nat.le_of_eq (by rw [hstep, Nat.zero_add])))
    -- Nothing leads on from the stop.
    obtain rfl : (⟨b, r.size, j⟩ : Thread) = t := by
      cases n' with
      | zero => exact hrest
      | succ n' =>
        obtain ⟨v, hv, -⟩ := hrest
        rw [Program.goes_iff (program_stops_iff.mpr rfl)] at hv
        cases hv
    exact ⟨rfl, hj⟩
  · rintro ⟨rfl, hmatches⟩
    have hleads := (realizes_steps text r).complete (b := t.start) r.program_has hmatches
    rwa [← hstep] at hleads

/-- A match lies in the text. -/
theorem Matches.le (h : r.Matches text i j) (hi : i ≤ text.size) : i ≤ j ∧ j ≤ text.size := by
  obtain ⟨n, hn⟩ := (realizes_steps text r).complete (b := 0) r.program_has h
  exact hn.place_le hi

/-- What is found is a match, and it lies in the text. -/
theorem matches_of_find (h : r.find text = some (i, j)) :
    r.Matches text i j ∧ i ≤ j ∧ j ≤ text.size := by
  obtain ⟨hi, u, hu, hstop, rfl⟩ := Program.find_sound h
  have hmatches := ((program_leads_iff hstop i i).mp hu).2
  exact ⟨hmatches, hmatches.le hi⟩

theorem not_matches_of_find (h : r.find text = none) (hi : i ≤ text.size) : ¬ r.Matches text i j := by
  intro hmatches
  have hstop : r.program.Stops ⟨i, r.size, j⟩ := program_stops_iff.mpr rfl
  exact Program.find_complete h hi ((program_leads_iff hstop i i).mpr ⟨rfl, hmatches⟩) hstop

/-- A match is found exactly if there is one anywhere in the text. -/
theorem isMatch_iff : r.isMatch text = true ↔ ∃ i j, i ≤ text.size ∧ r.Matches text i j := by
  constructor
  · intro h
    obtain ⟨⟨i, j⟩, hij⟩ := Option.isSome_iff_exists.mp h
    obtain ⟨hmatches, hle, hsize⟩ := matches_of_find hij
    exact ⟨i, j, Nat.le_trans hle hsize, hmatches⟩
  · rintro ⟨i, j, hi, hmatches⟩
    exact Option.isSome_iff_ne_none.mpr fun h => not_matches_of_find h hi hmatches

end Regex

end ObjectValidation
