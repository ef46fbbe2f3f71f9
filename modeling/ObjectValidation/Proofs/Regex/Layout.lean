import ObjectValidation.Proofs.Regex.Meaning

/-!
Programs do what their expressions mean. The steps of an expression lead from their beginning to the place they
lead out to exactly between positions that the expression matches, wherever they stand in a program. Each way of
putting steps together is shown to do so once, and the steps of an expression are put together in these ways.
-/

namespace ObjectValidation

namespace Program

variable (p : Program) (text : Array Char)

/-- One step of the program leads from a thread to another. -/
def Goes (t u : Thread) : Prop := ∃ s, p.steps[t.step]? = some s ∧ u ∈ t.successors text s

/-- A number of steps leads from a thread to another. -/
def LeadsIn : Nat → Thread → Thread → Prop
  | 0, t, u => t = u
  | n + 1, t, u => ∃ v, p.Goes text t v ∧ LeadsIn n v u

def Leads (t u : Thread) : Prop := ∃ n, p.LeadsIn text n t u

variable {p text} {t u v : Thread} {s : Step} {start : Nat} {block later : List Step}

theorem Leads.refl (t : Thread) : p.Leads text t t := ⟨0, rfl⟩

theorem Goes.leads (h : p.Goes text t v) (hrest : p.Leads text v u) : p.Leads text t u := by
  obtain ⟨n, hn⟩ := hrest
  exact ⟨n + 1, v, h, hn⟩

theorem Leads.trans (h : p.Leads text t v) (hrest : p.Leads text v u) : p.Leads text t u := by
  obtain ⟨n, hn⟩ := h
  induction n generalizing t with
  | zero => rwa [show t = v from hn]
  | succ n ih =>
    obtain ⟨w, hw, hlater⟩ := hn
    exact hw.leads (ih hlater)

theorem goes_iff (hs : p.steps[t.step]? = some s) : p.Goes text t u ↔ u ∈ t.successors text s := by
  constructor
  · rintro ⟨s', hs', hu⟩
    rw [hs, Option.some.injEq] at hs'
    rwa [hs']
  · intro hu
    exact ⟨s, hs, hu⟩

theorem goes_fork_iff {first second : Nat} (hs : p.steps[t.step]? = some (.fork first second)) :
    p.Goes text t u ↔ u = t.moved first ∨ u = t.moved second := by
  rw [goes_iff hs, Thread.successors, List.mem_cons, List.mem_singleton]

theorem goes_round_iff {greedy : Bool} {again leave : Nat}
    (hs : p.steps[t.step]? = some (.round greedy again leave)) :
    p.Goes text t u ↔ u = t.moved again ∨ u = t.moved leave := by
  cases greedy with
  | true => exact goes_fork_iff hs
  | false => rw [goes_fork_iff hs, or_comm]

/-- The steps stand in the program from a place on. -/
def Has (p : Program) (start : Nat) (block : List Step) : Prop :=
  ∀ k s, block[k]? = some s → p.steps[start + k]? = some s

theorem has_cons : p.Has start (s :: block) ↔ p.steps[start]? = some s ∧ p.Has (start + 1) block := by
  constructor
  · intro h
    refine ⟨h 0 s rfl, fun k s' hs' => ?_⟩
    rw [Nat.add_assoc, Nat.add_comm 1 k]
    exact h (k + 1) s' hs'
  · rintro ⟨hfirst, hrest⟩ k s' hs'
    cases k with
    | zero => exact hs' ▸ hfirst
    | succ k =>
      have := hrest k s' hs'
      rwa [Nat.add_assoc, Nat.add_comm 1 k] at this

theorem has_append :
    p.Has start (block ++ later) ↔ p.Has start block ∧ p.Has (start + block.length) later := by
  induction block generalizing start with
  | nil => simp [Has]
  | cons s block ih =>
    rw [List.cons_append, has_cons, has_cons, ih, and_assoc, List.length_cons, Nat.add_assoc,
      Nat.add_comm 1 block.length]

end Program

/-- The place is none of a number of places from a first one on. -/
def Outside (start size place : Nat) : Prop := place < start ∨ start + size ≤ place

theorem Outside.ne_first {start size place : Nat} (h : Outside start (size + 1) place) : place ≠ start := by
  unfold Outside at h
  omega

theorem Outside.ne_last {start size place : Nat} (h : Outside start (size + 1) place) : place ≠ start + size := by
  unfold Outside at h
  omega

namespace Regex

variable {text : Array Char} {R S : Nat → Nat → Prop} {body tail : Layout} {size m n : Nat}

/-- Wherever the steps stand, they lead to the place they lead out to exactly between related positions: they
lead there between such positions, and nothing comes out of them otherwise. -/
structure Realizes (text : Array Char) (body : Layout) (size : Nat) (R : Nat → Nat → Prop) : Prop where
  length_eq (start next : Nat) : (body start next).length = size
  goesOn (start next : Nat) : Step.stop ∉ body start next
  complete {p : Program} {start next b i j : Nat} (hp : p.Has start (body start next)) (h : R i j) :
    p.Leads text ⟨b, start, i⟩ ⟨b, next, j⟩
  sound {p : Program} {start next n b i : Nat} {t : Thread} (hp : p.Has start (body start next))
    (h : p.LeadsIn text n ⟨b, start, i⟩ t) (hout : Outside start size t.step) :
    ∃ n' ≤ n, ∃ j, R i j ∧ p.LeadsIn text n' ⟨b, next, j⟩ t

theorem Realizes.congr (h : Realizes text body size R) (hR : ∀ i j, R i j ↔ S i j) :
    Realizes text body size S := by
  have : R = S := funext fun i => funext fun j => propext (hR i j)
  exact this ▸ h

/-- To get to another place takes a first step. -/
theorem exists_goes {p : Program} {t u : Thread} (h : p.LeadsIn text n t u) (hne : u.step ≠ t.step) :
    ∃ n', n = n' + 1 ∧ ∃ v, p.Goes text t v ∧ p.LeadsIn text n' v u := by
  cases n with
  | zero => exact absurd (congrArg Thread.step h).symm hne
  | succ n => exact ⟨n, rfl, h⟩

/-- A single step that leads out. -/
theorem realizes_single {step : Nat → Step} (hstop : ∀ next, step next ≠ .stop)
    (h : ∀ (t u : Thread) (next : Nat), u ∈ t.successors text (step next) ↔
      ∃ j, R t.place j ∧ u = ⟨t.start, next, j⟩) :
    Realizes text (fun _ next => [step next]) 1 R where
  length_eq _ _ := rfl
  goesOn _ next hmem := hstop next (List.mem_singleton.mp hmem).symm
  complete hp hR := by
    obtain ⟨hs, -⟩ := Program.has_cons.mp hp
    exact ((Program.goes_iff hs).mpr ((h _ _ _).mpr ⟨_, hR, rfl⟩)).leads (.refl _)
  sound hp hpath hout := by
    obtain ⟨hs, -⟩ := Program.has_cons.mp hp
    obtain ⟨n', rfl, v, hv, hrest⟩ := exists_goes hpath hout.ne_first
    obtain ⟨j, hj, rfl⟩ := (h _ _ _).mp ((Program.goes_iff hs).mp hv)
    exact ⟨n', Nat.le_succ n', j, hj, hrest⟩

theorem realizes_goto : Realizes text (fun _ next => [.goto next]) 1 fun i j => i = j :=
  realizes_single (fun _ => by simp) fun t u next => by simp [Thread.successors, Thread.moved]

theorem realizes_take (set : CharSet) :
    Realizes text (fun _ next => [.take set next]) 1 fun i j => set.holdsAt text i = true ∧ i + 1 = j :=
  realizes_single (fun _ => by simp) fun t u next => by
    cases h : set.holdsAt text t.place <;> simp [Thread.successors, Thread.advanced, h]

theorem realizes_check (a : Anchor) :
    Realizes text (fun _ next => [.check a next]) 1 fun i j => a.holds text i = true ∧ i = j :=
  realizes_single (fun _ => by simp) fun t u next => by
    cases h : a.holds text t.place <;> simp [Thread.successors, Thread.moved, h]

theorem realizes_seq (h : Realizes text body m R) (htail : Realizes text tail n S) :
    Realizes text (fun start next => body start (start + m) ++ tail (start + m) next) (m + n)
      fun i j => ∃ k, R i k ∧ S k j where
  length_eq start next := by rw [List.length_append, h.length_eq, htail.length_eq]
  goesOn start next hmem := (List.mem_append.mp hmem).elim (h.goesOn _ _) (htail.goesOn _ _)
  complete hp hR := by
    obtain ⟨hfirst, hlast⟩ := Program.has_append.mp hp
    rw [h.length_eq] at hlast
    obtain ⟨k, hk, hj⟩ := hR
    exact (h.complete hfirst hk).trans (htail.complete hlast hj)
  sound hp hpath hout := by
    obtain ⟨hfirst, hlast⟩ := Program.has_append.mp hp
    rw [h.length_eq] at hlast
    obtain ⟨n₁, hn₁, k, hk, hmiddle⟩ := h.sound hfirst hpath (by unfold Outside at *; omega)
    obtain ⟨n₂, hn₂, j, hj, hrest⟩ := htail.sound hlast hmiddle (by unfold Outside at *; omega)
    exact ⟨n₂, Nat.le_trans hn₂ hn₁, j, ⟨k, hk, hj⟩, hrest⟩

theorem realizes_alt (h : Realizes text body m R) (htail : Realizes text tail n S) :
    Realizes text (fun start next => .fork (start + 1) (start + 1 + m) ::
      (body (start + 1) next ++ tail (start + 1 + m) next)) (m + n + 1) fun i j => R i j ∨ S i j where
  length_eq start next := by rw [List.length_cons, List.length_append, h.length_eq, htail.length_eq]
  goesOn start next hmem := by
    rcases List.mem_cons.mp hmem with hmem | hmem
    · cases hmem
    · exact (List.mem_append.mp hmem).elim (h.goesOn _ _) (htail.goesOn _ _)
  complete hp hR := by
    obtain ⟨hs, hboth⟩ := Program.has_cons.mp hp
    obtain ⟨hfirst, hlast⟩ := Program.has_append.mp hboth
    rw [h.length_eq] at hlast
    rcases hR with hR | hS
    · exact ((Program.goes_fork_iff hs).mpr (.inl rfl)).leads (h.complete hfirst hR)
    · exact ((Program.goes_fork_iff hs).mpr (.inr rfl)).leads (htail.complete hlast hS)
  sound hp hpath hout := by
    obtain ⟨hs, hboth⟩ := Program.has_cons.mp hp
    obtain ⟨hfirst, hlast⟩ := Program.has_append.mp hboth
    rw [h.length_eq] at hlast
    obtain ⟨n', rfl, v, hv, hrest⟩ := exists_goes hpath hout.ne_first
    rcases (Program.goes_fork_iff hs).mp hv with rfl | rfl
    · obtain ⟨n₁, hn₁, j, hj, hout⟩ := h.sound hfirst hrest (by unfold Outside at *; omega)
      exact ⟨n₁, Nat.le_trans hn₁ (Nat.le_succ _), j, .inl hj, hout⟩
    · obtain ⟨n₁, hn₁, j, hj, hout⟩ := htail.sound hlast hrest (by unfold Outside at *; omega)
      exact ⟨n₁, Nat.le_trans hn₁ (Nat.le_succ _), j, .inr hj, hout⟩

theorem stop_ne_round (greedy : Bool) (again leave : Nat) : Step.stop ≠ .round greedy again leave := by
  cases greedy <;> exact Step.noConfusion

/-- Steps that may be left out. -/
theorem realizes_optional (greedy : Bool) (h : Realizes text body m R) :
    Realizes text (fun start next => .round greedy (start + 1) next :: body (start + 1) next) (m + 1)
      fun i j => i = j ∨ R i j where
  length_eq start next := by rw [List.length_cons, h.length_eq]
  goesOn start next hmem := by
    rcases List.mem_cons.mp hmem with hmem | hmem
    · exact stop_ne_round _ _ _ hmem
    · exact h.goesOn _ _ hmem
  complete hp hR := by
    obtain ⟨hs, hbody⟩ := Program.has_cons.mp hp
    rcases hR with rfl | hR
    · exact ((Program.goes_round_iff hs).mpr (.inr rfl)).leads (.refl _)
    · exact ((Program.goes_round_iff hs).mpr (.inl rfl)).leads (h.complete hbody hR)
  sound hp hpath hout := by
    obtain ⟨hs, hbody⟩ := Program.has_cons.mp hp
    obtain ⟨n', rfl, v, hv, hrest⟩ := exists_goes hpath hout.ne_first
    rcases (Program.goes_round_iff hs).mp hv with rfl | rfl
    · obtain ⟨n₁, hn₁, j, hj, hlater⟩ := h.sound hbody hrest (by unfold Outside at *; omega)
      exact ⟨n₁, Nat.le_trans hn₁ (Nat.le_succ _), j, .inr hj, hlater⟩
    · exact ⟨n', Nat.le_succ n', _, .inl rfl, hrest⟩

/-- Rounds of the same steps, where the step before each round decides about it. -/
theorem realizes_loop (greedy : Bool) (h : Realizes text body m R) :
    Realizes text (fun start next => .round greedy (start + 1) next :: body (start + 1) start) (m + 1)
      fun i j => ∃ k, Rounds R k i j where
  length_eq start next := by rw [List.length_cons, h.length_eq]
  goesOn start next hmem := by
    rcases List.mem_cons.mp hmem with hmem | hmem
    · exact stop_ne_round _ _ _ hmem
    · exact h.goesOn _ _ hmem
  complete {p start next b i j} hp hR := by
    obtain ⟨hs, hbody⟩ := Program.has_cons.mp hp
    obtain ⟨k, hk⟩ := hR
    induction k generalizing i with
    | zero =>
      obtain rfl : i = j := hk
      exact ((Program.goes_round_iff hs).mpr (.inr rfl)).leads (.refl _)
    | succ k ih =>
      obtain ⟨l, hl, hrest⟩ := hk
      exact ((Program.goes_round_iff hs).mpr (.inl rfl)).leads ((h.complete hbody hl).trans (ih hrest))
  sound {p start next n b i t} hp hpath hout := by
    obtain ⟨hs, hbody⟩ := Program.has_cons.mp hp
    -- Each round uses up steps of the way, so the induction is on how many there are.
    induction n using Nat.strongRecOn generalizing i with
    | ind n ih =>
      obtain ⟨n', rfl, v, hv, hrest⟩ := exists_goes hpath hout.ne_first
      rcases (Program.goes_round_iff hs).mp hv with rfl | rfl
      · obtain ⟨n₁, hn₁, l, hl, hagain⟩ := h.sound hbody hrest (by unfold Outside at *; omega)
        obtain ⟨n₂, hn₂, j, ⟨k, hk⟩, hlater⟩ := ih n₁ (Nat.lt_succ_of_le hn₁) hagain
        exact ⟨n₂, by omega, j, ⟨k + 1, l, hl, hk⟩, hlater⟩
      · exact ⟨n', Nat.le_succ n', i, ⟨0, rfl⟩, hrest⟩

/-- Rounds of the same steps, where the step after each round decides about another. -/
theorem realizes_again (greedy : Bool) (h : Realizes text body m R) :
    Realizes text (fun start next => body start (start + m) ++ [.round greedy start next]) (m + 1)
      fun i j => ∃ k, Rounds R (k + 1) i j where
  length_eq start next := by rw [List.length_append, h.length_eq, List.length_singleton]
  goesOn start next hmem := by
    rcases List.mem_append.mp hmem with hmem | hmem
    · exact h.goesOn _ _ hmem
    · exact stop_ne_round _ _ _ (List.mem_singleton.mp hmem)
  complete {p start next b i j} hp hR := by
    obtain ⟨hbody, hlast⟩ := Program.has_append.mp hp
    rw [h.length_eq] at hlast
    obtain ⟨hs, -⟩ := Program.has_cons.mp hlast
    obtain ⟨k, l, hl, hrest⟩ := hR
    induction k generalizing i l with
    | zero =>
      obtain rfl : l = j := hrest
      exact (h.complete hbody hl).trans (((Program.goes_round_iff hs).mpr (.inr rfl)).leads (.refl _))
    | succ k ih =>
      obtain ⟨l', hl', hlater⟩ := hrest
      exact (h.complete hbody hl).trans (((Program.goes_round_iff hs).mpr (.inl rfl)).leads (ih l' hl' hlater))
  sound {p start next n b i t} hp hpath hout := by
    obtain ⟨hbody, hlast⟩ := Program.has_append.mp hp
    rw [h.length_eq] at hlast
    obtain ⟨hs, -⟩ := Program.has_cons.mp hlast
    induction n using Nat.strongRecOn generalizing i with
    | ind n ih =>
      obtain ⟨n₁, hn₁, l, hl, hmiddle⟩ := h.sound hbody hpath (by unfold Outside at *; omega)
      obtain ⟨n₂, rfl, v, hv, hrest⟩ := exists_goes hmiddle hout.ne_last
      rcases (Program.goes_round_iff hs).mp hv with rfl | rfl
      · obtain ⟨n₃, hn₃, j, ⟨k, hk⟩, hlater⟩ := ih n₂ hn₁ hrest
        exact ⟨n₃, by omega, j, ⟨k + 1, l, hl, hk⟩, hlater⟩
      · exact ⟨n₂, by omega, l, ⟨0, l, hl, rfl⟩, hrest⟩

/-- A number of copies before other steps. -/
theorem realizes_copies (h : Realizes text body m R) (htail : Realizes text tail n S) (count : Nat) :
    Realizes text (fun start next => copies body m count start ++ tail (start + count * m) next)
      (count * m + n) fun i j => ∃ k, Rounds R count i k ∧ S k j := by
  induction count with
  | zero =>
    have hlayout : (fun start next => copies body m 0 start ++ tail (start + 0 * m) next) = tail := by
      funext start next
      rw [copies, List.nil_append, Nat.zero_mul, Nat.add_zero]
    rw [hlayout, Nat.zero_mul, Nat.zero_add]
    exact htail.congr fun i j => by simp [Rounds]
  | succ count ih =>
    have hlayout : (fun start next => copies body m (count + 1) start ++ tail (start + (count + 1) * m) next) =
        fun start next => body start (start + m) ++
          (copies body m count (start + m) ++ tail (start + m + count * m) next) := by
      funext start next
      rw [copies, List.append_assoc, Nat.succ_mul, Nat.add_comm (count * m), Nat.add_assoc start]
    rw [hlayout, Nat.succ_mul, Nat.add_right_comm, Nat.add_comm _ m]
    refine (realizes_seq h ih).congr fun i j => ?_
    constructor
    · rintro ⟨l, hl, k, hk, hS⟩
      exact ⟨k, ⟨l, hl, hk⟩, hS⟩
    · rintro ⟨k, ⟨l, hl, hk⟩, hS⟩
      exact ⟨l, hl, k, hk, hS⟩

/-- A number of copies that may be left out. -/
theorem realizes_extras (greedy : Bool) (h : Realizes text body m R) (count : Nat) :
    Realizes text (fun start next => extras body m greedy next count start ++ [.goto next])
      (count * (m + 1) + 1) fun i j => ∃ k ≤ count, Rounds R k i j := by
  induction count with
  | zero =>
    rw [Nat.zero_mul, Nat.zero_add]
    exact realizes_goto.congr fun i j => by simp [Rounds]
  | succ count ih =>
    have hlayout : (fun start next => extras body m greedy next (count + 1) start ++ [Step.goto next]) =
        fun start next => .round greedy (start + 1) next :: (body (start + 1) (start + 1 + m) ++
          (extras body m greedy next count (start + 1 + m) ++ [.goto next])) := by
      funext start next
      rw [extras, List.cons_append, List.append_assoc]
    have hsize : (count + 1) * (m + 1) + 1 = m + (count * (m + 1) + 1) + 1 := by
      rw [Nat.succ_mul]
      omega
    rw [hlayout, hsize]
    refine (realizes_optional greedy (realizes_seq h ih)).congr fun i j => ?_
    constructor
    · rintro (rfl | ⟨l, hl, k, hk, hrounds⟩)
      · exact ⟨0, Nat.zero_le _, rfl⟩
      · exact ⟨k + 1, Nat.succ_le_succ hk, l, hl, hrounds⟩
    · rintro ⟨k, hk, hrounds⟩
      cases k with
      | zero => exact .inl hrounds
      | succ k =>
        obtain ⟨l, hl, hrest⟩ := hrounds
        exact .inr ⟨l, hl, k, Nat.le_of_succ_le_succ hk, hrest⟩

/-- The steps of an expression lead through the matches of the expression. -/
theorem realizes_steps (text : Array Char) (r : Regex) : Realizes text r.steps r.size (r.Matches text) := by
  induction r with
  | empty => exact realizes_goto
  | one set => exact realizes_take set
  | anchor a => exact realizes_check a
  | seq a b ha hb => exact realizes_seq ha hb
  | alt a b ha hb => exact realizes_alt ha hb
  | group place a ha => exact ha
  | many a least most greedy ha =>
    cases most with
    | some most =>
      refine (realizes_copies ha (realizes_extras greedy ha (most - least)) least).congr fun i j => ?_
      constructor
      · rintro ⟨k, hfirst, extra, hextra, hlast⟩
        refine ⟨least + extra, Nat.le_add_right _ _, fun upper hupper => ?_, hfirst.append hlast⟩
        cases hupper
        omega
      · rintro ⟨count, hleast, hmost, hrounds⟩
        have hupper := hmost most rfl
        rw [← Nat.add_sub_cancel' hleast, rounds_add] at hrounds
        obtain ⟨k, hfirst, hlast⟩ := hrounds
        exact ⟨k, hfirst, count - least, by omega, hlast⟩
    | none =>
      cases least with
      | zero =>
        have hmatches (i j : Nat) :
            (many a 0 none greedy).Matches text i j ↔ ∃ count, Rounds (a.Matches text) count i j := by
          simp [Matches]
        cases hadvances : a.advances with
        | true =>
          have hsteps : (many a 0 none greedy).steps =
              fun start next => .round greedy (start + 1) next :: a.steps (start + 1) start := by
            funext start next
            simp [steps, hadvances]
          have hsize : (many a 0 none greedy).size = a.size + 1 := by simp [Regex.size, hadvances]
          rw [hsteps, hsize]
          exact (realizes_loop greedy ha).congr fun i j => (hmatches i j).symm
        | false =>
          have hsteps : (many a 0 none greedy).steps = fun start next => .round greedy (start + 1) next ::
              (a.steps (start + 1) (start + 1 + a.size) ++ [.round greedy (start + 1) next]) := by
            funext start next
            simp [steps, hadvances]
          have hsize : (many a 0 none greedy).size = a.size + 1 + 1 := by simp [Regex.size, hadvances]
          rw [hsteps, hsize]
          refine (realizes_optional greedy (realizes_again greedy ha)).congr fun i j => ?_
          rw [hmatches]
          constructor
          · rintro (rfl | ⟨count, hrounds⟩)
            · exact ⟨0, rfl⟩
            · exact ⟨count + 1, hrounds⟩
          · rintro ⟨count, hrounds⟩
            cases count with
            | zero => exact .inl hrounds
            | succ count => exact .inr ⟨count, hrounds⟩
      | succ least =>
        refine (realizes_copies ha (realizes_again greedy ha) least).congr fun i j => ?_
        constructor
        · rintro ⟨k, hfirst, extra, hlast⟩
          refine ⟨least + (extra + 1), by omega, by simp, hfirst.append hlast⟩
        · rintro ⟨count, hleast, -, hrounds⟩
          obtain ⟨extra, rfl⟩ := Nat.exists_eq_add_of_le hleast
          rw [Nat.add_assoc, Nat.add_comm 1 extra, rounds_add] at hrounds
          obtain ⟨k, hfirst, hlast⟩ := hrounds
          exact ⟨k, hfirst, extra, hlast⟩

end Regex

end ObjectValidation
