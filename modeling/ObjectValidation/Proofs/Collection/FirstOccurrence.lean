import Mathlib.Data.List.Basic

/-!
The order in which the elements of a list occur for the first time. Neither leaving out later duplicates nor
leaving out other elements changes it, and in a concatenation of lists it goes by the first list that has the
element, then by the place in that list.
-/

namespace ObjectValidation

variable {α β : Type} [BEq α] [LawfulBEq α]

theorem nodup_eraseDups (l : List α) : l.eraseDups.Nodup := by
  induction h : l.length using Nat.strongRecOn generalizing l with
  | _ n ih =>
    cases l with
    | nil => simp
    | cons a rest =>
      rw [List.eraseDups_cons, List.nodup_cons]
      constructor
      · simp
      · have hshorter := List.length_filter_le (fun b => !b == a) rest
        exact ih _ (by simp only [List.length_cons] at h; omega) _ rfl

theorem idxOf_filter_lt_iff {p : α → Bool} {a b : α} (ha : p a) (hb : p b) (l : List α) :
    (l.filter p).idxOf a < (l.filter p).idxOf b ↔ l.idxOf a < l.idxOf b := by
  induction l with
  | nil => simp
  | cons x rest ih =>
    by_cases hx : p x
    · rw [List.filter_cons_of_pos hx, List.idxOf_cons, List.idxOf_cons, List.idxOf_cons, List.idxOf_cons]
      cases x == a <;> cases x == b <;> simp [ih]
    · have hxa : (x == a) = false := beq_eq_false_iff_ne.2 fun h => hx (h ▸ ha)
      have hxb : (x == b) = false := beq_eq_false_iff_ne.2 fun h => hx (h ▸ hb)
      rw [List.filter_cons_of_neg hx, ih, List.idxOf_cons, List.idxOf_cons, hxa, hxb]
      simp

theorem idxOf_eraseDups_lt_iff (a b : α) (l : List α) :
    l.eraseDups.idxOf a < l.eraseDups.idxOf b ↔ l.idxOf a < l.idxOf b := by
  induction h : l.length using Nat.strongRecOn generalizing l with
  | _ n ih =>
    cases l with
    | nil => simp
    | cons x rest =>
      rw [List.eraseDups_cons, List.idxOf_cons, List.idxOf_cons, List.idxOf_cons, List.idxOf_cons]
      cases hxa : x == a with
      | true => cases hxb : x == b <;> simp
      | false =>
        cases hxb : x == b with
        | true => simp
        | false =>
          have ha : !a == x := by simpa [BEq.comm (a := a)] using hxa
          have hb : !b == x := by simpa [BEq.comm (a := b)] using hxb
          have hshorter := List.length_filter_le (fun y => !y == x) rest
          have hrest := ih _ (by simp only [List.length_cons] at h; omega)
            (rest.filter fun y => !y == x) rfl
          rw [idxOf_filter_lt_iff (p := fun y => !y == x) ha hb] at hrest
          simp [hrest]

/-- The first element of a list with a property stands before all others that have it. -/
theorem idxOf_le_of_find? {p : α → Bool} {first a : α} {l : List α} (h : l.find? p = some first)
    (ha : a ∈ l) (hp : p a) : l.idxOf first ≤ l.idxOf a := by
  induction l with
  | nil => cases ha
  | cons x rest ih =>
    rw [List.find?_cons] at h
    cases hx : p x with
    | true =>
      rw [hx] at h
      cases h
      simp
    | false =>
      rw [hx] at h
      have hxa : x ≠ a := fun he => by simp [he, hp] at hx
      have hxfirst : x ≠ first := fun he => by simp [he, List.find?_some h] at hx
      have hmem : a ∈ rest := (List.mem_cons.1 ha).resolve_left hxa.symm
      rw [List.idxOf_cons_ne _ hxa, List.idxOf_cons_ne _ hxfirst]
      exact Nat.succ_le_succ (ih h hmem)

variable [BEq β] [LawfulBEq β]

theorem idxOf_flatMap_lt_iff {f : β → List α} {a b : α} {p q : β} {l : List β}
    (hp : (l.find? fun x => a ∈ f x) = some p) (hq : (l.find? fun x => b ∈ f x) = some q) :
    (l.flatMap f).idxOf a < (l.flatMap f).idxOf b ↔
      l.idxOf p < l.idxOf q ∨ p = q ∧ (f p).idxOf a < (f p).idxOf b := by
  induction l with
  | nil => cases hp
  | cons x rest ih =>
    have hne {c : α} {r : β} (hr : (rest.find? fun x => c ∈ f x) = some r) (hc : c ∉ f x) : x ≠ r := by
      rintro rfl
      exact hc (by simpa using List.find?_some hr)
    rw [List.flatMap_cons, List.idxOf_append, List.idxOf_append]
    rw [List.find?_cons] at hp hq
    by_cases ha : a ∈ f x <;> by_cases hb : b ∈ f x
    · simp only [ha, hb, decide_true, Option.some.injEq] at hp hq
      simp [ha, hb, ← hp, ← hq]
    · simp only [ha, hb, decide_true, decide_false, Option.some.injEq] at hp hq
      have hlt := List.idxOf_lt_length_of_mem ha
      rw [if_pos ha, if_neg hb, ← hp, List.idxOf_cons_self, List.idxOf_cons_ne _ (hne hq hb)]
      constructor
      · intro _
        exact .inl (Nat.succ_pos _)
      · intro _
        omega
    · simp only [ha, hb, decide_true, decide_false, Option.some.injEq] at hp hq
      have hlt := List.idxOf_lt_length_of_mem hb
      have hxp := hne hp ha
      rw [if_neg ha, if_pos hb, ← hq, List.idxOf_cons_self]
      constructor
      · intro _
        omega
      · rintro (hlt | ⟨heq, -⟩)
        · omega
        · exact absurd heq.symm hxp
    · simp only [ha, hb, decide_false] at hp hq
      rw [if_neg ha, if_neg hb, List.idxOf_cons_ne _ (hne hp ha), List.idxOf_cons_ne _ (hne hq hb)]
      rw [Nat.add_lt_add_iff_right, ih hp hq, Nat.succ_lt_succ_iff]

end ObjectValidation
