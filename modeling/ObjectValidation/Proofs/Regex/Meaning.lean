import ObjectValidation.Regex.Match

/-!
What expressions mean: between which positions of a text they match. How a match is looked for and which one is
preferred plays no part here.
-/

namespace ObjectValidation.Regex

/-- A number of steps of a relation. -/
def Rounds (R : Nat → Nat → Prop) : Nat → Nat → Nat → Prop
  | 0, i, j => i = j
  | n + 1, i, j => ∃ k, R i k ∧ Rounds R n k j

/-- The expression matches the text between two positions. An upper count below the lower one counts as the
lower one. -/
def Matches (text : Array Char) : Regex → Nat → Nat → Prop
  | empty, i, j => i = j
  | one set, i, j => set.holdsAt text i = true ∧ i + 1 = j
  | anchor a, i, j => a.holds text i = true ∧ i = j
  | seq a b, i, j => ∃ k, a.Matches text i k ∧ b.Matches text k j
  | alt a b, i, j => a.Matches text i j ∨ b.Matches text i j
  | many a least most _, i, j =>
    ∃ n, least ≤ n ∧ (∀ k ∈ most, n ≤ max least k) ∧ Rounds (a.Matches text) n i j
  | group _ a, i, j => a.Matches text i j

/-- The expression can match the whole of a text. -/
def Covers (r : Regex) (text : String) : Prop := r.Matches text.toList.toArray 0 text.length

section

variable {R : Nat → Nat → Prop} {m n i j k : Nat}

theorem Rounds.append (h : Rounds R m i j) (hnext : Rounds R n j k) : Rounds R (m + n) i k := by
  induction m generalizing i with
  | zero => rwa [Nat.zero_add, show i = j from h]
  | succ m ih =>
    obtain ⟨l, hl, hrest⟩ := h
    rw [Nat.succ_add]
    exact ⟨l, hl, ih hrest⟩

theorem rounds_add : Rounds R (m + n) i k ↔ ∃ j, Rounds R m i j ∧ Rounds R n j k := by
  constructor
  · intro h
    induction m generalizing i with
    | zero => exact ⟨i, rfl, by rwa [Nat.zero_add] at h⟩
    | succ m ih =>
      rw [Nat.succ_add] at h
      obtain ⟨l, hl, hrest⟩ := h
      obtain ⟨j, hfirst, hlast⟩ := ih hrest
      exact ⟨j, ⟨l, hl, hfirst⟩, hlast⟩
  · rintro ⟨j, hfirst, hlast⟩
    exact hfirst.append hlast

end

section

variable {text : Array Char} {i j : Nat}

theorem matches_ofParts_cons (a : Regex) (as : List Regex) :
    (ofParts (a :: as)).Matches text i j ↔ ∃ k, a.Matches text i k ∧ (ofParts as).Matches text k j := by
  cases as with
  | nil => simp [ofParts, Matches]
  | cons b as => rfl

theorem matches_ofParts_append (as bs : List Regex) :
    (ofParts (as ++ bs)).Matches text i j ↔
      ∃ k, (ofParts as).Matches text i k ∧ (ofParts bs).Matches text k j := by
  induction as generalizing i with
  | nil => simp [ofParts, Matches]
  | cons a as ih =>
    simp only [List.cons_append, matches_ofParts_cons, ih]
    constructor
    · rintro ⟨l, hl, k, hk, hj⟩
      exact ⟨k, ⟨l, hl, hk⟩, hj⟩
    · rintro ⟨k, ⟨l, hl, hk⟩, hj⟩
      exact ⟨l, hl, k, hk, hj⟩

/-- An expression matches what its parts match one after the other. -/
theorem matches_ofParts_parts (a : Regex) : (ofParts a.parts).Matches text i j ↔ a.Matches text i j := by
  induction a generalizing i j with
  | empty | one | anchor | alt | many | group => rfl
  | seq a b iha ihb => simp only [parts, matches_ofParts_append, iha, ihb, Matches]

end

end ObjectValidation.Regex
