import ObjectValidation.Proofs.Value.NormalForm
import ObjectValidation.Violation.Set
import Mathlib.Data.List.Induction

/-!
What a set of violations keeps of everything that was offered to it. Leaving out later duplicates early, in
the set of a nested object, and again when that set is taken over leaves the same as leaving them out once
from everything offered.
-/

namespace ObjectValidation.ViolationSet

variable {s : ViolationSet} {v w : Violation} {vs : List Violation}

theorem contains_iff : s.contains v = true ↔ ∃ u ∈ s.toList, (u == v) = true := by
  simp [contains]

theorem insert_of_contains (h : s.contains v = true) : s.insert v = s := by simp [insert, h]

theorem insert_of_not_contains (h : s.contains v = false) : (s.insert v).toList = s.toList ++ [v] := by
  simp [insert, h]

theorem contains_insert (s : ViolationSet) (v w : Violation) :
    (s.insert v).contains w = (s.contains w || v == w) := by
  cases h : s.contains v with
  | false => simp [contains, insert_of_not_contains h]
  | true =>
    rw [insert_of_contains h]
    obtain ⟨u, hu, huv⟩ := contains_iff.mp h
    cases hvw : v == w with
    | false => simp
    | true => simpa using contains_iff.mpr ⟨u, hu, PartialEquivBEq.trans huv hvw⟩

theorem insert_insert_self (s : ViolationSet) (v : Violation) : (s.insert v).insert v = s.insert v := by
  apply insert_of_contains
  rw [contains_insert, BEq.rfl, Bool.or_true]

@[simp] theorem insertAll_nil (s : ViolationSet) : s.insertAll [] = s := rfl

@[simp] theorem insertAll_cons (s : ViolationSet) (v : Violation) (vs : List Violation) :
    s.insertAll (v :: vs) = (s.insert v).insertAll vs := rfl

@[simp] theorem insertAll_append (s : ViolationSet) (vs ws : List Violation) :
    s.insertAll (vs ++ ws) = (s.insertAll vs).insertAll ws := by
  simp [insertAll]

theorem contains_insertAll (s : ViolationSet) (vs : List Violation) (w : Violation) :
    (s.insertAll vs).contains w = (s.contains w || vs.any fun v => v == w) := by
  induction vs generalizing s with
  | nil => simp
  | cons v vs ih => rw [insertAll_cons, ih, contains_insert, List.any_cons, Bool.or_assoc]

theorem empty_insertAll (vs : List Violation) : (∅ : ViolationSet).insertAll vs = ofList vs := rfl

theorem ofList_concat (vs : List Violation) (v : Violation) :
    ofList (vs ++ [v]) = (ofList vs).insert v := by
  simp [ofList]

theorem contains_ofList (vs : List Violation) (w : Violation) :
    (ofList vs).contains w = vs.any fun v => v == w := by
  rw [ofList, contains_insertAll]
  simp [contains, empty]

/-- Duplicates may be left out before violations are moved: the images are duplicates again. -/
theorem insertAll_map_ofList (s : ViolationSet) {f : Violation → Violation}
    (hf : ∀ v w, (v == w) = true → (f v == f w) = true) (vs : List Violation) :
    s.insertAll ((ofList vs).toList.map f) = s.insertAll (vs.map f) := by
  induction vs using List.reverseRecOn with
  | nil => rfl
  | append_singleton vs v ih =>
    rw [ofList_concat, List.map_append, insertAll_append, ← ih]
    cases h : (ofList vs).contains v with
    | false => simp [insert_of_not_contains h]
    | true =>
      rw [insert_of_contains h]
      obtain ⟨u, hu, huv⟩ := contains_iff.mp h
      have himage : (s.insertAll ((ofList vs).toList.map f)).contains (f v) = true := by
        rw [contains_insertAll, Bool.or_eq_true, List.any_eq_true]
        exact .inr ⟨f u, List.mem_map_of_mem hu, hf u v huv⟩
      exact (insert_of_contains himage).symm

/-- Taking over a set collected from violations is taking over all of them. -/
theorem merge_ofList (s : ViolationSet) (parent : String) (vs : List Violation) :
    s.merge parent (ofList vs) = s.insertAll (vs.map fun v => v.rebased parent) :=
  s.insertAll_map_ofList (fun _ _ h => Violation.rebased_beq parent h) vs

/-- No violation is lost but to one that is equal to it. -/
theorem exists_mem_ofList (h : v ∈ vs) : ∃ w ∈ (ofList vs).toList, (w == v) = true := by
  rw [← contains_iff, contains_ofList, List.any_eq_true]
  exact ⟨v, h, BEq.rfl⟩

theorem ofList_sublist (vs : List Violation) : (ofList vs).toList.Sublist vs := by
  induction vs using List.reverseRecOn with
  | nil => exact .slnil
  | append_singleton vs v ih =>
    rw [ofList_concat]
    cases h : (ofList vs).contains v with
    | true => rw [insert_of_contains h]; exact ih.trans (List.sublist_append_left vs [v])
    | false => rw [insert_of_not_contains h]; exact ih.append (.refl [v])

/-- Violations of which no two are equal are all kept. -/
theorem ofList_of_pairwise (h : vs.Pairwise fun v w => (v == w) = false) : (ofList vs).toList = vs := by
  induction vs using List.reverseRecOn with
  | nil => rfl
  | append_singleton vs v ih =>
    obtain ⟨hinit, -, hlast⟩ := List.pairwise_append.mp h
    have hnew : (ofList vs).contains v = false := by
      rw [contains_ofList, List.any_eq_false]
      intro w hw
      simp [hlast w hw v (List.mem_singleton_self v)]
    rw [ofList_concat, insert_of_not_contains hnew, ih hinit]

theorem prefix_insert (s : ViolationSet) (v : Violation) : s.toList <+: (s.insert v).toList := by
  cases h : s.contains v with
  | true => exact (insert_of_contains h).symm ▸ List.prefix_rfl
  | false =>
    rw [insert_of_not_contains h]
    exact List.prefix_append s.toList [v]

theorem prefix_insertAll (s : ViolationSet) (vs : List Violation) :
    s.toList <+: (s.insertAll vs).toList := by
  induction vs generalizing s with
  | nil => exact List.prefix_rfl
  | cons v vs ih => exact (s.prefix_insert v).trans (ih (s.insert v))

private theorem insertAll_eq_loop (vs : List Violation) {kept : List Violation} (h : s.toList = kept.reverse) :
    (s.insertAll vs).toList = List.eraseDupsBy.loop (fun v w => v == w) vs kept := by
  induction vs generalizing s kept with
  | nil => exact h
  | cons v vs ih =>
    have hsymm : s.contains v = kept.any fun w => v == w := by
      simp only [contains, h, List.any_reverse]
      exact congrArg kept.any (funext fun w => BEq.comm)
    rw [insertAll_cons, List.eraseDupsBy.loop]
    cases hv : kept.any fun w => v == w with
    | true => rw [insert_of_contains (hsymm.trans hv), ih h]
    | false => exact ih (by rw [insert_of_not_contains (hsymm.trans hv), h, List.reverse_cons])

/-- A set collected from violations lists the first of all equal ones, in order. -/
theorem ofList_toList (vs : List Violation) : (ofList vs).toList = vs.eraseDups := insertAll_eq_loop vs rfl

theorem pairwise_eraseDups (vs : List Violation) : vs.eraseDups.Pairwise fun v w => (v == w) = false :=
  ofList_toList vs ▸ (ofList vs).distinct

theorem ofList_isEmpty (vs : List Violation) : (ofList vs).isEmpty = vs.isEmpty := by
  rw [isEmpty, ofList_toList]
  cases vs with
  | nil => rfl
  | cons v vs => simp [List.eraseDups_cons]

theorem toResult_ofList {α : Type} (vs : List Violation) (success : α) :
    (ofList vs).toResult success =
      if vs.isEmpty then .ok success else .error ⟨vs.eraseDups, pairwise_eraseDups vs⟩ := by
  have hset : ofList vs = ⟨vs.eraseDups, pairwise_eraseDups vs⟩ := ViolationSet.ext (ofList_toList vs)
  rw [toResult, ofList_isEmpty, hset]

end ObjectValidation.ViolationSet
