import ObjectValidation.Proofs.Path
import ObjectValidation.Proofs.Violation.Updates

/-!
Merging sets of violations under paths. Paths are a monoid under moving, and merging lets it act on sets: what
is merged level by level ends up where it would be if it were merged once under the composed path. Moving keeps
different violations apart, so a set that is merged into an empty one loses nothing.
-/

namespace ObjectValidation

theorem Violation.rebased_empty (v : Violation) : v.rebased "" = v := rfl

theorem Violation.rebased_rebased (v : Violation) (p q : String) :
    (v.rebased q).rebased p = v.rebased (Path.rebase p q) := by
  simp only [rebased, Path.rebase_assoc]

theorem Violation.rebased_beq_iff (v w : Violation) (parent : String) :
    (v.rebased parent == w.rebased parent) = (v == w) := by
  rw [Bool.eq_iff_iff]
  constructor
  · intro h
    have hn := (Violation.beq_iff _ _).mp h
    simp only [Violation.normal, Violation.rebased, Violation.mk.injEq] at hn
    rw [Violation.beq_iff]
    simp [Violation.normal, hn, Path.rebase_injective parent hn.1]
  · exact Violation.rebased_beq parent

namespace ViolationSet

theorem empty_merge (parent : String) (child : ViolationSet) :
    (∅ : ViolationSet).merge parent child = ofList (child.toList.map fun v => v.rebased parent) := rfl

theorem merge_empty_path (s child : ViolationSet) : s.merge "" child = s.insertAll child.toList := by
  simp only [merge, Violation.rebased_empty, List.map_id']

/-- A set that was merged under a path already is moved once more, and duplicates stay duplicates. -/
theorem merge_merge (s child : ViolationSet) (p q : String) :
    s.merge p ((∅ : ViolationSet).merge q child) = s.merge (Path.rebase p q) child := by
  rw [empty_merge, merge_ofList, List.map_map, merge]
  congr 1
  exact List.map_congr_left fun v _ => v.rebased_rebased p q

theorem pairwise_map_rebased (child : ViolationSet) (parent : String) :
    (child.toList.map fun v => v.rebased parent).Pairwise fun v w => (v == w) = false := by
  rw [List.pairwise_map]
  exact child.distinct.imp fun {v w} hne => by rw [Violation.rebased_beq_iff, hne]

theorem toList_empty_merge (child : ViolationSet) (parent : String) :
    ((∅ : ViolationSet).merge parent child).toList = child.toList.map fun v => v.rebased parent := by
  rw [empty_merge, ofList_of_pairwise (child.pairwise_map_rebased parent)]

/-- Moving paths is associative, has the empty path as its neutral element, and can be cancelled on the left.
Merging is its action: two levels are one level under the composed path, the empty path leaves every path as
it is, and into an empty set every set is taken over whole. Whatever updates a set has gone through, it has no
equal violations. -/
theorem merge_acts :
    (∀ a b c : String, Path.rebase a (Path.rebase b c) = Path.rebase (Path.rebase a b) c) ∧
    (∀ a : String, Path.rebase "" a = a ∧ Path.rebase a "" = a) ∧
    (∀ a : String, Function.Injective (Path.rebase a)) ∧
    (∀ (s child : ViolationSet) (p q : String),
      s.merge p ((∅ : ViolationSet).merge q child) = s.merge (Path.rebase p q) child) ∧
    (∀ s child : ViolationSet, s.merge "" child = s.insertAll child.toList) ∧
    (∀ updates : List Update, (Update.applyAll ∅ updates).toList.Pairwise fun v w => (v == w) = false) ∧
    ∀ (child : ViolationSet) (p : String),
      ((∅ : ViolationSet).merge p child).toList = child.toList.map fun v => v.rebased p :=
  ⟨Path.rebase_assoc, fun a => ⟨Path.rebase_empty_left a, Path.rebase_empty_right a⟩, Path.rebase_injective,
    merge_merge, merge_empty_path, fun updates => (Update.applyAll ∅ updates).distinct, toList_empty_merge⟩

/-- An element and its collection both fail the same constraint; the points and brackets are part of names. -/
theorem merge_acts_brackets :
    let found : ViolationSet :=
      ⟨[⟨"[0].", none, .named "app.Size"⟩, ⟨"", none, .named "app.Size"⟩], by decide⟩
    ((∅ : ViolationSet).merge "a[" found).toList =
      [⟨"a[[0].", none, .named "app.Size"⟩, ⟨"a[", none, .named "app.Size"⟩] := by
  intro found
  rw [merge_acts.2.2.2.2.2.2 found "a["]
  rfl

end ViolationSet

end ObjectValidation
