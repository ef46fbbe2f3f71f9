import ObjectValidation.Proofs.Violation.Set
import Mathlib.Data.List.Forall2
import Mathlib.Data.List.Perm.Subperm

/-!
Sets of violations under any sequence of updates. Whatever is done to a set, its list is the list of everything
offered to it so far with later duplicates left out. An update only ever adds at the end, unless it starts the
set anew. All ways of reading a set show this list, and equality of sets is the one question that leaves out
the order.
-/

namespace ObjectValidation.ViolationSet

inductive Update where
  | insert (v : Violation)
  | insertRebased (parent : String) (v : Violation)
  | merge (parent : String) (child : ViolationSet)
  | extend (vs : List Violation)
  /-- The set is collected anew. -/
  | collect (vs : List Violation)

namespace Update

def isCollect : Update → Bool
  | collect _ => true
  | _ => false

def apply (s : ViolationSet) : Update → ViolationSet
  | insert v => (s.insertNew v).2
  | insertRebased parent v => (s.insertNew (v.rebased parent)).2
  | merge parent child => s.merge parent child
  | extend vs => s.insertAll vs
  | collect vs => .ofList vs

def applyAll (s : ViolationSet) (updates : List Update) : ViolationSet := updates.foldl apply s

/-- What has been offered to a set after an update, those of a nested object under its path. -/
def offer (offered : List Violation) : Update → List Violation
  | insert v => offered ++ [v]
  | insertRebased parent v => offered ++ [v.rebased parent]
  | merge parent child => offered ++ child.toList.map fun v => v.rebased parent
  | extend vs => offered ++ vs
  | collect vs => vs

def offerAll (updates : List Update) : List Violation := updates.foldl offer []

/-- An update keeps the set the set of what has been offered to it. -/
theorem apply_ofList (update : Update) (offered : List Violation) :
    apply (ofList offered) update = ofList (offer offered update) := by
  cases update with
  | insert v => exact (ofList_concat offered v).symm
  | insertRebased parent v => exact (ofList_concat offered (v.rebased parent)).symm
  | merge parent child => exact (insertAll_append empty offered _).symm
  | extend vs => exact (insertAll_append empty offered vs).symm
  | collect vs => rfl

theorem applyAll_ofList (updates : List Update) (offered : List Violation) :
    applyAll (ofList offered) updates = ofList (updates.foldl offer offered) := by
  induction updates generalizing offered with
  | nil => rfl
  | cons update rest ih =>
    have hfirst : applyAll (ofList offered) (update :: rest) =
        applyAll (apply (ofList offered) update) rest := rfl
    rw [hfirst, apply_ofList, ih, List.foldl_cons]

theorem applyAll_empty (updates : List Update) : applyAll ∅ updates = ofList (offerAll updates) :=
  applyAll_ofList updates []

theorem prefix_apply (s : ViolationSet) {update : Update} (h : update.isCollect = false) :
    s.toList <+: (apply s update).toList := by
  cases update with
  | insert v => exact s.prefix_insert v
  | insertRebased parent v => exact s.prefix_insert (v.rebased parent)
  | merge parent child => exact s.prefix_insertAll _
  | extend vs => exact s.prefix_insertAll vs
  | collect vs => cases h

end Update

/-- The same violations in some order, where equal violations count as the same. -/
def Permuted (vs ws : List Violation) : Prop :=
  ∃ us, us.Perm ws ∧ List.Forall₂ (fun v u => (v == u) = true) vs us

theorem permuted_iff_normal {vs ws : List Violation} :
    Permuted vs ws ↔ (vs.map Violation.normal).Perm (ws.map Violation.normal) := by
  constructor
  · rintro ⟨us, hperm, hequal⟩
    have hnormal : vs.map Violation.normal = us.map Violation.normal := by
      rw [← List.forall₂_eq_eq_eq, List.forall₂_map_left_iff, List.forall₂_map_right_iff]
      exact hequal.imp fun v u h => (Violation.beq_iff v u).mp h
    rw [hnormal]
    exact hperm.map Violation.normal
  · intro hperm
    have hself : List.Forall₂ (fun n w => n = Violation.normal w) (ws.map Violation.normal) ws := by
      rw [List.forall₂_map_left_iff]
      exact List.forall₂_same.mpr fun _ _ => rfl
    -- The permutation of the normal forms is carried over to the violations themselves.
    obtain ⟨us, hequal, hus⟩ := List.perm_comp_forall₂ hperm hself
    rw [List.forall₂_map_left_iff] at hequal
    exact ⟨us, hus, hequal.imp fun v u h => (Violation.beq_iff v u).mpr h⟩

variable {s t : ViolationSet}

theorem nodup_normal (s : ViolationSet) : (s.toList.map Violation.normal).Nodup := by
  rw [List.Nodup, List.pairwise_map]
  refine s.distinct.imp fun {v w} hne hsame => ?_
  rw [(Violation.beq_iff v w).mpr hsame] at hne
  cases hne

theorem beq_iff : (s == t) = true ↔ s.size = t.size ∧ ∀ v ∈ s.toList, t.contains v = true := by
  show (s.size == t.size && s.toList.all t.contains) = true ↔ _
  rw [Bool.and_eq_true, beq_iff_eq, List.all_eq_true]

theorem contains_iff_normal {v : Violation} :
    t.contains v = true ↔ v.normal ∈ t.toList.map Violation.normal := by
  rw [contains_iff, List.mem_map]
  simp only [Violation.beq_iff]

/-- Sets are equal exactly when their lists are permutations of each other. -/
theorem beq_iff_permuted : (s == t) = true ↔ Permuted s.toList t.toList := by
  rw [beq_iff, permuted_iff_normal]
  constructor
  · rintro ⟨hsize, hsubset⟩
    have hnormal : s.toList.map Violation.normal ⊆ t.toList.map Violation.normal := by
      intro n hn
      obtain ⟨v, hv, rfl⟩ := List.mem_map.mp hn
      exact contains_iff_normal.mp (hsubset v hv)
    apply (List.subperm_of_subset s.nodup_normal hnormal).perm_of_length_le
    rw [List.length_map, List.length_map]
    exact Nat.le_of_eq hsize.symm
  · intro hperm
    refine ⟨by simpa [size] using hperm.length_eq, fun v hv => ?_⟩
    exact contains_iff_normal.mpr (hperm.subset (List.mem_map_of_mem hv))

theorem size_insert (s : ViolationSet) (v : Violation) :
    (s.insert v).size = s.size + if s.contains v then 0 else 1 := by
  cases h : s.contains v with
  | true => simp [insert_of_contains h]
  | false => simp [insert_of_not_contains h, size]

/-- Every way of reading a set shows the same list in the same order: the positions from zero up to the size,
the violations at a path, and the JSON document. -/
structure Shows (s : ViolationSet) (vs : List Violation) : Prop where
  toList_eq : s.toList = vs
  get?_eq (i : Nat) : s.get? i = vs[i]?
  atPath_sublist (path : String) : (s.atPath path).Sublist vs
  mem_atPath (path : String) (v : Violation) : v ∈ s.atPath path ↔ v ∈ vs ∧ v.path = path
  toJson_eq : s.toJson = .array (vs.map Violation.toJson)

theorem shows_toList (s : ViolationSet) : s.Shows s.toList where
  toList_eq := rfl
  get?_eq _ := rfl
  atPath_sublist _ := List.filter_sublist
  mem_atPath path v := by simp [atPath]
  toJson_eq := by
    show Json.array ((s.toList.map Violation.toJson).map id) = _
    rw [List.map_id]

/-- After any updates a set is what was offered to it, each violation at the place where it first came up. Two
sets are equal if one list is a permutation of the other. -/
theorem applyAll_represents (updates others : List Update) :
    let s := Update.applyAll ∅ updates
    let t := Update.applyAll ∅ others
    (s.toList.Pairwise fun v w => (v == w) = false) ∧
    s.Shows (Update.offerAll updates).eraseDups ∧
    (∀ update : Update, update.isCollect = false → s.toList <+: (update.apply s).toList) ∧
    (∀ v, ((s.insertNew v).1 = true ↔ ∀ w ∈ s.toList, (w == v) = false) ∧
      ((s.insertNew v).1 = true ↔ (s.insertNew v).2.size = s.size + 1)) ∧
    ((s == t) = true ↔ Permuted s.toList t.toList) := by
  intro s t
  have hs : s = ofList (Update.offerAll updates) := Update.applyAll_empty updates
  refine ⟨s.distinct, ?_, fun update => Update.prefix_apply s, fun v => ⟨?_, ?_⟩, ?_⟩
  · rw [← ofList_toList, ← hs]
    exact shows_toList s
  · simp [insertNew, contains]
  · rw [insertNew, size_insert]
    cases s.contains v <;> simp
  · exact beq_iff_permuted

end ObjectValidation.ViolationSet
