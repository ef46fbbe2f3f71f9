import ObjectValidation.Proofs.Returns
import ObjectValidation.Proofs.Validation.Flat
import ObjectValidation.Proofs.Violation.Merging
import Mathlib

/-!
What the elements of a collection contribute to the violations of the whole. Each is validated on its own, and
what is found there is moved under its position or key. Nothing under one position has the path of anything
under another, so no two elements ever share a violation: none is lost, and the numbers add up.
-/

namespace ObjectValidation

variable {m : Type → Type} [Monad m] {α β ε κ ν : Type}

/-! The parts of an object that are validated one after the other: the path of each, and how its violations
are found. -/

/-- The violations of each part, under its path. -/
def foundInParts : List (String × m ViolationSet) → m (List (String × ViolationSet))
  | [] => return []
  | (path, find) :: rest => do
    let found ← find
    let others ← foundInParts rest
    return (path, found) :: others

/-- What parts contribute to the whole: the violations of each, moved under its path, in order. -/
def contributions (parts : List (String × ViolationSet)) : List Violation :=
  parts.flatMap fun part => part.2.toList.map fun v => v.rebased part.1

theorem length_contributions (parts : List (String × ViolationSet)) :
    (contributions parts).length = (parts.map fun part => part.2.size).sum := by
  simp only [contributions, List.length_flatMap, List.length_map, ViolationSet.size]

/-- Into an empty set the pass records what the parts contribute, and it does nothing else. -/
def Recording.ConsistsOf (pass : Recording m Unit) (parts : List (String × m ViolationSet)) : Prop :=
  (do let ((), recorded) ← StateT.run pass ∅; return recorded.toList) =
    (do let found ← foundInParts parts; return contributions found)

/-- Parts that stand apart share no violation. -/
theorem pairwise_contributions {parts : List (String × ViolationSet)}
    (hapart : (parts.map Prod.fst).Pairwise Path.Apart) :
    (contributions parts).Pairwise fun v w => (v == w) = false := by
  rw [contributions, List.pairwise_flatMap]
  constructor
  · exact fun part _ => part.2.pairwise_map_rebased part.1
  · refine (List.pairwise_map.mp hapart).imp fun {first second} h => ?_
    rintro _ hv _ hw
    obtain ⟨v, -, rfl⟩ := List.mem_map.mp hv
    obtain ⟨w, -, rfl⟩ := List.mem_map.mp hw
    rw [Bool.eq_false_iff]
    intro heq
    have hn := (Violation.beq_iff _ _).mp heq
    exact h v.path w.path (Violation.mk.inj hn).1

namespace Property

/-- The elements of a property under their positions. -/
def indexedParts [Elements α ε] (p : Property α) (block : Nat → Block m ε) :
    List (String × m ViolationSet) :=
  p.value.toList.flatMap fun a => (Elements.elements a).zipIdx.map fun e =>
    (Path.index p.path e.2, (block e.2).violations e.1)

/-- The entries of a property under the texts of their keys. -/
def keyedParts [Elements α (Entry κ ν)] [ToString κ] (p : Property α) (block : Block m (Entry κ ν)) :
    List (String × m ViolationSet) :=
  p.value.toList.flatMap fun a => (Elements.elements a).map fun e =>
    (Path.key p.path (toString e.key), block.violations e)

/-- Positions keep elements apart. -/
theorem apart_indexedParts [Elements α ε] (p : Property α) (block : Nat → Block m ε) :
    ((p.indexedParts block).map Prod.fst).Pairwise Path.Apart := by
  unfold indexedParts
  cases p.value with
  | none => simp
  | some collection =>
    have hpositions : ((Elements.elements collection).zipIdx.map Prod.snd).Nodup := by
      rw [List.zipIdx_map_snd]
      exact List.nodup_range'
    simpa [List.pairwise_map] using (List.pairwise_map.mp hpositions).imp fun h => Path.apart_index p.path h

/-- Keys keep entries apart if their texts differ and none has a closing bracket in it. -/
def KeysApart [Elements α (Entry κ ν)] [ToString κ] (p : Property α) : Prop :=
  ∀ map, p.value = some map →
    ((Elements.elements map).map fun e => toString e.key).Nodup ∧
      ∀ e ∈ Elements.elements map, ']' ∉ (toString e.key).toList

theorem apart_keyedParts [Elements α (Entry κ ν)] [ToString κ] {p : Property α} (h : p.KeysApart)
    (block : Block m (Entry κ ν)) : ((p.keyedParts block).map Prod.fst).Pairwise Path.Apart := by
  unfold keyedParts
  cases hvalue : p.value with
  | none => simp
  | some map =>
    obtain ⟨hnodup, hbracket⟩ := h map hvalue
    have hpairwise := (List.pairwise_map.mp hnodup).imp_of_mem fun {e f} he hf hne =>
      Path.apart_key p.path (hbracket e he) (hbracket f hf) hne
    simpa [List.pairwise_map] using hpairwise

end Property

theorem Recording.run_merge (path : String) (found : ViolationSet) (s : ViolationSet) :
    StateT.run (Recording.merge path found : Recording m Unit) s =
      pure ((), s.insertAll (found.toList.map fun v => v.rebased path)) := rfl

variable [LawfulMonad m]

theorem ensures_foundInParts (parts : List (String × m ViolationSet)) :
    Ensures (foundInParts parts) fun found => found.map Prod.fst = parts.map Prod.fst := by
  induction parts with
  | nil => exact ensures_pure rfl
  | cons part rest ih =>
    refine (ensures_true part.2).bind fun found _ => ih.bind fun others hothers => ensures_pure ?_
    rw [List.map_cons, List.map_cons, hothers]

/-- If the parts stand apart, an empty set becomes exactly what they contribute. -/
theorem consistsOf_of_run_eq {pass : Recording m Unit} {parts : List (String × m ViolationSet)}
    (hrun : StateT.run pass ∅ =
      (do let found ← foundInParts parts; return ((), (∅ : ViolationSet).insertAll (contributions found))))
    (hapart : (parts.map Prod.fst).Pairwise Path.Apart) : pass.ConsistsOf parts := by
  rw [Recording.ConsistsOf, hrun]
  simp only [bind_assoc, pure_bind]
  apply (ensures_foundInParts parts).bind_congr
  intro found hpaths
  rw [ViolationSet.empty_insertAll, ViolationSet.ofList_of_pairwise (pairwise_contributions (hpaths ▸ hapart))]

namespace Property

theorem run_eachFrom (path : String) (block : Nat → Block m ε) (i : Nat) (items : List ε) (s : ViolationSet) :
    StateT.run (eachFrom path block i items) s = (do
      let found ← foundInParts ((items.zipIdx i).map fun e =>
        (Path.index path e.2, (block e.2).violations e.1))
      return ((), s.insertAll (contributions found))) := by
  induction items generalizing i s with
  | nil => simp [eachFrom, foundInParts, contributions]
  | cons e rest ih =>
    simp only [eachFrom, List.zipIdx_cons, List.map_cons, foundInParts]
    simp [Recording.run_merge, ih, contributions]

theorem run_eachKeyed [ToString κ] (path : String) (block : Block m (Entry κ ν)) (items : List (Entry κ ν))
    (s : ViolationSet) :
    StateT.run (eachKeyed path block items) s = (do
      let found ← foundInParts (items.map fun e => (Path.key path (toString e.key), block.violations e))
      return ((), s.insertAll (contributions found))) := by
  induction items generalizing s with
  | nil => simp [eachKeyed, foundInParts, contributions]
  | cons e rest ih => simp [eachKeyed, foundInParts, Recording.run_merge, ih, contributions]

theorem run_forEachIndexed [Elements α ε] (p : Property α) (block : Nat → Block m ε) (s : ViolationSet) :
    StateT.run (p.forEachIndexed block) s = (do
      let found ← foundInParts (p.indexedParts block)
      return ((), s.insertAll (contributions found))) := by
  unfold forEachIndexed indexedParts
  cases p.value with
  | none => simp [foundInParts, contributions]
  | some collection => simpa using run_eachFrom p.path block 0 (Elements.elements collection) s

theorem run_forEachEntryKeyed [Elements α (Entry κ ν)] [ToString κ] (p : Property α)
    (block : Block m (Entry κ ν)) (s : ViolationSet) :
    StateT.run (p.forEachEntryKeyed block) s = (do
      let found ← foundInParts (p.keyedParts block)
      return ((), s.insertAll (contributions found))) := by
  unfold forEachEntryKeyed keyedParts
  cases p.value with
  | none => simp [foundInParts, contributions]
  | some map => simpa using run_eachKeyed p.path block (Elements.elements map) s

theorem consistsOf_forEachIndexed [Elements α ε] (block : Nat → Block m ε) (p : Property α) :
    (p.forEachIndexed block).ConsistsOf (p.indexedParts block) :=
  consistsOf_of_run_eq (p.run_forEachIndexed block ∅) (p.apart_indexedParts block)

theorem consistsOf_forEachEntryKeyed [Elements α (Entry κ ν)] [ToString κ] (block : Block m (Entry κ ν))
    {p : Property α} (hkeys : p.KeysApart) : (p.forEachEntryKeyed block).ConsistsOf (p.keyedParts block) :=
  consistsOf_of_run_eq (p.run_forEachEntryKeyed block ∅) (apart_keyedParts hkeys block)

/-- Validating the elements of a collection records what is found in each of them, in order, and nothing is
lost: as many violations as are found in all elements together. -/
theorem elements_share_no_violation [Elements α ε] [Elements β (Entry κ ν)] [ToString κ] (block : Block m ε)
    (indexed : Nat → Block m ε) (entry : Block m (Entry κ ν)) (p : Property α) (q : Property β) :
    (p.forEach block).ConsistsOf (p.indexedParts fun _ => block) ∧
    (p.forEachIndexed indexed).ConsistsOf (p.indexedParts indexed) ∧
    (q.forEachEntry entry).ConsistsOf (q.indexedParts fun _ => entry) ∧
    (q.KeysApart → (q.forEachEntryKeyed entry).ConsistsOf (q.keyedParts entry)) ∧
    ∀ found, (contributions found).length = (found.map fun part => part.2.size).sum :=
  ⟨consistsOf_forEachIndexed (fun _ => block) p, consistsOf_forEachIndexed indexed p,
    consistsOf_forEachIndexed (fun _ => entry) q, consistsOf_forEachEntryKeyed entry, length_contributions⟩

end Property

/-- Rules for an entry that look at what they have recorded already. -/
def balanceRules : Block Id (Entry String Int64) := fun entry => do
  (Property.whole entry.value).check .isNull
  let found ← get
  if found.size = 1 then
    (Property.field "[x].y" Entry.value entry).nested fun value => do
      (Property.whole value).check .isNull
      (Property.field "[b]" id value).check .isNull

theorem balances_share_no_violation :
    let balances : Property (OrderedMap String Int64) := ⟨"", some (.ofList [("a", 1), ("a[x", 2)])⟩
    balances.KeysApart ∧
    (StateT.run (balances.forEachEntryKeyed balanceRules) ∅).run.2.toList =
      [⟨"[a]", some (.integer 1), builtIn "Null"⟩, ⟨"[a][x].y", some (.integer 1), builtIn "Null"⟩,
        ⟨"[a][x].y[b]", some (.integer 1), builtIn "Null"⟩, ⟨"[a[x]", some (.integer 2), builtIn "Null"⟩,
        ⟨"[a[x][x].y", some (.integer 2), builtIn "Null"⟩,
        ⟨"[a[x][x].y[b]", some (.integer 2), builtIn "Null"⟩] := by
  intro balances
  have hkeys : balances.KeysApart := by
    rintro map hmap
    cases hmap
    exact ⟨by decide, by decide⟩
  refine ⟨hkeys, ?_⟩
  exact (Property.elements_share_no_violation balanceRules (fun _ => balanceRules) balanceRules balances
    balances).2.2.2.1 hkeys

end ObjectValidation
