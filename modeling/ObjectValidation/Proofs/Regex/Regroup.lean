import ObjectValidation.Proofs.Regex.Meaning
import ObjectValidation.Regex.Parser

/-!
Patterns inside longer patterns. There a group stands at another distance from the end, by which groups of the
same content are told apart. Moving all groups by the same distance changes nothing in how expressions are put
together.
-/

namespace ObjectValidation.Regex

/-- The expression with its groups moved by a distance. -/
def regroup (k : Nat) : Regex → Regex
  | empty => empty
  | one set => one set
  | anchor a => anchor a
  | seq a b => seq (a.regroup k) (b.regroup k)
  | alt a b => alt (a.regroup k) (b.regroup k)
  | many a least most greedy => many (a.regroup k) least most greedy
  | group place a => group (place + k) (a.regroup k)

theorem regroup_injective (k : Nat) : Function.Injective (regroup k) := by
  intro a
  induction a with
  | empty | one set | anchor a => intro b h; cases b <;> simp_all [regroup]
  | seq a b iha ihb | alt a b iha ihb =>
    intro c h
    cases c <;> simp only [regroup, seq.injEq, alt.injEq, reduceCtorEq] at h
    rw [iha h.1, ihb h.2]
  | many a least most greedy iha =>
    intro c h
    cases c <;> simp only [regroup, many.injEq, reduceCtorEq] at h
    rw [iha h.1, h.2.1, h.2.2.1, h.2.2.2]
  | group place a iha =>
    intro c h
    cases c <;> simp only [regroup, group.injEq, reduceCtorEq, Nat.add_right_cancel_iff] at h
    rw [h.1, iha h.2]

section

variable (k : Nat)

theorem isStill_regroup (a : Regex) : (a.regroup k).isStill = a.isStill := by
  induction a <;> simp_all [regroup, isStill]

theorem repeated_regroup (a : Regex) (least : Nat) (most : Option Nat) (greedy : Bool) :
    repeated (a.regroup k) least most greedy = (repeated a least most greedy).regroup k := by
  simp only [repeated, isStill_regroup, apply_ite (regroup k), regroup]

theorem parts_regroup (a : Regex) : (a.regroup k).parts = a.parts.map (regroup k) := by
  induction a with
  | seq a b iha ihb => simp [regroup, parts, iha, ihb]
  | empty | one | anchor | alt | many | group => rfl

theorem branches_regroup (a : Regex) : (a.regroup k).branches = a.branches.map (regroup k) := by
  induction a with
  | alt a b iha ihb => simp [regroup, branches, iha, ihb]
  | empty | one | anchor | seq | many | group => rfl

theorem ofParts_regroup (as : List Regex) : ofParts (as.map (regroup k)) = (ofParts as).regroup k := by
  fun_induction ofParts as with
  | case1 => rfl
  | case2 => rfl
  | case3 a rest h ih =>
    cases rest with
    | nil => exact absurd rfl h
    | cons b rest => simpa [ofParts, regroup] using ih

theorem alternatives_regroup (as : List Regex) :
    alternatives (as.map (regroup k)) = (alternatives as).regroup k := by
  fun_induction alternatives as with
  | case1 => rfl
  | case2 => rfl
  | case3 a rest h ih =>
    cases rest with
    | nil => exact absurd rfl h
    | cons b rest => simpa [alternatives, regroup] using ih

theorem commonParts_regroup (as bs : List Regex) :
    commonParts (as.map (regroup k)) (bs.map (regroup k)) = (commonParts as bs).map (regroup k) := by
  induction as generalizing bs with
  | nil => rfl
  | cons a as ih =>
    cases bs with
    | nil => rfl
    | cons b bs =>
      simp only [List.map_cons, commonParts, (regroup_injective k).eq_iff, ih]
      split <;> rfl

theorem foldl_commonParts_regroup (bs : List (List Regex)) (first : List Regex) :
    (bs.map (List.map (regroup k))).foldl commonParts (first.map (regroup k)) =
      (bs.foldl commonParts first).map (regroup k) := by
  induction bs generalizing first with
  | nil => rfl
  | cons b bs ih => rw [List.map_cons, List.foldl_cons, commonParts_regroup, ih, List.foldl_cons]

theorem sharedParts_regroup (bs : List (List Regex)) :
    sharedParts (bs.map (List.map (regroup k))) = (sharedParts bs).map (regroup k) := by
  match bs with
  | [] | [_] => rfl
  | first :: second :: rest =>
    have hlong : ((first :: second :: rest).map (List.map (regroup k))).all (fun b => decide (2 ≤ b.length)) =
        (first :: second :: rest).all fun b => decide (2 ≤ b.length) := by
      simp [List.all_map, Function.comp_def]
    have hfold := foldl_commonParts_regroup k (second :: rest) first
    simp only [List.map_cons] at hlong hfold
    simp only [List.map_cons, sharedParts, hlong, hfold]
    split <;> rfl

theorem ofBranches_regroup (bs : List Regex) :
    ofBranches (bs.map (regroup k)) = (ofBranches bs).regroup k := by
  have hflat (as : List Regex) :
      (as.map (regroup k)).flatMap branches = (as.flatMap branches).map (regroup k) := by
    simp [List.flatMap_map, List.map_flatMap, branches_regroup]
  have hsplit (as : List Regex) :
      (as.map (regroup k)).map parts = (as.map parts).map (List.map (regroup k)) := by
    simp [parts_regroup]
  simp only [ofBranches, hflat, hsplit, sharedParts_regroup]
  cases h : sharedParts ((bs.flatMap branches).map parts) with
  | nil => exact alternatives_regroup k _
  | cons a shared =>
    have hrests (bs : List (List Regex)) :
        (bs.map (List.map (regroup k))).map (fun b => ofParts (b.drop (shared.length + 1))) =
          (bs.map fun b => ofParts (b.drop (shared.length + 1))).map (regroup k) := by
      simp [← List.map_drop, ofParts_regroup]
    simp only [List.map_cons, List.length_cons, List.length_map, hrests, hflat, alternatives_regroup]
    rw [← ofParts_regroup]
    simp

/-- Matches do not depend on the places of groups. -/
theorem matches_regroup (text : Array Char) (a : Regex) : (a.regroup k).Matches text = a.Matches text := by
  induction a with
  | empty | one | anchor => rfl
  | seq a b iha ihb | alt a b iha ihb => funext i j; simp only [regroup, Matches, iha, ihb]
  | many a least most greedy iha => funext i j; simp only [regroup, Matches, iha]
  | group place a iha => funext i j; simp only [regroup, Matches, iha]

end

/-- A piece of a pattern with its groups moved. -/
def Nested.regroup (k : Nat) (a : Nested Regex) : Nested Regex := ⟨a.val.regroup k, a.depth⟩

def Part.regroup (k : Nat) : Part → Part
  | regex a => regex (a.regroup k)
  | flags => flags

section

variable (k : Nat)

theorem leaf_regroup (flags : Flags) (p : Primitive) :
    Part.regroup k (leaf (ofPrimitive flags p)) = leaf (ofPrimitive flags p) := by
  cases p <;> rfl

theorem branchOf_regroup (parts : List Part) :
    branchOf (parts.map (Part.regroup k)) = (branchOf parts).regroup k := by
  have hdepth : (parts.map (Part.regroup k)).map Part.depth = parts.map Part.depth := by
    rw [List.map_map]
    exact List.map_congr_left fun part _ => by cases part <;> rfl
  have hregex (parts : List Part) : (parts.map (Part.regroup k)).filterMap Part.regex? =
      (parts.filterMap Part.regex?).map (Regex.regroup k) := by
    induction parts with
    | nil => rfl
    | cons part parts ih =>
      cases part with
      | regex a => exact congrArg (a.val.regroup k :: ·) ih
      | flags => exact ih
  have hparts (as : List Regex) :
      (as.map (Regex.regroup k)).flatMap Regex.parts = (as.flatMap Regex.parts).map (Regex.regroup k) := by
    simp [List.flatMap_map, List.map_flatMap, parts_regroup]
  rw [branchOf, hdepth, ← List.map_reverse, hregex, hparts, ofParts_regroup]
  rfl

theorem choiceOf_regroup (before : List (Nested Regex)) :
    choiceOf (before.map (Nested.regroup k)) = (choiceOf before).regroup k := by
  have hval : (before.map (Nested.regroup k)).reverse.map (·.val) =
      (before.reverse.map (·.val)).map (Regex.regroup k) := by
    simp [Nested.regroup, Function.comp_def]
  have hdepth : (before.map (Nested.regroup k)).map (·.depth) = before.map (·.depth) := by
    simp [Nested.regroup, Function.comp_def]
  rw [choiceOf, hval, hdepth, ofBranches_regroup]
  rfl

theorem repeatLast_regroup (least : Nat) (most : Option Nat) (greedy : Bool) (parts : List Part) :
    repeatLast least most greedy (parts.map (Part.regroup k)) =
      (repeatLast least most greedy parts).map (List.map (Part.regroup k)) := by
  rcases parts with _ | ⟨_ | _, parts⟩
  · rfl
  · simp [repeatLast, Part.regroup, Nested.regroup, repeated_regroup]
  · rfl

end

end ObjectValidation.Regex
