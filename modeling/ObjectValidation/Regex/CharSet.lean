import ObjectValidation.Text.Blank
import ObjectValidation.Text.FoldTable
import ObjectValidation.Text.WordTable

/-!
Sets of characters. A set is kept as the ascending code points at which membership changes, so that each
set has one form only and any two sets combine in one walk over both.
-/

namespace ObjectValidation

/-- A set of characters, by the code points where it begins and stops to hold. -/
structure CharSet where
  edges : List Nat
  ascending : edges.Pairwise (· < ·)
  deriving DecidableEq, Repr

namespace CharSet

/-- Whether each number is less than the next one. -/
def ascends : List Nat → Bool
  | d :: e :: edges => decide (d < e) && ascends (e :: edges)
  | _ => true

theorem pairwise_of_ascends {edges : List Nat} (h : ascends edges = true) : edges.Pairwise (· < ·) := by
  induction edges with
  | nil => exact .nil
  | cons d edges ih =>
    cases edges with
    | nil => exact List.pairwise_singleton _ _
    | cons e edges =>
      obtain ⟨hde, hrest⟩ := Bool.and_eq_true_iff.mp h
      have hde := of_decide_eq_true hde
      have hafter := ih hrest
      refine List.pairwise_cons.mpr ⟨fun n hn => ?_, hafter⟩
      rcases List.mem_cons.mp hn with rfl | hn
      · exact hde
      · exact Nat.lt_trans hde (List.rel_of_pairwise_cons hafter hn)

/-- Whether an odd number of edges lies at or before a code point. -/
def crossed : List Nat → Nat → Bool
  | [], _ => false
  | e :: edges, n => if n < e then false else !crossed edges n

def holds (s : CharSet) (c : Char) : Bool := crossed s.edges c.toNat

/-- Goes on with a merge when the next edge of the first list is known. -/
def mergeFrom (e : Nat) (rest : List Nat → List (Nat × Bool)) : List Nat → List (Nat × Bool)
  | [] => (e, false) :: rest []
  | d :: edges =>
    if e ≤ d then (e, false) :: rest (d :: edges) else (d, true) :: mergeFrom e rest edges

/-- The edges of two sets in ascending order, each with whether it belongs to the second set. -/
def merge : List Nat → List Nat → List (Nat × Bool)
  | [], edges => edges.map fun d => (d, true)
  | e :: edges, others => mergeFrom e (merge edges) others

theorem fst_mem_of_mem_merge {as bs : List Nat} {x : Nat × Bool} (h : x ∈ merge as bs) : x.1 ∈ as ∨ x.1 ∈ bs := by
  induction as generalizing bs with
  | nil =>
    obtain ⟨d, hd, rfl⟩ := List.mem_map.mp h
    exact .inr hd
  | cons e edges ih =>
    rw [merge] at h
    induction bs with
    | nil =>
      rcases List.mem_cons.mp h with rfl | h
      · exact .inl List.mem_cons_self
      · exact (ih h).imp_left (List.mem_cons_of_mem e)
    | cons d others ih' =>
      rw [mergeFrom] at h
      split at h
      · rcases List.mem_cons.mp h with rfl | h
        · exact .inl List.mem_cons_self
        · exact (ih h).imp_left (List.mem_cons_of_mem e)
      · rcases List.mem_cons.mp h with rfl | h
        · exact .inr List.mem_cons_self
        · exact (ih' h).imp_right (List.mem_cons_of_mem d)

theorem pairwise_merge {as bs : List Nat} (ha : as.Pairwise (· < ·)) (hb : bs.Pairwise (· < ·)) :
    (merge as bs).Pairwise fun x y => x.1 ≤ y.1 := by
  induction as generalizing bs with
  | nil => exact List.pairwise_map.mpr (hb.imp Nat.le_of_lt)
  | cons e edges ih =>
    obtain ⟨he, hedges⟩ := List.pairwise_cons.mp ha
    rw [merge]
    induction bs with
    | nil =>
      refine List.pairwise_cons.mpr ⟨fun x hx => ?_, ih hedges .nil⟩
      rcases fst_mem_of_mem_merge hx with hx | hx
      · exact Nat.le_of_lt (he _ hx)
      · cases hx
    | cons d others ih' =>
      obtain ⟨hd, hothers⟩ := List.pairwise_cons.mp hb
      rw [mergeFrom]
      split
      · next hle =>
        refine List.pairwise_cons.mpr ⟨fun x hx => ?_, ih hedges hb⟩
        rcases fst_mem_of_mem_merge hx with hx | hx
        · exact Nat.le_of_lt (he _ hx)
        · rcases List.mem_cons.mp hx with hx | hx
          · exact hx ▸ hle
          · exact Nat.le_trans hle (Nat.le_of_lt (hd _ hx))
      · next hle =>
        have hlt : d < e := Nat.lt_of_not_le hle
        refine List.pairwise_cons.mpr ⟨fun x hx => ?_, ih' hothers⟩
        have hx : x ∈ merge (e :: edges) others := hx
        rcases fst_mem_of_mem_merge hx with hx | hx
        · rcases List.mem_cons.mp hx with hx | hx
          · exact hx ▸ Nat.le_of_lt hlt
          · exact Nat.le_of_lt (Nat.lt_trans hlt (he _ hx))
        · exact Nat.le_of_lt (hd _ hx)

/-- The edges where a combination of two sets changes, given whether each set holds before them. -/
def changes (f : Bool → Bool → Bool) : Bool → Bool → List (Nat × Bool) → List Nat
  | _, _, [] => []
  | p, q, (e, second) :: rest =>
    let p' := if second then p else !p
    let q' := if second then !q else q
    let later := changes f p' q' rest
    if f p q = f p' q' then later else e :: later

theorem changes_sublist (f : Bool → Bool → Bool) (p q : Bool) (edges : List (Nat × Bool)) :
    (changes f p q edges).Sublist (edges.map Prod.fst) := by
  induction edges generalizing p q with
  | nil => exact .slnil
  | cons x rest ih =>
    obtain ⟨e, second⟩ := x
    have hlater := ih (if second then p else !p) (if second then !q else q)
    rw [changes, List.map_cons]
    by_cases hsame : f p q = f (if second then p else !p) (if second then !q else q)
    · rw [if_pos hsame]
      exact hlater.cons e
    · rw [if_neg hsame]
      exact hlater.cons_cons e

/-- Two edges at one place leave membership as it is. -/
def cancel : List Nat → List Nat
  | d :: e :: edges => if d = e then cancel edges else d :: cancel (e :: edges)
  | edges => edges

theorem cancel_sublist (edges : List Nat) : (cancel edges).Sublist edges := by
  induction edges using cancel.induct with
  | case1 d edges ih =>
    rw [cancel, if_pos rfl]
    exact (ih.cons d).cons d
  | case2 d e edges hne ih =>
    rw [cancel, if_neg hne]
    exact ih.cons_cons d
  | case3 edges hshort =>
    match edges with
    | [] => exact .slnil
    | [d] => exact List.Sublist.refl [d]
    | d :: e :: rest => exact absurd rfl (hshort d e rest)

/-- Of edges in ascending order no two at one place are left. -/
theorem pairwise_cancel {edges : List Nat} (h : edges.Pairwise (· ≤ ·)) : (cancel edges).Pairwise (· < ·) := by
  induction edges using cancel.induct with
  | case1 d edges ih =>
    rw [cancel, if_pos rfl]
    exact ih h.of_cons.of_cons
  | case2 d e edges hne ih =>
    rw [cancel, if_neg hne]
    obtain ⟨hd, hrest⟩ := List.pairwise_cons.mp h
    refine List.pairwise_cons.mpr ⟨fun n hn => ?_, ih hrest⟩
    have hde : d < e := Nat.lt_of_le_of_ne (hd e List.mem_cons_self) hne
    rcases List.mem_cons.mp ((cancel_sublist _).subset hn) with rfl | hn
    · exact hde
    · exact Nat.lt_of_lt_of_le hde (List.rel_of_pairwise_cons hrest hn)
  | case3 edges hshort =>
    match edges with
    | [] => exact .nil
    | [d] => exact List.pairwise_singleton _ _
    | d :: e :: rest => exact absurd rfl (hshort d e rest)

theorem pairwise_combined (f : Bool → Bool → Bool) (a b : CharSet) :
    (cancel (changes f false false (merge a.edges b.edges))).Pairwise (· < ·) :=
  pairwise_cancel ((List.pairwise_map.mpr (pairwise_merge a.ascending b.ascending)).sublist (changes_sublist f _ _ _))

/-- The set whose members are told from membership in two sets. Nothing may be a member that is in
neither of the two. -/
def combine (f : Bool → Bool → Bool) (a b : CharSet) : CharSet :=
  ⟨cancel (changes f false false (merge a.edges b.edges)), pairwise_combined f a b⟩

def nothing : CharSet := ⟨[], .nil⟩

/-- All characters: the code points except the surrogates. -/
def all : CharSet := ⟨[0, 0xD800, 0xE000, 0x110000], by decide⟩

def union (a b : CharSet) : CharSet := combine or a b

def inter (a b : CharSet) : CharSet := combine and a b

def diff (a b : CharSet) : CharSet := combine (fun p q => p && !q) a b

def symmDiff (a b : CharSet) : CharSet := combine xor a b

def compl (a : CharSet) : CharSet := diff all a

/-- The code points from one that is not above the other. -/
def between (first last : Nat) (h : first ≤ last) : CharSet :=
  ⟨[first, last + 1], pairwise_of_ascends (by simp [ascends]; omega)⟩

/-- The characters from a code point to another. -/
def range (first last : Nat) : CharSet := if h : first ≤ last then inter all (between first last h) else nothing

def ofNat (n : Nat) : CharSet := between n n (Nat.le_refl n)

def ofChar (c : Char) : CharSet := ofNat c.toNat

/-- The set that a table of ascending ranges with gaps between them stands for. -/
def ofRanges (ranges : List (Nat × Nat)) (h : ascends (ranges.flatMap fun r => [r.1, r.2 + 1]) = true) : CharSet :=
  ⟨ranges.flatMap fun r => [r.1, r.2 + 1], pairwise_of_ascends h⟩

def digit : CharSet := ofRanges Text.decimalDigitRanges (by decide +kernel)

def word : CharSet := ofRanges Text.wordRanges (by decide +kernel)

def space : CharSet := ofRanges Text.blankRanges (by decide +kernel)

def unionAll (s : CharSet) (codes : List Nat) : CharSet := codes.foldl (fun s n => s.union (ofNat n)) s

/-- Adds to a set each code point that a pair leads to from a member. -/
def follow (s : CharSet) (pairs : List (Nat × Nat)) : CharSet :=
  s.unionAll ((pairs.filter fun p => crossed s.edges p.1 && !crossed s.edges p.2).map (·.2))

/-- The set together with all letters that differ from a member in case only. -/
def ignoringCase (s : CharSet) : CharSet :=
  (s.follow Text.foldedPairs).follow (Text.foldedPairs.map fun p => (p.2, p.1))

end CharSet

end ObjectValidation
