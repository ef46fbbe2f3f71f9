import ObjectValidation.Proofs.Path

/-!
Locations inside an object, as the names and positions that lead there. The path of a location has the first
name as it stands, each later name after a point, and each position in brackets. Moving a path under another is
putting one location behind the other, and where names are plain the path can be read back.
-/

namespace ObjectValidation

inductive Segment where
  | name (text : String)
  | index (i : Nat)
  /-- The entry of a map under the text of its key. -/
  | key (text : String)
  deriving DecidableEq, Repr

abbrev Location := List Segment

namespace Segment

/-- How a segment is written behind others. -/
def attached : Segment → String
  | name text => "." ++ text
  | index i => "[" ++ (toString i ++ "]")
  | key text => "[" ++ (text ++ "]")

/-- How a segment is written at the beginning of a path. -/
def leading : Segment → String
  | name text => text
  | index i => attached (index i)
  | key text => attached (key text)

/-- A name that shows where it ends, or a position. The text of a key may be anything, so no key is plain. -/
def Plain : Segment → Prop
  | name text => text ≠ "" ∧ '.' ∉ text.toList ∧ '[' ∉ text.toList
  | index _ => True
  | key _ => False

instance : DecidablePred Plain
  | name text => inferInstanceAs (Decidable (text ≠ "" ∧ '.' ∉ text.toList ∧ '[' ∉ text.toList))
  | index _ => .isTrue trivial
  | key _ => .isFalse id

theorem leading_ne_empty {s : Segment} (h : s.Plain) : s.leading ≠ "" := by
  cases s with
  | name text => exact h.1
  | index i => exact Path.append_ne_empty _ (by decide)
  | key text => exact h.elim

/-- A plain segment is joined to what stands before it as its beginning asks. -/
theorem joint_leading {s : Segment} (h : s.Plain) : Path.joint s.leading ++ s.leading = s.attached := by
  cases s with
  | name text =>
    have hfirst : text.toList.head? ≠ some '[' := fun he => h.2.2 (List.mem_of_mem_head? he)
    rw [leading, Path.joint, if_neg hfirst, attached]
  | index i =>
    have hjoint : Path.joint (leading (index i)) = "" := Path.joint_append _ (by decide)
    rw [hjoint, String.empty_append, leading]
  | key text => exact h.elim

end Segment

namespace Location

open Segment

/-- The segments of a location behind others. -/
def attachedAll : Location → String
  | [] => ""
  | s :: rest => s.attached ++ attachedAll rest

def path : Location → String
  | [] => ""
  | s :: rest => s.leading ++ attachedAll rest

def Plain (l : Location) : Prop := ∀ s ∈ l, s.Plain

instance : DecidablePred Plain := fun l => inferInstanceAs (Decidable (∀ s ∈ l, s.Plain))

variable {a b : Location}

@[simp] theorem path_nil : path [] = "" := rfl

theorem attachedAll_append (a b : Location) : attachedAll (a ++ b) = attachedAll a ++ attachedAll b := by
  induction a with
  | nil => simp [attachedAll]
  | cons s rest ih => rw [List.cons_append, attachedAll, attachedAll, ih, String.append_assoc]

theorem path_ne_empty {s : Segment} (h : s.Plain) (rest : Location) : path (s :: rest) ≠ "" :=
  Path.append_ne_empty _ (leading_ne_empty h)

theorem plain_append : Plain (a ++ b) ↔ Plain a ∧ Plain b := List.forall_mem_append

/-- What a path adds to another is its location written behind others. -/
theorem attachment_path (h : Plain a) : Path.attachment (path a) = attachedAll a := by
  cases a with
  | nil => rfl
  | cons s rest =>
    have hs : s.Plain := h s List.mem_cons_self
    rw [Path.attachment, if_neg (path_ne_empty hs rest), path, Path.joint_append _ (leading_ne_empty hs),
      ← String.append_assoc, joint_leading hs, attachedAll]

/-- A location under another has the path that its own path moves to. -/
theorem rebase_path (ha : Plain a) (hb : Plain b) : Path.rebase (path a) (path b) = path (a ++ b) := by
  cases a with
  | nil => rfl
  | cons s rest =>
    rw [Path.rebase_eq_append (path_ne_empty (ha s List.mem_cons_self) rest), attachment_path hb, path,
      List.cons_append, path, attachedAll_append, String.append_assoc]

/-! Reading a path back: a name ends before the next point or opening bracket, a position at the closing one. -/

theorem takeWhile_attachedAll (l : Location) :
    ((attachedAll l).toList.takeWhile fun c => c != '.' && c != '[') = [] := by
  cases l with
  | nil => rfl
  | cons s rest =>
    rw [attachedAll, String.toList_append]
    cases s <;> simp [attached]

theorem takeWhile_name {text : String} (h : (name text).Plain) (rest : Location) :
    ((text ++ attachedAll rest).toList.takeWhile fun c => c != '.' && c != '[') = text.toList := by
  have hplain : ∀ c ∈ text.toList, (c != '.' && c != '[') = true := by
    intro c hc
    rw [Bool.and_eq_true, bne_iff_ne, bne_iff_ne]
    exact ⟨fun he => h.2.1 (he ▸ hc), fun he => h.2.2 (he ▸ hc)⟩
  rw [String.toList_append, List.takeWhile_append_of_pos hplain, takeWhile_attachedAll, List.append_nil]

theorem name_cancel {s t : String} (hs : (name s).Plain) (ht : (name t).Plain)
    (h : s ++ attachedAll a = t ++ attachedAll b) : s = t ∧ attachedAll a = attachedAll b := by
  have hname : s = t := by
    rw [← String.toList_inj, ← takeWhile_name hs a, h, takeWhile_name ht b]
  subst hname
  exact ⟨rfl, (String.append_right_inj s).mp h⟩

theorem index_cancel {i j : Nat} (h : attached (index i) ++ attachedAll a = attached (index j) ++ attachedAll b) :
    i = j ∧ attachedAll a = attachedAll b := by
  have hlist := congrArg String.toList h
  simp only [attached, String.toList_append, List.append_assoc] at hlist
  rw [List.append_cancel_left_eq] at hlist
  have hdigits := Path.eq_of_append_bracket hlist (Path.bracket_notMem_digits i) (Path.bracket_notMem_digits j)
  have hij : i = j := Path.toString_injective (String.toList_inj.mp hdigits)
  subst hij
  exact ⟨rfl, (String.append_right_inj _).mp h⟩

/-- A point and a bracket tell a name from a position. -/
theorem point_ne_bracket (s t u v : String) : "." ++ s ++ t ≠ "[" ++ u ++ v := by
  intro h
  have hlist := congrArg String.toList h
  simp at hlist

theorem attachedAll_injective (ha : Plain a) (hb : Plain b) (h : attachedAll a = attachedAll b) : a = b := by
  have hcons (s : Segment) (rest : Location) : attachedAll (s :: rest) ≠ "" := by
    refine Path.append_ne_empty _ ?_
    cases s <;> exact Path.append_ne_empty _ (by decide)
  induction a generalizing b with
  | nil =>
    cases b with
    | nil => rfl
    | cons t later => exact absurd h.symm (hcons t later)
  | cons s rest ih =>
    cases b with
    | nil => exact absurd h (hcons s rest)
    | cons t later =>
      obtain ⟨hs, hrest⟩ := List.forall_mem_cons.mp ha
      obtain ⟨ht, hlater⟩ := List.forall_mem_cons.mp hb
      cases s with
      | name x =>
        cases t with
        | name y =>
          simp only [attachedAll, attached, String.append_assoc, String.append_right_inj] at h
          obtain ⟨rfl, hsame⟩ := name_cancel hs ht h
          rw [ih hrest hlater hsame]
        | index j => exact absurd h (point_ne_bracket _ _ _ _)
        | key y => exact ht.elim
      | index i =>
        cases t with
        | name y => exact absurd h.symm (point_ne_bracket _ _ _ _)
        | index j =>
          obtain ⟨rfl, hsame⟩ := index_cancel h
          rw [ih hrest hlater hsame]
        | key y => exact ht.elim
      | key x => exact hs.elim

/-- Different plain locations have different paths. -/
theorem path_injective (ha : Plain a) (hb : Plain b) (h : path a = path b) : a = b :=
  attachedAll_injective ha hb (by rw [← attachment_path ha, h, attachment_path hb])

end Location

end ObjectValidation
