import ObjectValidation.Path
import Mathlib.Data.List.Basic

/-!
Moving paths under one another. Moving twice is moving once under the composed path, and the empty path
changes nothing on either side. Under one path different paths stay different, and what stands under one
position or key never has the path of what stands under another.
-/

namespace ObjectValidation.Path

@[simp] theorem rebase_empty_left (path : String) : rebase "" path = path := rfl

@[simp] theorem rebase_empty_right (path : String) : rebase path "" = path := by
  simp only [rebase]
  split <;> simp_all

/-- What stands between a path and the path that follows it. -/
def joint (child : String) : String := if child.toList.head? = some '[' then "" else "."

theorem rebase_of_ne {parent child : String} (hp : parent ≠ "") (hc : child ≠ "") :
    rebase parent child = parent ++ (joint child ++ child) := by
  have hp' : parent.isEmpty = false := by simpa using hp
  have hc' : child.isEmpty = false := by simpa using hc
  simp only [rebase, joint, hp', hc', Bool.false_eq_true, if_false]
  split
  · rw [String.empty_append]
  · rw [String.append_assoc]

theorem toList_ne_nil {s : String} (h : s ≠ "") : s.toList ≠ [] := by simpa using h

/-- What stands before a path is decided by its first character. -/
theorem joint_append {path : String} (rest : String) (h : path ≠ "") :
    joint (path ++ rest) = joint path := by
  rw [joint, joint, String.toList_append]
  cases hs : path.toList with
  | nil => exact absurd hs (toList_ne_nil h)
  | cons c cs => rfl

theorem append_ne_empty {s : String} (t : String) (h : s ≠ "") : s ++ t ≠ "" := by
  intro he
  have hlist := congrArg String.toList he
  rw [String.toList_append] at hlist
  exact toList_ne_nil h (List.append_eq_nil_iff.mp hlist).1

theorem rebase_assoc (a b c : String) : rebase a (rebase b c) = rebase (rebase a b) c := by
  by_cases ha : a = ""
  · simp [ha]
  by_cases hb : b = ""
  · simp [hb]
  by_cases hc : c = ""
  · simp [hc]
  rw [rebase_of_ne ha hb, rebase_of_ne hb hc, rebase_of_ne ha (append_ne_empty _ hb),
    rebase_of_ne (append_ne_empty _ ha) hc, joint_append _ hb]
  simp only [String.append_assoc]

/-- A bracketed segment stays attached to its path when the path is moved. -/
theorem rebase_key (a b name : String) : rebase a (key b name) = key (rebase a b) name := by
  have hbracket : "[" ++ (name ++ "]") ≠ "" := append_ne_empty _ (by decide)
  by_cases ha : a = ""
  · simp [ha]
  by_cases hb : b = ""
  · have hjoint : joint ("[" ++ (name ++ "]")) = "" := joint_append _ (by decide)
    simp only [hb, rebase_empty_right, key, String.empty_append, String.append_assoc]
    rw [rebase_of_ne ha hbracket, hjoint, String.empty_append]
  · simp only [key, rebase_of_ne ha hb, String.append_assoc]
    rw [rebase_of_ne ha (append_ne_empty _ hb), joint_append _ hb]

theorem rebase_index (a b : String) (i : Nat) : rebase a (index b i) = index (rebase a b) i :=
  rebase_key a b (toString i)

/-- What a path adds to the path that it is moved under. -/
def attachment (child : String) : String := if child = "" then "" else joint child ++ child

theorem rebase_eq_append {parent : String} (hp : parent ≠ "") (child : String) :
    rebase parent child = parent ++ attachment child := by
  by_cases hc : child = ""
  · simp [attachment, hc]
  · rw [rebase_of_ne hp hc, attachment, if_neg hc]

theorem attachment_ne_empty {child : String} (h : child ≠ "") : attachment child ≠ "" := by
  rw [attachment, if_neg h, joint]
  split
  · rwa [String.empty_append]
  · exact append_ne_empty child (by decide)

theorem joint_eq_of_append {a b : String} (h : joint a ++ a = joint b ++ b) : joint a = joint b := by
  -- What follows a point does not begin with a bracket, so the first character tells the two joints apart.
  have hpoint {c d : String} (hc : c.toList.head? = some '[') (he : "" ++ c = "." ++ d) : False := by
    rw [String.empty_append] at he
    rw [he, String.toList_append] at hc
    cases hc
  unfold joint at h ⊢
  split_ifs at h ⊢ with ha hb hb
  · rfl
  · exact (hpoint ha h).elim
  · exact (hpoint hb h.symm).elim
  · rfl

theorem attachment_injective : Function.Injective attachment := by
  intro a b h
  by_cases ha : a = ""
  · by_contra hne
    have hb : b ≠ "" := fun hb => hne (ha.trans hb.symm)
    exact attachment_ne_empty hb (by rw [← h, attachment, if_pos ha])
  by_cases hb : b = ""
  · exact absurd (by rw [h, attachment, if_pos hb]) (attachment_ne_empty ha)
  rw [attachment, attachment, if_neg ha, if_neg hb] at h
  have hjoint := joint_eq_of_append h
  rw [hjoint] at h
  exact (String.append_right_inj _).mp h

theorem rebase_injective (parent : String) : Function.Injective (rebase parent) := by
  by_cases hp : parent = ""
  · rw [hp]
    exact fun _ _ h => h
  · intro a b h
    rw [rebase_eq_append hp, rebase_eq_append hp] at h
    exact attachment_injective ((String.append_right_inj _).mp h)

/-- Nothing under one of the paths has the path of anything under the other. -/
def Apart (a b : String) : Prop := ∀ c d, rebase a c ≠ rebase b d

theorem toList_rebase_key (path name child : String) :
    (rebase (key path name) child).toList =
      path.toList ++ '[' :: (name.toList ++ ']' :: (attachment child).toList) := by
  have hne : key path name ≠ "" := by simp [key]
  rw [rebase_eq_append hne]
  simp [key, String.toList_append]

theorem eq_of_append_bracket {a b rest rest' : List Char} (h : a ++ ']' :: rest = b ++ ']' :: rest')
    (ha : ']' ∉ a) (hb : ']' ∉ b) : a = b := by
  have htake {name : List Char} (hname : ']' ∉ name) (rest : List Char) :
      ((name ++ ']' :: rest).takeWhile fun c => c != ']') = name := by
    rw [List.takeWhile_append_of_pos]
    · simp
    · intro c hc
      simpa using fun he : c = ']' => hname (he ▸ hc)
  rw [← htake ha rest, h, htake hb rest']

/-- The first closing bracket ends the name, so different names lead to different places. -/
theorem apart_key (path : String) {a b : String} (ha : ']' ∉ a.toList) (hb : ']' ∉ b.toList)
    (hne : a ≠ b) : Apart (key path a) (key path b) := by
  intro c d h
  have hlist := congrArg String.toList h
  rw [toList_rebase_key, toList_rebase_key, List.append_cancel_left_eq, List.cons.injEq] at hlist
  exact hne (String.toList_inj.mp (eq_of_append_bracket hlist.2 ha hb))

theorem bracket_notMem_digits (i : Nat) : ']' ∉ (toString i).toList := by
  intro h
  rw [Nat.toString_eq_repr, Nat.toList_repr] at h
  have := Nat.isDigit_of_mem_toDigits (by decide) (by decide) h
  exact absurd this (by decide)

theorem toString_injective : Function.Injective (toString : Nat → String) := by
  intro i j h
  rw [Nat.toString_eq_repr, Nat.toString_eq_repr] at h
  have hdigits := congrArg String.toList h
  rw [Nat.toList_repr, Nat.toList_repr] at hdigits
  rw [← Nat.ofDigitChars_ten_toDigits (n := i), hdigits, Nat.ofDigitChars_ten_toDigits]

theorem apart_index (path : String) {i j : Nat} (h : i ≠ j) : Apart (index path i) (index path j) :=
  apart_key path (bracket_notMem_digits i) (bracket_notMem_digits j) (toString_injective.ne h)

end ObjectValidation.Path
