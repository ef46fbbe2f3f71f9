import ObjectValidation.Template
import Mathlib.Data.List.Infix
import Mathlib.Data.List.TakeWhile

/-!
Simultaneous substitution in a text. It is said position by position, from the text alone: a placeholder that
has a replacement is replaced where it begins and leaves nothing behind, and every other character stays.
Placeholders never overlap, since names have no braces, so a text can be taken apart wherever no placeholder
lies across the cut.
-/

namespace ObjectValidation.Template

def braced (name : List Char) : List Char := '\x7b' :: (name ++ ['\x7d'])

/-- The name of the placeholder that begins at a position; it is not empty and has no braces. -/
def nameAt? (s : List Char) (i : Nat) : Option (List Char) :=
  let name := (s.drop (i + 1)).takeWhile fun c => !isBrace c
  if name ≠ [] ∧ braced name <+: s.drop i then some name else none

/-- The placeholder that begins at a position, with the text that replaces it, if it has one. -/
def replacedAt? (text? : String → Option String) (s : List Char) (i : Nat) :
    Option (List Char × String) :=
  (nameAt? s i).bind fun name => (text? (String.ofList name)).map fun text => (name, text)

/-- Whether a position belongs to a replaced placeholder that begins before it. -/
def insideReplaced (text? : String → Option String) (s : List Char) (i : Nat) : Bool :=
  (List.range i).any fun j =>
    (replacedAt? text? s j).any fun found => decide (i < j + (braced found.1).length)

/-- What stands in the result for a position of the text. -/
def standsFor (text? : String → Option String) (s : List Char) (i : Nat) : List Char :=
  match replacedAt? text? s i with
  | some (_, text) => text.toList
  | none => if insideReplaced text? s i then [] else s[i]?.toList

def substitute (text? : String → Option String) (s : List Char) : List Char :=
  (List.range s.length).flatMap (standsFor text? s)

/-! Where placeholders begin. -/

theorem length_braced (name : List Char) : (braced name).length = name.length + 2 := by
  simp [braced]

theorem isBrace_of_mem_takeWhile {s : List Char} {c : Char}
    (h : c ∈ s.takeWhile fun c => !isBrace c) : isBrace c = false := by
  simpa using List.mem_takeWhile_imp h

/-- A name ends at the first brace. -/
theorem takeWhile_name {name rest : List Char} {c : Char} (hname : ∀ x ∈ name, isBrace x = false)
    (hc : isBrace c = true) : (name ++ c :: rest).takeWhile (fun c => !isBrace c) = name := by
  rw [List.takeWhile_append_of_pos fun x hx => by simp [hname x hx], List.takeWhile_cons]
  simp [hc]

theorem nameAt?_eq_some_iff {s : List Char} {i : Nat} {name : List Char} :
    nameAt? s i = some name ↔
      name ≠ [] ∧ (∀ c ∈ name, isBrace c = false) ∧ braced name <+: s.drop i := by
  unfold nameAt?
  constructor
  · intro h
    dsimp only at h
    split at h
    · next hfound =>
      cases h
      exact ⟨hfound.1, fun c hc => isBrace_of_mem_takeWhile hc, hfound.2⟩
    · cases h
  · rintro ⟨hne, hname, rest, hrest⟩
    have hafter : s.drop (i + 1) = name ++ '\x7d' :: rest := by
      rw [← List.tail_drop, ← hrest]
      simp [braced]
    rw [hafter, takeWhile_name hname (by decide)]
    exact if_pos ⟨hne, rest, hrest⟩

/-- A placeholder begins with an opening brace. -/
theorem getElem?_of_nameAt? {s : List Char} {i : Nat} {name : List Char} (h : nameAt? s i = some name) :
    s[i]? = some '\x7b' := by
  obtain ⟨-, -, rest, hrest⟩ := nameAt?_eq_some_iff.1 h
  rw [← List.head?_drop, ← hrest]
  rfl

section

variable {text? : String → Option String}

theorem replacedAt?_eq_some_iff {s : List Char} {i : Nat} {name : List Char} {text : String} :
    replacedAt? text? s i = some (name, text) ↔
      nameAt? s i = some name ∧ text? (String.ofList name) = some text := by
  rw [replacedAt?, Option.bind_eq_some_iff]
  constructor
  · rintro ⟨found, hfound, htext⟩
    obtain ⟨given, hgiven, hpair⟩ := Option.map_eq_some_iff.1 htext
    cases hpair
    exact ⟨hfound, hgiven⟩
  · rintro ⟨hname, htext⟩
    exact ⟨name, hname, by rw [htext]; rfl⟩

theorem length_le_of_replacedAt? {s : List Char} {i : Nat} {name : List Char} {text : String}
    (h : replacedAt? text? s i = some (name, text)) : i + (braced name).length ≤ s.length := by
  have hstands := (nameAt?_eq_some_iff.1 (replacedAt?_eq_some_iff.1 h).1).2.2
  have hlength := hstands.length_le
  rw [List.length_drop] at hlength
  have hpos : 0 < (braced name).length := by rw [length_braced]; omega
  omega

theorem insideReplaced_iff {s : List Char} {i : Nat} :
    insideReplaced text? s i = true ↔ ∃ j < i, ∃ name text,
      replacedAt? text? s j = some (name, text) ∧ i < j + (braced name).length := by
  simp [insideReplaced, Option.any_eq_true]

/-- Replacements are looked up for the names that occur, and for no others. -/
theorem substitute_congr {other? : String → Option String} {s : List Char}
    (h : ∀ i name, nameAt? s i = some name → other? (String.ofList name) = text? (String.ofList name)) :
    substitute other? s = substitute text? s := by
  have hsame : replacedAt? other? s = replacedAt? text? s := by
    funext i
    unfold replacedAt?
    cases hname : nameAt? s i with
    | none => rfl
    | some name => rw [Option.bind_some, Option.bind_some, h i name hname]
  have hstands : standsFor other? s = standsFor text? s := by
    funext i
    rw [standsFor, standsFor, insideReplaced, insideReplaced, hsame]
  rw [substitute, substitute, hstands]

/-! Taking a text apart. -/

/-- No placeholder that begins in the first part goes beyond it. -/
def Apart (text? : String → Option String) (first second : List Char) : Prop :=
  ∀ i name text, i < first.length → replacedAt? text? (first ++ second) i = some (name, text) →
    i + (braced name).length ≤ first.length

variable {first second : List Char}

theorem nameAt?_append_right (i : Nat) : nameAt? (first ++ second) (first.length + i) = nameAt? second i := by
  rw [nameAt?, nameAt?, Nat.add_assoc, List.drop_length_add_append, List.drop_length_add_append]

theorem replacedAt?_append_right (i : Nat) :
    replacedAt? text? (first ++ second) (first.length + i) = replacedAt? text? second i := by
  rw [replacedAt?, replacedAt?, nameAt?_append_right]

theorem Apart.replacedAt?_append_left (h : Apart text? first second) {i : Nat} (hi : i < first.length) :
    replacedAt? text? (first ++ second) i = replacedAt? text? first i := by
  have hdrop : (first ++ second).drop i = first.drop i ++ second :=
    List.drop_append_of_le_length hi.le
  apply Option.ext
  rintro ⟨name, text⟩
  constructor
  · intro hfound
    have hfits := h i name text hi hfound
    rw [replacedAt?_eq_some_iff, nameAt?_eq_some_iff, hdrop] at hfound
    rw [replacedAt?_eq_some_iff, nameAt?_eq_some_iff]
    obtain ⟨⟨hne, hname, hstands⟩, htext⟩ := hfound
    have hprefix : braced name <+: first.drop i :=
      List.prefix_of_prefix_length_le hstands (List.prefix_append _ _)
        (by rw [List.length_drop]; omega)
    exact ⟨⟨hne, hname, hprefix⟩, htext⟩
  · rw [replacedAt?_eq_some_iff, nameAt?_eq_some_iff, replacedAt?_eq_some_iff, nameAt?_eq_some_iff,
      hdrop]
    rintro ⟨⟨hne, hname, hstands⟩, htext⟩
    exact ⟨⟨hne, hname, hstands.trans (List.prefix_append _ _)⟩, htext⟩

theorem Apart.standsFor_append_left (h : Apart text? first second) {i : Nat} (hi : i < first.length) :
    standsFor text? (first ++ second) i = standsFor text? first i := by
  have hinside : insideReplaced text? (first ++ second) i = insideReplaced text? first i := by
    rw [Bool.eq_iff_iff, insideReplaced_iff, insideReplaced_iff]
    constructor
    · rintro ⟨j, hj, name, text, hfound, hreach⟩
      exact ⟨j, hj, name, text, by rwa [← h.replacedAt?_append_left (hj.trans hi)], hreach⟩
    · rintro ⟨j, hj, name, text, hfound, hreach⟩
      exact ⟨j, hj, name, text, by rwa [h.replacedAt?_append_left (hj.trans hi)], hreach⟩
  rw [standsFor, standsFor, h.replacedAt?_append_left hi, hinside, List.getElem?_append_left hi]

theorem Apart.standsFor_append_right (h : Apart text? first second) (i : Nat) :
    standsFor text? (first ++ second) (first.length + i) = standsFor text? second i := by
  have hinside : insideReplaced text? (first ++ second) (first.length + i) =
      insideReplaced text? second i := by
    rw [Bool.eq_iff_iff, insideReplaced_iff, insideReplaced_iff]
    constructor
    · rintro ⟨j, hj, name, text, hfound, hreach⟩
      have hbeyond : first.length ≤ j := by
        by_contra hlt
        have hfits := h j name text (not_le.1 hlt) hfound
        omega
      obtain ⟨k, rfl⟩ := Nat.exists_eq_add_of_le hbeyond
      rw [replacedAt?_append_right] at hfound
      exact ⟨k, by omega, name, text, hfound, by omega⟩
    · rintro ⟨j, hj, name, text, hfound, hreach⟩
      exact ⟨first.length + j, by omega, name, text, by rwa [replacedAt?_append_right], by omega⟩
  rw [standsFor, standsFor, replacedAt?_append_right, hinside,
    List.getElem?_append_right (Nat.le_add_right _ _), Nat.add_sub_cancel_left]

theorem Apart.substitute_append (h : Apart text? first second) :
    substitute text? (first ++ second) = substitute text? first ++ substitute text? second := by
  unfold substitute
  rw [List.length_append, List.range_add, List.flatMap_append, List.flatMap_map]
  congr 1
  · exact List.flatMap_congr fun i hi => h.standsFor_append_left (List.mem_range.1 hi)
  · exact List.flatMap_congr fun i _ => h.standsFor_append_right i

theorem flatMap_range_getElem? {α : Type} (l : List α) :
    ((List.range l.length).flatMap fun i => l[i]?.toList) = l := by
  induction l with
  | nil => rfl
  | cons a rest ih =>
    rw [List.length_cons, List.range_succ_eq_map, List.flatMap_cons, List.flatMap_map]
    exact congrArg (a :: ·) ih

/-- A text in which nothing is replaced stays as it is. -/
theorem substitute_eq_self {s : List Char} (h : ∀ i < s.length, replacedAt? text? s i = none) :
    substitute text? s = s := by
  have hstands : ∀ i ∈ List.range s.length, standsFor text? s i = s[i]?.toList := by
    intro i hi
    have hlt := List.mem_range.1 hi
    have hinside : insideReplaced text? s i = false := by
      rw [Bool.eq_false_iff, ne_eq, insideReplaced_iff]
      rintro ⟨j, hj, name, text, hfound, -⟩
      rw [h j (hj.trans hlt)] at hfound
      cases hfound
    rw [standsFor, h i hlt, hinside]
    rfl
  rw [substitute, List.flatMap_congr hstands, flatMap_range_getElem?]

theorem substitute_of_forall_none (h : ∀ name, text? name = none) (s : List Char) :
    substitute text? s = s := by
  apply substitute_eq_self
  intro i _
  cases hfound : replacedAt? text? s i with
  | none => rfl
  | some found =>
    have htext := (replacedAt?_eq_some_iff.1 hfound).2
    rw [h] at htext
    cases htext

theorem substitute_singleton (c : Char) : substitute text? [c] = [c] := by
  apply substitute_eq_self
  intro i hi
  cases hfound : replacedAt? text? [c] i with
  | none => rfl
  | some found =>
    have hlength := length_le_of_replacedAt? hfound
    rw [length_braced, List.length_singleton] at hlength
    omega

/-! A single placeholder, whose name may be empty or unknown. -/

variable {name : List Char}

theorem nameAt?_braced_append (hname : ∀ c ∈ name, isBrace c = false) (rest : List Char) :
    nameAt? (braced name ++ rest) 0 = if name = [] then none else some name := by
  have hafter : (braced name ++ rest).drop (0 + 1) = name ++ '\x7d' :: rest := by simp [braced]
  rw [nameAt?, hafter, takeWhile_name hname (by decide)]
  by_cases hne : name = [] <;> simp [hne]

theorem opening_notMem (hname : ∀ c ∈ name, isBrace c = false) : '\x7b' ∉ name ++ ['\x7d'] := by
  intro hmem
  rcases List.mem_append.1 hmem with hmem | hmem
  · exact absurd (hname _ hmem) (by decide)
  · exact absurd (List.mem_singleton.1 hmem) (by decide)

/-- No placeholder begins in another one. -/
theorem nameAt?_braced_append_succ (hname : ∀ c ∈ name, isBrace c = false) (rest : List Char) {i : Nat}
    (hi : i + 1 < (braced name).length) : nameAt? (braced name ++ rest) (i + 1) = none := by
  cases hfound : nameAt? (braced name ++ rest) (i + 1) with
  | none => rfl
  | some found =>
    have hopen := getElem?_of_nameAt? hfound
    rw [List.getElem?_append_left hi, braced, List.getElem?_cons_succ] at hopen
    exact absurd (List.mem_of_getElem? hopen) (opening_notMem hname)

theorem replacedAt?_braced_append_succ (hname : ∀ c ∈ name, isBrace c = false) (rest : List Char) {i : Nat}
    (hi : i + 1 < (braced name).length) : replacedAt? text? (braced name ++ rest) (i + 1) = none := by
  rw [replacedAt?, nameAt?_braced_append_succ hname rest hi, Option.bind_none]

/-- A placeholder at the front is followed by those of the rest. -/
theorem exists_nameAt?_braced_append (hname : ∀ c ∈ name, isBrace c = false) {rest found : List Char} :
    (∃ i, nameAt? (braced name ++ rest) i = some found) ↔
      (name = found ∧ found ≠ []) ∨ ∃ i, nameAt? rest i = some found := by
  constructor
  · rintro ⟨i, hi⟩
    by_cases hlt : i < (braced name).length
    · cases i with
      | zero =>
        rw [nameAt?_braced_append hname] at hi
        split at hi
        · cases hi
        · next hne => exact .inl (by cases hi; exact ⟨rfl, hne⟩)
      | succ i =>
        rw [nameAt?_braced_append_succ hname rest hlt] at hi
        cases hi
    · obtain ⟨k, rfl⟩ := Nat.exists_eq_add_of_le (not_lt.1 hlt)
      rw [nameAt?_append_right] at hi
      exact .inr ⟨k, hi⟩
  · rintro (⟨rfl, hne⟩ | ⟨k, hk⟩)
    · exact ⟨0, by rw [nameAt?_braced_append hname, if_neg hne]⟩
    · exact ⟨(braced name).length + k, by rw [nameAt?_append_right, hk]⟩

theorem apart_braced (hname : ∀ c ∈ name, isBrace c = false) (rest : List Char) :
    Apart text? (braced name) rest := by
  intro i found text hi hfound
  cases i with
  | zero =>
    have hat := (replacedAt?_eq_some_iff.1 hfound).1
    rw [nameAt?_braced_append hname] at hat
    split at hat
    · cases hat
    · cases hat
      rw [Nat.zero_add]
  | succ i =>
    rw [replacedAt?_braced_append_succ hname rest hi] at hfound
    cases hfound

/-- Nothing that begins before an opening brace goes beyond it. -/
theorem apart_of_opening (first rest : List Char) : Apart text? first ('\x7b' :: rest) := by
  intro i name text hi hfound
  by_contra hbeyond
  have hnamed := nameAt?_eq_some_iff.1 (replacedAt?_eq_some_iff.1 hfound).1
  obtain ⟨-, hname, after, hstands⟩ := hnamed
  obtain ⟨k, hk⟩ : ∃ k, first.length = i + (k + 1) := Nat.exists_eq_add_of_lt hi
  -- The brace at the cut would be a character of the name or the closing brace.
  have hcut : (braced name ++ after)[k + 1]? = some '\x7b' := by
    rw [hstands, List.getElem?_drop, ← hk, List.getElem?_append_right le_rfl, Nat.sub_self]
    rfl
  rw [List.getElem?_append_left (by omega), braced, List.getElem?_cons_succ] at hcut
  exact opening_notMem hname (List.mem_of_getElem? hcut)

theorem substitute_braced_of_none (hname : ∀ c ∈ name, isBrace c = false)
    (hnone : name = [] ∨ text? (String.ofList name) = none) :
    substitute text? (braced name) = braced name := by
  apply substitute_eq_self
  intro i hi
  cases i with
  | zero =>
    cases hfound : replacedAt? text? (braced name) 0 with
    | none => rfl
    | some found =>
      obtain ⟨hat, htext⟩ := replacedAt?_eq_some_iff.1 hfound
      have hsame := nameAt?_braced_append hname []
      rw [List.append_nil, hat] at hsame
      split at hsame
      · cases hsame
      · next hne =>
        cases hsame
        rw [hnone.resolve_left hne] at htext
        cases htext
  | succ i =>
    have hsucc : replacedAt? text? (braced name ++ []) (i + 1) = none :=
      replacedAt?_braced_append_succ hname [] hi
    rwa [List.append_nil] at hsucc

theorem substitute_braced_of_some {text : String} (hname : ∀ c ∈ name, isBrace c = false)
    (hne : name ≠ []) (htext : text? (String.ofList name) = some text) :
    substitute text? (braced name) = text.toList := by
  have hat := nameAt?_braced_append hname []
  rw [List.append_nil, if_neg hne] at hat
  have hfirst : replacedAt? text? (braced name) 0 = some (name, text) :=
    replacedAt?_eq_some_iff.2 ⟨hat, htext⟩
  have hrest : ∀ i ∈ List.range (name.length + 1), standsFor text? (braced name) (i + 1) = [] := by
    intro i hi
    have hlt : i + 1 < (braced name).length := by
      rw [length_braced]
      have := List.mem_range.1 hi
      omega
    have hnone : replacedAt? text? (braced name ++ []) (i + 1) = none :=
      replacedAt?_braced_append_succ hname [] hlt
    rw [List.append_nil] at hnone
    have hinside : insideReplaced text? (braced name) (i + 1) = true :=
      insideReplaced_iff.2 ⟨0, Nat.succ_pos i, name, text, hfirst, by omega⟩
    rw [standsFor, hnone, hinside]
    rfl
  rw [substitute, length_braced, List.range_succ_eq_map, List.flatMap_cons, List.flatMap_map,
    List.flatMap_congr hrest, standsFor, hfirst]
  simp

/-- What stands around a placeholder is substituted on its own. -/
theorem substitute_around (hname : ∀ c ∈ name, isBrace c = false) (before after : List Char) :
    substitute text? (before ++ (braced name ++ after)) =
      substitute text? before ++ (substitute text? (braced name) ++ substitute text? after) := by
  rw [← (apart_braced hname after).substitute_append]
  exact (apart_of_opening before _).substitute_append

example : substitute (fun name => if name = "start" then some "\x7bend\x7d" else none)
    "\x7b\x7bstart\x7d\x7d \x7b\x7d \x7bend\x7d \x7bstart".toList =
      "\x7b\x7bend\x7d\x7d \x7b\x7d \x7bend\x7d \x7bstart".toList := by decide

end

end ObjectValidation.Template
