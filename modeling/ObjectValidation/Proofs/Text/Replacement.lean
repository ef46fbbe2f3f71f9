/-!
Replacing the occurrences of a word in a text. For a word of one character every occurrence is replaced in its
place, so parts of the text can be looked at one by one.
-/

namespace ObjectValidation.Text

/-- Replaces the occurrences of a word, from the left and without overlap. -/
def replaceAll (word replacement : List Char) (s : List Char) : List Char :=
  match s with
  | [] => []
  | c :: rest =>
    if word.isPrefixOf (c :: rest) then
      replacement ++ replaceAll word replacement (rest.drop (word.length - 1))
    else c :: replaceAll word replacement rest
termination_by s.length

theorem replaceAll_singleton (x : Char) (replacement s : List Char) :
    replaceAll [x] replacement s = s.flatMap fun c => if c = x then replacement else [c] := by
  induction s with
  | nil => rw [replaceAll, List.flatMap_nil]
  | cons c rest ih =>
    rw [replaceAll, List.flatMap_cons, ← ih]
    by_cases h : c = x
    · simp [List.isPrefixOf, h]
    · simp [List.isPrefixOf, h, Ne.symm h]

theorem replaceAll_singleton_append (x : Char) (replacement s t : List Char) :
    replaceAll [x] replacement (s ++ t) = replaceAll [x] replacement s ++ replaceAll [x] replacement t := by
  simp only [replaceAll_singleton, List.flatMap_append]

theorem replaceAll_singleton_self (x : Char) (replacement : List Char) :
    replaceAll [x] replacement [x] = replacement := by
  simp [replaceAll_singleton]

theorem replaceAll_singleton_cons_of_ne {x c : Char} (h : c ≠ x) (replacement rest : List Char) :
    replaceAll [x] replacement (c :: rest) = c :: replaceAll [x] replacement rest := by
  simp [replaceAll_singleton, h]

theorem replaceAll_singleton_of_notMem {x : Char} {s : List Char} (h : x ∉ s) (replacement : List Char) :
    replaceAll [x] replacement s = s := by
  induction s with
  | nil => rw [replaceAll]
  | cons c rest ih =>
    simp only [List.mem_cons, not_or] at h
    rw [replaceAll_singleton_cons_of_ne (Ne.symm h.1), ih h.2]

end ObjectValidation.Text
