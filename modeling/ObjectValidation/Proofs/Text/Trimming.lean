import ObjectValidation.Text.Blank
import Mathlib.Data.List.TakeWhile

/-!
Texts without white space around them. Trimming gives such a text and changes no other one; joining two of them
gives another. What is trimmed of a longer text is told by its parts.
-/

namespace ObjectValidation.Text

/-- Neither the first nor the last character is white space. -/
structure Trimmed (s : List Char) : Prop where
  head : ∀ c ∈ s.head?, isBlankChar c = false
  last : ∀ c ∈ s.getLast?, isBlankChar c = false

theorem trimmed_nil : Trimmed [] := ⟨by simp, by simp⟩

theorem trimmed_of_forall {s : List Char} (h : ∀ c ∈ s, isBlankChar c = false) : Trimmed s :=
  ⟨fun c hc => h c (List.mem_of_mem_head? hc), fun c hc => h c (List.mem_of_mem_getLast? hc)⟩

theorem dropWhile_of_head {s : List Char} (h : ∀ c ∈ s.head?, isBlankChar c = false) :
    s.dropWhile isBlankChar = s := by
  cases s with
  | nil => rfl
  | cons c rest => exact List.dropWhile_cons_of_neg (by simp [h c rfl])

theorem trimEnd_of_last {s : List Char} (h : ∀ c ∈ s.getLast?, isBlankChar c = false) : trimEnd s = s := by
  have hreverse : ∀ c ∈ s.reverse.head?, isBlankChar c = false := by rwa [List.head?_reverse]
  rw [trimEnd, dropWhile_of_head hreverse, List.reverse_reverse]

theorem Trimmed.trimChars_eq {s : List Char} (h : Trimmed s) : trimChars s = s := by
  rw [trimChars, dropWhile_of_head h.head, trimEnd_of_last h.last]

theorem head_dropWhile (s : List Char) : ∀ c ∈ (s.dropWhile isBlankChar).head?, isBlankChar c = false := by
  intro c hc
  have hnot := List.head?_dropWhile_not isBlankChar s
  rw [hc] at hnot
  simpa using hnot

theorem prefix_trimEnd (s : List Char) : trimEnd s <+: s := by
  have hsuffix := List.dropWhile_suffix isBlankChar (l := s.reverse)
  rw [trimEnd, ← List.reverse_suffix, List.reverse_reverse]
  exact hsuffix

theorem trimmed_trimChars (s : List Char) : Trimmed (trimChars s) where
  head := by
    intro c hc
    obtain ⟨rest, hrest⟩ := prefix_trimEnd (s.dropWhile isBlankChar)
    apply head_dropWhile s c
    rw [← hrest, List.head?_append, ← trimChars, hc]
    rfl
  last := by
    intro c hc
    rw [trimChars, trimEnd, List.getLast?_reverse] at hc
    exact head_dropWhile _ c hc

theorem mem_of_mem_trimChars {s : List Char} {c : Char} (h : c ∈ trimChars s) : c ∈ s := by
  have hprefix := (prefix_trimEnd (s.dropWhile isBlankChar)).subset h
  exact (List.dropWhile_suffix isBlankChar).subset hprefix

theorem Trimmed.map {s : List Char} (h : Trimmed s) {f : Char → Char}
    (hf : ∀ c, isBlankChar (f c) = isBlankChar c) : Trimmed (s.map f) where
  head := by
    intro c hc
    rw [List.head?_map] at hc
    obtain ⟨d, hd, rfl⟩ := Option.map_eq_some_iff.1 hc
    rw [hf, h.head d hd]
  last := by
    intro c hc
    rw [List.getLast?_map] at hc
    obtain ⟨d, hd, rfl⟩ := Option.map_eq_some_iff.1 hc
    rw [hf, h.last d hd]

/-- White space may only stand inside, also around a separator that is none itself. -/
theorem Trimmed.append_cons {s t : List Char} (hs : Trimmed s) (ht : Trimmed t) (hne : t ≠ []) {c : Char}
    (hc : isBlankChar c = false) : Trimmed (s ++ c :: t) where
  head := by
    intro d hd
    cases s with
    | nil =>
      cases hd
      exact hc
    | cons b rest => exact hs.head d hd
  last := by
    intro d hd
    obtain ⟨b, hb⟩ := Option.ne_none_iff_exists'.1 (mt List.getLast?_eq_none_iff.1 hne)
    apply ht.last d
    rw [List.getLast?_append, List.getLast?_cons, hb] at hd
    rw [hb]
    simpa using hd

section

variable {s t : List Char} {c : Char}

/-- Nothing before a character that is not white space is trimmed at the end. -/
theorem trimEnd_append_cons (hc : isBlankChar c = false) (s t : List Char) :
    trimEnd (s ++ c :: t) = s ++ c :: trimEnd t := by
  rw [trimEnd, List.reverse_append, List.reverse_cons, List.append_assoc, List.dropWhile_append]
  split
  · next hempty =>
    rw [List.isEmpty_iff] at hempty
    simp [trimEnd, hempty, hc]
  · simp [trimEnd]

theorem trimEnd_append_blank (ht : ∀ c ∈ t, isBlankChar c = true) (s : List Char) :
    trimEnd (s ++ t) = trimEnd s := by
  rw [trimEnd, List.reverse_append, List.dropWhile_append_of_pos, trimEnd]
  simpa using ht

theorem exists_trimEnd_append (s : List Char) : ∃ t, s = trimEnd s ++ t ∧ ∀ c ∈ t, isBlankChar c = true := by
  refine ⟨(s.reverse.takeWhile isBlankChar).reverse, ?_, fun c hc => ?_⟩
  · rw [trimEnd, ← List.reverse_append, List.takeWhile_append_dropWhile, List.reverse_reverse]
  · exact List.mem_takeWhile_imp (List.mem_reverse.1 hc)

theorem dropWhile_append_cons (hc : isBlankChar c = false) (s t : List Char) :
    (s ++ c :: t).dropWhile isBlankChar = s.dropWhile isBlankChar ++ c :: t := by
  rw [List.dropWhile_append]
  split
  · next hempty => rw [List.isEmpty_iff.1 hempty, List.dropWhile_cons_of_neg (by simp [hc]), List.nil_append]
  · rfl

/-- A character that is not white space keeps the white space between it and other such characters. -/
theorem trimChars_append_cons (hc : isBlankChar c = false) (s t : List Char) :
    trimChars (s ++ c :: t) = s.dropWhile isBlankChar ++ c :: trimEnd t := by
  rw [trimChars, dropWhile_append_cons hc, trimEnd_append_cons hc]

theorem trimChars_dropWhile (s : List Char) : trimChars (s.dropWhile isBlankChar) = trimChars s := by
  rw [trimChars, dropWhile_of_head (head_dropWhile s), trimChars]

theorem trimChars_append_blank (ht : ∀ c ∈ t, isBlankChar c = true) (s : List Char) :
    trimChars (s ++ t) = trimChars s := by
  rw [trimChars, List.dropWhile_append]
  split
  · next hempty =>
    rw [trimChars, List.isEmpty_iff.1 hempty, List.dropWhile_eq_nil_iff.2 ht]
  · exact trimEnd_append_blank ht _

theorem trimChars_blank_append (hs : ∀ c ∈ s, isBlankChar c = true) (t : List Char) :
    trimChars (s ++ t) = trimChars t := by
  rw [trimChars, List.dropWhile_append_of_pos hs, trimChars]

/-- White space at the end may be dropped before or after a text is cut. -/
theorem trimChars_takeWhile_trimEnd (p : Char → Bool) (s : List Char) :
    trimChars ((trimEnd s).takeWhile p) = trimChars (s.takeWhile p) := by
  obtain ⟨blanks, hs, hblanks⟩ := exists_trimEnd_append s
  have hcut : s.takeWhile p = (trimEnd s ++ blanks).takeWhile p := congrArg _ hs
  rw [hcut, List.takeWhile_append]
  split
  · next hall =>
    rw [(List.takeWhile_prefix p).eq_of_length hall, trimChars_append_blank]
    exact fun c hc => hblanks c ((List.takeWhile_prefix p).subset hc)
  · rfl

theorem trimChars_map {f : Char → Char} (hf : ∀ c, isBlankChar (f c) = isBlankChar c) (s : List Char) :
    trimChars (s.map f) = (trimChars s).map f := by
  have hblank : isBlankChar ∘ f = isBlankChar := funext hf
  rw [trimChars, trimEnd, List.dropWhile_map, hblank, ← List.map_reverse, List.dropWhile_map, hblank,
    ← List.map_reverse]
  rfl

end

end ObjectValidation.Text
