import ObjectValidation.Proofs.Regex.Regroup
import Mathlib.Data.List.TakeWhile

/-!
Reading a pattern that goes on. Whatever is read of a pattern is read the same way when a closing parenthesis
follows the pattern, unless the pattern ends in a comment: then what follows belongs to the comment.
-/

namespace ObjectValidation.Regex

/-- What may follow a pattern in a group: a closing parenthesis, and nothing that ends a comment or the name of a
class. -/
structure Closes (later : List Char) : Prop where
  head : later.head? = some ')'
  no_lineFeed : '\n' ∉ later
  no_colon : ':' ∉ later

/-- What one way of reading reads, the other reads the same way when the pattern goes on. -/
def ReadsOn {α : Type} (later : List Char) (read read' : List Char → Option (α × List Char)) : Prop :=
  ∀ ⦃s a rest⦄, read s = some (a, rest) → rest <:+ s ∧ read' (s ++ later) = some (a, rest ++ later)

/-- What is read is read the same way when the pattern goes on. -/
abbrev Extensible {α : Type} (later : List Char) (read : List Char → Option (α × List Char)) : Prop :=
  ReadsOn later read read

/-- A number sign stands in the last line, so that the pattern may end in a comment. -/
def MayEndInComment (s : List Char) : Prop := '#' ∈ s.reverse.takeWhile (· != '\n')

instance (s : List Char) : Decidable (MayEndInComment s) := inferInstanceAs (Decidable (_ ∈ _))

theorem mayEndInComment_iff {s : List Char} :
    MayEndInComment s ↔ ∃ before after, s = before ++ '#' :: after ∧ '\n' ∉ after := by
  constructor
  · intro h
    obtain ⟨after, before, hline⟩ := List.append_of_mem h
    refine ⟨(s.reverse.dropWhile (· != '\n')).reverse ++ before.reverse, after.reverse, ?_, ?_⟩
    · have hs := List.takeWhile_append_dropWhile (p := (· != '\n')) (l := s.reverse)
      rw [hline] at hs
      simpa using (congrArg List.reverse hs).symm
    · intro hmem
      have hall := List.all_takeWhile (p := (· != '\n')) (l := s.reverse)
      rw [hline] at hall
      have hcond := List.all_eq_true.mp hall '\n' (List.mem_append_left _ (List.mem_reverse.mp hmem))
      simp at hcond
  · rintro ⟨before, after, rfl, hafter⟩
    have hline : ∀ c ∈ after.reverse, (c != '\n') = true := by
      rintro c hc
      simp only [bne_iff_ne, ne_eq]
      rintro rfl
      exact hafter (List.mem_reverse.mp hc)
    rw [MayEndInComment, List.reverse_append, List.reverse_cons, List.append_assoc,
      List.takeWhile_append_of_pos hline]
    simp

theorem MayEndInComment.of_suffix {s t : List Char} (h : MayEndInComment s) (hs : s <:+ t) : MayEndInComment t := by
  obtain ⟨u, rfl⟩ := hs
  obtain ⟨before, after, rfl, hafter⟩ := mayEndInComment_iff.mp h
  exact mayEndInComment_iff.mpr ⟨u ++ before, after, by rw [List.append_assoc], hafter⟩

section

variable {later : List Char} {flags : Flags} {s rest : List Char} {c : Char}

/-- What a character does to the space that it begins does not depend on what follows it. -/
theorem skipSpace_cons (flags : Flags) (c : Char) :
    (∀ s, skipSpace flags (c :: s) = skipSpace flags s) ∨
    (c = '#' ∧ ∀ s, skipSpace flags (c :: s) = skipSpace.skipComment flags s) ∨
    ∀ s, skipSpace flags (c :: s) = c :: s := by
  simp only [skipSpace]
  split
  · split
    · exact .inl fun _ => rfl
    · split
      · next hsign => exact .inr (.inl ⟨hsign, fun _ => rfl⟩)
      · exact .inr (.inr fun _ => rfl)
  · exact .inr (.inr fun _ => rfl)

theorem skipComment_cons (flags : Flags) (c : Char) :
    (c = '\n' ∧ ∀ s, skipSpace.skipComment flags (c :: s) = skipSpace flags s) ∨
    (c ≠ '\n' ∧ ∀ s, skipSpace.skipComment flags (c :: s) = skipSpace.skipComment flags s) := by
  by_cases hline : c = '\n'
  · exact .inl ⟨hline, fun _ => if_pos hline⟩
  · exact .inr ⟨hline, fun _ => if_neg hline⟩

theorem skipSpace_append (h : skipSpace flags s = c :: rest) (later : List Char) :
    (c :: rest) <:+ s ∧ skipSpace flags (s ++ later) = c :: (rest ++ later) := by
  suffices hboth : (skipSpace flags s = c :: rest →
      (c :: rest) <:+ s ∧ skipSpace flags (s ++ later) = c :: (rest ++ later)) ∧
      (skipSpace.skipComment flags s = c :: rest →
        (c :: rest) <:+ s ∧ skipSpace.skipComment flags (s ++ later) = c :: (rest ++ later)) from hboth.1 h
  clear h
  induction s with
  | nil => simp [skipSpace, skipSpace.skipComment]
  | cons d s ih =>
    have hsuffix : (c :: rest) <:+ s → (c :: rest) <:+ d :: s := fun h => h.trans (List.suffix_cons d s)
    rw [List.cons_append]
    constructor
    · rcases skipSpace_cons flags d with hd | ⟨-, hd⟩ | hd <;> rw [hd, hd]
      · exact fun h => (ih.1 h).imp_left hsuffix
      · exact fun h => (ih.2 h).imp_left hsuffix
      · rintro ⟨⟩
        exact ⟨List.suffix_refl _, rfl⟩
    · rcases skipComment_cons flags d with ⟨-, hd⟩ | ⟨-, hd⟩ <;> rw [hd, hd]
      · exact fun h => (ih.1 h).imp_left hsuffix
      · exact fun h => (ih.2 h).imp_left hsuffix

theorem skipComment_eq_nil (h : '\n' ∉ s) : skipSpace.skipComment flags s = [] := by
  induction s with
  | nil => rfl
  | cons c s ih =>
    rw [List.mem_cons, not_or] at h
    rw [skipSpace.skipComment, if_neg (Ne.symm h.1), ih h.2]

theorem Closes.skipSpace_eq (hlater : Closes later) : skipSpace flags later = later := by
  obtain ⟨u, rfl⟩ := List.head?_eq_some_iff.mp hlater.head
  have hblank : Text.isBlankChar ')' = false := by decide
  simp [skipSpace, hblank]

/-- Space up to the end of the pattern ends before what follows, or else what follows belongs to a comment. -/
theorem skipSpace_end (h : skipSpace flags s = []) (hlater : Closes later) :
    skipSpace flags (s ++ later) = later ∨ skipSpace flags (s ++ later) = [] ∧ MayEndInComment s := by
  suffices hboth : (skipSpace flags s = [] → skipSpace flags (s ++ later) = later ∨
      skipSpace flags (s ++ later) = [] ∧ MayEndInComment s) ∧
      (skipSpace.skipComment flags s = [] → skipSpace.skipComment flags (s ++ later) = later ∨
        skipSpace.skipComment flags (s ++ later) = [] ∧ ('\n' ∉ s ∨ MayEndInComment s)) from hboth.1 h
  clear h
  induction s with
  | nil => simp [hlater.skipSpace_eq, skipComment_eq_nil hlater.no_lineFeed]
  | cons d s ih =>
    have hcons : MayEndInComment s → MayEndInComment (d :: s) := fun h => h.of_suffix (List.suffix_cons d s)
    rw [List.cons_append]
    constructor
    · rcases skipSpace_cons flags d with hd | ⟨hsign, hd⟩ | hd <;> rw [hd, hd]
      · exact fun h => (ih.1 h).imp_right (And.imp_right hcons)
      · refine fun h => (ih.2 h).imp_right (And.imp_right fun hend => hend.elim (fun hline => ?_) hcons)
        exact mayEndInComment_iff.mpr ⟨[], s, by rw [hsign]; rfl, hline⟩
      · rintro ⟨⟩
    · rcases skipComment_cons flags d with ⟨-, hd⟩ | ⟨hline, hd⟩ <;> rw [hd, hd]
      · exact fun h => (ih.1 h).imp_right (And.imp_right fun hend => .inr (hcons hend))
      · refine fun h => (ih.2 h).imp_right (And.imp_right fun hend => hend.imp (fun hnot => ?_) hcons)
        rw [List.mem_cons, not_or]
        exact ⟨Ne.symm hline, hnot⟩

/-- Which character comes first does not depend on what follows it. -/
theorem cons_ne_of_forall {d : Char} {rest' after : List Char} (h : ∀ after, c :: rest ≠ d :: after) :
    c :: rest' ≠ d :: after := by
  intro heq
  obtain ⟨rfl, -⟩ := List.cons.inj heq
  exact h rest rfl

theorem drop_takeWhile (p : Char → Bool) (s : List Char) : s.drop (s.takeWhile p).length = s.dropWhile p := by
  induction s with
  | nil => rfl
  | cons c s ih => cases hc : p c <;> simp [hc, ih]

/-- A run of characters that ends in a pattern ends there also when the pattern goes on. -/
theorem run_append {p : Char → Bool} (h : s.drop (s.takeWhile p).length = c :: rest) (later : List Char) :
    (c :: rest) <:+ s ∧ (s ++ later).takeWhile p = s.takeWhile p ∧
      (s ++ later).drop (s.takeWhile p).length = c :: (rest ++ later) := by
  have hlt : (s.takeWhile p).length < s.length := by
    have := congrArg List.length h
    rw [List.length_drop, List.length_cons] at this
    omega
  refine ⟨h ▸ List.drop_suffix _ s, ?_, ?_⟩
  · rw [List.takeWhile_append, if_neg (Nat.ne_of_lt hlt)]
  · rw [List.drop_append_of_le_length (Nat.le_of_lt hlt), h, List.cons_append]

/-- In front of something else than a brace there are as many digits as the width says. -/
theorem hexEscape_digits {width : Nat} (h : s.head? ≠ some '\x7b') :
    hexEscape width s = if s.length < width then none
      else do return (← charOfNat? (← hexNumber? (s.take width)), s.drop width) := by
  rw [hexEscape]
  rintro rest rfl
  exact h rfl

/-- What a pattern begins with once it goes on, it begins with already, unless that closes a group. -/
theorem Closes.prefix_of_append (hlater : Closes later) (start : List Char) (hstart : ')' ∉ start)
    (h : start <+: s ++ later) : start <+: s := by
  induction start generalizing s with
  | nil => exact List.nil_prefix
  | cons c start ih =>
    rw [List.mem_cons, not_or] at hstart
    cases s with
    | nil =>
      obtain ⟨u, rfl⟩ := List.head?_eq_some_iff.mp hlater.head
      exact absurd (List.cons_prefix_cons.mp h).1.symm hstart.1
    | cons d s =>
      obtain ⟨rfl, hrest⟩ := List.cons_prefix_cons.mp h
      exact List.cons_prefix_cons.mpr ⟨rfl, ih hstart.2 hrest⟩

theorem Closes.head?_append_ne (hlater : Closes later) (h : s.head? ≠ some c) (hc : ')' ≠ c) :
    (s ++ later).head? ≠ some c := by
  intro hhead
  obtain ⟨t, ht⟩ := List.head?_eq_some_iff.mp hhead
  obtain ⟨u, rfl⟩ := hlater.prefix_of_append [c] (by simpa using hc) ⟨t, ht.symm⟩
  exact h rfl

theorem codePoint_eq_some {digits after : List Char} :
    (do return (← charOfNat? (← hexNumber? digits), after)) = some (c, rest) ↔
      (∃ n, hexNumber? digits = some n ∧ charOfNat? n = some c) ∧ after = rest := by
  simp only [Option.bind_eq_bind, Option.bind_eq_some_iff, Option.pure_def, Option.some.injEq, Prod.mk.injEq]
  constructor
  · rintro ⟨n, hn, b, hb, rfl, hrest⟩
    exact ⟨⟨n, hn, hb⟩, hrest⟩
  · rintro ⟨⟨n, hn, hc⟩, hrest⟩
    exact ⟨n, hn, c, hc, rfl, hrest⟩

theorem extensible_hexEscape (width : Nat) (hlater : Closes later) : Extensible later (hexEscape width) := by
  intro s a rest h
  by_cases hbrace : s.head? = some '\x7b'
  · obtain ⟨body, rfl⟩ := List.head?_eq_some_iff.mp hbrace
    simp only [hexEscape] at h
    split at h
    · next c after hdrop =>
      obtain ⟨hsuffix, htake, hdrop'⟩ := run_append hdrop later
      obtain ⟨hcode, rfl⟩ := codePoint_eq_some.mp h
      simp only [List.cons_append, hexEscape, htake, hdrop']
      refine ⟨?_, codePoint_eq_some.mpr ⟨hcode, rfl⟩⟩
      exact ((List.suffix_cons c after).trans hsuffix).trans (List.suffix_cons _ body)
    · cases h
  · rw [hexEscape_digits hbrace] at h
    rw [hexEscape_digits (hlater.head?_append_ne hbrace (by decide))]
    split at h
    · cases h
    · next hlength =>
      have hlength := Nat.le_of_not_lt hlength
      obtain ⟨hcode, rfl⟩ := codePoint_eq_some.mp h
      rw [if_neg (by rw [List.length_append]; omega), List.take_append_of_le_length hlength,
        List.drop_append_of_le_length hlength]
      exact ⟨List.drop_suffix width s, codePoint_eq_some.mpr ⟨hcode, rfl⟩⟩

/-- A single character in front of what is read, of which only the meaning changes. -/
theorem Extensible.map_cons {α β : Type} {read : List Char → Option (α × List Char)}
    (hread : Extensible later read) (f : α → β) {b : β}
    (h : (read s).map (fun a => (f a.1, a.2)) = some (b, rest)) :
    rest <:+ c :: s ∧ (read (s ++ later)).map (fun a => (f a.1, a.2)) = some (b, rest ++ later) := by
  obtain ⟨⟨a, r⟩, ha, hb⟩ := Option.map_eq_some_iff.mp h
  cases hb
  obtain ⟨hsuffix, hlater⟩ := hread ha
  exact ⟨hsuffix.trans (List.suffix_cons c s), by rw [hlater]; rfl⟩

theorem extensible_escape (hlater : Closes later) : Extensible later escape := by
  intro s a rest h
  cases s with
  | nil => cases h
  | cons c s =>
    rw [List.cons_append]
    unfold escape at h ⊢
    simp only at h ⊢
    split at h
    case h_17 | h_18 | h_19 => exact (extensible_hexEscape _ hlater).map_cons _ h
    case h_20 =>
      split at h
      · next hc =>
        cases h
        exact ⟨List.suffix_cons c _, if_pos hc⟩
      · cases h
    all_goals
      cases h
      exact ⟨List.suffix_cons _ _, rfl⟩

theorem extensible_classPrimitive (hlater : Closes later) : Extensible later classPrimitive := by
  intro s a rest h
  unfold classPrimitive at h
  split at h
  · cases h
  · obtain ⟨hsuffix, hread⟩ := extensible_escape hlater h
    exact ⟨hsuffix.trans (List.suffix_cons _ _), hread⟩
  · next c s hc =>
    cases h
    refine ⟨List.suffix_cons c _, ?_⟩
    rw [List.cons_append, classPrimitive]
    exact hc

theorem extensible_classItem (flags : Flags) (hlater : Closes later) : Extensible later (classItem flags) := by
  intro s a rest h
  simp only [classItem, Option.bind_eq_bind, Option.bind_eq_some_iff] at h
  obtain ⟨⟨first, after⟩, hfirst, h⟩ := h
  obtain ⟨hsuffix, hfirst'⟩ := extensible_classPrimitive hlater hfirst
  simp only [classItem, hfirst', Option.bind_eq_bind, Option.bind_some]
  cases hspace : skipSpace flags after with
  | nil => simp [hspace] at h
  | cons c body =>
    obtain ⟨hbody, hspace'⟩ := skipSpace_append hspace later
    have hbody := hbody.trans hsuffix
    simp only [hspace, hspace'] at h ⊢
    split at h
    · cases h
    · next more hmore =>
      obtain ⟨rfl, rfl⟩ := List.cons.inj hmore
      cases hmore : skipSpace flags body with
      | nil => simp [hmore] at h
      | cons d more =>
        obtain ⟨hd, hmore'⟩ := skipSpace_append hmore later
        have hd := hd.trans ((List.suffix_cons _ body).trans hbody)
        simp only [hmore, hmore'] at h ⊢
        split at h
        · cases h
        · next heq =>
          obtain ⟨rfl, -⟩ := List.cons.inj heq
          cases first <;> cases h <;> exact ⟨hbody, rfl⟩
        · next heq =>
          obtain ⟨rfl, -⟩ := List.cons.inj heq
          cases first <;> cases h <;> exact ⟨hbody, rfl⟩
        · next hbracket hhyphen =>
          obtain ⟨⟨second, last⟩, hsecond, h⟩ := Option.bind_eq_some_iff.mp h
          obtain ⟨hlast, hsecond'⟩ := extensible_classPrimitive hlater hsecond
          rw [List.cons_append] at hsecond'
          split
          · next heq => cases heq
          · next heq => exact absurd heq (cons_ne_of_forall hbracket)
          · next heq => exact absurd heq (cons_ne_of_forall hhyphen)
          · rw [hsecond', Option.bind_some]
            cases first with
            | literal b =>
              cases second with
              | literal e =>
                simp only at h ⊢
                split at h
                · next hle =>
                  cases h
                  exact ⟨hlast.trans hd, if_pos hle⟩
                · cases h
              | set | anchor => cases h
            | set | anchor => cases h
    · next hhyphen =>
      split
      · next heq => cases heq
      · next heq => exact absurd heq (cons_ne_of_forall hhyphen)
      · cases first <;> cases h <;> exact ⟨hbody, rfl⟩

/-- Reads the name of a set up to the colon and the bracket after it. -/
def className (negated : Bool) (s : List Char) : Option (CharSet × List Char) :=
  match s.drop (s.takeWhile (· != ':')).length with
  | ':' :: ']' :: rest => do
    let a ← namedClass? (String.ofList (s.takeWhile (· != ':')))
    return (if negated then .compl a else a, rest)
  | _ => none

theorem namedClass_negated (s : List Char) : namedClass (':' :: '^' :: s) = className true s := rfl

theorem namedClass_of_ne (h : s.head? ≠ some '^') : namedClass (':' :: s) = className false s := by
  rw [namedClass]
  · rfl
  · rintro after rfl
    exact h rfl

theorem extensible_className (negated : Bool) (later : List Char) : Extensible later (className negated) := by
  intro s a rest h
  unfold className at h
  split at h
  · next after hdrop =>
    obtain ⟨hsuffix, htake, hdrop'⟩ := run_append hdrop later
    simp only [Option.bind_eq_bind, Option.bind_eq_some_iff, Option.pure_def, Option.some.injEq,
      Prod.mk.injEq] at h
    obtain ⟨b, hb, rfl, rfl⟩ := h
    refine ⟨((List.suffix_cons _ _).trans (List.suffix_cons _ _)).trans hsuffix, ?_⟩
    rw [className, htake, hdrop']
    simp [hb]
  · cases h

/-- What is no name of a set does not become one when the pattern goes on. -/
theorem className_append (negated : Bool) (hlater : Closes later) (h : className negated s = none) :
    className negated (s ++ later) = none := by
  cases hdrop : s.drop (s.takeWhile (· != ':')).length with
  | nil =>
    have hcolon : (s ++ later).dropWhile (· != ':') = [] := by
      rw [List.dropWhile_append, ← drop_takeWhile, hdrop]
      refine List.dropWhile_eq_nil_iff.mpr fun c hc => ?_
      exact bne_iff_ne.mpr fun hcolon => hlater.no_colon (hcolon ▸ hc)
    rw [className, drop_takeWhile, hcolon]
  | cons c rest =>
    obtain ⟨-, htake, hdrop'⟩ := run_append hdrop later
    rw [className, hdrop] at h
    rw [className, htake, hdrop']
    split
    · next heq =>
      obtain ⟨rfl, hafter⟩ := List.cons.inj heq
      cases rest with
      | nil =>
        rw [List.nil_append] at hafter
        rw [hafter] at hlater
        cases hlater.head
      | cons d rest =>
        obtain ⟨rfl, -⟩ := List.cons.inj hafter
        simp only [Option.bind_eq_bind, Option.bind_eq_none_iff, Option.pure_def, reduceCtorEq] at h ⊢
        exact h
    · rfl

theorem namedClass_of_head_ne (h : s.head? ≠ some ':') : namedClass s = none := by
  unfold namedClass
  split
  · exact absurd rfl h
  · rfl

theorem extensible_namedClass (hlater : Closes later) : Extensible later namedClass := by
  intro s a rest h
  by_cases hcolon : s.head? = some ':'
  · obtain ⟨s, rfl⟩ := List.head?_eq_some_iff.mp hcolon
    rw [List.cons_append]
    by_cases hcaret : s.head? = some '^'
    · obtain ⟨s, rfl⟩ := List.head?_eq_some_iff.mp hcaret
      rw [namedClass_negated] at h
      obtain ⟨hsuffix, hread⟩ := extensible_className true later h
      exact ⟨hsuffix.trans ((List.suffix_cons _ s).trans (List.suffix_cons _ _)), hread⟩
    · rw [namedClass_of_ne hcaret] at h
      obtain ⟨hsuffix, hread⟩ := extensible_className false later h
      refine ⟨hsuffix.trans (List.suffix_cons _ s), ?_⟩
      rw [namedClass_of_ne (hlater.head?_append_ne hcaret (by decide)), hread]
  · rw [namedClass_of_head_ne hcolon] at h
    cases h

/-- What is no named class does not become one when the pattern goes on. -/
theorem namedClass_append (hlater : Closes later) (h : namedClass s = none) : namedClass (s ++ later) = none := by
  by_cases hcolon : s.head? = some ':'
  · obtain ⟨s, rfl⟩ := List.head?_eq_some_iff.mp hcolon
    rw [List.cons_append]
    by_cases hcaret : s.head? = some '^'
    · obtain ⟨s, rfl⟩ := List.head?_eq_some_iff.mp hcaret
      exact className_append true hlater h
    · rw [namedClass_of_ne hcaret] at h
      rw [namedClass_of_ne (hlater.head?_append_ne hcaret (by decide))]
      exact className_append false hlater h
  · exact namedClass_of_head_ne (hlater.head?_append_ne hcolon (by decide))

/-- What a character does to the hyphens in front of a class does not depend on what follows it. -/
theorem leadingHyphens_cons (flags : Flags) (c : Char) (items : Items) :
    (∃ items', ∀ s, leadingHyphens flags items (c :: s) = leadingHyphens flags items' s) ∨
    (∀ s, leadingHyphens flags items (c :: s) = leadingHyphens.afterComment flags items s) ∨
    ∀ s, leadingHyphens flags items (c :: s) = (items, c :: s) := by
  simp only [leadingHyphens]
  split
  · exact .inl ⟨_, fun _ => rfl⟩
  · split
    · exact .inl ⟨_, fun _ => rfl⟩
    · split
      · exact .inr (.inl fun _ => rfl)
      · exact .inr (.inr fun _ => rfl)

theorem leadingHyphens_append {items items' : Items}
    (h : leadingHyphens flags items s = (items', c :: rest)) (later : List Char) :
    (c :: rest) <:+ s ∧ leadingHyphens flags items (s ++ later) = (items', c :: (rest ++ later)) := by
  suffices hboth : ∀ items, (leadingHyphens flags items s = (items', c :: rest) →
      (c :: rest) <:+ s ∧ leadingHyphens flags items (s ++ later) = (items', c :: (rest ++ later))) ∧
      (leadingHyphens.afterComment flags items s = (items', c :: rest) →
        (c :: rest) <:+ s ∧
          leadingHyphens.afterComment flags items (s ++ later) = (items', c :: (rest ++ later))) from
    (hboth items).1 h
  clear h
  induction s with
  | nil => simp [leadingHyphens, leadingHyphens.afterComment]
  | cons d s ih =>
    intro items
    have hsuffix : (c :: rest) <:+ s → (c :: rest) <:+ d :: s := fun h => h.trans (List.suffix_cons d s)
    rw [List.cons_append]
    constructor
    · rcases leadingHyphens_cons flags d items with ⟨items₁, hd⟩ | hd | hd <;> rw [hd, hd]
      · exact fun h => ((ih items₁).1 h).imp_left hsuffix
      · exact fun h => ((ih items).2 h).imp_left hsuffix
      · rintro ⟨⟩
        exact ⟨List.suffix_refl _, rfl⟩
    · by_cases hline : d = '\n' <;> simp only [leadingHyphens.afterComment, hline, if_true, if_false]
      · exact fun h => ((ih items).1 h).imp_left (hline ▸ hsuffix)
      · exact fun h => ((ih items).2 h).imp_left hsuffix

/-- A pair of signs that a pattern does not begin with does not come about when the pattern goes on. -/
theorem Closes.cons_append_ne (hlater : Closes later) {d e : Char} (hpair : ')' ∉ [d, e])
    (h : ∀ after, c :: rest ≠ d :: e :: after) (after : List Char) : c :: (rest ++ later) ≠ d :: e :: after := by
  intro heq
  obtain ⟨t, ht⟩ := hlater.prefix_of_append (s := c :: rest) _ hpair ⟨after, heq.symm⟩
  exact h t ht.symm

theorem classBody_readsOn_succ (hlater : Closes later) {fuel fuel' : Nat}
    (hbody : ∀ negated left items, ReadsOn later (classBody flags fuel negated left items)
      (classBody flags fuel' negated left items))
    (hopen : ReadsOn later (classOpen flags fuel) (classOpen flags fuel')) (negated : Bool)
    (left : Nested CharSet → Nested CharSet) (items : Items) :
    ReadsOn later (classBody flags (fuel + 1) negated left items)
      (classBody flags (fuel' + 1) negated left items) := by
  intro s a rest h
  unfold classBody at h ⊢
  cases hspace : skipSpace flags s with
  | nil => simp [hspace] at h
  | cons c body =>
    obtain ⟨hsuffix, hspace'⟩ := skipSpace_append hspace later
    have hafter {t : List Char} (ht : t <:+ body) : t <:+ s :=
      ht.trans ((List.suffix_cons c body).trans hsuffix)
    simp only [hspace, hspace'] at h ⊢
    split at h
    · cases h
    · next heq =>
      obtain ⟨rfl, rfl⟩ := List.cons.inj heq
      cases h
      exact ⟨hafter (List.suffix_refl _), rfl⟩
    case h_3 | h_4 | h_5 =>
      next heq =>
      obtain ⟨rfl, rfl⟩ := List.cons.inj heq
      obtain ⟨hrest, hread⟩ := hbody _ _ _ h
      exact ⟨hafter (hrest.trans (List.suffix_cons _ _)), hread⟩
    · next heq =>
      obtain ⟨rfl, rfl⟩ := List.cons.inj heq
      simp only
      cases hname : namedClass body with
      | some found =>
        obtain ⟨b, after⟩ := found
        obtain ⟨hname', hread⟩ := extensible_namedClass hlater hname
        simp only [hname, hread] at h ⊢
        exact (hbody _ _ _ h).imp_left fun hrest => hafter (hrest.trans hname')
      | none =>
        simp only [hname, namedClass_append hlater hname, Option.bind_eq_bind] at h ⊢
        obtain ⟨⟨b, after⟩, hb, h⟩ := Option.bind_eq_some_iff.mp h
        obtain ⟨hb', hread⟩ := hopen hb
        rw [hread, Option.bind_some]
        exact (hbody _ _ _ h).imp_left fun hrest => hafter (hrest.trans hb')
    · next hclose hand hhyphen htilde hbracket =>
      obtain ⟨⟨b, after⟩, hb, h⟩ := Option.bind_eq_some_iff.mp h
      obtain ⟨hb', hread⟩ := extensible_classItem flags hlater hb
      rw [List.cons_append] at hread
      split
      · next heq => cases heq
      · next heq => exact absurd heq (cons_ne_of_forall hclose)
      · next heq => exact absurd heq (hlater.cons_append_ne (by decide) hand _)
      · next heq => exact absurd heq (hlater.cons_append_ne (by decide) hhyphen _)
      · next heq => exact absurd heq (hlater.cons_append_ne (by decide) htilde _)
      · next heq => exact absurd heq (cons_ne_of_forall hbracket)
      · simp only [Option.bind_eq_bind, hread, Option.bind_some]
        exact (hbody _ _ _ h).imp_left fun hrest => (hrest.trans hb').trans hsuffix

/-- How a class starts: whether it is negated, and what follows. -/
def classStart (flags : Flags) (s : List Char) : Bool × List Char :=
  match skipSpace flags s with
  | '^' :: rest => (true, skipSpace flags rest)
  | s => (false, s)

theorem classStart_append {negated : Bool} (h : classStart flags s = (negated, c :: rest)) (later : List Char) :
    (c :: rest) <:+ s ∧ classStart flags (s ++ later) = (negated, c :: (rest ++ later)) := by
  unfold classStart at h ⊢
  cases hspace : skipSpace flags s with
  | nil => simp [hspace] at h
  | cons d body =>
    obtain ⟨hsuffix, hspace'⟩ := skipSpace_append hspace later
    simp only [hspace, hspace'] at h ⊢
    split at h
    · next heq =>
      obtain ⟨rfl, rfl⟩ := List.cons.inj heq
      obtain ⟨rfl, hafter⟩ := Prod.mk.inj h
      obtain ⟨hrest, hread⟩ := skipSpace_append hafter later
      exact ⟨hrest.trans ((List.suffix_cons _ body).trans hsuffix), by simp only [hread]⟩
    · next hcaret =>
      cases h
      split
      · next heq => exact absurd heq (cons_ne_of_forall hcaret)
      · exact ⟨hsuffix, rfl⟩

theorem classBody_nil (fuel : Nat) (negated : Bool) (left : Nested CharSet → Nested CharSet) (items : Items) :
    classBody flags fuel negated left items [] = none := by
  cases fuel <;> simp [classBody, skipSpace]

theorem classOpen_succ (fuel : Nat) (s : List Char) :
    classOpen flags (fuel + 1) s =
      match (classStart flags s).2 with
      | ']' :: rest => classBody flags fuel (classStart flags s).1 id (Items.addChar {} ']') rest
      | s' => classBody flags fuel (classStart flags s).1 id (leadingHyphens flags {} s').1
          (leadingHyphens flags {} s').2 := by
  rw [classOpen]
  rfl

theorem classOpen_readsOn_succ {fuel fuel' : Nat}
    (hbody : ∀ negated left items, ReadsOn later (classBody flags fuel negated left items)
      (classBody flags fuel' negated left items)) :
    ReadsOn later (classOpen flags (fuel + 1)) (classOpen flags (fuel' + 1)) := by
  intro s a rest h
  rw [classOpen_succ] at h ⊢
  rcases hstart : classStart flags s with ⟨negated, _ | ⟨c, body⟩⟩
  · simp [hstart, leadingHyphens, classBody_nil] at h
  · obtain ⟨hsuffix, hstart'⟩ := classStart_append hstart later
    simp only [hstart, hstart'] at h ⊢
    split at h
    · next heq =>
      obtain ⟨rfl, rfl⟩ := List.cons.inj heq
      exact (hbody _ _ _ h).imp_left fun hrest => (hrest.trans (List.suffix_cons _ body)).trans hsuffix
    · next hclose =>
      rcases hhyphens : leadingHyphens flags {} (c :: body) with ⟨items, _ | ⟨d, after⟩⟩
      · simp [hhyphens, classBody_nil] at h
      · obtain ⟨hafter, hhyphens'⟩ := leadingHyphens_append hhyphens later
        rw [List.cons_append] at hhyphens'
        split
        · next heq => exact absurd heq (cons_ne_of_forall hclose)
        · simp only [hhyphens, hhyphens'] at h ⊢
          exact (hbody _ _ _ h).imp_left fun hrest => (hrest.trans hafter).trans hsuffix

theorem class_readsOn (flags : Flags) (hlater : Closes later) {fuel fuel' : Nat} (hfuel : fuel ≤ fuel') :
    (∀ negated left items, ReadsOn later (classBody flags fuel negated left items)
      (classBody flags fuel' negated left items)) ∧
    ReadsOn later (classOpen flags fuel) (classOpen flags fuel') := by
  induction fuel generalizing fuel' with
  | zero =>
    constructor
    · intro negated left items s a rest h
      simp [classBody] at h
    · intro s a rest h
      simp [classOpen] at h
  | succ fuel ih =>
    obtain ⟨fuel', rfl⟩ : ∃ n, fuel' = n + 1 := ⟨fuel' - 1, by omega⟩
    obtain ⟨hbody, hopen⟩ := ih (Nat.le_of_succ_le_succ hfuel)
    exact ⟨classBody_readsOn_succ hlater hbody hopen, classOpen_readsOn_succ hbody⟩

end

end ObjectValidation.Regex
