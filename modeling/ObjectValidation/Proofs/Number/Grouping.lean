import ObjectValidation.Format.Number
import ObjectValidation.Proofs.Text.Replacement

/-!
Numerals in a locale. The digits of the whole part are set in groups of three from the right, and nothing else
is set apart. In every locale the two separators are different characters that occur in no numeral, so that
taking them away gives the numeral back.
-/

namespace ObjectValidation

/-- A numeral as programs write it: maybe a minus, one digit or more, and maybe a point with the digits of a
fraction. -/
structure PlainNumeral where
  negative : Bool
  whole : List Char
  fraction : Option (List Char)
  whole_ne_nil : whole ≠ []
  isDigit_whole : ∀ c ∈ whole, c.isDigit
  isDigit_fraction : ∀ digits ∈ fraction, ∀ c ∈ digits, c.isDigit

namespace PlainNumeral

def sign (n : PlainNumeral) : List Char := if n.negative then ['-'] else []

/-- The digits of the fraction, if there are any, after a separator. -/
def fractionAfter (n : PlainNumeral) (separator : List Char) : List Char :=
  match n.fraction with
  | none => []
  | some digits => separator ++ digits

def chars (n : PlainNumeral) : List Char := n.sign ++ n.whole ++ n.fractionAfter ['.']

def text (n : PlainNumeral) : String := String.ofList n.chars

end PlainNumeral

/-- Reads what is written by the conventions: the separators between groups are deleted, then a point takes the
place of the separator before the fraction. -/
def Conventions.plain (c : Conventions) (written : String) : String :=
  String.ofList (Text.replaceAll c.decimal.toList ['.'] (Text.replaceAll c.grouping.toList [] written.toList))

/-- The separators are two different characters, and no numeral has one of them as a digit or a minus. -/
structure Conventions.SetApart (c : Conventions) (grouping decimal : Char) : Prop where
  grouping_eq : c.grouping.toList = [grouping]
  decimal_eq : c.decimal.toList = [decimal]
  ne : grouping ≠ decimal
  grouping_isDigit : grouping.isDigit = false
  decimal_isDigit : decimal.isDigit = false
  grouping_ne_minus : grouping ≠ '-'
  decimal_ne_minus : decimal ≠ '-'

/-- The separators in use: between groups, and before a fraction. -/
theorem Locale.separators (l : Locale) :
    (l.conventions.grouping, l.conventions.decimal) ∈
      [(",", "."), (".", ","), ("\u202f", ","), ("\u00a0", ",")] := by
  unfold Locale.conventions
  repeat' split
  all_goals decide

theorem Locale.exists_setApart (l : Locale) : ∃ grouping decimal, l.conventions.SetApart grouping decimal := by
  have hof {c : Conventions} {g d : Char} (hsigns : (c.grouping, c.decimal) = (String.singleton g, String.singleton d))
      (hne : g ≠ d) (hdigits : g.isDigit = false ∧ d.isDigit = false) (hminus : g ≠ '-' ∧ d ≠ '-') :
      c.SetApart g d := by
    obtain ⟨hgrouping, hdecimal⟩ := Prod.mk.inj hsigns
    exact ⟨by rw [hgrouping, String.toList_singleton], by rw [hdecimal, String.toList_singleton], hne,
      hdigits.1, hdigits.2, hminus.1, hminus.2⟩
  have hsigns := l.separators
  simp only [List.mem_cons, List.not_mem_nil, or_false] at hsigns
  rcases hsigns with hsigns | hsigns | hsigns | hsigns
  · exact ⟨',', '.', hof hsigns (by decide) (by decide) (by decide)⟩
  · exact ⟨'.', ',', hof hsigns (by decide) (by decide) (by decide)⟩
  · exact ⟨'\u202f', ',', hof hsigns (by decide) (by decide) (by decide)⟩
  · exact ⟨'\u00a0', ',', hof hsigns (by decide) (by decide) (by decide)⟩

namespace Numeral

/-- Digits of which a multiple of three is left are written in groups of three, each after a separator. -/
theorem exists_groups (separator : List Char) (k : Nat) (digits : List Char) (h : digits.length = 3 * k) :
    ∃ groups : List (List Char), digits = groups.flatten ∧ (∀ g ∈ groups, g.length = 3) ∧
      groupTail separator digits = (groups.map fun g => separator ++ g).flatten := by
  induction k generalizing digits with
  | zero =>
    obtain rfl : digits = [] := List.eq_nil_of_length_eq_zero h
    exact ⟨[], rfl, by simp, rfl⟩
  | succ k ih =>
    match digits, h with
    | a :: b :: c :: rest, h =>
      have hrest : rest.length = 3 * k := by simp only [List.length_cons] at h; omega
      obtain ⟨groups, hflatten, hthree, hwritten⟩ := ih rest hrest
      refine ⟨[a, b, c] :: groups, by simp [hflatten], by simpa using hthree, ?_⟩
      have hfirst : (rest.length + 1 + 1 + 1) % 3 = 0 := by omega
      have hsecond : (rest.length + 1 + 1) % 3 ≠ 0 := by omega
      have hthird : (rest.length + 1) % 3 ≠ 0 := by omega
      simp [groupTail, hwritten, hfirst, hsecond, hthird]

/-- Fewer than three digits before a multiple of three stand without a separator. -/
theorem groupTail_append (separator : List Char) {front back : List Char} (hfront : front.length < 3)
    (hback : back.length % 3 = 0) : groupTail separator (front ++ back) = front ++ groupTail separator back := by
  induction front with
  | nil => rfl
  | cons c front ih =>
    have hne : ¬ ((front ++ back).length + 1) % 3 = 0 := by
      simp only [List.length_append, List.length_cons] at hfront ⊢
      omega
    rw [List.cons_append, groupTail, if_neg hne, ih (by simp only [List.length_cons] at hfront; omega)]
    rfl

theorem intercalate_cons (separator first : List Char) (others : List (List Char)) :
    separator.intercalate (first :: others) = first ++ (others.map fun g => separator ++ g).flatten := by
  induction others generalizing first with
  | nil => simp [List.intercalate]
  | cons g others ih =>
    have htail := ih g
    simp only [List.intercalate] at htail ⊢
    simp [htail]

/-- All groups have three digits, except that the first may have fewer. -/
theorem exists_group_eq (separator : List Char) {digits : List Char} (h : digits ≠ []) :
    ∃ first others, digits = first ++ others.flatten ∧ (1 ≤ first.length ∧ first.length ≤ 3) ∧
      (∀ g ∈ others, g.length = 3) ∧ group separator digits = separator.intercalate (first :: others) := by
  cases digits with
  | nil => exact absurd rfl h
  | cons c rest =>
    have hsplit := List.take_append_drop (rest.length % 3) rest
    have hfront : (rest.take (rest.length % 3)).length < 3 := by simp only [List.length_take]; omega
    have hback : (rest.drop (rest.length % 3)).length = 3 * (rest.length / 3) := by
      simp only [List.length_drop]
      omega
    obtain ⟨others, hflatten, hthree, hwritten⟩ := exists_groups separator _ _ hback
    refine ⟨c :: rest.take (rest.length % 3), others, ?_, ?_, hthree, ?_⟩
    · rw [← hflatten, List.cons_append, hsplit]
    · simp only [List.length_cons]
      omega
    · have hmod : (rest.drop (rest.length % 3)).length % 3 = 0 := by omega
      have htail := groupTail_append separator hfront hmod
      rw [hsplit] at htail
      rw [group, htail, hwritten, intercalate_cons, List.cons_append]

/-- Where the separator is a character of its own, deleting it undoes the grouping. -/
theorem replaceAll_group {grouping : Char} {digits : List Char} (h : grouping ∉ digits) :
    Text.replaceAll [grouping] [] (group [grouping] digits) = digits := by
  have hseparator (p : Prop) [Decidable p] :
      Text.replaceAll [grouping] [] (if p then [grouping] else []) = [] := by
    split
    · exact Text.replaceAll_singleton_self grouping []
    · exact Text.replaceAll_singleton_of_notMem List.not_mem_nil []
  have htail (rest : List Char) (hrest : grouping ∉ rest) :
      Text.replaceAll [grouping] [] (groupTail [grouping] rest) = rest := by
    induction rest with
    | nil => exact Text.replaceAll_singleton_of_notMem hrest []
    | cons c rest ih =>
      simp only [List.mem_cons, not_or] at hrest
      rw [groupTail, Text.replaceAll_singleton_append, hseparator,
        Text.replaceAll_singleton_cons_of_ne (Ne.symm hrest.1), ih hrest.2]
      rfl
  cases digits with
  | nil => exact Text.replaceAll_singleton_of_notMem h []
  | cons c rest =>
    simp only [List.mem_cons, not_or] at h
    rw [group, Text.replaceAll_singleton_cons_of_ne (Ne.symm h.1), htail rest h.2]

/-- A numeral keeps its sign and its digits; the whole part is grouped, and the fraction follows the separator of
the conventions. -/
theorem localizeChars_chars (c : Conventions) (n : PlainNumeral) :
    localizeChars c n.chars =
      n.sign ++ group c.grouping.toList n.whole ++ n.fractionAfter c.decimal.toList := by
  have hpoint : ∀ d ∈ n.whole, (d != '.') = true := by
    intro d hd
    have hdigit := n.isDigit_whole d hd
    rw [bne_iff_ne]
    rintro rfl
    cases hdigit
  have hwhole : (n.whole ++ n.fractionAfter ['.']).takeWhile (fun d => d != '.') = n.whole := by
    rw [List.takeWhile_append_of_pos hpoint]
    cases hfraction : n.fraction with
    | none => simp [PlainNumeral.fractionAfter, hfraction]
    | some digits => simp [PlainNumeral.fractionAfter, hfraction]
  have hunsigned : localizeUnsigned c (n.whole ++ n.fractionAfter ['.']) =
      group c.grouping.toList n.whole ++ n.fractionAfter c.decimal.toList := by
    rw [localizeUnsigned, hwhole, List.drop_left]
    cases hfraction : n.fraction with
    | none => simp [PlainNumeral.fractionAfter, hfraction]
    | some digits => simp [PlainNumeral.fractionAfter, hfraction]
  rw [PlainNumeral.chars, List.append_assoc, List.append_assoc, ← hunsigned, PlainNumeral.sign]
  cases n.negative with
  | true => rfl
  | false =>
    obtain ⟨d, rest, hcons⟩ := List.exists_cons_of_ne_nil n.whole_ne_nil
    have hminus : d ≠ '-' := by
      rintro rfl
      cases n.isDigit_whole '-' (hcons ▸ List.mem_cons_self)
    simp [hcons, localizeChars, hminus]

theorem toList_localize (c : Conventions) (n : PlainNumeral) :
    (localize c n.text).toList =
      n.sign ++ group c.grouping.toList n.whole ++ n.fractionAfter c.decimal.toList := by
  rw [localize, PlainNumeral.text, String.toList_ofList, String.toList_ofList, localizeChars_chars]

theorem notMem_of_isDigit {x : Char} (hx : x.isDigit = false) {digits : List Char}
    (h : ∀ d ∈ digits, d.isDigit) : x ∉ digits := by
  intro hmem
  rw [h x hmem] at hx
  cases hx

theorem notMem_sign {x : Char} (hx : x ≠ '-') (n : PlainNumeral) : x ∉ n.sign := by
  rw [PlainNumeral.sign]
  split
  · simpa using hx
  · exact List.not_mem_nil

/-- A point takes the place of the separator before the fraction, and nothing in the fraction is touched. -/
theorem replaceAll_fractionAfter {c : Conventions} {grouping decimal : Char} (h : c.SetApart grouping decimal)
    (n : PlainNumeral) :
    Text.replaceAll [decimal] ['.'] (Text.replaceAll [grouping] [] (n.fractionAfter [decimal])) =
      n.fractionAfter ['.'] := by
  rw [PlainNumeral.fractionAfter, PlainNumeral.fractionAfter]
  cases hfraction : n.fraction with
  | none =>
    dsimp only
    rw [Text.replaceAll_singleton_of_notMem List.not_mem_nil, Text.replaceAll_singleton_of_notMem List.not_mem_nil]
  | some digits =>
    have hdigits := n.isDigit_fraction digits hfraction
    dsimp only
    rw [Text.replaceAll_singleton_append,
      Text.replaceAll_singleton_of_notMem (mt List.mem_singleton.1 h.ne),
      Text.replaceAll_singleton_of_notMem (notMem_of_isDigit h.grouping_isDigit hdigits),
      Text.replaceAll_singleton_append, Text.replaceAll_singleton_self,
      Text.replaceAll_singleton_of_notMem (notMem_of_isDigit h.decimal_isDigit hdigits)]

/-- What is written by the conventions can be read back. -/
theorem plain_localize {c : Conventions} {grouping decimal : Char} (h : c.SetApart grouping decimal)
    (n : PlainNumeral) : c.plain (localize c n.text) = n.text := by
  have hgrouping := notMem_of_isDigit h.grouping_isDigit n.isDigit_whole
  have hdecimal := notMem_of_isDigit h.decimal_isDigit n.isDigit_whole
  rw [Conventions.plain, toList_localize, h.grouping_eq, h.decimal_eq, PlainNumeral.text, PlainNumeral.chars]
  simp only [Text.replaceAll_singleton_append]
  rw [Text.replaceAll_singleton_of_notMem (notMem_sign h.grouping_ne_minus n), replaceAll_group hgrouping,
    Text.replaceAll_singleton_of_notMem (notMem_sign h.decimal_ne_minus n),
    Text.replaceAll_singleton_of_notMem hdecimal, replaceAll_fractionAfter h]

end Numeral

end ObjectValidation
