import ObjectValidation.Proofs.Locale.Tag

/-!
Spellings of a locale. The case of letters, the kind of separators, white space around a tag, what follows the
name in it, and a third part of the name do not matter to what is read.
-/

namespace ObjectValidation.Locale

/-- The part of a tag that names the locale. -/
def nameOf (tag : List Char) : List Char := (Text.trimChars tag).takeWhile fun c => !endsName c

/-- The locale of a name. -/
def ofName (name : List Char) : Locale :=
  if name.isEmpty || isUnlocalized name then root else ofParts (firstTwoParts name).1 (firstTwoParts name).2

theorem parseChars_eq (tag : List Char) : parseChars tag = ofName (nameOf tag) := rfl

theorem separates_iff {c : Char} : separates c = true ↔ c = '_' ∨ c = '-' := by simp [separates]

theorem isTagMark_of_separates {c : Char} (h : separates c) : isTagMark c = true := by
  rw [isTagMark_eq, h, Bool.true_or]

theorem separates_of_isAlpha (c : Char) (h : c.isAlpha) : separates c = false := by
  have hmark := isTagMark_of_isAlpha h
  rw [isTagMark_eq, Bool.or_eq_false_iff] at hmark
  exact hmark.1

theorem endsName_of_isAlpha (c : Char) (h : c.isAlpha) : endsName c = false := by
  have hmark := isTagMark_of_isAlpha h
  rw [isTagMark_eq, Bool.or_eq_false_iff] at hmark
  exact hmark.2

theorem endsName_of_separates {c : Char} (h : separates c) : endsName c = false := by
  rcases separates_iff.1 h with rfl | rfl <;> rfl

/-- What a character counts as when a locale is read: letters have no case, and there is one separator. -/
def folded (c : Char) : Char := if separates c then '_' else c.toLower

theorem folded_of_separates {c : Char} (h : separates c) : folded c = '_' := if_pos h

theorem folded_of_not_separates {c : Char} (h : separates c = false) : folded c = c.toLower :=
  if_neg (by simp [h])

theorem folded_toLower (c : Char) : folded c.toLower = folded c := by
  rw [folded, apply_toLower separates_of_isAlpha, Char.toLower_toLower_eq_toLower, folded]

theorem folded_toUpper (c : Char) : folded c.toUpper = folded c := by
  rw [folded, apply_toUpper separates_of_isAlpha, Char.toLower_toUpper_eq_toLower, folded]

/-- Whatever tells neither letters from one another nor separators is told of folded characters as well. -/
theorem apply_folded {p : Char → Bool} (halpha : ∀ c : Char, c.isAlpha → p c = false)
    (hseparates : p '-' = p '_') (c : Char) : p (folded c) = p c := by
  by_cases h : separates c
  · rw [folded_of_separates h]
    rcases separates_iff.1 h with rfl | rfl
    · rfl
    · exact hseparates.symm
  · rw [folded_of_not_separates (by simpa using h), apply_toLower halpha]

theorem nameOf_map_folded (tag : List Char) : nameOf (tag.map folded) = (nameOf tag).map folded := by
  have hblank := apply_folded (p := Text.isBlankChar) (fun _ => Text.isBlankChar_of_isAlpha) rfl
  rw [nameOf, Text.trimChars_map hblank, List.takeWhile_map, nameOf]
  congr 2
  funext c
  simp only [Function.comp_apply, apply_folded endsName_of_isAlpha rfl]

/-- The names of having no locale have no separators. -/
theorem isUnlocalized_of_separates {name : List Char} {c : Char} (hc : c ∈ name) (h : separates c) :
    isUnlocalized name = false := by
  have hlower : c.toLower ∈ name.map Char.toLower := List.mem_map_of_mem hc
  have hseparates : separates c.toLower = true := by rw [apply_toLower separates_of_isAlpha, h]
  rw [← Bool.not_eq_true, isUnlocalized]
  simp only [Bool.or_eq_true, beq_iff_eq, not_or]
  constructor
  · intro hname
    rw [hname, List.mem_singleton] at hlower
    rw [hlower] at hseparates
    cases hseparates
  · intro hname
    have hplain : ∀ d ∈ ['p', 'o', 's', 'i', 'x'], separates d = false := by simp [separates]
    rw [hname] at hlower
    rw [hplain _ hlower] at hseparates
    cases hseparates

theorem map_folded_of_not_separates {part : List Char} (h : ∀ c ∈ part, separates c = false) :
    part.map folded = part.map Char.toLower :=
  List.map_congr_left fun c hc => folded_of_not_separates (h c hc)

theorem isUnlocalized_map_folded (name : List Char) : isUnlocalized (name.map folded) = isUnlocalized name := by
  by_cases h : ∃ c ∈ name, separates c
  · obtain ⟨c, hc, hseparates⟩ := h
    have hfolded : separates (folded c) = true := by rw [folded_of_separates hseparates]; rfl
    rw [isUnlocalized_of_separates hc hseparates, isUnlocalized_of_separates (List.mem_map_of_mem hc) hfolded]
  · have hnone : ∀ c ∈ name, separates c = false := fun c hc => by
      rw [← Bool.not_eq_true]
      exact fun hseparates => h ⟨c, hc, hseparates⟩
    have hlower : (name.map Char.toLower).map Char.toLower = name.map Char.toLower := by
      rw [List.map_map]
      exact List.map_congr_left fun c _ => Char.toLower_toLower_eq_toLower c
    rw [map_folded_of_not_separates hnone, isUnlocalized, hlower, isUnlocalized]

theorem firstTwoParts_map_folded (name : List Char) : firstTwoParts (name.map folded) =
    ((firstTwoParts name).1.map folded, (firstTwoParts name).2.map folded) := by
  have hseparates : (fun c => !separates c) ∘ folded = fun c => !separates c :=
    funext fun c => congrArg not (apply_folded separates_of_isAlpha rfl c)
  rw [firstTwoParts, List.takeWhile_map, List.dropWhile_map, ← List.map_tail, List.takeWhile_map, hseparates,
    firstTwoParts]

theorem not_separates_firstTwoParts (name : List Char) :
    (∀ c ∈ (firstTwoParts name).1, separates c = false) ∧
      ∀ c ∈ (firstTwoParts name).2, separates c = false := by
  constructor <;>
  · intro c hc
    simpa using List.mem_takeWhile_imp hc

/-- The case of what a locale is made from does not matter. -/
theorem ofParts_map_toLower (language country : List Char) :
    ofParts (language.map Char.toLower) (country.map Char.toLower) = ofParts language country := by
  have hblank := apply_toLower (p := Text.isBlankChar) fun _ => Text.isBlankChar_of_isAlpha
  simp only [ofParts, Text.trimChars_map hblank, List.map_map, Function.comp_def, Char.toLower_toLower_eq_toLower,
    Char.toUpper_toLower_eq_toUpper]

theorem ofName_map_folded (name : List Char) : ofName (name.map folded) = ofName name := by
  obtain ⟨hlanguage, hcountry⟩ := not_separates_firstTwoParts name
  rw [ofName, isUnlocalized_map_folded, List.isEmpty_map, firstTwoParts_map_folded,
    map_folded_of_not_separates hlanguage, map_folded_of_not_separates hcountry, ofParts_map_toLower, ofName]

theorem parseChars_map_folded (tag : List Char) : parseChars (tag.map folded) = parseChars tag := by
  rw [parseChars_eq, nameOf_map_folded, ofName_map_folded, ← parseChars_eq]

theorem parseChars_congr {s t : List Char} (h : s.map folded = t.map folded) : parseChars s = parseChars t := by
  rw [← parseChars_map_folded s, h, parseChars_map_folded]

/-- Separators may be exchanged one by one. -/
theorem map_folded_of_forall₂ {s t : List Char}
    (h : List.Forall₂ (fun c d => c = d ∨ separates c ∧ separates d) s t) :
    s.map folded = t.map folded := by
  induction h with
  | nil => rfl
  | cons hhead _ ih =>
    rw [List.map_cons, List.map_cons, ih]
    rcases hhead with rfl | ⟨hc, hd⟩
    · rfl
    · rw [folded_of_separates hc, folded_of_separates hd]

theorem takeWhile_append_cons {p : Char → Bool} {c : Char} (hc : p c = false) (s t : List Char) :
    (s ++ c :: t).takeWhile p = s.takeWhile p := by
  rw [List.takeWhile_append]
  split
  · next hall => rw [List.takeWhile_cons_of_neg (by simp [hc]), List.append_nil,
      (List.takeWhile_prefix p).eq_of_length hall]
  · rfl

theorem isBlankChar_of_isTagMark {c : Char} (h : isTagMark c) : Text.isBlankChar c = false := by
  have hmark : c = '_' ∨ c = '-' ∨ c = '.' ∨ c = '@' := by simpa [isTagMark] using h
  rcases hmark with rfl | rfl | rfl | rfl <;> rfl

/-- What follows the name does not belong to it, unless the name ends with white space. -/
theorem nameOf_append_cons {s : List Char} (hs : ∀ c ∈ s.getLast?, Text.isBlankChar c = false) {c : Char}
    (hc : endsName c) (x : List Char) : nameOf (s ++ c :: x) = nameOf s := by
  have hblank : Text.isBlankChar c = false := isBlankChar_of_isTagMark (by rw [isTagMark_eq, hc, Bool.or_true])
  have hstart : Text.trimChars s = s.dropWhile Text.isBlankChar := by
    apply Text.trimEnd_of_last
    intro d hd
    obtain ⟨before, hbefore⟩ := List.dropWhile_suffix Text.isBlankChar (l := s)
    apply hs d
    rw [← hbefore, List.getLast?_append, hd]
    rfl
  rw [nameOf, Text.trimChars_append_cons hblank, takeWhile_append_cons (by simp [hc]), ← hstart, nameOf]

/-- A separator ends the language, and the country goes on up to the next mark. -/
theorem parseChars_append_cons {first : List Char} (hfirst : ∀ c ∈ first, isTagMark c = false) {c : Char}
    (hc : separates c) (rest : List Char) :
    parseChars (first ++ c :: rest) = ofParts first (rest.takeWhile fun d => !isTagMark d) := by
  let start := first.dropWhile Text.isBlankChar
  let next := (Text.trimEnd rest).takeWhile fun d => !endsName d
  have hplain : ∀ d ∈ start, separates d = false ∧ endsName d = false := by
    intro d hd
    have hmark := hfirst d ((List.dropWhile_suffix _).subset hd)
    rwa [isTagMark_eq, Bool.or_eq_false_iff] at hmark
  have hname : nameOf (first ++ c :: rest) = start ++ c :: next := by
    rw [nameOf, Text.trimChars_append_cons (isBlankChar_of_isTagMark (isTagMark_of_separates hc)),
      List.takeWhile_append_of_pos fun d hd => by simp [(hplain d hd).2],
      List.takeWhile_cons_of_pos (by simp [endsName_of_separates hc])]
  have hcountry : next.takeWhile (fun d => !separates d) =
      (Text.trimEnd rest).takeWhile fun d => !isTagMark d := by
    rw [List.takeWhile_takeWhile]
    congr 1
    funext d
    simp [isTagMark_eq]
  have hparts : firstTwoParts (start ++ c :: next) =
      (start, (Text.trimEnd rest).takeWhile fun d => !isTagMark d) := by
    rw [firstTwoParts, List.takeWhile_append_of_pos fun d hd => by simp [(hplain d hd).1],
      List.dropWhile_append_of_pos fun d hd => by simp [(hplain d hd).1],
      List.takeWhile_cons_of_neg (by simp [hc]), List.dropWhile_cons_of_neg (by simp [hc]), List.tail_cons,
      List.append_nil, hcountry]
  have hempty : (start ++ c :: next).isEmpty = false := by simp
  rw [parseChars_eq, hname, ofName, hempty, isUnlocalized_of_separates (by simp) hc, hparts]
  simp only [Bool.or_self, Bool.false_eq_true, if_false, ofParts, start, Text.trimChars_dropWhile,
    Text.trimChars_takeWhile_trimEnd]

/-- What comes before the first separator has no mark in it. -/
theorem exists_append_separator {s : List Char} (h : ∃ c ∈ s.takeWhile fun c => !endsName c, separates c) :
    ∃ first c rest, s = first ++ c :: rest ∧ separates c ∧ ∀ d ∈ first, isTagMark d = false := by
  have hfound : ((s.takeWhile fun c => !endsName c).find? separates).isSome := List.find?_isSome.2 h
  obtain ⟨c, hfirst⟩ := Option.isSome_iff_exists.1 hfound
  obtain ⟨hc, first, rest, hsplit, hplain⟩ := List.find?_eq_some_iff_append.1 hfirst
  refine ⟨first, c, rest ++ s.dropWhile fun c => !endsName c, ?_, hc, fun d hd => ?_⟩
  · rw [← List.cons_append, ← List.append_assoc, ← hsplit, List.takeWhile_append_dropWhile]
  · have hname : d ∈ s.takeWhile fun c => !endsName c := by simp [hsplit, hd]
    have hends := List.mem_takeWhile_imp hname
    have hseparates := hplain d hd
    rw [isTagMark_eq]
    simp_all

/-- Reading a locale does not depend on the case of ASCII letters, on which separator is used where, or on white
space around the text. What follows the name after a point or an at sign does not count, and nor does a third
part after a separator. -/
theorem parse_respelled (s : String) :
    parse s.toUpper = parse s ∧
    parse s.toLower = parse s ∧
    (∀ t : String, List.Forall₂ (fun c d => c = d ∨ separates c ∧ separates d) s.toList t.toList →
      parse t = parse s) ∧
    (∀ before after : String, (∀ c ∈ before.toList, Text.isBlankChar c) →
      (∀ c ∈ after.toList, Text.isBlankChar c) → parse (before ++ s ++ after) = parse s) ∧
    ((∀ c ∈ s.toList.getLast?, Text.isBlankChar c = false) →
      ∀ x : String, parse (s ++ "." ++ x) = parse s ∧ parse (s ++ "@" ++ x) = parse s) ∧
    ((∃ c ∈ s.toList.takeWhile fun c => !endsName c, separates c) →
      ∀ x : String, parse (s ++ "_" ++ x) = parse s) := by
  refine ⟨?_, ?_, fun t ht => ?_, fun before after hbefore hafter => ?_, fun hs x => ?_, fun hs x => ?_⟩
  · apply parseChars_congr
    rw [String.toUpper, String.toList_map, List.map_map]
    exact List.map_congr_left fun c _ => folded_toUpper c
  · apply parseChars_congr
    rw [String.toLower, String.toList_map, List.map_map]
    exact List.map_congr_left fun c _ => folded_toLower c
  · exact parseChars_congr (map_folded_of_forall₂ ht).symm
  · rw [parse, parse, String.toList_append, String.toList_append, parseChars_eq, nameOf,
      Text.trimChars_append_blank hafter, Text.trimChars_blank_append hbefore, ← nameOf, ← parseChars_eq]
  · have hname {c : Char} (hc : endsName c) : parseChars (s.toList ++ c :: x.toList) = parseChars s.toList := by
      rw [parseChars_eq, nameOf_append_cons hs hc, ← parseChars_eq]
    constructor <;> rw [parse, String.append_assoc, String.toList_append, String.toList_append]
    · exact hname rfl
    · exact hname rfl
  · obtain ⟨first, c, rest, hsplit, hc, hfirst⟩ := exists_append_separator hs
    have hthird : (s ++ "_" ++ x).toList = first ++ c :: (rest ++ '_' :: x.toList) := by
      simp [String.toList_append, hsplit]
    rw [parse, parse, hthird, hsplit, parseChars_append_cons hfirst hc, parseChars_append_cons hfirst hc,
      takeWhile_append_cons rfl]

/-- One tag in the ways in which systems and people write it. -/
theorem parse_respelled_portuguese :
    parse "pt_br" = ⟨"pt", "BR"⟩ ∧ parse "pt-br" = parse "pt_br" ∧
      parse ("\t " ++ "pt_br" ++ "\u3000") = parse "pt_br" ∧
      parse ("pt_br" ++ "." ++ " utf-8") = parse "pt_br" ∧ parse ("pt_br" ++ "@" ++ "x") = parse "pt_br" ∧
      parse ("pt_br" ++ "_" ++ "x.y") = parse "pt_br" := by
  obtain ⟨-, -, hseparator, hblank, hname, hthird⟩ := parse_respelled "pt_br"
  have hbefore : ∀ c ∈ "\t ".toList, Text.isBlankChar c := List.all_eq_true.1 (by decide)
  have hafter : ∀ c ∈ "\u3000".toList, Text.isBlankChar c := List.all_eq_true.1 (by decide)
  have hlast : ∀ c ∈ "pt_br".toList.getLast?, Text.isBlankChar c = false := by
    rintro c ⟨⟩
    decide
  refine ⟨by decide, hseparator "pt-br" ?_, hblank _ _ hbefore hafter, (hname hlast " utf-8").1,
    (hname hlast "x").2, hthird ⟨'_', ?_, rfl⟩ "x.y"⟩
  · exact .cons (.inl rfl) (.cons (.inl rfl) (.cons (.inr ⟨rfl, rfl⟩) (.cons (.inl rfl) (.cons (.inl rfl) .nil))))
  · exact List.contains_iff_mem.1 (by decide)

end ObjectValidation.Locale
