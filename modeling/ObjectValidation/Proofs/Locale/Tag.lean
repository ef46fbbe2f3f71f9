import ObjectValidation.Proofs.Json.Text
import ObjectValidation.Proofs.Locale.FileName

/-!
Tags of locales. What is read from a tag has parts that are read as they stand, so its own tag gives it back; only
a language that is called like having no locale is lost when no country follows.
-/

namespace ObjectValidation

/-- Tells characters apart without regard to the case of letters. -/
theorem apply_toLower {p : Char → Bool} (hp : ∀ c : Char, c.isAlpha → p c = false) (c : Char) :
    p c.toLower = p c := by
  by_cases h : c.isAlpha
  · rw [hp c h, hp c.toLower (by rwa [Char.isAlpha_toLower_eq_isAlpha])]
  · rw [Char.toLower_eq_of_not_isUpper]
    intro hupper
    exact h (by simp [Char.isAlpha, hupper])

theorem apply_toUpper {p : Char → Bool} (hp : ∀ c : Char, c.isAlpha → p c = false) (c : Char) :
    p c.toUpper = p c := by
  by_cases h : c.isAlpha
  · rw [hp c h, hp c.toUpper (by rwa [Char.isAlpha_toUpper_eq_isAlpha])]
  · rw [Char.toUpper_eq_of_not_isLower]
    intro hlower
    exact h (by simp [Char.isAlpha, hlower])

namespace Locale

/-- The characters that have a meaning in tags. -/
def isTagMark (c : Char) : Bool := ['_', '-', '.', '@'].contains c

theorem isTagMark_of_isAlpha {c : Char} (h : c.isAlpha) : isTagMark c = false := by
  rw [← Bool.not_eq_true]
  intro hmark
  simp only [isTagMark, List.contains_eq_mem, decide_eq_true_eq, List.mem_cons, List.not_mem_nil, or_false] at hmark
  rcases hmark with rfl | rfl | rfl | rfl <;> cases h

theorem isTagMark_eq (c : Char) : isTagMark c = (separates c || endsName c) := by
  simp only [isTagMark, List.contains_cons, List.contains_nil, Bool.or_false, separates, endsName, Bool.or_assoc]

/-- A part of a tag that is read as it stands, but for the case of its letters. -/
structure IsPart (s : List Char) : Prop where
  trimmed : Text.Trimmed s
  isTagMark_eq : ∀ c ∈ s, isTagMark c = false

theorem isPart_nil : IsPart [] := ⟨Text.trimmed_nil, by simp⟩

theorem isPart_trimChars {s : List Char} (h : ∀ c ∈ s, isTagMark c = false) : IsPart (Text.trimChars s) :=
  ⟨Text.trimmed_trimChars s, fun c hc => h c (Text.mem_of_mem_trimChars hc)⟩

theorem IsPart.map {s : List Char} (h : IsPart s) {f : Char → Char}
    (hf : ∀ p : Char → Bool, (∀ c : Char, c.isAlpha → p c = false) → ∀ c, p (f c) = p c) : IsPart (s.map f) where
  trimmed := h.trimmed.map (hf Text.isBlankChar fun _ => Text.isBlankChar_of_isAlpha)
  isTagMark_eq := by
    intro c hc
    obtain ⟨d, hd, rfl⟩ := List.mem_map.1 hc
    rw [hf isTagMark (fun _ => isTagMark_of_isAlpha), h.isTagMark_eq d hd]

/-- Locales that are read from tags: both parts can stand in a tag, the language has no capital letters and the
country has no small ones. -/
structure IsRead (l : Locale) : Prop where
  language : IsPart l.language.toList
  country : IsPart l.country.toList
  isUpper_language : ∀ c ∈ l.language.toList, c.isUpper = false
  isLower_country : ∀ c ∈ l.country.toList, c.isLower = false

theorem isRead_root : root.IsRead := ⟨isPart_nil, isPart_nil, by simp [root], by simp [root]⟩

theorem isRead_ofParts {language country : List Char} (hlanguage : ∀ c ∈ language, isTagMark c = false)
    (hcountry : ∀ c ∈ country, isTagMark c = false) : (ofParts language country).IsRead where
  language := by
    rw [ofParts, String.toList_ofList]
    exact (isPart_trimChars hlanguage).map fun _ hp => apply_toLower hp
  country := by
    rw [ofParts, String.toList_ofList]
    exact (isPart_trimChars hcountry).map fun _ hp => apply_toUpper hp
  isUpper_language := by
    intro c hc
    rw [ofParts, String.toList_ofList] at hc
    obtain ⟨d, -, rfl⟩ := List.mem_map.1 hc
    exact Char.isUpper_toLower_eq_false d
  isLower_country := by
    intro c hc
    rw [ofParts, String.toList_ofList] at hc
    obtain ⟨d, -, rfl⟩ := List.mem_map.1 hc
    exact Char.isLower_toUpper_eq_false d

theorem isRead_parse (tag : String) : (parse tag).IsRead := by
  unfold parse parseChars
  dsimp only
  split
  · exact isRead_root
  · have hname : ∀ c ∈ (Text.trimChars tag.toList).takeWhile fun c => !endsName c, endsName c = false := by
      intro c hc
      simpa using List.mem_takeWhile_imp hc
    have hpart {s : List Char} (hs : ∀ c ∈ s, endsName c = false) :
        ∀ c ∈ s.takeWhile fun c => !separates c, isTagMark c = false := by
      intro c hc
      have hseparates := List.mem_takeWhile_imp hc
      rw [isTagMark_eq, hs c ((List.takeWhile_prefix _).subset hc)]
      simpa using hseparates
    apply isRead_ofParts (hpart hname)
    apply hpart
    intro c hc
    apply hname c
    exact (List.dropWhile_suffix _).subset (List.mem_of_mem_tail hc)

section

variable {l : Locale}

theorem IsRead.map_toLower_language (h : l.IsRead) : l.language.toList.map Char.toLower = l.language.toList :=
  Text.map_toLower_eq_self fun c hc => by simp [h.isUpper_language c hc]

/-- A locale that was read is made again from its parts. -/
theorem IsRead.ofParts_eq (h : l.IsRead) : ofParts l.language.toList l.country.toList = l := by
  have hupper : l.country.toList.map Char.toUpper = l.country.toList :=
    (List.map_congr_left fun c hc => Char.toUpper_eq_of_not_isLower (by simp [h.isLower_country c hc])).trans
      (List.map_id _)
  rw [ofParts, h.language.trimmed.trimChars_eq, h.country.trimmed.trimChars_eq,
    h.map_toLower_language, hupper, String.ofList_toList, String.ofList_toList]

theorem IsPart.separates_eq {s : List Char} (h : IsPart s) : ∀ c ∈ s, (!separates c) = true := by
  intro c hc
  have hmark := h.isTagMark_eq c hc
  rw [Locale.isTagMark_eq, Bool.or_eq_false_iff] at hmark
  rw [hmark.1]
  rfl

theorem IsPart.endsName_eq {s : List Char} (h : IsPart s) : ∀ c ∈ s, endsName c = false := by
  intro c hc
  have hmark := h.isTagMark_eq c hc
  rw [Locale.isTagMark_eq, Bool.or_eq_false_iff] at hmark
  exact hmark.2

theorem toList_tag (l : Locale) :
    l.tag.toList = if l.country = "" then l.language.toList else l.language.toList ++ '_' :: l.country.toList := by
  rw [tag]
  by_cases h : l.country = ""
  · simp [h]
  · simp [h, String.isEmpty_iff]

/-- The tag has white space neither before nor after it. -/
theorem IsRead.trimmed_tag (h : l.IsRead) : Text.Trimmed l.tag.toList := by
  rw [toList_tag]
  split
  · exact h.language.trimmed
  · next hcountry =>
    refine h.language.trimmed.append_cons h.country.trimmed ?_ (by decide)
    rwa [ne_eq, String.toList_eq_nil_iff]

theorem IsRead.endsName_tag (h : l.IsRead) : ∀ c ∈ l.tag.toList, (!endsName c) = true := by
  intro c hc
  rw [toList_tag] at hc
  split at hc
  · simp [h.language.endsName_eq c hc]
  · rcases List.mem_append.1 hc with hc | hc
    · simp [h.language.endsName_eq c hc]
    · rcases List.mem_cons.1 hc with rfl | hc
      · rfl
      · simp [h.country.endsName_eq c hc]

theorem firstTwoParts_of_isPart {s : List Char} (hs : IsPart s) : firstTwoParts s = (s, []) := by
  rw [firstTwoParts, List.takeWhile_eq_self_iff.2 hs.separates_eq, List.dropWhile_eq_nil_iff.2 hs.separates_eq]
  rfl

theorem firstTwoParts_append {s t : List Char} (hs : IsPart s) (ht : IsPart t) :
    firstTwoParts (s ++ '_' :: t) = (s, t) := by
  have hfirst : ('_' :: t).takeWhile (fun c => !separates c) = [] := rfl
  have htail : ('_' :: t).dropWhile (fun c => !separates c) = '_' :: t := rfl
  rw [firstTwoParts, List.takeWhile_append_of_pos hs.separates_eq, List.dropWhile_append_of_pos hs.separates_eq,
    hfirst, htail, List.append_nil, List.tail_cons, List.takeWhile_eq_self_iff.2 ht.separates_eq]

/-- The parts of the tag are those of the locale. -/
theorem IsRead.firstTwoParts_tag (h : l.IsRead) :
    firstTwoParts l.tag.toList = (l.language.toList, l.country.toList) := by
  rw [toList_tag]
  split
  · next hcountry => rw [firstTwoParts_of_isPart h.language, hcountry, String.toList_empty]
  · exact firstTwoParts_append h.language h.country

/-- A tag names its locale. -/
theorem IsRead.tag_inj {l' : Locale} (h : l.IsRead) (h' : l'.IsRead) : l.tag = l'.tag ↔ l = l' := by
  refine ⟨fun htag => ?_, congrArg tag⟩
  have hparts := h.firstTwoParts_tag
  rw [htag, h'.firstTwoParts_tag] at hparts
  obtain ⟨hlanguage, hcountry⟩ := Prod.mk.inj hparts
  rw [← h.ofParts_eq, ← h'.ofParts_eq, hlanguage, hcountry]

/-- The language is called like having no locale, and no country says otherwise. -/
def Unlocalized (l : Locale) : Prop := l.country = "" ∧ (l.language = "c" ∨ l.language = "posix")

instance (l : Locale) : Decidable l.Unlocalized := inferInstanceAs (Decidable (_ ∧ _))

theorem IsRead.isUnlocalized_tag (h : l.IsRead) : isUnlocalized l.tag.toList = true ↔ l.Unlocalized := by
  rw [isUnlocalized, toList_tag, Unlocalized]
  by_cases hcountry : l.country = ""
  · rw [if_pos hcountry, h.map_toLower_language]
    simp [hcountry, ← String.toList_inj]
  · have hseparator : '_' ∈ (l.language.toList ++ '_' :: l.country.toList).map Char.toLower :=
      List.mem_map.2 ⟨'_', by simp, rfl⟩
    rw [if_neg hcountry]
    simp only [Bool.or_eq_true, beq_iff_eq, hcountry, false_and, iff_false, not_or]
    constructor
    · intro hname
      rw [hname] at hseparator
      exact absurd hseparator (by decide)
    · intro hname
      rw [hname] at hseparator
      exact absurd hseparator (by decide)

/-- The tag of a locale is read as that locale, unless it is one of the names of having none. -/
theorem IsRead.parse_tag (h : l.IsRead) : parse l.tag = if l.Unlocalized then root else l := by
  have hname : (Text.trimChars l.tag.toList).takeWhile (fun c => !endsName c) = l.tag.toList := by
    rw [h.trimmed_tag.trimChars_eq, List.takeWhile_eq_self_iff.2 h.endsName_tag]
  rw [parse, parseChars]
  simp only [hname, h.firstTwoParts_tag, h.ofParts_eq, Bool.or_eq_true, h.isUnlocalized_tag, List.isEmpty_iff,
    String.toList_eq_nil_iff]
  by_cases hempty : l.tag = ""
  · obtain rfl : l = root := (h.tag_inj isRead_root).1 hempty
    rw [ite_self, ite_self]
  · simp only [hempty, false_or]

end

/-- The document of a locale is the text of its tag. -/
def document (l : Locale) : String := (Json.of l.tag).render

def ofDocument? (text : String) : Option Locale := (Json.Reader.document Json.Reader.string text).map parse

theorem ofDocument?_document (l : Locale) : ofDocument? l.document = some (parse l.tag) := by
  rw [ofDocument?, document]
  exact congrArg (Option.map parse) (Json.document_stringText l.tag)

/-- Whatever text a locale is read from, its parts can stand in a tag. Reading its tag gives the locale back,
and so does reading its document, except where it has no country and its language is one of the two names of
having no locale; such a locale comes back as the root. Different locales have different tags. -/
theorem parse_tag_parse (s : String) :
    (parse s).IsRead ∧
    (parse (parse s).tag = parse s ↔ ¬ (parse s).Unlocalized) ∧
    ((parse s).Unlocalized → parse (parse s).tag = root) ∧
    (¬ (parse s).Unlocalized → ofDocument? (parse s).document = some (parse s)) ∧
    (∀ s' : String, (parse s).tag = (parse s').tag ↔ parse s = parse s') ∧
    parse "C_" = ⟨"c", ""⟩ ∧ parse " posix-.utf8" = ⟨"posix", ""⟩ := by
  have hread := isRead_parse s
  have htag := hread.parse_tag
  refine ⟨hread, ⟨fun hsame hunlocalized => ?_, fun hlocalized => ?_⟩, fun hunlocalized => ?_, fun hlocalized => ?_,
    fun s' => hread.tag_inj (isRead_parse s'), by decide, by decide⟩
  · rw [if_pos hunlocalized, hsame] at htag
    rw [htag] at hunlocalized
    exact absurd hunlocalized (by decide)
  · rw [htag, if_neg hlocalized]
  · rw [htag, if_pos hunlocalized]
  · rw [ofDocument?_document, htag, if_neg hlocalized]

theorem parse_tag_parse_catalan :
    ¬ (parse " CA-es.UTF-8@valencia").Unlocalized ∧
    ofDocument? (parse " CA-es.UTF-8@valencia").document = some ⟨"ca", "ES"⟩ ∧
    (parse "Posix_@x").Unlocalized ∧ parse (parse "Posix_@x").tag = root := by
  have hlocalized : ¬ (parse " CA-es.UTF-8@valencia").Unlocalized := by decide
  have hunlocalized : (parse "Posix_@x").Unlocalized := by decide
  exact ⟨hlocalized, (parse_tag_parse _).2.2.2.1 hlocalized, hunlocalized, (parse_tag_parse _).2.2.1 hunlocalized⟩

end Locale

end ObjectValidation
