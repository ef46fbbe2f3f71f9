import ObjectValidation.Bundle.Resolution
import ObjectValidation.Proofs.Text.Trimming
import Mathlib

/-!
What a locale adds to the name of a file. Locales are made without any check, but a file is looked for only
under a language of two or three lower-case letters and a country of two upper-case letters or three digits,
so nothing else of a locale comes into the name.
-/

namespace ObjectValidation

/-- Two or three lower-case ASCII letters. -/
def IsLanguageCode (s : List Char) : Prop := (s.length = 2 ∨ s.length = 3) ∧ ∀ c ∈ s, c.isLower

/-- Two upper-case ASCII letters, or three ASCII digits. -/
def IsCountryCode (s : List Char) : Prop :=
  (s.length = 2 ∧ ∀ c ∈ s, c.isUpper) ∨ (s.length = 3 ∧ ∀ c ∈ s, c.isDigit)

/-- What may follow the base in the name of a file. -/
inductive LocaleSuffix : List Char → Prop
  | none : LocaleSuffix []
  | language {language : List Char} (hl : IsLanguageCode language) : LocaleSuffix ('_' :: language)
  | country {language country : List Char} (hl : IsLanguageCode language) (hc : IsCountryCode country) :
      LocaleSuffix ('_' :: language ++ '_' :: country)

theorem IsLanguageCode.isEmpty_eq {s : String} (h : IsLanguageCode s.toList) : s.isEmpty = false := by
  rw [← Bool.not_eq_true, String.isEmpty_iff]
  rintro rfl
  rcases h.1 with hlength | hlength <;> cases hlength

theorem IsCountryCode.isEmpty_eq {s : String} (h : IsCountryCode s.toList) : s.isEmpty = false := by
  rw [← Bool.not_eq_true, String.isEmpty_iff]
  rintro rfl
  rcases h with ⟨hlength, -⟩ | ⟨hlength, -⟩ <;> cases hlength

theorem IsLanguageCode.isAlphanum {s : List Char} (h : IsLanguageCode s) : ∀ c ∈ s, c.isAlphanum := by
  intro c hc
  simp [Char.isAlphanum, Char.isAlpha, h.2 c hc]

theorem IsCountryCode.isAlphanum {s : List Char} (h : IsCountryCode s) : ∀ c ∈ s, c.isAlphanum := by
  intro c hc
  rcases h with h | h <;> simp [Char.isAlphanum, Char.isAlpha, h.2 c hc]

/-- No slash, no dot, and nothing else that has a meaning in paths. -/
theorem LocaleSuffix.plain {s : List Char} (h : LocaleSuffix s) : ∀ c ∈ s, c = '_' ∨ c.isAlphanum := by
  cases h with
  | none => simp
  | language hl =>
    intro c hc
    rcases List.mem_cons.1 hc with hc | hc
    · exact .inl hc
    · exact .inr (hl.isAlphanum c hc)
  | country hl hcountry =>
    intro c hc
    rcases List.mem_append.1 hc with hc | hc <;> rcases List.mem_cons.1 hc with hc | hc
    · exact .inl hc
    · exact .inr (hl.isAlphanum c hc)
    · exact .inl hc
    · exact .inr (hcountry.isAlphanum c hc)

namespace Text

theorem isBlankChar_of_isAlpha {c : Char} (h : c.isAlpha) : isBlankChar c = false := by
  have hrange : 65 ≤ c.toNat ∧ c.toNat ≤ 90 ∨ 97 ≤ c.toNat ∧ c.toNat ≤ 122 := by
    simpa [Char.isAlpha, Char.isUpper, Char.isLower, UInt32.le_iff_toNat_le] using h
  simp only [isBlankChar, inRanges, blankRanges, List.any_cons, List.any_nil, Bool.or_false,
    Bool.or_eq_false_iff, Bool.and_eq_false_iff, decide_eq_false_iff_not]
  omega

theorem map_toLower_eq_self {s : List Char} (h : ∀ c ∈ s, ¬ c.isUpper) : s.map Char.toLower = s :=
  (List.map_congr_left fun c hc => Char.toLower_eq_of_not_isUpper (h c hc)).trans (List.map_id s)

end Text

namespace Locale

/-- The locales there are: the root, those made from a language and a country or from a language alone, and
those read from a tag, as documents have it. -/
inductive Constructed : Locale → Prop
  | root : Constructed .root
  | new (language country : String) : Constructed (.new language country)
  | languageOnly (language : String) : Constructed (.languageOnly language)
  | parse (tag : String) : Constructed (.parse tag)

theorem Constructed.exists_ofParts {l : Locale} (h : l.Constructed) :
    ∃ language country, l = ofParts language country := by
  cases h with
  | root => exact ⟨[], [], rfl⟩
  | new language country => exact ⟨language.toList, country.toList, rfl⟩
  | languageOnly language => exact ⟨language.toList, [], rfl⟩
  | parse tag =>
    unfold Locale.parse parseChars
    dsimp only
    split
    · exact ⟨[], [], rfl⟩
    · exact ⟨_, _, rfl⟩

theorem Constructed.isLanguageCode {l : Locale} (h : l.Constructed) (hvalid : l.hasValidLanguage) :
    IsLanguageCode l.language.toList := by
  obtain ⟨language, country, rfl⟩ := h.exists_ofParts
  simp only [hasValidLanguage, Bool.and_eq_true, Bool.or_eq_true, beq_iff_eq, List.all_eq_true] at hvalid
  refine ⟨hvalid.1, fun c hc => ?_⟩
  have halpha := hvalid.2 c hc
  simp only [ofParts, String.toList_ofList] at hc
  obtain ⟨d, -, rfl⟩ := List.mem_map.1 hc
  rwa [Char.isLower_toLower_eq_isAlpha, ← Char.isAlpha_toLower_eq_isAlpha]

theorem Constructed.isCountryCode {l : Locale} (h : l.Constructed) (hvalid : l.hasValidCountry) :
    IsCountryCode l.country.toList := by
  obtain ⟨language, country, rfl⟩ := h.exists_ofParts
  simp only [hasValidCountry, Bool.and_eq_true, Bool.or_eq_true, beq_iff_eq, List.all_eq_true] at hvalid
  rcases hvalid with ⟨hlength, hletters⟩ | hdigits
  · refine .inl ⟨hlength, fun c hc => ?_⟩
    have halpha := hletters c hc
    simp only [ofParts, String.toList_ofList] at hc
    obtain ⟨d, -, rfl⟩ := List.mem_map.1 hc
    rwa [Char.isUpper_toUpper_eq_isAlpha, ← Char.isAlpha_toUpper_eq_isAlpha]
  · exact .inr hdigits

/-- The locales under which files are looked for. -/
inductive OfFile : Locale → Prop
  | root : OfFile .root
  | language {language : String} (hl : IsLanguageCode language.toList) : OfFile ⟨language, ""⟩
  | country {language country : String} (hl : IsLanguageCode language.toList)
      (hc : IsCountryCode country.toList) : OfFile ⟨language, country⟩

theorem withoutCountry_eq {l : Locale} (h : IsLanguageCode l.language.toList) :
    l.withoutCountry = ⟨l.language, ""⟩ := by
  have hlower : l.language.toList.map Char.toLower = l.language.toList :=
    Text.map_toLower_eq_self fun c hc => Char.not_isUpper_of_isLower (h.2 c hc)
  have htrimmed : Text.Trimmed l.language.toList :=
    Text.trimmed_of_forall fun c hc => Text.isBlankChar_of_isAlpha (by simp [Char.isAlpha, h.2 c hc])
  unfold withoutCountry languageOnly new ofParts
  rw [htrimmed.trimChars_eq, hlower, String.ofList_toList]
  rfl

theorem OfFile.parents {l : Locale} (h : l.OfFile) : ∀ p ∈ l.parents, p.OfFile := by
  intro p hp
  have hor : p = l.withoutCountry ∧ l.country ≠ "" ∨ p = .root := by
    unfold Locale.parents at hp
    split at hp
    · next hcountry =>
      rcases List.mem_cons.1 hp with hp | hp
      · exact .inl ⟨hp, by simpa using hcountry⟩
      · exact .inr (List.mem_singleton.1 hp)
    · split at hp
      · exact .inr (List.mem_singleton.1 hp)
      · cases hp
  rcases hor with ⟨rfl, hcountry⟩ | rfl
  · cases h with
    | root => exact absurd rfl hcountry
    | language hl => exact absurd rfl hcountry
    | country hl hc =>
      rw [withoutCountry_eq hl]
      exact .language hl
  · exact .root

theorem OfFile.exists_suffix {l : Locale} (h : l.OfFile) :
    ∃ suffix, LocaleSuffix suffix ∧ ∀ base, bundleName base l = base ++ String.ofList suffix := by
  cases h with
  | root =>
    refine ⟨[], .none, fun base => ?_⟩
    have hroot : Locale.root.isRoot = true := rfl
    apply String.toList_inj.1
    simp [bundleName, hroot]
  | @language language hl =>
    refine ⟨'_' :: language.toList, .language hl, fun base => ?_⟩
    apply String.toList_inj.1
    simp [bundleName, isRoot, tag, hl.isEmpty_eq]
  | @country language country hl hc =>
    refine ⟨'_' :: language.toList ++ '_' :: country.toList, .country hl hc, fun base => ?_⟩
    apply String.toList_inj.1
    simp [bundleName, isRoot, tag, hl.isEmpty_eq, hc.isEmpty_eq]

theorem Constructed.ofFile_usable {l l' : Locale} (h : l.Constructed) (hl : l' ∈ l.usable?.toList) :
    l'.OfFile := by
  unfold usable? at hl
  split at hl
  · next hvalid =>
    rw [Bool.and_eq_true] at hvalid
    obtain rfl : l' = l := by simpa using hl
    exact .country (h.isLanguageCode hvalid.1) (h.isCountryCode hvalid.2)
  · cases hl

theorem Constructed.ofFile_language {l l' : Locale} (h : l.Constructed) (hl : l' ∈ l.language?.toList) :
    l'.OfFile := by
  unfold language? at hl
  split at hl
  · next hvalid =>
    have hcode := h.isLanguageCode hvalid
    obtain rfl : l' = l.withoutCountry := by simpa using hl
    rw [withoutCountry_eq hcode]
    exact .language hcode
  · cases hl

end Locale

/-- Every candidate is a file of one of the two bases, under a locale of proper form. -/
theorem BundleRequest.ofFile_candidate {q : BundleRequest} (hlocale : q.locale.Constructed)
    (hdefault : q.defaultLocale.Constructed) {c : Candidate} (hc : c ∈ q.candidates) :
    (c.baseName = q.baseName ∨ c.baseName = q.fallbackBaseName) ∧ c.locale.OfFile := by
  obtain ⟨step, -, hstep⟩ := List.mem_flatMap.1 hc
  obtain ⟨locale, hmem, rfl⟩ := List.mem_map.1 hstep
  constructor
  · unfold base
    split
    · exact .inr rfl
    · exact .inl rfl
  · have hdefaults {l : Locale} (hl : l ∈ q.defaultLocale.usable?.toList ++
        q.defaultLocale.language?.toList ++ [.root]) : l.OfFile := by
      rcases List.mem_append.1 hl with hl | hl
      · rcases List.mem_append.1 hl with hl | hl
        · exact hdefault.ofFile_usable hl
        · exact hdefault.ofFile_language hl
      · exact List.mem_singleton.1 hl ▸ .root
    cases step with
    | exactLocale => exact hlocale.ofFile_usable hmem
    | fallbackExactLocale => exact hlocale.ofFile_usable hmem
    | language => exact hlocale.ofFile_language hmem
    | fallbackLanguage => exact hlocale.ofFile_language hmem
    | defaultLocale => exact hdefaults hmem
    | fallbackDefaultLocale => exact hdefaults hmem

end ObjectValidation
