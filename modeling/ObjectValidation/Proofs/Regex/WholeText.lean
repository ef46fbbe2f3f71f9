import ObjectValidation.Check.Pattern
import ObjectValidation.Proofs.Regex.Reading.Group
import ObjectValidation.Proofs.Regex.Search
import ObjectValidation.Regex.Pattern
import ObjectValidation.Validation.Property

/-!
The check of whole texts. A text passes if the expression can match all of it, and only then, as long as the library
of regular expressions accepts the source between the two ends of a text. Of the sources read here it does not
accept those that end in a comment, which takes the closing parenthesis with it, and those nested so deep that the
group around them is one too many.
-/

namespace ObjectValidation

namespace RegexEngine

/-- What is relied on of a library of regular expressions: the search finds a match if there is one, and an
anchored source stands for the start of a text, a group and the end of a text, one after the other. `Matches r text i j`
says that the expression can match what stands in the text between two places. -/
structure Lawful (e : RegexEngine) (Matches : e.Compiled → String → Nat → Nat → Prop) : Prop where
  source_compile {s : String} {r : e.Compiled} : e.compile s = some r → e.source r = s
  matches_of_find {r : e.Compiled} {text : String} {i j : Nat} : e.find r text = some (i, j) → Matches r text i j
  not_matches_of_find {r : e.Compiled} {text : String} (i j : Nat) : e.find r text = none → ¬ Matches r text i j
  isMatch_iff (r : e.Compiled) (text : String) : e.isMatch r text = true ↔ ∃ i j, Matches r text i j
  matches_anchored {s : String} {r whole : e.Compiled} (text : String) (i l : Nat) :
    e.compile s = some r → e.compile (anchored s) = some whole →
      (Matches whole text i l ↔
        ∃ j k, (i = 0 ∧ j = i) ∧ Matches r text j k ∧ k = text.length ∧ l = k)

variable {e : RegexEngine} {Matches : e.Compiled → String → Nat → Nat → Prop} {source : String}
  {r whole : e.Compiled}

/-- The anchored source matches somewhere in a text exactly if the expression can match all of the text. -/
theorem Lawful.isMatch_anchored (h : e.Lawful Matches) (hr : e.compile source = some r)
    (hwhole : e.compile (anchored source) = some whole) (text : String) :
    e.isMatch whole text = true ↔ Matches r text 0 text.length := by
  rw [h.isMatch_iff]
  simp only [h.matches_anchored text _ _ hr hwhole]
  constructor
  · rintro ⟨_, _, _, _, ⟨rfl, rfl⟩, hmatches, rfl, -⟩
    exact hmatches
  · intro hmatches
    exact ⟨0, text.length, 0, text.length, ⟨rfl, rfl⟩, hmatches, rfl, rfl⟩

theorem Lawful.matchesWhole_iff (h : e.Lawful Matches) (hr : e.compile source = some r) (text : String) :
    e.matchesWhole r text = true ↔ Matches r text 0 text.length ∧
      (e.find r text = some (0, text.length) ∨ (e.compile (anchored source)).isSome) := by
  rw [matchesWhole, h.source_compile hr]
  rcases hfind : e.find r text with _ | ⟨i, j⟩
  · simp [h.not_matches_of_find 0 text.length hfind]
  · by_cases hcovers : i = 0 ∧ j = text.length
    · obtain ⟨rfl, rfl⟩ := hcovers
      simp [h.matches_of_find hfind]
    · cases hwhole : e.compile (anchored source) with
      | none => simp [hcovers]
      | some whole => simp [hcovers, h.isMatch_anchored hr hwhole]

/-- Whether a violation is recorded is told by whether the whole of the text matches. -/
theorem fits_recorded_iff (e : RegexEngine) (r : e.Compiled) (path text : String) :
    (((⟨path, some text⟩ : Property String).check (Check.fits e r) : Recording Id Unit).run ∅).run.2 = ∅ ↔
      e.matchesWhole r text = true := by
  cases hmatches : e.matchesWhole r text with
  | true => simp [Property.check, Check.fits, Check.ofPresent, hmatches]
  | false =>
    have hrecorded (v : Violation) : (∅ : ViolationSet).insert v ≠ ∅ :=
      fun hempty => List.cons_ne_nil v [] (congrArg ViolationSet.toList hempty)
    simp [Property.check, Check.fits, Check.ofPresent, hmatches, Property.record, hrecorded]

/-- A present text passes the check of an expression exactly if the expression can match all of it and either the
match that is found first does so or the library accepts the anchored source. -/
theorem records_nothing_iff (h : e.Lawful Matches) (hr : e.compile source = some r) (path text : String) :
    (((⟨path, some text⟩ : Property String).check (Check.fits e r) : Recording Id Unit).run ∅).run.2 = ∅ ↔
      Matches r text 0 text.length ∧
        (e.find r text = some (0, text.length) ∨ (e.compile (anchored source)).isSome) :=
  (fits_recorded_iff e r path text).trans (h.matchesWhole_iff hr text)

end RegexEngine

namespace Regex

/-- The expression between the two ends of a text. -/
def between (a : Regex) : Regex :=
  ofBranches [ofParts ([anchor .textStart, a, anchor .textEnd].flatMap parts)]

theorem between_eq (a : Regex) :
    a.between = seq (anchor .textStart) (ofParts (a.parts ++ [anchor .textEnd])) := by
  cases hparts : a.parts ++ [anchor .textEnd] with
  | nil => simp at hparts
  | cons b rest => simp [between, parts, hparts, ofParts, ofBranches, branches, sharedParts, alternatives]

theorem matches_between {text : Array Char} {a : Regex} {i j : Nat} :
    a.between.Matches text i j ↔ i = 0 ∧ j = text.size ∧ a.Matches text 0 text.size := by
  simp only [between_eq, Matches, matches_ofParts_append, matches_ofParts_parts, ofParts, Anchor.holds, beq_iff_eq]
  constructor
  · rintro ⟨_, ⟨rfl, rfl⟩, _, ha, rfl, rfl⟩
    exact ⟨rfl, rfl, ha⟩
  · rintro ⟨rfl, rfl, ha⟩
    exact ⟨0, ⟨rfl, rfl⟩, text.size, ha, rfl, rfl⟩

theorem size_toArray (text : String) : text.toList.toArray.size = text.length := by
  rw [List.size_toArray, String.length_toList]

/-- Between the two ends of a text an expression has a match exactly if it can match all of the text. -/
theorem isMatch_between (a : Regex) (text : String) :
    a.between.isMatch text.toList.toArray = true ↔ a.Covers text := by
  rw [isMatch_iff, Covers]
  simp only [matches_between, size_toArray]
  constructor
  · rintro ⟨_, _, -, rfl, rfl, hcovers⟩
    exact hcovers
  · intro hcovers
    exact ⟨0, text.length, Nat.zero_le _, rfl, rfl, hcovers⟩

instance (a : Regex) (text : String) : Decidable (a.Covers text) :=
  decidable_of_iff _ (a.isMatch_between text)

/-- How deep the forms of a pattern are nested. -/
def nesting (s : List Char) : Nat :=
  match readGroup (s.length + 1) {} [] [] s with
  | some (a, _) => a.depth
  | none => 0

theorem closes_whole : Closes [')', '\\', 'z'] := ⟨rfl, by decide, by decide⟩

/-- Between the two ends of a text comes what is read up to a closing parenthesis. -/
theorem readGroup_between (fuel : Nat) (s : List Char) :
    readGroup (fuel + 2) {} [] [] ('\\' :: 'A' :: '(' :: '?' :: ':' :: s) =
      match readGroup fuel {} [] [] s with
      | some (a, ')' :: after) =>
        readGroup fuel {} [] [.regex ⟨a.val, a.depth + 1⟩, leaf (anchor .textStart)] after
      | _ => none := by
  have hopening : opening {} ('?' :: ':' :: s) = some (.group false {} s) := rfl
  have hescape : escape ('A' :: '(' :: '?' :: ':' :: s) = some (.anchor .textStart, '(' :: '?' :: ':' :: s) := rfl
  have hspace (c : Char) (s : List Char) : skipSpace {} (c :: s) = c :: s := rfl
  simp only [readGroup, hspace, hescape, hopening, Option.bind_eq_bind, Option.bind_some]
  cases readGroup fuel {} [] [] s with
  | none => rfl
  | some found =>
    obtain ⟨a, _ | ⟨c, after⟩⟩ := found
    · rfl
    · by_cases hc : c = ')'
      · subst hc
        rfl
      · simp [hc]

theorem readGroup_textEnd (fuel : Nat) (a : Nested Regex) :
    readGroup (fuel + 2) {} [] [.regex ⟨a.val, a.depth + 1⟩, leaf (anchor .textStart)] ['\\', 'z'] =
      some (⟨a.val.between, a.depth + 2⟩, []) := by
  have hdepth : depthOver [depthOver [0, a.depth + 1, 0]] = a.depth + 2 := by
    simp [depthOver]
  rw [← hdepth]
  rfl

theorem ofChars?_eq_some {s : List Char} {a : Regex} (h : ofChars? s = some a) :
    readGroup (s.length + 1) {} [] [] s = some (⟨a, nesting s⟩, []) := by
  unfold ofChars? at h
  split at h
  · next b hb =>
    split at h
    · obtain rfl := Option.some.inj h
      rw [nesting, hb]
    · cases h
  · cases h

/-- Between the two ends of a text a pattern is read as it is on its own, or else not at all. -/
theorem ofChars?_between {s : List Char} {a : Regex} (h : ofChars? s = some a) :
    ofChars? ("\\A(?:".toList ++ s ++ ")\\z".toList) =
        (if nesting s + 2 ≤ nestingLimit then some (a.regroup 3).between else none) ∨
      MayEndInComment s ∧ ofChars? ("\\A(?:".toList ++ s ++ ")\\z".toList) = none := by
  have hwhole : "\\A(?:".toList ++ s ++ ")\\z".toList =
      '\\' :: 'A' :: '(' :: '?' :: ':' :: (s ++ [')', '\\', 'z']) := by
    simp
  have hfuel : ("\\A(?:".toList ++ s ++ ")\\z".toList).length + 1 = s.length + 7 + 2 := by
    rw [hwhole]
    simp only [List.length_cons, List.length_append, List.length_nil]
  obtain ⟨rest, hrest, hgoes⟩ := regroupsWith closes_whole (show s.length + 1 ≤ s.length + 7 by omega)
    {} [] [] (.of_suffix (List.suffix_refl s)) (ofChars?_eq_some h)
  rw [ofChars?, hfuel, hwhole, readGroup_between]
  rcases hgoes.eq with rfl | ⟨-, rfl, hcomment⟩
  · left
    rw [List.map_nil, List.map_nil, List.nil_append] at hrest
    simp only [hrest, readGroup_textEnd]
    rfl
  · right
    rw [List.map_nil, List.map_nil] at hrest
    simp only [hrest]
    exact ⟨hcomment, trivial⟩

end Regex

namespace Pattern

variable {source : String} {p whole : Pattern}

theorem ofString?_eq_some (h : ofString? source = some p) :
    p.source = source ∧ Regex.ofChars? source.toList = some p.regex := by
  obtain ⟨r, hr, rfl⟩ := Option.map_eq_some_iff.mp h
  exact ⟨rfl, hr⟩

theorem toList_anchored (source : String) :
    (RegexEngine.anchored source).toList = "\\A(?:".toList ++ source.toList ++ ")\\z".toList := by
  rw [RegexEngine.anchored, String.toList_append, String.toList_append]

theorem regex_anchored (h : ofString? source = some p) (hwhole : ofString? (RegexEngine.anchored source) = some whole) :
    whole.regex = (p.regex.regroup 3).between := by
  obtain ⟨-, hp⟩ := ofString?_eq_some h
  obtain ⟨-, hwhole⟩ := ofString?_eq_some hwhole
  rw [toList_anchored] at hwhole
  rcases Regex.ofChars?_between hp with heq | ⟨-, heq⟩
  · rw [heq] at hwhole
    split at hwhole
    · exact (Option.some.inj hwhole).symm
    · cases hwhole
  · rw [heq] at hwhole
    cases hwhole

/-- The pattern can match what stands in a text between two places. -/
def Matches (p : Pattern) (text : String) (i j : Nat) : Prop :=
  i ≤ text.length ∧ p.regex.Matches text.toList.toArray i j

theorem matches_whole_iff {text : String} : p.Matches text 0 text.length ↔ p.regex.Covers text := by
  simp [Matches, Regex.Covers]

theorem engine_lawful : engine.Lawful Matches where
  source_compile h := (ofString?_eq_some h).1
  matches_of_find {p text i j} h := by
    obtain ⟨hmatches, hi⟩ := Regex.matches_of_find h
    rw [Regex.size_toArray] at hi
    exact ⟨hi.1.trans hi.2, hmatches⟩
  not_matches_of_find {p text} i j h := fun ⟨hi, hmatches⟩ =>
    Regex.not_matches_of_find h (by rwa [Regex.size_toArray]) hmatches
  isMatch_iff p text := by
    simp only [Regex.isMatch_iff, Regex.size_toArray, Matches]
  matches_anchored {s p whole} text i l hp hwhole := by
    have hregex := regex_anchored hp hwhole
    constructor
    · rintro ⟨-, hmatches⟩
      rw [hregex, Regex.matches_between, Regex.size_toArray, Regex.matches_regroup] at hmatches
      obtain ⟨rfl, rfl, hmatches⟩ := hmatches
      exact ⟨0, text.length, ⟨rfl, rfl⟩, ⟨Nat.zero_le _, hmatches⟩, rfl, rfl⟩
    · rintro ⟨_, _, ⟨rfl, rfl⟩, ⟨-, hmatches⟩, rfl, rfl⟩
      refine ⟨Nat.zero_le _, ?_⟩
      rw [hregex, Regex.matches_between, Regex.size_toArray, Regex.matches_regroup]
      exact ⟨rfl, rfl, hmatches⟩

/-- A pattern with no number sign in its last line can be anchored unless it is nested up to the limit. -/
theorem isSome_anchored (h : ofString? source = some p) (hcomment : ¬ Regex.MayEndInComment source.toList)
    (hnesting : Regex.nesting source.toList + 2 ≤ Regex.nestingLimit) :
    (ofString? (RegexEngine.anchored source)).isSome := by
  obtain ⟨-, hp⟩ := ofString?_eq_some h
  rcases Regex.ofChars?_between hp with heq | ⟨hend, -⟩
  · rw [ofString?, toList_anchored, heq, if_pos hnesting]
    rfl
  · exact absurd hend hcomment

/-- Either the first of two letters or both of them. -/
def letters : Regex := .alt (.one (.ofChar 'a')) (.seq (.one (.ofChar 'a')) (.one (.ofChar 'b')))

/-- The match that is found first stops after one letter, and the anchored pattern finds both. -/
theorem records_nothing_on_letters :
    engine.compile "a|ab" = some ⟨"a|ab", letters⟩ ∧ letters.find "ab".toList.toArray = some (0, 1) ∧
      (((⟨"code", some "ab"⟩ : Property String).check (Check.fits engine ⟨"a|ab", letters⟩) :
        Recording Id Unit).run ∅).run.2 = ∅ := by
  have hpattern : ofString? "a|ab" = some ⟨"a|ab", letters⟩ := by
    have : Regex.ofChars? "a|ab".toList = some letters := by decide +kernel
    rw [ofString?, this, Option.map_some]
  have hanchored := isSome_anchored hpattern (by decide +kernel) (by decide +kernel)
  have hmatches : Matches ⟨"a|ab", letters⟩ "ab" 0 "ab".length := matches_whole_iff.mpr (by decide +kernel)
  have hcompiled : engine.compile "a|ab" = some ⟨"a|ab", letters⟩ := hpattern
  have hrecorded := RegexEngine.records_nothing_iff engine_lawful hcompiled "code" "ab"
  exact ⟨hcompiled, by decide +kernel, hrecorded.mpr ⟨hmatches, .inr hanchored⟩⟩

/-- With a comment at its end the same pattern cannot be anchored, and a text that it can match all of is recorded. -/
theorem comment_hides_longer_branch :
    ∃ p, engine.compile "(?x)a|ab # either" = some p ∧ Matches p "ab" 0 "ab".length ∧
      (((⟨"code", some "ab"⟩ : Property String).check (Check.fits engine p) : Recording Id Unit).run ∅).run.2 ≠ ∅ := by
  have hpattern : ofString? "(?x)a|ab # either" = some ⟨"(?x)a|ab # either", letters⟩ := by
    have : Regex.ofChars? "(?x)a|ab # either".toList = some letters := by decide +kernel
    rw [ofString?, this, Option.map_some]
  refine ⟨⟨"(?x)a|ab # either", letters⟩, hpattern, matches_whole_iff.mpr (by decide +kernel), fun hrecorded => ?_⟩
  have hfind : letters.find "ab".toList.toArray = some (0, 1) := by decide +kernel
  have hrefused : Regex.ofChars? (RegexEngine.anchored "(?x)a|ab # either").toList = none := by
    rw [toList_anchored]
    decide +kernel
  rw [RegexEngine.fits_recorded_iff, RegexEngine.matchesWhole] at hrecorded
  simp only [hfind, ofString?, hrefused, Option.map_none] at hrecorded
  exact absurd hrecorded (by decide)

end Pattern

end ObjectValidation
