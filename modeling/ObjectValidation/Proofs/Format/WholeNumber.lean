import ObjectValidation.Proofs.Format.Writing
import ObjectValidation.Proofs.Number.Grouping
import ObjectValidation.Value.Conversion

/-!
Numbers in a locale lose nothing. A numeral is grouped from the right and can be read back, so different ones are
written differently; and a whole number of any width is written as its own numeral, also where it is too large to
be captured as one and becomes a decimal.
-/

namespace ObjectValidation

/-- The digits of a whole number, after a minus if it is negative. -/
def PlainNumeral.ofInt (n : Int) : PlainNumeral where
  negative := n < 0
  whole := Nat.toDigits 10 n.natAbs
  fraction := none
  whole_ne_nil := Nat.toDigits_ne_nil
  isDigit_whole _ := Nat.isDigit_of_mem_toDigits (by decide) (by decide)
  isDigit_fraction _ h := by cases h

theorem toString_eq_signed (n : Int) : toString n = signed (decide (n < 0)) (toString n.natAbs) := by
  rw [Int.toString_eq_repr, Int.repr_eq_if, Nat.toString_eq_repr, signed]
  by_cases h : 0 ≤ n
  · have hsign : ¬ n < 0 := by omega
    have habs : n.natAbs = n.toNat := by omega
    simp [h, hsign, habs]
  · have hsign : n < 0 := by omega
    have habs : n.natAbs = (-n).toNat := by omega
    simp [h, hsign, habs]

theorem PlainNumeral.text_ofInt (n : Int) : (ofInt n).text = toString n := by
  apply String.toList_inj.1
  rw [text, String.toList_ofList, toString_eq_signed, signed, Nat.toString_eq_repr]
  by_cases h : n < 0 <;> simp [chars, sign, fractionAfter, ofInt, h, Nat.toList_repr]

theorem Decimal.display_ofInt (n : Int) : (ofInt n).display = toString n := by
  rw [display, ofInt, withPlaces, if_pos rfl, toString_eq_signed]

/-- For the locale the value is written as the numeral of the whole number. -/
def Value.WrittenAs (v : Value) (n : Int) (l : Locale) : Prop :=
  FormatterRegistry.new.Gives (FormatterRegistry.format l v) (Numeral.localize l.conventions (toString n))

namespace Value

theorem writtenAs_of_done {v : Value} {n : Int} {l : Locale} (hformatter : FormatterRegistry.new.formatterOf v =
    Formatter.number) (hdone : Formatter.number l v = .done (Numeral.localize l.conventions (toString n))) :
    v.WrittenAs n l := by
  rw [← hformatter] at hdone
  rw [WrittenAs, ← FormatterRegistry.text_of_done hdone]
  exact FormatterRegistry.new.gives_format l v

theorem writtenAs_integer (n : Int64) (l : Locale) : (integer n).WrittenAs n.toInt l :=
  writtenAs_of_done (FormatterRegistry.new_formatterOf_number rfl rfl) rfl

theorem writtenAs_ofInt (n : Int) (l : Locale) : (ofInt n).WrittenAs n l := by
  rw [ofInt]
  split
  · next hfits =>
    simp only [fitsInteger, Bool.and_eq_true, decide_eq_true_eq] at hfits
    have hvalue : (Int64.ofInt n).toInt = n := Int64.toInt_ofInt_of_le (by omega) (by omega)
    have hwritten := writtenAs_integer (Int64.ofInt n) l
    rwa [hvalue] at hwritten
  · apply writtenAs_of_done (FormatterRegistry.new_formatterOf_number rfl rfl)
    rw [← Decimal.display_ofInt]
    rfl

end Value

namespace Numeral

/-- The whole part is in groups of three digits after a first group of one to three; the minus stands before the
first group, and the fraction is not grouped. -/
theorem exists_groups_localize (c : Conventions) (n : PlainNumeral) :
    ∃ first others, n.whole = first ++ others.flatten ∧ (1 ≤ first.length ∧ first.length ≤ 3) ∧
      (∀ g ∈ others, g.length = 3) ∧
      (localize c n.text).toList =
        n.sign ++ c.grouping.toList.intercalate (first :: others) ++ n.fractionAfter c.decimal.toList := by
  obtain ⟨first, others, hwhole, hfirst, hothers, hgroup⟩ := exists_group_eq c.grouping.toList n.whole_ne_nil
  exact ⟨first, others, hwhole, hfirst, hothers, by rw [toList_localize, hgroup]⟩

/-- In every locale a numeral can be read back from what is written, the digits of its whole part are grouped in
threes from the right and nothing else is, and different numerals are written differently. Whole numbers of all
widths are written as their numerals, unless a registry has rules of its own. -/
theorem localize_lossless (l : Locale) :
    (∀ n : PlainNumeral, l.conventions.plain (localize l.conventions n.text) = n.text ∧
      ∃ first others, n.whole = first ++ others.flatten ∧ (1 ≤ first.length ∧ first.length ≤ 3) ∧
        (∀ g ∈ others, g.length = 3) ∧
        (localize l.conventions n.text).toList =
          n.sign ++ l.conventions.grouping.toList.intercalate (first :: others) ++
            n.fractionAfter l.conventions.decimal.toList) ∧
    (∀ n n' : PlainNumeral, localize l.conventions n.text = localize l.conventions n'.text ↔ n.text = n'.text) ∧
    (∀ n : Int, (PlainNumeral.ofInt n).text = toString n) ∧
    (∀ n : Int8, (toValue n).WrittenAs n.toInt l) ∧ (∀ n : Int16, (toValue n).WrittenAs n.toInt l) ∧
    (∀ n : Int32, (toValue n).WrittenAs n.toInt l) ∧ (∀ n : Int64, (toValue n).WrittenAs n.toInt l) ∧
    (∀ n : ISize, (toValue n).WrittenAs n.toInt l) ∧ (∀ n : UInt8, (toValue n).WrittenAs n.toNat l) ∧
    (∀ n : UInt16, (toValue n).WrittenAs n.toNat l) ∧ (∀ n : UInt32, (toValue n).WrittenAs n.toNat l) ∧
    (∀ n : UInt64, (toValue n).WrittenAs n.toNat l) ∧ ∀ n : USize, (toValue n).WrittenAs n.toNat l := by
  obtain ⟨grouping, decimal, hapart⟩ := l.exists_setApart
  have hplain (n : PlainNumeral) := plain_localize hapart n
  refine ⟨fun n => ⟨hplain n, exists_groups_localize l.conventions n⟩, fun n n' => ⟨fun hsame => ?_, congrArg _⟩,
    PlainNumeral.text_ofInt, fun n => ?_, fun n => ?_, fun n => ?_, fun n => ?_, fun n => ?_, fun n => ?_,
    fun n => ?_, fun n => ?_, fun n => ?_, fun n => ?_⟩
  · rw [← hplain n, hsame, hplain n']
  · exact n.toInt_toInt64 ▸ Value.writtenAs_integer n.toInt64 l
  · exact n.toInt_toInt64 ▸ Value.writtenAs_integer n.toInt64 l
  · exact n.toInt_toInt64 ▸ Value.writtenAs_integer n.toInt64 l
  · exact Value.writtenAs_integer n l
  · exact Value.writtenAs_ofInt n.toInt l
  · exact Value.writtenAs_ofInt n.toNat l
  · exact Value.writtenAs_ofInt n.toNat l
  · exact Value.writtenAs_ofInt n.toNat l
  · exact Value.writtenAs_ofInt n.toNat l
  · exact Value.writtenAs_ofInt n.toNat l

/-- A numeral whose sign, groups and fraction meet the separators of French, and the largest number of 64 bits. -/
theorem localize_lossless_french :
    (Locale.conventions ⟨"fr", "FR"⟩).plain "-1\u202f234\u202f567,890" = "-1234567.890" ∧
    FormatterRegistry.new.text ⟨"fr", "FR"⟩ (toValue (18446744073709551615 : UInt64)) =
      "18\u202f446\u202f744\u202f073\u202f709\u202f551\u202f615" := by
  obtain ⟨hplain, -, -, -, -, -, -, -, -, -, -, hwide, -⟩ := localize_lossless ⟨"fr", "FR"⟩
  let n : PlainNumeral := ⟨true, "1234567".toList, some "890".toList, by decide, by simp, by simp⟩
  refine ⟨?_, ?_⟩
  · have htext : n.text = "-1234567.890" := by decide
    have hwritten : localize (Locale.conventions ⟨"fr", "FR"⟩) "-1234567.890" = "-1\u202f234\u202f567,890" := by
      decide
    have hread := (hplain n).1
    rwa [htext, hwritten] at hread
  · have hwritten := hwide 18446744073709551615
    exact (hwritten.fst_eq).trans (by decide +kernel)

end Numeral

end ObjectValidation
