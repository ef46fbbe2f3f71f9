import ObjectValidation.Check
import ObjectValidation.Proofs.Check.Comparison
import ObjectValidation.Proofs.Violation.Set
import ObjectValidation.Validation.Property

/-!
How the checks of a family go together: the checks of ranges with those of their bounds, membership with equality,
and each check with its opposite. Opposites that are decided by equality, by size or by content never both pass and
never both fail; for those that are decided by order this takes a total order. A value that is unordered with the
bounds fails them all.
-/

namespace ObjectValidation.Check

variable {α : Type} [ToValue α]

/-- What was recorded after the check of a present value, when some violations had been recorded before. -/
def recordedAfter (c : Check α) (path : String) (a : α) (s : ViolationSet) : ViolationSet :=
  (((⟨path, some a⟩ : Property α).check c : Recording Id Unit).run s).run.2

/-- Whatever has been recorded before, the check of the value at the path leaves it at that. -/
def Passes (c : Check α) (path : String) (a : α) : Prop := ∀ s, c.recordedAfter path a s = s

/-- Whatever has been recorded before, the check records that the value at the path breaks its constraint. -/
def Records (c : Check α) (path : String) (a : α) : Prop :=
  ∀ s, c.recordedAfter path a s = s.insert (.of path (toValue a) c.constraint)

/-- One of two checks records a violation and the other passes. -/
def ExactlyOneRecords (c d : Check α) (path : String) (a : α) : Prop :=
  c.Records path a ∧ d.Passes path a ∨ c.Passes path a ∧ d.Records path a

variable {c d : Check α} {path : String} {a : α}

theorem recordedAfter_eq (c : Check α) (path : String) (a : α) (s : ViolationSet) :
    c.recordedAfter path a s =
      if c.accepts (some a) then s else s.insert (.of path (toValue a) c.constraint) := by
  cases h : c.accepts (some a) <;> simp [recordedAfter, Property.check, Property.record, h, toValue]

theorem insert_empty_ne (v : Violation) : (∅ : ViolationSet).insert v ≠ ∅ := fun h =>
  List.cons_ne_nil v [] (congrArg ViolationSet.toList h)

theorem passes_iff : c.Passes path a ↔ c.accepts (some a) = true := by
  simp only [Passes, recordedAfter_eq]
  cases h : c.accepts (some a) with
  | true => simp
  | false => exact ⟨fun hpasses => absurd (hpasses ∅) (insert_empty_ne _), nofun⟩

theorem records_iff : c.Records path a ↔ c.accepts (some a) = false := by
  simp only [Records, recordedAfter_eq]
  cases h : c.accepts (some a) with
  | true => exact ⟨fun hrecords => absurd (hrecords ∅).symm (insert_empty_ne _), nofun⟩
  | false => simp

theorem exactlyOneRecords_iff :
    ExactlyOneRecords c d path a ↔ d.accepts (some a) = !c.accepts (some a) := by
  simp only [ExactlyOneRecords, passes_iff, records_iff]
  cases c.accepts (some a) <;> cases d.accepts (some a) <;> decide

section

variable [Comparable α]

theorem isBetween_passes_iff [LawfulComparable α] (start stop : α) :
    (isBetween start stop).Passes path a ↔
      (isGreaterThanOrEqualTo start).Passes path a ∧ (isLessThanOrEqualTo stop).Passes path a := by
  simp only [passes_iff, isBetween, isGreaterThanOrEqualTo, isLessThanOrEqualTo, ofPresent,
    LawfulComparable.ge_eq, Bool.and_eq_true]

theorem isNotBetween_passes_iff [LawfulComparable α] (start stop : α) :
    (isNotBetween start stop).Passes path a ↔
      (isLessThan start).Passes path a ∨ (isGreaterThan stop).Passes path a := by
  simp only [passes_iff, isNotBetween, isLessThan, isGreaterThan, ofPresent, LawfulComparable.gt_eq,
    Bool.or_eq_true]

theorem isBetween_or_isNotBetween [TotallyOrdered α] (start stop : α) :
    ExactlyOneRecords (isBetween start stop) (isNotBetween start stop) path a := by
  rw [exactlyOneRecords_iff]
  simp only [isBetween, isNotBetween, ofPresent, Comparable.lt_eq_not_le, Bool.not_and]

theorem isLessThan_or_isGreaterThanOrEqualTo [TotallyOrdered α] (bound : α) :
    ExactlyOneRecords (isLessThan bound) (isGreaterThanOrEqualTo bound) path a := by
  rw [exactlyOneRecords_iff]
  simp only [isLessThan, isGreaterThanOrEqualTo, ofPresent, LawfulComparable.ge_eq, Comparable.lt_eq_not_le,
    Bool.not_not]

theorem isGreaterThan_or_isLessThanOrEqualTo [TotallyOrdered α] (bound : α) :
    ExactlyOneRecords (isGreaterThan bound) (isLessThanOrEqualTo bound) path a := by
  rw [exactlyOneRecords_iff]
  simp only [isGreaterThan, isLessThanOrEqualTo, ofPresent, LawfulComparable.gt_eq, Comparable.lt_eq_not_le,
    Bool.not_not]

/-- The checks by order of a value against bounds. -/
def byBound (bound : α) : List (Check α) :=
  [isLessThan bound, isLessThanOrEqualTo bound, isGreaterThan bound, isGreaterThanOrEqualTo bound]

def byRange (start stop : α) : List (Check α) := [isBetween start stop, isNotBetween start stop]

def bySign [HasZero α] : List (Check α) := [isPositive, isNegative]

theorem records_byBound [LawfulComparable α] {bound : α} (h : Comparable.Unordered a bound) :
    ∀ c ∈ byBound bound, c.Records path a := by
  obtain ⟨hlt, hle, hgt, hge⟩ := h
  simp [byBound, records_iff, isLessThan, isLessThanOrEqualTo, isGreaterThan, isGreaterThanOrEqualTo, ofPresent,
    LawfulComparable.gt_eq, LawfulComparable.ge_eq, hlt, hle, hgt, hge]

theorem records_byRange {start stop : α} (hstart : Comparable.Unordered a start)
    (hstop : Comparable.Unordered a stop) : ∀ c ∈ byRange start stop, c.Records path a := by
  obtain ⟨hlt, -, -, hge⟩ := hstart
  obtain ⟨-, -, hgt, -⟩ := hstop
  simp [byRange, records_iff, isBetween, isNotBetween, ofPresent, hlt, hgt, hge]

theorem records_bySign [LawfulComparable α] [HasZero α] (h : Comparable.Unordered a HasZero.zero) :
    ∀ c ∈ bySign, c.Records path a := by
  obtain ⟨hlt, -, hgt, -⟩ := h
  simp [bySign, records_iff, isPositive, isNegative, ofPresent, LawfulComparable.gt_eq, hlt, hgt]

end

section

variable [BEq α]

theorem isIn_passes_iff (hsymm : ∀ x y : α, (x == y) = (y == x)) (values : List α) :
    (isIn values).Passes path a ↔ ∃ x ∈ values, (isEqualTo x).Passes path a := by
  simp only [passes_iff, isIn, isEqualTo, ofPresent, List.any_eq_true, hsymm a]

theorem isEqualTo_or_isNotEqualTo (x : α) : ExactlyOneRecords (isEqualTo x) (isNotEqualTo x) path a :=
  exactlyOneRecords_iff.mpr rfl

theorem isIn_or_isNotIn (values : List α) : ExactlyOneRecords (isIn values) (isNotIn values) path a :=
  exactlyOneRecords_iff.mpr rfl

theorem isZero_or_isNotZero [HasZero α] : ExactlyOneRecords isZero isNotZero path a :=
  exactlyOneRecords_iff.mpr rfl

end

section

variable [Length α]

theorem isEmpty_or_isNotEmpty : ExactlyOneRecords isEmpty isNotEmpty path a := by
  rw [exactlyOneRecords_iff]
  cases h : Length.length a <;> simp [isEmpty, isNotEmpty, ofPresent, h]

/-- To be empty is to have the size zero. -/
theorem isEmpty_passes_iff : (isEmpty : Check α).Passes path a ↔ (hasSize 0 0).Passes path a := by
  simp [passes_iff, isEmpty, hasSize, ofPresent]

end

theorem isBlank_or_isNotBlank {text : String} : ExactlyOneRecords isBlank isNotBlank path text :=
  exactlyOneRecords_iff.mpr rfl

/-- The laws of the checks, for present values of any type that has what the checks ask for. Values that are unordered
with bounds, such as a not-a-number, are among them. -/
theorem families_consistent (path : String) :
    (∀ (α : Type) [ToValue α] [Comparable α] [LawfulComparable α] (a start stop : α),
      ((isBetween start stop).Passes path a ↔
        (isGreaterThanOrEqualTo start).Passes path a ∧ (isLessThanOrEqualTo stop).Passes path a) ∧
      ((isNotBetween start stop).Passes path a ↔
        (isLessThan start).Passes path a ∨ (isGreaterThan stop).Passes path a)) ∧
    (∀ (α : Type) [ToValue α] [BEq α], (∀ x y : α, (x == y) = (y == x)) → ∀ (a : α) (values : List α),
      ((isIn values).Passes path a ↔ ∃ x ∈ values, (isEqualTo x).Passes path a)) ∧
    (∀ (α : Type) [ToValue α] [BEq α] (a x : α) (values : List α),
      ExactlyOneRecords (isEqualTo x) (isNotEqualTo x) path a ∧
      ExactlyOneRecords (isIn values) (isNotIn values) path a) ∧
    (∀ (α : Type) [ToValue α] [BEq α] [HasZero α] (a : α), ExactlyOneRecords isZero isNotZero path a) ∧
    (∀ (α : Type) [ToValue α] [Length α] (a : α),
      ExactlyOneRecords isEmpty isNotEmpty path a ∧
      ((isEmpty : Check α).Passes path a ↔ (hasSize 0 0).Passes path a)) ∧
    (∀ text : String, ExactlyOneRecords isBlank isNotBlank path text) ∧
    (∀ (α : Type) [ToValue α] [Comparable α] [TotallyOrdered α] (a start stop bound : α),
      ExactlyOneRecords (isBetween start stop) (isNotBetween start stop) path a ∧
      ExactlyOneRecords (isLessThan bound) (isGreaterThanOrEqualTo bound) path a ∧
      ExactlyOneRecords (isGreaterThan bound) (isLessThanOrEqualTo bound) path a) ∧
    (∀ (α : Type) [ToValue α] [Comparable α] [LawfulComparable α] (a start stop : α),
      Comparable.Unordered a start → Comparable.Unordered a stop →
        ∀ c ∈ byBound start ++ byBound stop ++ byRange start stop, c.Records path a) ∧
    (∀ (α : Type) [ToValue α] [Comparable α] [LawfulComparable α] [HasZero α] (a : α),
      Comparable.Unordered a HasZero.zero → ∀ c ∈ bySign, c.Records path a) := by
  refine ⟨?_, ?_, ?_, ?_, ?_, ?_, ?_, ?_, ?_⟩
  · intro α _ _ _ a start stop
    exact ⟨isBetween_passes_iff start stop, isNotBetween_passes_iff start stop⟩
  · intro α _ _ hsymm a values
    exact isIn_passes_iff hsymm values
  · intro α _ _ a x values
    exact ⟨isEqualTo_or_isNotEqualTo x, isIn_or_isNotIn values⟩
  · intro α _ _ _ a
    exact isZero_or_isNotZero
  · intro α _ _ a
    exact ⟨isEmpty_or_isNotEmpty, isEmpty_passes_iff⟩
  · intro text
    exact isBlank_or_isNotBlank
  · intro α _ _ _ a start stop bound
    exact ⟨isBetween_or_isNotBetween start stop, isLessThan_or_isGreaterThanOrEqualTo bound,
      isGreaterThan_or_isLessThanOrEqualTo bound⟩
  · intro α _ _ _ a start stop hstart hstop c hc
    rcases List.mem_append.mp hc with hc | hc
    · rcases List.mem_append.mp hc with hc | hc
      · exact records_byBound hstart c hc
      · exact records_byBound hstop c hc
    · exact records_byRange hstart hstop c hc
  · intro α _ _ _ _ a hzero
    exact records_bySign hzero

/-- A reading that is no number, checked against numbers, and an amount outside of bounds that are the wrong way
round. -/
theorem families_consistent_reading :
    let nan : Double := ⟨0x7ff8000000000000⟩
    let one : Double := ⟨0x3ff0000000000000⟩
    Comparable.Unordered nan one ∧ (∀ c ∈ byRange one one, c.Records "reading" nan) ∧
      (∀ c ∈ bySign, c.Records "reading" nan) ∧ ¬ (isIn [one, nan]).Passes "reading" nan ∧
      (isIn [nan, one]).Passes "reading" one ∧
      ExactlyOneRecords (isBetween (9 : Int64) 6) (isNotBetween 9 6) "reading" 7 := by
  intro nan one
  have hnan : nan.isNaN = true := by decide +kernel
  have hunordered (x : Double) : Comparable.Unordered nan x := Double.unordered_of_isNaN (.inl hnan)
  obtain ⟨-, hmember, -, -, -, -, htotal, hrange, hsign⟩ := families_consistent "reading"
  refine ⟨hunordered one, ?_, hsign Double nan (hunordered _), ?_, ?_, (htotal Int64 7 9 6 0).1⟩
  · intro c hc
    exact hrange Double nan one one (hunordered one) (hunordered one) c (List.mem_append_right _ hc)
  · rw [hmember Double Double.beq_comm]
    rintro ⟨x, hx, hpasses⟩
    have hequal : (nan == x) = true := passes_iff.mp hpasses
    rcases List.mem_cons.mp hx with rfl | hx
    · exact absurd hequal (by decide +kernel)
    · rw [List.mem_singleton.mp hx] at hequal
      exact absurd hequal (by decide +kernel)
  · rw [hmember Double Double.beq_comm]
    exact ⟨one, by simp, passes_iff.mpr (by decide +kernel)⟩

end ObjectValidation.Check
