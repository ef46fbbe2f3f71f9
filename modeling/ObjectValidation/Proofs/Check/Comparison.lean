import ObjectValidation.Check.Order
import Mathlib.Algebra.Order.Ring.Int

/-!
Laws of comparisons. All types whose values can be compared tell what is greater by what is less, and all but the
floating-point numbers are totally ordered: of two values one is at most the other, and it is less than the other
exactly if the other is not at most it. A not-a-number is unordered with every number and with itself.
-/

namespace ObjectValidation

/-- What is greater and what is at least are told by what is less and what is at most. -/
class LawfulComparable (α : Type) [Comparable α] : Prop where
  gt_eq (a b : α) : Comparable.gt a b = Comparable.lt b a
  ge_eq (a b : α) : Comparable.ge a b = Comparable.le b a

class TotallyOrdered (α : Type) [Comparable α] : Prop extends LawfulComparable α where
  le_total (a b : α) : Comparable.le a b = true ∨ Comparable.le b a = true
  le_trans (a b c : α) : Comparable.le a b = true → Comparable.le b c = true → Comparable.le a c = true
  lt_iff (a b : α) : Comparable.lt a b = true ↔ Comparable.le a b = true ∧ Comparable.le b a = false

namespace Comparable

variable {α : Type}

/-- Neither of the two is less than the other or at most the other. -/
def Unordered [Comparable α] (a b : α) : Prop :=
  lt a b = false ∧ le a b = false ∧ lt b a = false ∧ le b a = false

theorem lt_eq_not_le [Comparable α] [TotallyOrdered α] (a b : α) : lt a b = !le b a := by
  have htotal := TotallyOrdered.le_total a b
  have hlt := TotallyOrdered.lt_iff a b
  cases hba : le b a with
  | true => simpa [hba] using hlt
  | false => simpa [hba] using hlt.mpr ⟨by simpa [hba] using htotal, hba⟩

/-- A comparison that is turned around gives the opposite answer, if any. -/
theorem lawful_ofPartial {compare? : α → α → Option Ordering}
    (hswap : ∀ a b, compare? b a = (compare? a b).map Ordering.swap) :
    @LawfulComparable α (ofPartial compare?) :=
  letI : Comparable α := ofPartial compare?
  { gt_eq := fun a b => by
      show (compare? a b == some .gt) = (compare? b a == some .lt)
      rw [hswap a b]
      rcases compare? a b with _ | (_ | _ | _) <;> rfl
    ge_eq := fun a b => by
      show (compare? a b == some .gt || compare? a b == some .eq) =
        (compare? b a == some .lt || compare? b a == some .eq)
      rw [hswap a b]
      rcases compare? a b with _ | (_ | _ | _) <;> rfl }

theorem le_ofTotal {compare : α → α → Ordering} (a b : α) :
    (ofTotal compare).le a b = (compare a b).isLE := by
  show (some (compare a b) == some .lt || some (compare a b) == some .eq) = _
  cases compare a b <;> rfl

theorem totallyOrdered_ofTotal (compare : α → α → Ordering) [Std.TransCmp compare] :
    @TotallyOrdered α (ofTotal compare) :=
  letI : Comparable α := ofTotal compare
  have hswap (a b : α) : compare b a = (compare a b).swap := Std.OrientedCmp.eq_swap
  { toLawfulComparable := lawful_ofPartial fun a b => congrArg some (hswap a b)
    le_total := fun a b => by
      rw [le_ofTotal, le_ofTotal, hswap a b]
      cases compare a b <;> decide
    le_trans := fun a b c => by
      rw [le_ofTotal, le_ofTotal, le_ofTotal]
      exact Std.TransCmp.isLE_trans
    lt_iff := fun a b => by
      rw [le_ofTotal, le_ofTotal, hswap a b]
      show (some (compare a b) == some .lt) = true ↔ _
      cases compare a b <;> decide }

end Comparable

/-! The comparisons of the types at hand. -/

section

variable {α β : Type}

theorem transCmp_on (compare : β → β → Ordering) [Std.TransCmp compare] (f : α → β) :
    Std.TransCmp fun a b => compare (f a) (f b) where
  eq_swap := Std.OrientedCmp.eq_swap
  isLE_trans := Std.TransCmp.isLE_trans

theorem compareLists_eq (compare : α → α → Ordering) : compareLists compare = List.compareLex compare := by
  funext as bs
  induction as generalizing bs with
  | nil => cases bs <;> rfl
  | cons a as ih =>
    cases bs with
    | nil => rfl
    | cons b bs =>
      rw [compareLists, ih, List.compareLex_cons_cons]

instance (compare : α → α → Ordering) [Std.TransCmp compare] : Std.TransCmp (compareLists compare) := by
  rw [compareLists_eq]
  infer_instance

theorem compareOptions_eq [Ord α] : compareOptions (compare : α → α → Ordering) = compare := by
  funext a b
  cases a <;> cases b <;> rfl

instance [Ord α] [Std.TransOrd α] : Std.TransCmp (compareOptions (compare : α → α → Ordering)) := by
  rw [compareOptions_eq]
  infer_instance

end

theorem Date.order_eq : order = compareLex (compareOn year) (compareLex (compareOn month) (compareOn day)) := rfl

instance : Std.TransCmp Date.order := by
  rw [Date.order_eq]
  infer_instance

theorem TimeOfDay.order_eq : order = compareLex (compareOn hour) (compareLex (compareOn minute)
    (compareLex (compareOn second) (compareOn nanosecond))) := rfl

instance : Std.TransCmp TimeOfDay.order := by
  rw [TimeOfDay.order_eq]
  infer_instance

theorem DateTime.order_eq : order = compareLex (fun a b => a.date.order b.date) fun a b => a.time.order b.time :=
  rfl

instance : Std.TransCmp DateTime.order := by
  have := transCmp_on Date.order DateTime.date
  have := transCmp_on TimeOfDay.order DateTime.time
  rw [DateTime.order_eq]
  infer_instance

theorem compare_mul_right (a b : Int) {c : Int} (hc : 0 < c) : compare (a * c) (b * c) = compare a b := by
  rcases lt_trichotomy a b with h | h | h
  · rw [compare_lt_iff_lt.mpr h, compare_lt_iff_lt]
    exact Int.mul_lt_mul_of_pos_right h hc
  · rw [h, compare_eq_iff_eq.mpr rfl, compare_eq_iff_eq.mpr rfl]
  · rw [compare_gt_iff_gt.mpr h, compare_gt_iff_gt]
    exact Int.mul_lt_mul_of_pos_right h hc

namespace Decimal

theorem mantissaAt_add {d : Decimal} {scale : Nat} (h : d.scale ≤ scale) (k : Nat) :
    d.mantissaAt (scale + k) = d.mantissaAt scale * (Nat.pow 10 k : Nat) := by
  have hsplit : scale + k - d.scale = (scale - d.scale) + k := by omega
  rw [mantissaAt, mantissaAt, hsplit, Nat.pow_eq, Nat.pow_add, Int.natCast_mul, ← Int.mul_assoc]
  rfl

/-- Decimals compare alike at all scales that are large enough for both. -/
theorem compareValue_eq {a b : Decimal} {scale : Nat} (ha : a.scale ≤ scale) (hb : b.scale ≤ scale) :
    a.compareValue b = compare (a.mantissaAt scale) (b.mantissaAt scale) := by
  obtain ⟨k, rfl⟩ := Nat.exists_eq_add_of_le (Nat.max_le.mpr ⟨ha, hb⟩)
  have hpos : (0 : Int) < (Nat.pow 10 k : Nat) := Int.natCast_pos.mpr (Nat.pow_pos (by decide))
  rw [mantissaAt_add (Nat.le_max_left ..), mantissaAt_add (Nat.le_max_right ..), compare_mul_right _ _ hpos]
  rfl

instance : Std.TransCmp compareValue where
  eq_swap {a b} := by
    rw [compareValue_eq (Nat.le_max_left ..) (Nat.le_max_right a.scale b.scale),
      compareValue_eq (Nat.le_max_right ..) (Nat.le_max_left a.scale b.scale)]
    exact Std.OrientedCmp.eq_swap
  isLE_trans {a b c} := by
    have hscale : ∃ scale, a.scale ≤ scale ∧ b.scale ≤ scale ∧ c.scale ≤ scale :=
      ⟨a.scale + b.scale + c.scale, by omega, by omega, by omega⟩
    obtain ⟨scale, ha, hb, hc⟩ := hscale
    rw [compareValue_eq ha hb, compareValue_eq hb hc, compareValue_eq ha hc]
    exact Std.TransCmp.isLE_trans

end Decimal

/-- Turned around, two patterns are still numbers or not, and compare the other way. -/
theorem FloatFormat.compare?_swap (f : FloatFormat) (a b : Nat) :
    f.compare? b a = (f.compare? a b).map Ordering.swap := by
  rw [compare?, compare?, Bool.or_comm]
  split
  · rfl
  · exact congrArg some Std.OrientedCmp.eq_swap

section

open Comparable

instance : TotallyOrdered Bool := totallyOrdered_ofTotal compare
instance : TotallyOrdered Int8 := totallyOrdered_ofTotal compare
instance : TotallyOrdered Int16 := totallyOrdered_ofTotal compare
instance : TotallyOrdered Int32 := totallyOrdered_ofTotal compare
instance : TotallyOrdered Int64 := totallyOrdered_ofTotal compare
instance : TotallyOrdered ISize := totallyOrdered_ofTotal compare
instance : TotallyOrdered UInt8 := totallyOrdered_ofTotal compare
instance : TotallyOrdered UInt16 := totallyOrdered_ofTotal compare
instance : TotallyOrdered UInt32 := totallyOrdered_ofTotal compare
instance : TotallyOrdered UInt64 := totallyOrdered_ofTotal compare
instance : TotallyOrdered USize := totallyOrdered_ofTotal compare
instance : TotallyOrdered Decimal := totallyOrdered_ofTotal Decimal.compareValue
instance : TotallyOrdered Char := totallyOrdered_ofTotal compare
instance : TotallyOrdered String := totallyOrdered_ofTotal compare
instance : TotallyOrdered Date := totallyOrdered_ofTotal Date.order
instance : TotallyOrdered TimeOfDay := totallyOrdered_ofTotal TimeOfDay.order
instance : TotallyOrdered DateTime := totallyOrdered_ofTotal DateTime.order

instance : TotallyOrdered Instant :=
  have := transCmp_on DateTime.order Instant.utc
  totallyOrdered_ofTotal fun a b : Instant => a.utc.order b.utc

instance {α : Type} [Ord α] [Std.TransOrd α] : TotallyOrdered (Option α) :=
  totallyOrdered_ofTotal (compareOptions compare)

instance {α : Type} [Ord α] [Std.TransOrd α] : TotallyOrdered (List α) :=
  totallyOrdered_ofTotal (compareLists compare)

instance {α : Type} {n : Nat} [Ord α] [Std.TransOrd α] : TotallyOrdered (Vector α n) :=
  have := transCmp_on (compareLists (compare : α → α → Ordering)) (Vector.toList (n := n))
  totallyOrdered_ofTotal fun a b : Vector α n => compareLists compare a.toList b.toList

instance {α : Type} [Ord α] [Std.TransOrd α] : TotallyOrdered (OrderedSet α) :=
  have := transCmp_on (compareLists (compare : α → α → Ordering)) OrderedSet.elements
  totallyOrdered_ofTotal fun a b : OrderedSet α => compareLists compare a.elements b.elements

instance : LawfulComparable Double := lawful_ofPartial fun _ _ => FloatFormat.compare?_swap _ _ _

instance : LawfulComparable Single := lawful_ofPartial fun _ _ => FloatFormat.compare?_swap _ _ _

end

namespace Double

theorem beq_comm (x y : Double) : (x == y) = (y == x) := by
  show (x.compare? y == some .eq) = (y.compare? x == some .eq)
  rw [compare?, compare?, FloatFormat.compare?_swap _ y.bits.toNat]
  rcases FloatFormat.binary64.compare? y.bits.toNat x.bits.toNat with _ | (_ | _ | _) <;> rfl

/-- A float is unordered with a not-a-number, and not-a-numbers are unordered with all floats. -/
theorem unordered_of_isNaN {x y : Double} (h : x.isNaN = true ∨ y.isNaN = true) :
    Comparable.Unordered x y := by
  have hnone : x.compare? y = none ∧ y.compare? x = none := by
    rcases h with h | h <;> simp_all [compare?, FloatFormat.compare?, isNaN]
  simp [Comparable.Unordered, Comparable.lt, Comparable.le, hnone]

end Double

end ObjectValidation
