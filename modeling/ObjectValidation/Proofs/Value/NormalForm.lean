import ObjectValidation.Violation.Basic

/-!
Normal forms of captured values: every float becomes the one pattern that stands for all floats it counts as
equal to. Two values, constraints or violations are equal exactly when their normal forms are the same, so
these equalities are equivalences.
-/

namespace ObjectValidation

/-- An equality that compares images under a function is an equivalence. -/
theorem equivBEq_of_iff {α β : Type} [BEq α] (f : α → β)
    (h : ∀ a b : α, (a == b) = true ↔ f a = f b) : EquivBEq α where
  rfl {a} := (h a a).mpr rfl
  symm {a b} hab := (h b a).mpr ((h a b).mp hab).symm
  trans {a b c} hab hbc := (h a c).mpr (((h a b).mp hab).trans ((h b c).mp hbc))

theorem Decimal.eq_iff {a b : Decimal} : a = b ↔ a.mantissa = b.mantissa ∧ a.scale = b.scale := by
  cases a
  cases b
  simp

namespace Double

theorem canonical_lt (x : Double) : x.canonical < UInt64.size := by
  have h := x.bits.toNat_lt
  simp only [canonical, FloatFormat.canonical]
  split
  · decide
  · split
    · decide
    · exact h

/-- The float whose pattern stands for all floats equal to this one. -/
def normal (x : Double) : Double := ⟨.ofNat x.canonical⟩

theorem normal_eq_iff {x y : Double} : x.normal = y.normal ↔ x.canonical = y.canonical := by
  constructor
  · intro h
    have hbits := congrArg (fun z : Double => z.bits.toNat) h
    simpa only [normal, UInt64.toNat_ofNat', Nat.mod_eq_of_lt (canonical_lt _)] using hbits
  · intro h
    rw [normal, normal, h]

end Double

namespace Value

mutual

def normal : Value → Value
  | float x => .float x.normal
  | list items => .list (normalItems items)
  | array items => .array (normalItems items)
  | object t fields => .object t (normalFields fields)
  | v => v

def normalItems : List Value → List Value
  | [] => []
  | v :: rest => normal v :: normalItems rest

def normalFields : List (String × Value) → List (String × Value)
  | [] => []
  | (name, v) :: rest => (name, normal v) :: normalFields rest

end

mutual

theorem same_iff (v w : Value) : same v w = true ↔ v.normal = w.normal := by
  -- Off the diagonal both sides are false; on it they compare the contents.
  cases v <;> cases w <;>
    simp [same, normal, Double.normal_eq_iff, Decimal.eq_iff, sameItems_iff, sameFields_iff]

theorem sameItems_iff :
    (a b : List Value) → (sameItems a b = true ↔ normalItems a = normalItems b)
  | [], [] => by simp [sameItems]
  | [], _ :: _ => by simp [sameItems, normalItems]
  | _ :: _, [] => by simp [sameItems, normalItems]
  | v :: a, w :: b => by simp [sameItems, normalItems, same_iff v w, sameItems_iff a b]

theorem sameFields_iff : (a b : List (String × Value)) →
    (sameFields a b = true ↔ normalFields a = normalFields b)
  | [], [] => by simp [sameFields]
  | [], _ :: _ => by simp [sameFields, normalFields]
  | _ :: _, [] => by simp [sameFields, normalFields]
  | (m, v) :: a, (n, w) :: b => by
    simp [sameFields, normalFields, same_iff v w, sameFields_iff a b, and_assoc]

end

/-- Equality of values is sameness of normal forms. -/
theorem beq_iff (v w : Value) : (v == w) = true ↔ v.normal = w.normal := same_iff v w

instance : EquivBEq Value := equivBEq_of_iff normal beq_iff

end Value

namespace Constraint

def normal (c : Constraint) : Constraint := { c with params := Value.normalFields c.params }

theorem beq_iff (c d : Constraint) : (c == d) = true ↔ c.normal = d.normal := by
  cases c
  cases d
  change (_ && _ && _) = true ↔ _
  simp [normal, Value.sameFields_iff, and_assoc]

instance : EquivBEq Constraint := equivBEq_of_iff normal beq_iff

end Constraint

namespace Violation

def normal (v : Violation) : Violation :=
  ⟨v.path, v.value.map Value.normal, v.constraint.normal⟩

theorem beq_iff (v w : Violation) : (v == w) = true ↔ v.normal = w.normal := by
  obtain ⟨p, a, c⟩ := v
  obtain ⟨q, b, d⟩ := w
  change (p == q && a == b && c == d) = true ↔ _
  have hvalue : (a == b) = true ↔ a.map Value.normal = b.map Value.normal := by
    cases a <;> cases b <;> simp [Value.beq_iff]
  simp only [Bool.and_eq_true, beq_iff_eq, hvalue, Constraint.beq_iff, normal, mk.injEq,
    and_assoc]

instance : EquivBEq Violation := equivBEq_of_iff normal beq_iff

/-- Equal violations stay equal when they are moved under the same path. -/
theorem rebased_beq {v w : Violation} (parent : String) (h : (v == w) = true) :
    (v.rebased parent == w.rebased parent) = true := by
  have hn := (beq_iff v w).mp h
  simp only [normal, mk.injEq] at hn
  rw [beq_iff]
  simp [normal, rebased, hn]

end Violation

end ObjectValidation
