import ObjectValidation.Proofs.Value.NormalForm
import Mathlib.Data.Int.CharZero

/-!
What hashing reads of captured values tells exactly what equality looks at. Each value says its kind first and each
sequence its length, so where the tokens of a value end can be read off them, and two values that may be followed by
anything have the same tokens only if they are equal.
-/

namespace ObjectValidation

theorem Date.eq_iff {a b : Date} : a = b ↔ a.year = b.year ∧ a.month = b.month ∧ a.day = b.day := by
  cases a
  cases b
  simp

theorem TimeOfDay.eq_iff {a b : TimeOfDay} :
    a = b ↔ a.hour = b.hour ∧ a.minute = b.minute ∧ a.second = b.second ∧ a.nanosecond = b.nanosecond := by
  cases a
  cases b
  simp

theorem DateTime.eq_iff {a b : DateTime} : a = b ↔ a.date = b.date ∧ a.time = b.time := by
  cases a
  cases b
  simp

theorem Instant.eq_iff {a b : Instant} : a = b ↔ a.utc = b.utc := by
  cases a
  cases b
  simp

namespace Value

theorem boolToken_inj {a b : Bool} : (if a then 1 else 0 : Int) = (if b then 1 else 0) ↔ a = b := by
  cases a <;> cases b <;> decide

theorem dateTokens_append_iff {a b : Date} {s t : List Token} :
    dateTokens a ++ s = dateTokens b ++ t ↔ a = b ∧ s = t := by
  simp [dateTokens, Date.eq_iff, and_assoc]

theorem timeTokens_append_iff {a b : TimeOfDay} {s t : List Token} :
    timeTokens a ++ s = timeTokens b ++ t ↔ a = b ∧ s = t := by
  simp [timeTokens, TimeOfDay.eq_iff, and_assoc]

mutual

theorem tokens_append_iff (v w : Value) (s t : List Token) :
    v.tokens ++ s = w.tokens ++ t ↔ v.normal = w.normal ∧ s = t := by
  -- Off the diagonal the first tokens differ; on it they are followed by the contents.
  cases v <;> cases w <;>
    simp [tokens, normal, boolToken_inj, Int64.toInt_inj, Double.normal_eq_iff, Decimal.eq_iff,
      Char.toNat_inj, dateTokens_append_iff, timeTokens_append_iff, DateTime.eq_iff, Instant.eq_iff,
      itemTokens_append_iff, fieldTokens_append_iff, and_assoc]

/-- Items do not say where they end, but their number is known before. -/
theorem itemTokens_append_iff : (a b : List Value) → (s t : List Token) →
    (a.length = b.length ∧ itemTokens a ++ s = itemTokens b ++ t ↔ normalItems a = normalItems b ∧ s = t)
  | [], [], _, _ => by simp [itemTokens]
  | [], _ :: _, _, _ => by simp [normalItems]
  | _ :: _, [], _, _ => by simp [normalItems]
  | v :: a, w :: b, s, t => by
    simp only [itemTokens, normalItems, List.append_assoc, List.length_cons, Nat.succ.injEq, List.cons.injEq,
      tokens_append_iff v w]
    rw [and_left_comm, itemTokens_append_iff a b s t, and_assoc]

theorem fieldTokens_append_iff : (a b : List (String × Value)) → (s t : List Token) →
    (a.length = b.length ∧ fieldTokens a ++ s = fieldTokens b ++ t ↔ normalFields a = normalFields b ∧ s = t)
  | [], [], _, _ => by simp [fieldTokens]
  | [], _ :: _, _, _ => by simp [normalFields]
  | _ :: _, [], _, _ => by simp [normalFields]
  | (m, v) :: a, (n, w) :: b, s, t => by
    simp only [fieldTokens, normalFields, List.cons_append, List.append_assoc, List.length_cons, Nat.succ.injEq,
      List.cons.injEq, Token.text.injEq, Prod.mk.injEq, tokens_append_iff v w]
    rw [and_left_comm, and_left_comm (a := a.length = b.length), fieldTokens_append_iff a b s t]
    simp only [and_assoc]

end

/-- Equal values, and only they, give the same tokens. -/
theorem beq_iff_tokens (v w : Value) : (v == w) = true ↔ v.tokens = w.tokens := by
  have htokens := tokens_append_iff v w [] []
  rw [List.append_nil, List.append_nil] at htokens
  rw [beq_iff, htokens]
  exact (and_iff_left rfl).symm

theorem typeName_normal (v : Value) : v.normal.typeName = v.typeName := by cases v <;> rfl

theorem ctorIdx_normal (v : Value) : v.normal.ctorIdx = v.ctorIdx := by cases v <;> rfl

/-- Equal values have the same type and are made by the same constructor. -/
theorem typeName_eq_of_beq {v w : Value} (h : (v == w) = true) :
    v.typeName = w.typeName ∧ v.ctorIdx = w.ctorIdx := by
  have hnormal := (beq_iff v w).mp h
  rw [← typeName_normal v, ← ctorIdx_normal v, hnormal, typeName_normal, ctorIdx_normal]
  exact ⟨rfl, rfl⟩

end Value

theorem Constraint.beq_iff_tokens (c d : Constraint) : (c == d) = true ↔ c.tokens = d.tokens := by
  have hparams := Value.fieldTokens_append_iff c.params d.params [] []
  rw [List.append_nil, List.append_nil, and_iff_left (rfl : ([] : List Value.Token) = [])] at hparams
  simp [beq_iff, normal, tokens, ← hparams]

end ObjectValidation
