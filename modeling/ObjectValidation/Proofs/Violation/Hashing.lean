import ObjectValidation.Proofs.Value.Tokens
import ObjectValidation.Proofs.Violation.Set

/-!
Violations in hashed sets. A hashed set compares what is inserted only to the elements that it meets while probing.
As equal violations are hashed alike, it meets the one that is there already, so it keeps what a set that compares
with every element keeps, in the same order.
-/

namespace ObjectValidation

namespace Violation

/-- What hashing reads of a violation. -/
def tokens (v : Violation) : List Value.Token :=
  .text v.path ::
    ((match v.value with
      | none => [.number 0]
      | some value => .number 1 :: value.tokens) ++ v.constraint.tokens)

theorem beq_iff_tokens (v w : Violation) : (v == w) = true ↔ v.tokens = w.tokens := by
  obtain ⟨p, a, c⟩ := v
  obtain ⟨q, b, d⟩ := w
  have hconstraint := (Constraint.beq_iff c d).symm.trans (Constraint.beq_iff_tokens c d)
  cases a <;> cases b <;> simp [beq_iff, normal, tokens, Value.tokens_append_iff, hconstraint]

end Violation

/-- How a hashed set looks for an element: by a code of its tokens, among the elements met on the way. Those of the
same code are always met; which others are met may depend on the codes of all that the set holds. -/
structure Probing where
  Code : Type
  code : List Value.Token → Code
  meets : List Code → Code → Code → Bool
  meets_self (held : List Code) (c : Code) : meets held c c = true

namespace Probing

variable {α : Type} [BEq α] (p : Probing) (tokens : α → List Value.Token)

/-- Whether an element that is met on the way is equal. -/
def finds (held : List α) (a : α) : Bool :=
  held.any fun b =>
    p.meets (held.map fun c => p.code (tokens c)) (p.code (tokens b)) (p.code (tokens a)) && b == a

/-- Inserts an element at the end unless an equal one is found. -/
def insert (held : List α) (a : α) : List α := if p.finds tokens held a then held else held ++ [a]

def collect (items : List α) : List α := items.foldl (p.insert tokens) []

variable {tokens}

/-- Where equal elements have the same tokens, probing misses none of them. -/
theorem finds_eq (htokens : ∀ a b : α, (a == b) = true → tokens a = tokens b) (held : List α) (a : α) :
    p.finds tokens held a = held.any fun b => b == a := by
  unfold finds
  congr 1
  funext b
  cases hba : b == a with
  | false => exact Bool.and_false _
  | true => rw [htokens b a hba, p.meets_self, Bool.and_true]

theorem collect_violations (vs : List Violation) :
    p.collect Violation.tokens vs = (ViolationSet.ofList vs).toList := by
  have hinsert (s : ViolationSet) (v : Violation) :
      p.insert Violation.tokens s.toList v = (s.insert v).toList := by
    have hfinds : p.finds Violation.tokens s.toList v = s.contains v :=
      p.finds_eq (fun v w => (Violation.beq_iff_tokens v w).mp) s.toList v
    rw [insert, hfinds]
    cases h : s.contains v with
    | true => rw [ViolationSet.insert_of_contains h, if_pos rfl]
    | false => rw [ViolationSet.insert_of_not_contains h, if_neg Bool.false_ne_true]
  have hall (s : ViolationSet) :
      vs.foldl (p.insert Violation.tokens) s.toList = (s.insertAll vs).toList := by
    induction vs generalizing s with
    | nil => rfl
    | cons v vs ih => rw [List.foldl_cons, hinsert, ih, ViolationSet.insertAll_cons]
  exact hall ∅

/-- Of two violations the second is dropped exactly if it is equal to the first. -/
theorem collect_pair_iff (v w : Violation) : p.collect Violation.tokens [v, w] = [v] ↔ (v == w) = true := by
  rw [collect_violations, ViolationSet.ofList_toList, List.eraseDups_cons]
  have hcomm : (w == v) = (v == w) := BEq.comm
  cases h : v == w with
  | true => simp [hcomm, h]
  | false => simp [hcomm, h, List.eraseDups_cons]

end Probing

theorem Value.hash_eq_of_beq {v w : Value} (h : (v == w) = true) : hash v = hash w :=
  congrArg (fun t : List Value.Token => hash t) ((Value.beq_iff_tokens v w).mp h)

/-- Equality of values is an equivalence. Equal values are of the same type and kind, and they, and no others, feed
hashing alike. So however a hashed set probes, two violations are one element of it exactly if they are equal, and it
holds of any violations the first of all equal ones, in order. -/
theorem equality_respected_by_hashing :
    (∀ v : Value, (v == v) = true) ∧
    (∀ v w : Value, (v == w) = true → (w == v) = true) ∧
    (∀ u v w : Value, (u == v) = true → (v == w) = true → (u == w) = true) ∧
    (∀ v w : Value, (v == w) = true → v.typeName = w.typeName ∧ v.ctorIdx = w.ctorIdx) ∧
    (∀ v w : Value, (v == w) = true ↔ v.tokens = w.tokens) ∧
    (∀ v w : Value, (v == w) = true → hash v = hash w) ∧
    (∀ (p : Probing) (v w : Violation), p.collect Violation.tokens [v, w] = [v] ↔ (v == w) = true) ∧
    ∀ (p : Probing) (vs : List Violation),
      p.collect Violation.tokens vs = (ViolationSet.ofList vs).toList :=
  ⟨fun _ => BEq.rfl, fun _ _ => BEq.symm, fun _ _ _ => BEq.trans, fun _ _ => Value.typeName_eq_of_beq,
    Value.beq_iff_tokens, fun _ _ => Value.hash_eq_of_beq, Probing.collect_pair_iff, Probing.collect_violations⟩

/-- A measurement with a float of a given pattern and a zero of a given sign inside. -/
def measurement (reading zero : UInt64) : Value :=
  .object "Measurement" [("readings", .list [.float ⟨reading⟩, .array [.float ⟨zero⟩, .decimal ⟨10, 1⟩]])]

/-- Three patterns of not-a-number beside zeros of both signs. -/
theorem measurements_equal :
    let u := measurement 0x7ff8000000000000 0
    let v := measurement 0x7ff0000000000001 0x8000000000000000
    let w := measurement 0xfff8000000000000 0
    (u == v) = true ∧ (v == w) = true ∧ (w == u) = true ∧ u.typeName = w.typeName ∧ u.tokens = v.tokens := by
  intro u v w
  have huv : (u == v) = true := by decide +kernel
  have hvw : (v == w) = true := by decide +kernel
  obtain ⟨-, hsymm, htrans, htype, htokens, -⟩ := equality_respected_by_hashing
  have huw := htrans u v w huv hvw
  exact ⟨huv, hvw, hsymm u w huw, (htype u w huw).1, (htokens u v).mp huv⟩

end ObjectValidation
