import ObjectValidation.Json.Basic
import ObjectValidation.Json.Reader

/-!
Texts in JSON documents. Whatever characters a text is made of, reading its document gives the text back. An object of
texts is read as its characters are, and the texts are made of them afterwards.
-/

namespace ObjectValidation.Json

theorem unit?_hexDigit {n : Nat} (h : n < 0x20) :
    Reader.unit? '0' '0' (hexDigit (n / 16)) (hexDigit (n % 16)) = some n := by
  have hall : ∀ k : Fin 0x20,
      Reader.unit? '0' '0' (hexDigit (k.val / 16)) (hexDigit (k.val % 16)) = some k.val := by decide
  exact hall ⟨n, h⟩

/-- An escape is read as the one character that it stands for. -/
theorem stringRest_escapeChar (before : List Char) (c : Char) (rest : List Char) :
    Reader.stringRest before (escapeChar c ++ rest) = Reader.stringRest (c :: before) rest := by
  unfold escapeChar
  split
  case h_8 hquote hbackslash hline hreturn htab hback hfeed =>
    split
    · next hcontrol =>
      have hhigh : Reader.isHighSurrogate c.toNat = false := by
        simp only [Reader.isHighSurrogate, Bool.and_eq_false_iff, decide_eq_false_iff_not]
        omega
      have hlow : Reader.isLowSurrogate c.toNat = false := by
        simp only [Reader.isLowSurrogate, Bool.and_eq_false_iff, decide_eq_false_iff_not]
        omega
      simp only [List.cons_append, List.nil_append]
      rw [Reader.stringRest]
      simp [unit?_hexDigit hcontrol, hhigh, hlow]
    · next hplain =>
      have hstays : ¬ (c.toNat < 0x20 ∨ c = '\\') := not_or.2 ⟨hplain, hbackslash⟩
      rw [List.singleton_append, Reader.stringRest.eq_def]
      split
      case h_4 heq =>
        obtain ⟨rfl, rfl⟩ := List.cons.inj heq
        exact if_neg hstays
      all_goals simp_all
  all_goals rfl

theorem stringRest_escaped (before chars rest : List Char) :
    Reader.stringRest before (chars.flatMap escapeChar ++ '"' :: rest) =
      some (before.reverse ++ chars, rest) := by
  induction chars generalizing before with
  | nil => simp [Reader.stringRest]
  | cons c chars ih =>
    rw [List.flatMap_cons, List.append_assoc, stringRest_escapeChar, ih]
    simp

/-- Reading the document of a text gives the text. -/
theorem document_stringText (s : String) : Reader.document Reader.string (stringText s) = some s := by
  have hrest := stringRest_escaped [] s.toList []
  have htoken : Reader.token '"' ('"' :: (s.toList.flatMap escapeChar ++ ['"'])) =
      some ((), s.toList.flatMap escapeChar ++ ['"']) := rfl
  rw [Reader.document, stringText, String.toList_ofList, Reader.string, Reader.chars, htoken]
  simp [hrest, Reader.skipBlanks]

namespace Reader

/-- Reads items and makes something of each of them. -/
def mapped {α β : Type} (f : α → β) (item : Reader α) : Reader β := fun s => (item s).map (Prod.map f id)

section

variable {α β : Type} (f : α → β) (item : Reader α)

theorem manyRest_mapped (close : Char) (fuel : Nat) (s : List Char) :
    manyRest close (mapped f item) fuel s = mapped (List.map f) (manyRest close item fuel) s := by
  induction fuel generalizing s with
  | zero => rfl
  | succ fuel ih =>
    rw [mapped, manyRest, manyRest]
    cases token close s with
    | some _ => rfl
    | none =>
      cases token ',' s with
      | none => rfl
      | some after =>
        show (mapped f item after.2).bind _ = Option.map _ ((item after.2).bind _)
        rw [mapped]
        cases item after.2 with
        | none => rfl
        | some found =>
          show (manyRest close (mapped f item) fuel found.2).bind _ =
            Option.map _ ((manyRest close item fuel found.2).bind _)
          rw [ih, mapped]
          cases manyRest close item fuel found.2 <;> rfl

theorem many_mapped (opening close : Char) (s : List Char) :
    many opening close (mapped f item) s = mapped (List.map f) (many opening close item) s := by
  rw [mapped, many, many]
  cases token opening s with
  | none => rfl
  | some after =>
    cases hclose : token close after.2 with
    | some rest => simp [hclose]
    | none =>
      simp only [Option.bind_eq_bind, Option.bind_some, hclose, mapped]
      cases item after.2 with
      | none => rfl
      | some found =>
        simp only [Option.map_some, Option.bind_some, Prod.map, id]
        rw [manyRest_mapped, mapped]
        cases manyRest close item (found.2.length + 1) found.2 <;> rfl

end

/-- A member of an object of texts, as characters. -/
def member : Reader (List Char × List Char) := fun s => do
  let (name, s) ← chars s
  let (_, s) ← token ':' s
  let (text, s) ← chars s
  return ((name, text), s)

theorem object_string :
    object (fun _ => string) =
      mapped (List.map (Prod.map String.ofList String.ofList)) (many '\x7b' '\x7d' member) := by
  funext s
  rw [← many_mapped, object]
  congr 1
  funext s
  rw [mapped, member, string]
  cases chars s with
  | none => rfl
  | some name =>
    simp only [Option.map_some, Option.bind_eq_bind, Option.bind_some]
    cases token ':' name.2 with
    | none => rfl
    | some after =>
      simp only [Option.bind_some, string]
      cases chars after.2 <;> rfl

end Reader

end ObjectValidation.Json
