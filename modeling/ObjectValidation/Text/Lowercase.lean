import ObjectValidation.Text.CaseTable
import ObjectValidation.Text.Ranges

/-!
Lower case for all scripts. Two letters need more than a table of single characters: the dotted capital
I becomes two characters, and a capital sigma becomes a final sigma at the end of a word.
-/

namespace ObjectValidation.Text

/-- The code point that a row gives for a code point, if the row holds it. -/
def CaseRow.apply? (row : CaseRow) (n : Nat) : Option Nat :=
  if row.first ≤ n ∧ n ≤ row.last ∧ (n - row.first) % row.step = 0 then
    some (n + row.offset).toNat
  else none

def mapByRows (rows : List CaseRow) (c : Char) : Char :=
  match rows.findSome? fun row => row.apply? c.toNat with
  | some n => Char.ofNat n
  | none => c

/-- The lower-case form of a letter, apart from its surroundings. -/
def lowerChar (c : Char) : List Char :=
  if c = 'İ' then ['i', '\u0307'] else [mapByRows lowercaseRows c]

def isCased (c : Char) : Bool := inRanges casedRanges c

def isCaseIgnorable (c : Char) : Bool := inRanges caseIgnorableRanges c

/-- Whether the first character that matters for words is a cased letter. -/
def meetsCased (s : List Char) : Bool :=
  match s.dropWhile isCaseIgnorable with
  | c :: _ => isCased c
  | [] => false

/-- A capital sigma in lower case, given the text before it in reverse and the text after it. -/
def lowerSigma (before after : List Char) : Char :=
  if meetsCased before && !meetsCased after then 'ς' else 'σ'

def lowerFrom (before : List Char) : List Char → List Char
  | [] => []
  | c :: rest =>
    (if c = 'Σ' then [lowerSigma before rest] else lowerChar c) ++ lowerFrom (c :: before) rest

def lowercase (s : String) : String := String.ofList (lowerFrom [] s.toList)

end ObjectValidation.Text
