import ObjectValidation.Calendar.Pattern
import Mathlib.Data.List.Forall2
import Mathlib.Data.List.Basic

/-!
What is written by a pattern can be read back. A numeral goes on for as long as digits follow, whether it has
zeros in front or not, so a pattern in which no numeral is followed by a digit tells every field of it, with
anything behind it that does not begin with a digit itself. The sign of a year does no harm: it comes first.
-/

namespace ObjectValidation

/-! Numerals. -/

/-- A numeral before this text ends where it does. -/
def EndsNumeral (rest : List Char) : Prop := ∀ c ∈ rest.head?, c.isDigit = false

theorem endsNumeral_nil : EndsNumeral [] := by simp [EndsNumeral]

theorem endsNumeral_cons {c : Char} (h : c.isDigit = false) (rest : List Char) :
    EndsNumeral (c :: rest) := by
  simpa [EndsNumeral] using h

theorem padded_zero (n : Nat) : padded 0 n = toString n := by simp [padded]

theorem toList_padded (width n : Nat) :
    (padded width n).toList =
      List.replicate (width - (toString n).length) '0' ++ Nat.toDigits 10 n := by
  rw [padded, String.toList_append, String.toList_ofList, Nat.toString_eq_repr, Nat.toList_repr]

theorem isDigit_of_mem_padded {width n : Nat} : ∀ c ∈ (padded width n).toList, c.isDigit = true := by
  intro c hc
  rw [toList_padded, List.mem_append, List.mem_replicate] at hc
  obtain ⟨-, rfl⟩ | hc := hc
  · rfl
  · exact Nat.isDigit_of_mem_toDigits (by decide) (by decide) hc

theorem ofDigitChars_padded (width n : Nat) : Nat.ofDigitChars 10 (padded width n).toList 0 = n := by
  rw [toList_padded, Nat.ofDigitChars_append, Nat.ofDigitChars_replicate_zero, Nat.mul_zero,
    Nat.ofDigitChars_ten_toDigits]

theorem takeWhile_padded_append {width n : Nat} {rest : List Char} (h : EndsNumeral rest) :
    ((padded width n).toList ++ rest).takeWhile Char.isDigit = (padded width n).toList := by
  rw [List.takeWhile_append_of_pos isDigit_of_mem_padded]
  cases rest with
  | nil => simp
  | cons c rest => simp [h c rfl]

/-- A numeral of any width is read back with what follows it. -/
theorem padded_append_inj {width width' m n : Nat} {rest rest' : List Char} (hrest : EndsNumeral rest)
    (hrest' : EndsNumeral rest')
    (h : (padded width m).toList ++ rest = (padded width' n).toList ++ rest') : m = n ∧ rest = rest' := by
  have hdigits : (padded width m).toList = (padded width' n).toList := by
    rw [← takeWhile_padded_append hrest, h, takeWhile_padded_append hrest']
  refine ⟨?_, (List.append_inj h (by rw [hdigits])).2⟩
  rw [← ofDigitChars_padded width m, hdigits, ofDigitChars_padded]

theorem padded_append_ne_cons {width n : Nat} {rest tail : List Char} {c : Char} (hc : c.isDigit = false) :
    (padded width n).toList ++ rest ≠ c :: tail := by
  intro h
  cases hdigits : (padded width n).toList with
  | nil =>
    rw [toList_padded] at hdigits
    exact Nat.toDigits_ne_nil (List.append_eq_nil_iff.mp hdigits).2
  | cons d digits =>
    rw [hdigits, List.cons_append, List.cons.injEq] at h
    have hd := isDigit_of_mem_padded d (hdigits ▸ List.mem_cons_self)
    rw [h.1, hc] at hd
    cases hd

namespace Date

def yearSign (year : Int) : Char := if year < 0 then '-' else '+'

theorem isDigit_yearSign (year : Int) : (yearSign year).isDigit = false := by
  rw [yearSign]
  split <;> rfl

theorem toList_yearText_of_mem {year : Int} (h : 0 ≤ year ∧ year ≤ 9999) :
    (yearText year).toList = (padded 4 year.toNat).toList := by
  rw [yearText, if_pos h]

theorem toList_yearText_of_notMem {year : Int} (h : ¬(0 ≤ year ∧ year ≤ 9999)) :
    (yearText year).toList = yearSign year :: (padded 4 year.natAbs).toList := by
  rw [yearText, if_neg h, yearSign]
  split <;> simp [String.toList_append]

/-- A year has a sign or four digits, and the sign is no digit. -/
theorem yearText_append_inj {year year' : Int} {rest rest' : List Char} (hrest : EndsNumeral rest)
    (hrest' : EndsNumeral rest')
    (h : (yearText year).toList ++ rest = (yearText year').toList ++ rest') :
    year = year' ∧ rest = rest' := by
  by_cases hy : 0 ≤ year ∧ year ≤ 9999 <;> by_cases hy' : 0 ≤ year' ∧ year' ≤ 9999
  · rw [toList_yearText_of_mem hy, toList_yearText_of_mem hy'] at h
    obtain ⟨hyear, hr⟩ := padded_append_inj hrest hrest' h
    exact ⟨by omega, hr⟩
  · rw [toList_yearText_of_mem hy, toList_yearText_of_notMem hy'] at h
    exact absurd h (padded_append_ne_cons (isDigit_yearSign year'))
  · rw [toList_yearText_of_notMem hy, toList_yearText_of_mem hy'] at h
    exact absurd h.symm (padded_append_ne_cons (isDigit_yearSign year))
  · rw [toList_yearText_of_notMem hy, toList_yearText_of_notMem hy', List.cons_append, List.cons_append,
      List.cons.injEq] at h
    obtain ⟨habs, hr⟩ := padded_append_inj hrest hrest' h.2
    have hsign : year < 0 ↔ year' < 0 := by
      have hchar := h.1
      unfold yearSign at hchar
      split_ifs at hchar with hneg hneg' hneg'
      · exact iff_of_true hneg hneg'
      · cases hchar
      · cases hchar
      · exact iff_of_false hneg hneg'
    exact ⟨by omega, hr⟩

end Date

/-! Fields. -/

/-- One thing that is written in a text, with what has to be known to write it. -/
inductive Field where
  | numeral (width n : Nat)
  | year (y : Int)
  | word (s : String)

namespace Field

def chars : Field → List Char
  | numeral width n => (padded width n).toList
  | year y => (Date.yearText y).toList
  | word s => s.toList

/-- Fields that are written for the same purpose. -/
inductive Alike : Field → Field → Prop where
  | numeral (width m n : Nat) : Alike (numeral width m) (numeral width n)
  | year (y z : Int) : Alike (year y) (year z)
  | word {s s' : String} (length_eq : s.length = s'.length) : Alike (word s) (word s')

def isNumber : Field → Bool
  | word _ => false
  | _ => true

/-- Whether the field begins with something other than a digit whatever is known. -/
def setsOff : Field → Bool
  | word s => s.toList.head?.any fun c => !c.isDigit
  | _ => false

/-- Every number but the last field is followed by a word that sets it off. -/
def SetApart (fields : List Field) : Prop :=
  fields.IsChain fun f g => f.isNumber = true → g.setsOff = true

theorem endsNumeral_append {f : Field} (h : f.setsOff = true) (rest : List Char) :
    EndsNumeral (f.chars ++ rest) := by
  cases f with
  | word s =>
    cases hs : s.toList with
    | nil => simp [setsOff, hs] at h
    | cons c cs =>
      have hc : c.isDigit = false := by simpa [setsOff, hs] using h
      simpa [chars, hs] using endsNumeral_cons hc (cs ++ rest)
  | numeral => cases h
  | year => cases h

theorem SetApart.endsNumeral {f : Field} {fields : List Field} {rest : List Char}
    (h : SetApart (f :: fields)) (hf : f.isNumber = true) (hrest : EndsNumeral rest) :
    EndsNumeral (fields.flatMap chars ++ rest) := by
  cases fields with
  | nil => exact hrest
  | cons g fields =>
    rw [List.flatMap_cons, List.append_assoc]
    exact endsNumeral_append ((List.isChain_cons_cons.mp h).1 hf) _

/-- A field is read back with what follows it. -/
theorem chars_append_inj {f g : Field} (h : Alike f g) {rest rest' : List Char}
    (hrest : f.isNumber = true → EndsNumeral rest) (hrest' : g.isNumber = true → EndsNumeral rest')
    (heq : f.chars ++ rest = g.chars ++ rest') : f = g ∧ rest = rest' := by
  cases h with
  | numeral width m n =>
    obtain ⟨rfl, hr⟩ := padded_append_inj (hrest rfl) (hrest' rfl) heq
    exact ⟨rfl, hr⟩
  | year y z =>
    obtain ⟨rfl, hr⟩ := Date.yearText_append_inj (hrest rfl) (hrest' rfl) heq
    exact ⟨rfl, hr⟩
  | word hlength =>
    obtain ⟨hs, hr⟩ := List.append_inj heq (by simpa only [chars, String.length_toList] using hlength)
    exact ⟨congrArg word (String.toList_inj.mp hs), hr⟩

/-- Fields that are set apart are all read back. -/
theorem flatMap_chars_append_inj {fields fields' : List Field} (h : List.Forall₂ Alike fields fields')
    (hapart : SetApart fields) (hapart' : SetApart fields') {rest rest' : List Char}
    (hrest : EndsNumeral rest) (hrest' : EndsNumeral rest')
    (heq : fields.flatMap chars ++ rest = fields'.flatMap chars ++ rest') :
    fields = fields' ∧ rest = rest' := by
  induction h with
  | nil => exact ⟨rfl, heq⟩
  | cons hfield _ ih =>
    rw [List.flatMap_cons, List.flatMap_cons, List.append_assoc, List.append_assoc] at heq
    obtain ⟨rfl, hbehind⟩ := chars_append_inj hfield (fun hf => hapart.endsNumeral hf hrest)
      (fun hf => hapart'.endsNumeral hf hrest') heq
    obtain ⟨rfl, hr⟩ := ih hapart.of_cons hapart'.of_cons hbehind
    exact ⟨rfl, hr⟩

/-- The same for a pattern that two things are written by. -/
theorem pattern_append_inj {π : Type} {field field' : π → Field} {pattern : List π}
    (halike : ∀ p, Alike (field p) (field' p)) (hapart : SetApart (pattern.map field))
    (hapart' : SetApart (pattern.map field')) {rest rest' : List Char} (hrest : EndsNumeral rest)
    (hrest' : EndsNumeral rest')
    (heq : (pattern.map field).flatMap chars ++ rest = (pattern.map field').flatMap chars ++ rest') :
    (∀ p ∈ pattern, field p = field' p) ∧ rest = rest' := by
  have hall : List.Forall₂ Alike (pattern.map field) (pattern.map field') := by
    rw [List.forall₂_map_left_iff, List.forall₂_map_right_iff, List.forall₂_same]
    exact fun p _ => halike p
  obtain ⟨hfields, hr⟩ := flatMap_chars_append_inj hall hapart hapart' hrest hrest' heq
  exact ⟨List.map_inj_left.mp hfields, hr⟩

end Field

/-! Days. -/

def DatePart.field (d : Date) : DatePart → Field
  | year => .year d.year
  | month => .numeral 2 d.month
  | monthPlain => .numeral 0 d.month
  | day => .numeral 2 d.day
  | dayPlain => .numeral 0 d.day
  | text s => .word s

theorem DatePart.toList_write (d : Date) (p : DatePart) : (p.write d).toList = (p.field d).chars := by
  cases p <;> simp [write, field, Field.chars, padded_zero]

theorem DatePart.field_alike (d e : Date) (p : DatePart) : (p.field d).Alike (p.field e) := by
  cases p <;> constructor
  rfl

namespace Date

theorem toList_write (pattern : List DatePart) (d : Date) :
    (d.write pattern).toList = (pattern.map (DatePart.field d)).flatMap Field.chars := by
  simp [write, String.toList_join, List.flatMap_map, DatePart.toList_write]

/-- A pattern that has all of a day in it, every number set apart from the next. -/
structure Legible (pattern : List DatePart) : Prop where
  setApart : ∀ d, Field.SetApart (pattern.map (DatePart.field d))
  year_mem : .year ∈ pattern
  month_mem : .month ∈ pattern ∨ .monthPlain ∈ pattern
  day_mem : .day ∈ pattern ∨ .dayPlain ∈ pattern

/-- A day is read back with what follows it. -/
theorem write_append_inj {pattern : List DatePart} (h : Legible pattern) {d e : Date}
    {rest rest' : List Char} (hrest : EndsNumeral rest) (hrest' : EndsNumeral rest')
    (heq : (d.write pattern).toList ++ rest = (e.write pattern).toList ++ rest') :
    d = e ∧ rest = rest' := by
  rw [toList_write, toList_write] at heq
  obtain ⟨hfields, hr⟩ :=
    Field.pattern_append_inj (DatePart.field_alike d e) (h.setApart d) (h.setApart e) hrest hrest' heq
  have hyear : d.year = e.year := by simpa [DatePart.field] using hfields _ h.year_mem
  have hmonth : d.month = e.month := by
    obtain hm | hm := h.month_mem <;> simpa [DatePart.field] using hfields _ hm
  have hday : d.day = e.day := by
    obtain hm | hm := h.day_mem <;> simpa [DatePart.field] using hfields _ hm
  refine ⟨?_, hr⟩
  cases d
  cases e
  simp_all

end Date

/-! Times. -/

namespace TimePart

/-- The halves of the day are told apart, and so are the hours in each of them. -/
theorem hourOfHalf_inj {hour hour' : Nat} (hlt : hour < 24) (hlt' : hour' < 24)
    (hhalf : hour < 12 ↔ hour' < 12) (h : hourOfHalf hour = hourOfHalf hour') : hour = hour' := by
  unfold hourOfHalf at h
  split_ifs at h <;> omega

def halfText (hour : Nat) : String := if hour < 12 then "AM" else "PM"

theorem halfText_inj_iff {hour hour' : Nat} :
    halfText hour = halfText hour' ↔ (hour < 12 ↔ hour' < 12) := by
  unfold halfText
  split_ifs with h h' h' <;> simp [h, h']

def field (t : TimeOfDay) : TimePart → Field
  | hour => .numeral 2 t.hour
  | hourOfHalfPlain => .numeral 0 (hourOfHalf t.hour)
  | minute => .numeral 2 t.minute
  | second => .numeral 2 t.shownSecond
  | half => .word (halfText t.hour)
  | text s => .word s

theorem toList_write (t : TimeOfDay) (p : TimePart) : (p.write t).toList = (p.field t).chars := by
  cases p <;> simp [write, field, Field.chars, padded_zero, halfText]

theorem length_halfText (hour : Nat) : (halfText hour).length = 2 := by
  unfold halfText
  split <;> rfl

theorem field_alike (t u : TimeOfDay) (p : TimePart) : (p.field t).Alike (p.field u) := by
  cases p with
  | half => exact .word (by rw [length_halfText, length_halfText])
  | text => exact .word rfl
  | _ => constructor

end TimePart

namespace TimeOfDay

/-- The time without its fraction, which leaves none or a thousand million of the nanoseconds. -/
def withoutFraction (t : TimeOfDay) : TimeOfDay where
  hour := t.hour
  minute := t.minute
  second := t.second
  nanosecond := t.nanosecond / 1000000000 * 1000000000
  hour_lt := t.hour_lt
  minute_lt := t.minute_lt
  second_lt := t.second_lt
  nanosecond_lt := Nat.lt_of_le_of_lt (Nat.div_mul_le_self _ _) t.nanosecond_lt

/-- A thousand million nanoseconds or more stand for a leap second, at the end of a minute. -/
def LeapsAtEnd (t : TimeOfDay) : Prop := 1000000000 ≤ t.nanosecond → t.second = 59

/-- A clock shows the same at both times. Where only leap seconds have more than a thousand million nanoseconds, the
times are the same but for the fraction of the second. -/
structure SameUpToFraction (t u : TimeOfDay) : Prop where
  hour_eq : t.hour = u.hour
  minute_eq : t.minute = u.minute
  shownSecond_eq : t.shownSecond = u.shownSecond
  withoutFraction_eq : t.LeapsAtEnd → u.LeapsAtEnd → t.withoutFraction = u.withoutFraction

/-- Only a leap second is shown as 60, so the second that is shown tells the one that is meant. -/
theorem shownSecond_inj {t u : TimeOfDay} (ht : t.LeapsAtEnd) (hu : u.LeapsAtEnd)
    (h : t.shownSecond = u.shownSecond) :
    t.second = u.second ∧ t.nanosecond / 1000000000 = u.nanosecond / 1000000000 := by
  have htn := t.nanosecond_lt
  have hun := u.nanosecond_lt
  have hts := t.second_lt
  have hus := u.second_lt
  unfold LeapsAtEnd at ht hu
  unfold shownSecond at h
  omega

theorem SameUpToFraction.of_shown {t u : TimeOfDay} (hhour : t.hour = u.hour) (hminute : t.minute = u.minute)
    (hshown : t.shownSecond = u.shownSecond) : t.SameUpToFraction u where
  hour_eq := hhour
  minute_eq := hminute
  shownSecond_eq := hshown
  withoutFraction_eq ht hu := by
    obtain ⟨hsecond, hleap⟩ := shownSecond_inj ht hu hshown
    simp [withoutFraction, hhour, hminute, hsecond, hleap]

theorem SameUpToFraction.refl (t : TimeOfDay) : t.SameUpToFraction t := .of_shown rfl rfl rfl

theorem toList_write (pattern : List TimePart) (t : TimeOfDay) :
    (t.write pattern).toList = (pattern.map (TimePart.field t)).flatMap Field.chars := by
  simp [write, String.toList_join, List.flatMap_map, TimePart.toList_write]

/-- A pattern that has all of a time but the fraction in it, every number set apart from the next. -/
structure Legible (pattern : List TimePart) : Prop where
  setApart : ∀ t, Field.SetApart (pattern.map (TimePart.field t))
  hour_mem : .hour ∈ pattern ∨ .hourOfHalfPlain ∈ pattern ∧ .half ∈ pattern
  minute_mem : .minute ∈ pattern
  second_mem : .second ∈ pattern

/-- A time is read back as a clock shows it. -/
theorem write_inj {pattern : List TimePart} (h : Legible pattern) {t u : TimeOfDay}
    (heq : t.write pattern = u.write pattern) : t.SameUpToFraction u := by
  have hchars : (pattern.map (TimePart.field t)).flatMap Field.chars ++ [] =
      (pattern.map (TimePart.field u)).flatMap Field.chars ++ [] := by
    rw [List.append_nil, List.append_nil, ← toList_write, ← toList_write, heq]
  obtain ⟨hfields, -⟩ := Field.pattern_append_inj (TimePart.field_alike t u) (h.setApart t) (h.setApart u)
    endsNumeral_nil endsNumeral_nil hchars
  have hhour : t.hour = u.hour := by
    obtain hm | ⟨hm, hhalf⟩ := h.hour_mem
    · simpa [TimePart.field] using hfields _ hm
    · have hdial : TimePart.hourOfHalf t.hour = TimePart.hourOfHalf u.hour := by
        simpa [TimePart.field] using hfields _ hm
      have hsame : TimePart.halfText t.hour = TimePart.halfText u.hour := by
        simpa [TimePart.field] using hfields _ hhalf
      exact TimePart.hourOfHalf_inj t.hour_lt u.hour_lt (TimePart.halfText_inj_iff.mp hsame) hdial
  have hminute : t.minute = u.minute := by simpa [TimePart.field] using hfields _ h.minute_mem
  have hshown : t.shownSecond = u.shownSecond := by
    simpa [TimePart.field] using hfields _ h.second_mem
  exact .of_shown hhour hminute hshown

end TimeOfDay

end ObjectValidation
