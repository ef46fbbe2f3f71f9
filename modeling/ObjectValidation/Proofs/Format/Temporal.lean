import ObjectValidation.Format.Temporal
import ObjectValidation.Proofs.Calendar.Writing

/-!
Days and times in a locale lose nothing of what a clock shows. The patterns of all locales are legible, a space ends
the day in front of a time, and what a moment at midnight leaves out is missed by no other moment: those have a time
behind the day.
-/

namespace ObjectValidation

/-! The patterns. -/

namespace Conventions

/-- Days and times are read back from how they are written. -/
structure Legible (c : Conventions) : Prop where
  date : Date.Legible c.date
  time : TimeOfDay.Legible c.time

end Conventions

structure DateTime.SameUpToFraction (t u : DateTime) : Prop where
  date_eq : t.date = u.date
  time : t.time.SameUpToFraction u.time

section

variable {c : Conventions}

theorem Date.write_inj (h : c.Legible) {d e : Date} (heq : d.write c.date = e.write c.date) : d = e := by
  have hchars : (d.write c.date).toList ++ [] = (e.write c.date).toList ++ [] := by rw [heq]
  exact (write_append_inj h.date endsNumeral_nil endsNumeral_nil hchars).1

theorem DateTime.toList_write (c : Conventions) (t : DateTime) :
    (t.write c).toList = (t.date.write c.date).toList ++ ' ' :: (t.time.write c.time).toList := by
  simp [write, String.toList_append]

theorem DateTime.write_inj (h : c.Legible) {t u : DateTime} (heq : t.write c = u.write c) :
    t.SameUpToFraction u := by
  have hchars := congrArg String.toList heq
  rw [toList_write, toList_write] at hchars
  obtain ⟨hdate, htime⟩ :=
    Date.write_append_inj h.date (endsNumeral_cons (by decide) _) (endsNumeral_cons (by decide) _) hchars
  exact ⟨hdate, TimeOfDay.write_inj h.time (String.toList_inj.mp (List.cons.inj htime).2)⟩

/-- No day alone is written as a day with a time is: the space behind the day would be missing. -/
theorem DateTime.write_ne_date (h : c.Legible) (t : DateTime) (d : Date) : t.write c ≠ d.write c.date := by
  intro heq
  have hchars := congrArg String.toList heq
  rw [toList_write, ← List.append_nil (d.write c.date).toList] at hchars
  cases (Date.write_append_inj h.date (endsNumeral_cons (by decide) _) endsNumeral_nil hchars).2

theorem Instant.write_inj (h : c.Legible) {t u : Instant} (heq : t.write c = u.write c) :
    t.utc.SameUpToFraction u.utc := by
  unfold write at heq
  split_ifs at heq with ht hu hu
  · have htime : t.utc.time.SameUpToFraction u.utc.time := by
      rw [ht, hu]
      exact .refl _
    exact ⟨Date.write_inj h heq, htime⟩
  · exact absurd heq.symm (DateTime.write_ne_date h u.utc t.utc.date)
  · exact absurd heq (DateTime.write_ne_date h t.utc u.utc.date)
  · exact DateTime.write_inj h heq

end

end ObjectValidation
