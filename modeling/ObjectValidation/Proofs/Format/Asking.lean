import ObjectValidation.Proofs.Format.Writing

/-!
What formatters ask for. All that writing takes from a registry are the formatters of values, so registries with the
same formatters write alike. Where it ends, a text is made of the texts that its formatter asks for; and it does end
while formatters ask only for the items of sequences.
-/

namespace ObjectValidation

/-- The items of a sequence. -/
def Value.items : Value → List Value
  | list items => items
  | array items => items
  | _ => []

namespace Rendering

/-- The text of a rendering when the texts of all values are known. -/
def textWith (write : Value → String) : Rendering → String
  | .done text => text
  | .ask part next => (next (write part)).textWith write

/-- Whatever answers it gets, the rendering asks only for some of the parts. -/
def AsksAmong (parts : List Value) : Rendering → Prop
  | .done _ => True
  | .ask part next => part ∈ parts ∧ ∀ text, (next text).AsksAmong parts

theorem textWith_askAll (text : Value → String) (values : List Value) (next : List String → Rendering) :
    (askAll values next).textWith text = (next (values.map text)).textWith text := by
  induction values generalizing next with
  | nil => rfl
  | cons v rest ih => exact ih fun texts => next (text v :: texts)

theorem asksAmong_askAll {parts values : List Value} {next : List String → Rendering}
    (hvalues : ∀ v ∈ values, v ∈ parts) (hnext : ∀ texts, (next texts).AsksAmong parts) :
    (askAll values next).AsksAmong parts := by
  induction values generalizing next with
  | nil => exact hnext []
  | cons v rest ih =>
    refine ⟨hvalues v List.mem_cons_self, fun text => ih ?_ fun texts => hnext (text :: texts)⟩
    exact fun w hw => hvalues w (List.mem_cons_of_mem v hw)

theorem textWith_congr {parts : List Value} {write write' : Value → String} {rendering : Rendering}
    (hasks : rendering.AsksAmong parts) (hsame : ∀ part ∈ parts, write part = write' part) :
    rendering.textWith write = rendering.textWith write' := by
  induction rendering with
  | done text => rfl
  | ask part next ih =>
    have hpart := hsame part hasks.1
    show (next (write part)).textWith write = (next (write' part)).textWith write'
    rw [ih _ (hasks.2 _), hpart]

end Rendering

theorem Formatter.sequence_asksAmong (locale : Locale) (v : Value) : (sequence locale v).AsksAmong v.items := by
  cases v with
  | list items => exact Rendering.asksAmong_askAll (fun _ h => h) fun _ => trivial
  | array items => exact Rendering.asksAmong_askAll (fun _ h => h) fun _ => trivial
  | _ => trivial

namespace FormatterRegistry

/-- Each value has the same text in both registries, or in neither of them any. -/
structure WriteAlike (r s : FormatterRegistry) : Prop where
  text_eq (locale : Locale) (v : Value) : r.text locale v = s.text locale v
  writes_iff (locale : Locale) (v : Value) (text : String) :
    (∃ r', r.Writes locale v text r') ↔ ∃ s', s.Writes locale v text s'

variable {r s : FormatterRegistry} {locale : Locale}

theorem Writes.congr {v : Value} {text : String} {r' : FormatterRegistry} (hwrites : r.Writes locale v text r')
    (h : s.formatterOf = r.formatterOf) : ∃ s', s.Writes locale v text s' := by
  have hnote : (s.note v).formatterOf = (r.note v).formatterOf := by
    rw [note_formatterOf, note_formatterOf, h]
  rw [Writes, ← h] at hwrites
  exact Rendering.Written.congr hwrites hnote

theorem Finishes.congr {v : Value} (hfinishes : r.Finishes locale v) (h : s.formatterOf = r.formatterOf) :
    s.Finishes locale v :=
  hfinishes.imp fun _ ⟨_, hwrites⟩ => hwrites.congr h

theorem Finishes.exists_writes {v : Value} (hfinishes : r.Finishes locale v) :
    ∃ r', r.Writes locale v (r.text locale v) r' := by
  obtain ⟨text, r', hwrites⟩ := hfinishes
  rw [hwrites.text_eq]
  exact ⟨r', hwrites⟩

theorem text_congr (h : s.formatterOf = r.formatterOf) (locale : Locale) (v : Value) :
    s.text locale v = r.text locale v := by
  by_cases hfinishes : r.Finishes locale v
  · obtain ⟨r', hwrites⟩ := hfinishes.exists_writes
    obtain ⟨s', hwrites'⟩ := hwrites.congr h
    exact hwrites'.text_eq
  · have hfinishes' : ¬ s.Finishes locale v := fun hs => hfinishes (hs.congr h.symm)
    rw [text, text, run_eq_of_not_finishes hfinishes, run_eq_of_not_finishes hfinishes']

theorem Writes.text_eq_of_formatterOf {v : Value} {text : String} {s' : FormatterRegistry}
    (hwrites : s.Writes locale v text s') (hs : s.formatterOf = r.formatterOf) : r.text locale v = text := by
  rw [← text_congr hs, hwrites.text_eq]

/-- Registries with the same formatter for each value write all values alike. -/
theorem writeAlike_of_formatterOf_eq (h : r.formatterOf = s.formatterOf) : r.WriteAlike s where
  text_eq := text_congr h
  writes_iff locale v text := by
    constructor
    · rintro ⟨r', hwrites⟩
      exact hwrites.congr h.symm
    · rintro ⟨s', hwrites⟩
      exact hwrites.congr h

/-- What is written comes from the texts of the values that are asked for. -/
theorem textWith_of_written {rendering : Rendering} {text : String} {s s' : FormatterRegistry}
    (hwritten : Rendering.Written locale s rendering text s') (hs : s.formatterOf = r.formatterOf) :
    rendering.textWith (r.text locale) = text := by
  induction hwritten with
  | done => rfl
  | @ask s middle last part next text result answer rest ihanswer ihrest =>
    have hwrites : s.Writes locale part text middle := answer
    show (next (r.text locale part)).textWith (r.text locale) = result
    rw [hwrites.text_eq_of_formatterOf hs]
    exact ihrest (hwrites.formatterOf_eq.trans hs)

theorem Finishes.text_eq {v : Value} (h : r.Finishes locale v) :
    r.text locale v = (r.formatterOf v locale v).textWith (r.text locale) := by
  obtain ⟨r', hwrites⟩ := h.exists_writes
  exact (textWith_of_written hwrites (note_formatterOf r v)).symm

/-- A rendering comes to an end if all values do that it may ask for. -/
theorem exists_written_of_asksAmong {rendering : Rendering} {parts : List Value}
    (hasks : rendering.AsksAmong parts) (hparts : ∀ part ∈ parts, r.Finishes locale part)
    (hs : s.formatterOf = r.formatterOf) : ∃ text s', Rendering.Written locale s rendering text s' := by
  induction rendering generalizing s with
  | done text => exact ⟨text, s, .done⟩
  | ask part next ih =>
    obtain ⟨text, middle, hwrites⟩ := (hparts part hasks.1).congr hs
    obtain ⟨result, last, hrest⟩ := ih text (hasks.2 text) (hwrites.formatterOf_eq.trans hs)
    exact ⟨result, last, .ask hwrites hrest⟩

theorem finishes_of_asksAmong {v : Value} {parts : List Value} (hasks : (r.formatterOf v locale v).AsksAmong parts)
    (hparts : ∀ part ∈ parts, r.Finishes locale part) : r.Finishes locale v :=
  exists_written_of_asksAmong hasks hparts (note_formatterOf r v)

/-- A sequence that is written as such has the texts of its items in their order, if all of them can be written. -/
theorem text_of_sequence {v : Value} (hv : v.items ≠ []) (h : r.formatterOf v = Formatter.sequence)
    (hitems : ∀ item ∈ v.items, r.Finishes locale item) :
    r.Finishes locale v ∧ r.text locale v = ", ".intercalate (v.items.map (r.text locale)) := by
  have hfinishes : r.Finishes locale v :=
    finishes_of_asksAmong (h ▸ Formatter.sequence_asksAmong locale v) hitems
  have hsequence : Formatter.sequence locale v = Formatter.joined ", " v.items := by
    cases v with
    | list items => rfl
    | array items => rfl
    | _ => exact absurd rfl hv
  refine ⟨hfinishes, ?_⟩
  rw [hfinishes.text_eq, h, hsequence, Formatter.joined, Rendering.textWith_askAll]
  rfl

end FormatterRegistry

end ObjectValidation
