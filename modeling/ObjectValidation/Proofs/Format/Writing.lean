import ObjectValidation.Format.Registry

/-!
What the text of a value depends on. Writing need not end, since a formatter may ask for any value, so beside the
function that writes stands a relation that says what is written. Writing a value remembers types of enumeration
values, but that memory is only read when a type is looked up by its name. So the text depends on the declarations and
the overrides alone, and those stay as they are.
-/

namespace ObjectValidation

namespace TypeGraph

theorem parents_congr {g h : TypeGraph} (hdecls : g.decls = h.decls) (t : TypeName) :
    g.parents t = h.parents t := by
  simp only [parents, get?, hdecls]

theorem walk_congr {g h : TypeGraph} (hdecls : g.decls = h.decls) (visited queue : List TypeName) :
    g.walk visited queue = h.walk visited queue := by
  induction visited, queue using walk.induct g with
  | case1 visited => rw [walk, walk]
  | case2 visited t rest hskip ih => rw [walk, if_pos hskip, ih, walk, if_pos hskip]
  | case3 visited t rest hnew ih =>
    rw [walk, if_neg hnew, ih, walk, if_neg hnew, parents_congr hdecls]

theorem ancestryOf_congr {g h : TypeGraph} (hdecls : g.decls = h.decls) (v : Value) :
    g.ancestryOf v = h.ancestryOf v := by
  have hstart : g.startParents (isEnumValue v) v.typeName = h.startParents (isEnumValue v) v.typeName := by
    rw [startParents, startParents, isDeclared, isDeclared, get?, get?, hdecls, parents_congr hdecls]
  rw [ancestryOf, ancestryOf, ancestryVia, ancestryVia, hstart, walk_congr hdecls]

theorem note_decls (g : TypeGraph) (v : Value) : (g.note v).decls = g.decls := by
  unfold note
  split <;> rfl

end TypeGraph

namespace FormatterRegistry

/-- A type that is a kind of number and has no formatter of its own is written by the one for numbers. -/
theorem new_formatterOf_number {v : Value}
    (hparents : new.types.startParents (TypeGraph.isEnumValue v) v.typeName = [TypeName.number])
    (hown : new.registered? v.typeName = none) : new.formatterOf v = Formatter.number := by
  have hnew : ¬ (TypeName.number = TypeName.any ∨ TypeName.number ∈ [v.typeName]) := by
    rw [List.mem_singleton, not_or]
    refine ⟨by decide, fun hsame => ?_⟩
    rw [← hsame] at hown
    cases hown
  rw [formatterOf, resolve, TypeGraph.ancestryOf, hparents, TypeGraph.ancestryVia, List.findSome?_cons, hown,
    TypeGraph.walk, if_neg hnew]
  rfl

/-- Two registries that differ at most in what they remember of values. -/
structure SameRules (r s : FormatterRegistry) : Prop where
  decls_eq : r.types.decls = s.types.decls
  overrides_eq : r.overrides = s.overrides

theorem SameRules.refl (r : FormatterRegistry) : SameRules r r := ⟨rfl, rfl⟩

theorem SameRules.trans {r s t : FormatterRegistry} (h : SameRules r s) (h' : SameRules s t) : SameRules r t :=
  ⟨h.decls_eq.trans h'.decls_eq, h.overrides_eq.trans h'.overrides_eq⟩

theorem SameRules.note {r s : FormatterRegistry} (h : SameRules r s) (v : Value) :
    SameRules (r.note v) s :=
  ⟨(TypeGraph.note_decls r.types v).trans h.decls_eq, h.overrides_eq⟩

theorem SameRules.formatterOf_eq {r s : FormatterRegistry} (h : SameRules r s) (v : Value) :
    r.formatterOf v = s.formatterOf v := by
  have hregistered : r.registered? = s.registered? := by
    funext t
    rw [registered?, registered?, h.overrides_eq]
  rw [formatterOf, formatterOf, resolve, resolve, TypeGraph.ancestryOf_congr h.decls_eq, hregistered,
    h.overrides_eq]

/-- What a lookup remembers changes no formatter. -/
theorem note_formatterOf (r : FormatterRegistry) (v : Value) : (r.note v).formatterOf = r.formatterOf :=
  funext ((SameRules.refl r).note v).formatterOf_eq

end FormatterRegistry

namespace Rendering

/-- What comes of a rendering, and the registry after it, when every part that is asked for is written by the
formatter of that part. -/
inductive Written (locale : Locale) : FormatterRegistry → Rendering → String → FormatterRegistry → Prop
  | done {r : FormatterRegistry} {text : String} : Written locale r (.done text) text r
  | ask {r middle last : FormatterRegistry} {part : Value} {next : String → Rendering}
      {text result : String}
      (answer : Written locale (r.note part) (r.formatterOf part locale part) text middle)
      (rest : Written locale middle (next text) result last) :
      Written locale r (.ask part next) result last

/-- Writing ends exactly if something is written, and with that. -/
theorem written?_eq_some_iff {locale : Locale} {r r' : FormatterRegistry} {rendering : Rendering} {text : String} :
    FormatterRegistry.written? locale r rendering = some (text, r') ↔ Written locale r rendering text r' := by
  constructor
  · intro h
    refine FormatterRegistry.written?.partial_correctness locale
      (fun r rendering result => Written locale r rendering result.1 result.2) ?_ r rendering (text, r') h
    intro approx ih r rendering result h
    cases rendering with
    | done text =>
      obtain rfl := Option.some.inj h
      exact .done
    | ask part next =>
      obtain ⟨⟨text, middle⟩, hanswer, hrest⟩ := Option.bind_eq_some_iff.1 h
      exact .ask (ih _ _ _ hanswer) (ih _ _ _ hrest)
  · intro h
    induction h with
    | done => rw [FormatterRegistry.written?]
    | ask answer rest ihanswer ihrest =>
      rw [FormatterRegistry.written?, ihanswer]
      exact ihrest

theorem written?_eq_none_iff {locale : Locale} {r : FormatterRegistry} {rendering : Rendering} :
    FormatterRegistry.written? locale r rendering = none ↔ ∀ text r', ¬ Written locale r rendering text r' := by
  rw [Option.eq_none_iff_forall_ne_some, Prod.forall]
  exact forall₂_congr fun text r' => not_congr written?_eq_some_iff

theorem Written.sameRules {locale : Locale} {r r' : FormatterRegistry} {rendering : Rendering} {text : String}
    (h : Written locale r rendering text r') : FormatterRegistry.SameRules r' r := by
  induction h with
  | done => exact .refl _
  | ask answer rest ihanswer ihrest =>
    exact ihrest.trans (ihanswer.trans ((FormatterRegistry.SameRules.refl _).note _))

/-- What is written from one registry is written from every other one with the same formatters. -/
theorem Written.congr {locale : Locale} {r r' s : FormatterRegistry} {rendering : Rendering} {text : String}
    (h : Written locale r rendering text r') (hsame : s.formatterOf = r.formatterOf) :
    ∃ s', Written locale s rendering text s' := by
  induction h generalizing s with
  | done => exact ⟨s, .done⟩
  | @ask r middle last part next text result answer rest ihanswer ihrest =>
    have hnote : (s.note part).formatterOf = (r.note part).formatterOf := by
      rw [FormatterRegistry.note_formatterOf, FormatterRegistry.note_formatterOf, hsame]
    obtain ⟨smiddle, sanswer⟩ := ihanswer hnote
    have hmiddle : smiddle.formatterOf = middle.formatterOf :=
      (funext sanswer.sameRules.formatterOf_eq).trans (hnote.trans (funext answer.sameRules.formatterOf_eq).symm)
    obtain ⟨slast, srest⟩ := ihrest hmiddle
    rw [← hsame] at sanswer
    exact ⟨slast, .ask sanswer srest⟩

end Rendering

namespace FormatterRegistry

/-- From every registry with the rules of this one the action gives the same result, and it keeps the rules. -/
def Gives {α : Type} (r : FormatterRegistry) (act : StateM FormatterRegistry α) (result : α) : Prop :=
  ∀ s, SameRules s r → ∃ s', SameRules s' r ∧ StateT.run act s = (result, s')

section

variable {α β : Type} {r : FormatterRegistry}

theorem gives_pure (a : α) : r.Gives (pure a) a := fun s h => ⟨s, h, rfl⟩

theorem Gives.bind {act : StateM FormatterRegistry α} {next : α → StateM FormatterRegistry β} {a : α}
    {b : β} (h : r.Gives act a) (hnext : r.Gives (next a) b) : r.Gives (act >>= next) b := by
  intro s hs
  obtain ⟨middle, hmiddle, hact⟩ := h s hs
  obtain ⟨last, hlast, hrest⟩ := hnext middle hmiddle
  refine ⟨last, hlast, ?_⟩
  rw [StateT.run_bind, hact]
  exact hrest

theorem Gives.fst_eq {act : StateM FormatterRegistry α} {a : α} (h : r.Gives act a) :
    (StateT.run act r).1 = a := by
  obtain ⟨s, -, hrun⟩ := h r (.refl r)
  exact congrArg Prod.fst hrun

theorem gives_lookUp (v : Value) : r.Gives (lookUp v) (r.formatterOf v) := by
  intro s hs
  refine ⟨s.note v, hs.note v, ?_⟩
  rw [← hs.formatterOf_eq]
  rfl

/-- Writing with a given formatter gives the same text from all registries with the same rules. -/
theorem exists_gives_formatWith (r : FormatterRegistry) (formatter : Formatter) (locale : Locale) (v : Value) :
    ∃ text, r.Gives (formatWith formatter locale v) text := by
  by_cases hends : ∃ text r', Rendering.Written locale r (formatter locale v) text r'
  · obtain ⟨text, r', hwritten⟩ := hends
    refine ⟨text, fun s hs => ?_⟩
    obtain ⟨s', hs'⟩ := hwritten.congr (funext hs.formatterOf_eq)
    refine ⟨s', hs'.sameRules.trans hs, ?_⟩
    show (written? locale s (formatter locale v)).getD (v.display, s) = _
    rw [Rendering.written?_eq_some_iff.2 hs', Option.getD_some]
  · refine ⟨v.display, fun s hs => ⟨s, hs, ?_⟩⟩
    have hnever : written? locale s (formatter locale v) = none := by
      refine Rendering.written?_eq_none_iff.2 fun text s' hwritten => hends ⟨text, ?_⟩
      exact hwritten.congr (funext hs.formatterOf_eq).symm
    show (written? locale s (formatter locale v)).getD (v.display, s) = _
    rw [hnever, Option.getD_none]

theorem exists_gives_format (r : FormatterRegistry) (locale : Locale) (v : Value) :
    ∃ text, r.Gives (format locale v) text := by
  obtain ⟨text, hgives⟩ := r.exists_gives_formatWith (r.formatterOf v) locale v
  exact ⟨text, (gives_lookUp v).bind hgives⟩

end

/-- The text of a value for a locale. -/
def text (r : FormatterRegistry) (locale : Locale) (v : Value) : String :=
  (StateT.run (format locale v) r).1

theorem gives_format (r : FormatterRegistry) (locale : Locale) (v : Value) :
    r.Gives (format locale v) (r.text locale v) := by
  obtain ⟨given, hgives⟩ := r.exists_gives_format locale v
  have htext : r.text locale v = given := hgives.fst_eq
  exact htext ▸ hgives

/-- The value is written as the text, and the registry is the second one afterwards. -/
def Writes (r : FormatterRegistry) (locale : Locale) (v : Value) (text : String)
    (r' : FormatterRegistry) : Prop :=
  Rendering.Written locale (r.note v) (r.formatterOf v locale v) text r'

theorem format_eq (r : FormatterRegistry) (locale : Locale) (v : Value) :
    StateT.run (format locale v) r =
      (written? locale (r.note v) (r.formatterOf v locale v)).getD (v.display, r.note v) := rfl

/-- What is written is the text, and writing leaves the registry as the relation says. -/
theorem Writes.run_eq {r r' : FormatterRegistry} {locale : Locale} {v : Value} {text : String}
    (h : r.Writes locale v text r') : StateT.run (format locale v) r = (text, r') := by
  rw [format_eq, Rendering.written?_eq_some_iff.2 h, Option.getD_some]

theorem Writes.text_eq {r r' : FormatterRegistry} {locale : Locale} {v : Value} {text : String}
    (h : r.Writes locale v text r') : r.text locale v = text := congrArg Prod.fst h.run_eq

theorem Writes.formatterOf_eq {r r' : FormatterRegistry} {locale : Locale} {v : Value} {text : String}
    (h : r.Writes locale v text r') : r'.formatterOf = r.formatterOf :=
  (funext h.sameRules.formatterOf_eq).trans (note_formatterOf r v)

/-- Writing the value comes to an end. -/
def Finishes (r : FormatterRegistry) (locale : Locale) (v : Value) : Prop := ∃ text r', r.Writes locale v text r'

/-- The plain form stands for the text of a value whose writing never ends. -/
theorem run_eq_of_not_finishes {r : FormatterRegistry} {locale : Locale} {v : Value} (h : ¬ r.Finishes locale v) :
    StateT.run (format locale v) r = (v.display, r.note v) := by
  have hnever : written? locale (r.note v) (r.formatterOf v locale v) = none :=
    Rendering.written?_eq_none_iff.2 fun text r' hwritten => h ⟨text, r', hwritten⟩
  rw [format_eq, hnever, Option.getD_none]

/-- A value that is written without asking for others. -/
theorem writes_of_done {r : FormatterRegistry} {locale : Locale} {v : Value} {text : String}
    (h : r.formatterOf v locale v = .done text) : r.Writes locale v text (r.note v) := by
  rw [Writes, h]
  exact .done

theorem text_of_done {r : FormatterRegistry} {locale : Locale} {v : Value} {text : String}
    (h : r.formatterOf v locale v = .done text) : r.text locale v = text := (writes_of_done h).text_eq

/-- Without rules of one's own a text is written as it is. -/
theorem new_text_text (locale : Locale) (s : String) : new.text locale (.text s) = s := by
  apply text_of_done
  have hparents : new.types.startParents (TypeGraph.isEnumValue (.text s)) (Value.text s).typeName = [] := rfl
  rw [formatterOf, TypeGraph.ancestryOf, hparents, TypeGraph.ancestryVia, TypeGraph.walk]
  rfl

end FormatterRegistry

end ObjectValidation
