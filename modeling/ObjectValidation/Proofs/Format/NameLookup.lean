import ObjectValidation.Proofs.Format.Calls
import ObjectValidation.Proofs.Types.NameLookup

/-!
Formatters looked up by the name of a type and by a value. What the calls of a registry do to its graph of types is a
history of calls of the graph: writing a value walks the value and all that is written on the way. So the two lookups
agree where the history of the graph makes the ancestries agree, also in copies of the graph that go their own way.
-/

namespace ObjectValidation

namespace Rendering

/-- What comes of a rendering when every part that is asked for is written by the formatter of that part, with the
values that are looked up for it, in order. -/
inductive WrittenBy (locale : Locale) :
    FormatterRegistry → Rendering → List Value → String → FormatterRegistry → Prop
  | done {r : FormatterRegistry} {text : String} : WrittenBy locale r (.done text) [] text r
  | ask {r middle last : FormatterRegistry} {part : Value} {next : String → Rendering}
      {looked others : List Value} {text result : String}
      (answer : WrittenBy locale (r.note part) (r.formatterOf part locale part) looked text middle)
      (rest : WrittenBy locale middle (next text) others result last) :
      WrittenBy locale r (.ask part next) (part :: looked ++ others) result last

theorem Written.exists_looked {locale : Locale} {r r' : FormatterRegistry} {rendering : Rendering}
    {text : String} (h : Written locale r rendering text r') :
    ∃ looked, WrittenBy locale r rendering looked text r' := by
  induction h with
  | done => exact ⟨[], .done⟩
  | ask answer rest ihanswer ihrest =>
    obtain ⟨looked, hanswer⟩ := ihanswer
    obtain ⟨others, hrest⟩ := ihrest
    exact ⟨_, .ask hanswer hrest⟩

theorem WrittenBy.written {locale : Locale} {r r' : FormatterRegistry} {rendering : Rendering}
    {looked : List Value} {text : String} (h : WrittenBy locale r rendering looked text r') :
    Written locale r rendering text r' := by
  induction h with
  | done => exact .done
  | ask answer rest ihanswer ihrest => exact .ask ihanswer ihrest

end Rendering

namespace FormatterRegistry

/-- The values whose formatters are looked up while a rendering is written, in order, if the writing ends. -/
def lookedUp? (r : FormatterRegistry) (locale : Locale) : Rendering → Option (List Value)
  | .done _ => some []
  | .ask part next => do
    let looked ← r |>.lookedUp? locale (r.formatterOf part locale part)
    let others ← r |>.lookedUp? locale (next (r.text locale part))
    some (part :: looked ++ others)
partial_fixpoint

/-- All values whose formatters are looked up while a value is written, in order. Where writing never ends, only the
value itself has been looked up. -/
def lookedUp (r : FormatterRegistry) (locale : Locale) (v : Value) : List Value :=
  v :: (r.lookedUp? locale (r.formatterOf v locale v)).getD []

theorem lookedUp?_of_writtenBy {r s s' : FormatterRegistry} {locale : Locale} {rendering : Rendering}
    {looked : List Value} {text : String} (h : Rendering.WrittenBy locale s rendering looked text s')
    (hs : s.formatterOf = r.formatterOf) : r.lookedUp? locale rendering = some looked := by
  induction h with
  | done => rw [lookedUp?]
  | @ask s middle last part next looked others text result answer rest ihanswer ihrest =>
    have hwrites : s.Writes locale part text middle := answer.written
    rw [lookedUp?, ← hs, ihanswer (by rw [note_formatterOf, hs]), hwrites.text_eq_of_formatterOf hs,
      ihrest (hwrites.formatterOf_eq.trans hs)]
    rfl

/-- Only for writing that ends there are such values. -/
theorem exists_written_of_lookedUp? {r s : FormatterRegistry} {locale : Locale} {rendering : Rendering}
    {looked : List Value} (h : r.lookedUp? locale rendering = some looked) (hs : s.formatterOf = r.formatterOf) :
    ∃ text s', Rendering.Written locale s rendering text s' := by
  refine lookedUp?.partial_correctness r locale
    (fun rendering _ => ∀ s : FormatterRegistry, s.formatterOf = r.formatterOf →
      ∃ text s', Rendering.Written locale s rendering text s') ?_ rendering looked h s hs
  intro approx ih rendering looked h s hs
  cases rendering with
  | done text => exact ⟨text, s, .done⟩
  | ask part next =>
    obtain ⟨looked, hanswer, hrest⟩ := Option.bind_eq_some_iff.1 h
    obtain ⟨others, hothers, -⟩ := Option.bind_eq_some_iff.1 hrest
    obtain ⟨text, middle, hwritten⟩ := ih _ _ hanswer (s.note part) (by rw [note_formatterOf, hs])
    rw [← hs] at hwritten
    have hwrites : s.Writes locale part text middle := hwritten
    obtain ⟨result, last, hlast⟩ := ih _ _ hothers middle (hwrites.formatterOf_eq.trans hs)
    rw [hwrites.text_eq_of_formatterOf hs] at hlast
    exact ⟨result, last, .ask hwritten hlast⟩

/-- What a call of the registry does to its graph. -/
def graphCalls (r : FormatterRegistry) : RegistryCall → List GraphCall
  | .declare d => [.declare d]
  | .set _ _ => []
  | .remove _ => []
  | .format v locale => (r.lookedUp locale v).map .ancestryOf
  | .formatterFor t => [.ancestry t]
  | .formatterOf v => [.ancestryOf v]
  | .ancestry t => [.ancestry t]
  | .ancestryOf v => [.ancestryOf v]

/-- The calls of the graph in a sequence of calls of the registry. -/
def history (r : FormatterRegistry) : List RegistryCall → List GraphCall
  | [] => []
  | call :: rest => r.graphCalls call ++ (r.after call).history rest

theorem types_of_writtenBy {locale : Locale} {r r' : FormatterRegistry} {rendering : Rendering}
    {looked : List Value} {text : String} (h : Rendering.WrittenBy locale r rendering looked text r') :
    r'.types = r.types.afterAll (looked.map .ancestryOf) := by
  induction h with
  | done => rfl
  | ask answer rest ihanswer ihrest =>
    rw [ihrest, ihanswer, List.cons_append, List.map_cons, List.map_append, TypeGraph.afterAll_cons,
      TypeGraph.afterAll_append]
    rfl

theorem types_after (r : FormatterRegistry) (call : RegistryCall) :
    (r.after call).types = r.types.afterAll (r.graphCalls call) := by
  cases call with
  | format v locale =>
    by_cases hfinishes : r.Finishes locale v
    · obtain ⟨text, r', hwrites⟩ := hfinishes
      obtain ⟨looked, hlooked⟩ := hwrites.exists_looked
      rw [after, hwrites.run_eq, types_of_writtenBy hlooked, graphCalls, lookedUp,
        lookedUp?_of_writtenBy hlooked (note_formatterOf r v)]
      rfl
    · have hnone : r.lookedUp? locale (r.formatterOf v locale v) = none := by
        refine Option.eq_none_iff_forall_ne_some.2 fun looked hlooked => hfinishes ?_
        exact exists_written_of_lookedUp? hlooked (note_formatterOf r v)
      rw [after, run_eq_of_not_finishes hfinishes, graphCalls, lookedUp, hnone]
      rfl
  | declare d => rfl
  | set t f => rfl
  | remove t => rfl
  | formatterFor t => rfl
  | formatterOf v => rfl
  | ancestry t => rfl
  | ancestryOf v => rfl

/-- The graph of a registry has the history of the registry's calls. -/
theorem types_afterAll (r : FormatterRegistry) (calls : List RegistryCall) :
    (r.afterAll calls).types = r.types.afterAll (r.history calls) := by
  induction calls generalizing r with
  | nil => rfl
  | cons call rest ih =>
    have hafter : r.afterAll (call :: rest) = (r.after call).afterAll rest := rfl
    rw [hafter, ih, history, TypeGraph.afterAll_append, types_after]

/-- A call leads from one registry to another by calls of the graph, when formatters may ask for all values. -/
def LeadsBy (r : FormatterRegistry) (call : RegistryCall) (made : List GraphCall) (r' : FormatterRegistry) : Prop :=
  match call with
  | .format v locale => ∃ looked text,
      Rendering.WrittenBy locale (r.note v) (r.formatterOf v locale v) looked text r' ∧
        made = (v :: looked).map .ancestryOf
  | other => r' = r.after other ∧ made = r.graphCalls other

inductive LeadsAlong : FormatterRegistry → List RegistryCall → List GraphCall → FormatterRegistry → Prop
  | nil {r : FormatterRegistry} : LeadsAlong r [] [] r
  | cons {r middle last : FormatterRegistry} {call : RegistryCall} {rest : List RegistryCall}
      {made history : List GraphCall} (first : r.LeadsBy call made middle)
      (others : LeadsAlong middle rest history last) : LeadsAlong r (call :: rest) (made ++ history) last

theorem LeadsTo.exists_made {r r' : FormatterRegistry} {call : RegistryCall} (h : r.LeadsTo call r') :
    ∃ made, r.LeadsBy call made r' := by
  cases call with
  | format v locale =>
    obtain ⟨text, hwrites⟩ := h
    obtain ⟨looked, hlooked⟩ := hwrites.exists_looked
    exact ⟨_, looked, text, hlooked, rfl⟩
  | declare d => exact ⟨_, h, rfl⟩
  | set t f => exact ⟨_, h, rfl⟩
  | remove t => exact ⟨_, h, rfl⟩
  | formatterFor t => exact ⟨_, h, rfl⟩
  | formatterOf v => exact ⟨_, h, rfl⟩
  | ancestry t => exact ⟨_, h, rfl⟩
  | ancestryOf v => exact ⟨_, h, rfl⟩

theorem LeadsThrough.exists_history {r r' : FormatterRegistry} {calls : List RegistryCall}
    (h : r.LeadsThrough calls r') : ∃ history, r.LeadsAlong calls history r' := by
  induction h with
  | nil => exact ⟨[], .nil⟩
  | cons first others ih =>
    obtain ⟨made, hmade⟩ := first.exists_made
    obtain ⟨history, hhistory⟩ := ih
    exact ⟨made ++ history, .cons hmade hhistory⟩

theorem LeadsBy.types_eq {r r' : FormatterRegistry} {call : RegistryCall} {made : List GraphCall}
    (h : r.LeadsBy call made r') : r'.types = r.types.afterAll made := by
  have hother (heq : r' = r.after call ∧ made = r.graphCalls call) : r'.types = r.types.afterAll made := by
    rw [heq.1, heq.2, types_after]
  cases call with
  | format v locale =>
    obtain ⟨looked, text, hlooked, rfl⟩ := h
    rw [types_of_writtenBy hlooked]
    rfl
  | declare d => exact hother h
  | set t f => exact hother h
  | remove t => exact hother h
  | formatterFor t => exact hother h
  | formatterOf v => exact hother h
  | ancestry t => exact hother h
  | ancestryOf v => exact hother h

theorem LeadsAlong.types_eq {r r' : FormatterRegistry} {calls : List RegistryCall} {history : List GraphCall}
    (h : r.LeadsAlong calls history r') : r'.types = r.types.afterAll history := by
  induction h with
  | nil => rfl
  | cons first others ih => rw [ih, first.types_eq, TypeGraph.afterAll_append]

/-- The name of the value's type has the ancestry of the value, and its formatter is that of the value. -/
def AgreesOn (r : FormatterRegistry) (v : Value) : Prop :=
  r.types.AgreesOn v ∧ r.formatterFor v.typeName = r.formatterOf v

/-- When the graph of a registry has this history, the registry agrees on a value as its graph does. -/
theorem lookUpsAgree_of_types {r : FormatterRegistry} {history : List GraphCall}
    (h : r.types = TypeGraph.standard.afterAll history) (v : Value) :
    LookUpsAgree .standard history v (r.AgreesOn v) := by
  have hnew : TypeGraph.standard.seenEnums = [] := rfl
  have hgraph := TypeGraph.lookUpsAgree_afterAll hnew history v
  rw [← h] at hgraph
  exact hgraph.imp fun hagrees => ⟨hagrees, congrArg r.resolve hagrees⟩

/-- Looking up a type by its name and looking up a value of it agree as the history of the graph tells: after any calls
of a new registry, in copies of its graph after further calls of their own, in every graph that began with nothing
remembered, and also where formatters may ask for the texts of all values. -/
theorem lookUps_agree (calls : List RegistryCall) (own : List GraphCall) (v : Value) :
    let r := new.afterAll calls
    LookUpsAgree .standard (new.history calls) v (r.AgreesOn v) ∧
    LookUpsAgree .standard (new.history calls ++ .copy :: own) v ((r.types.afterAll (.copy :: own)).AgreesOn v) ∧
    (∀ start : TypeGraph, start.seenEnums = [] → LookUpsAgree start own v ((start.afterAll own).AgreesOn v)) ∧
    (∀ s, new.LeadsThrough calls s → ∃ history, new.LeadsAlong calls history s) ∧
    ∀ history s, new.LeadsAlong calls history s → LookUpsAgree .standard history v (s.AgreesOn v) := by
  intro r
  have hnew : TypeGraph.standard.seenEnums = [] := rfl
  have htypes : r.types = TypeGraph.standard.afterAll (new.history calls) := new.types_afterAll calls
  refine ⟨lookUpsAgree_of_types htypes v, ?_, fun start hnew => TypeGraph.lookUpsAgree_afterAll hnew own v, ?_, ?_⟩
  · rw [htypes, ← TypeGraph.afterAll_append]
    exact TypeGraph.lookUpsAgree_afterAll hnew _ v
  · intro s hleads
    exact hleads.exists_history
  · intro history s hleads
    exact lookUpsAgree_of_types hleads.types_eq v

theorem writtenBy_child :
    Rendering.WrittenBy .root (new.note child) (new.formatterOf child .root child) [] "CHILD" (new.note child) := by
  have hchild : new.formatterOf child = Formatter.enum := by
    have hparents : new.types.startParents (TypeGraph.isEnumValue child) child.typeName = ["enum"] := rfl
    rw [formatterOf, TypeGraph.ancestryOf, hparents, TypeGraph.ancestryVia, TypeGraph.walk]
    rfl
  rw [hchild]
  exact .done

/-- An enumeration value is met, and in a copy its type is declared later on without the enumerations above it. A list
is looked up alike in a graph without declarations that met the enumeration value. -/
theorem lookUps_agree_kinship :
    let met := new.afterAll kinshipMet
    let later := [GraphCall.declare (.named "Kinship")]
    let own := [GraphCall.ancestryOf child, .copy]
    Meets (new.history kinshipMet) child.typeName ∧ met.AgreesOn child ∧
      ((met.types.afterAll (.copy :: later)).isDeclared child.typeName = true ∧
        (met.types.afterAll (.copy :: later)).AgreesOn child) ∧
      (TypeGraph.empty.seenEnums = [] ∧ ¬ MeetsUndeclared .empty own TypeName.list ∧
        (TypeGraph.empty.afterAll own).AgreesOn (.list [child])) ∧
      (new.LeadsAlong [.format child .root] [.ancestryOf child] (new.note child) ∧
        (new.note child).AgreesOn child) := by
  intro met later own
  obtain ⟨hregistry, hcopy, -, -, -⟩ := lookUps_agree kinshipMet later child
  obtain ⟨-, -, hgraph, -, -⟩ := lookUps_agree [] own (.list [child])
  obtain ⟨-, -, -, -, halong⟩ := lookUps_agree [.format child .root] [] child
  have hmeets : Meets (new.history kinshipMet) child.typeName :=
    ⟨child, by simp [kinshipMet, history, graphCalls], rfl, rfl⟩
  have hdeclared : (met.types.afterAll (.copy :: later)).isDeclared child.typeName = true := by
    simp [later, TypeGraph.after, TypeGraph.isDeclared, TypeGraph.get?, TypeGraph.declare, TypeDecl.named, child,
      Value.typeName]
  have hunmet : ¬ MeetsUndeclared .empty own TypeName.list := by
    simp [own, meetsUndeclared_cons_iff, not_meetsUndeclared_nil, child, Value.typeName, TypeName.list]
  have hformat : new.LeadsBy (.format child .root) [.ancestryOf child] (new.note child) :=
    ⟨[], "CHILD", writtenBy_child, rfl⟩
  have hleads : new.LeadsAlong [.format child .root] [.ancestryOf child] (new.note child) := .cons hformat .nil
  refine ⟨hmeets, hregistry.met rfl hmeets, ⟨hdeclared, hcopy.declared ?_⟩,
    ⟨rfl, hunmet, (hgraph .empty rfl).other rfl hunmet⟩, hleads, (halong _ _ hleads).met rfl ⟨child, by simp, rfl, rfl⟩⟩
  rw [TypeGraph.afterAll_append]
  exact (new.types_afterAll kinshipMet) ▸ hdeclared

end FormatterRegistry

end ObjectValidation
