import ObjectValidation.Proofs.Format.Asking

/-!
Sequences of calls of a registry. Declaring, setting and removing change its rules; every other call looks
something up, and at most remembers a type of enumeration values. So how values are written depends only on
the changes among the calls, in their order.
-/

namespace ObjectValidation

inductive RegistryCall where
  | declare (d : TypeDecl)
  | set (t : TypeName) (f : Formatter)
  | remove (t : TypeName)
  | format (v : Value) (locale : Locale)
  | formatterFor (t : TypeName)
  | formatterOf (v : Value)
  | ancestry (t : TypeName)
  | ancestryOf (v : Value)

/-- Whether the call changes the rules of a registry. -/
def RegistryCall.isChange : RegistryCall → Bool
  | declare _ => true
  | set _ _ => true
  | remove _ => true
  | _ => false

namespace FormatterRegistry

/-- The registry after a call. -/
def after (r : FormatterRegistry) : RegistryCall → FormatterRegistry
  | .declare d => r.declare d
  | .set t f => r.set t f
  | .remove t => r.remove t
  | .format v locale => (StateT.run (format locale v) r).2
  | .formatterFor _ => r
  | .formatterOf v => (StateT.run (lookUp v) r).2
  | .ancestry _ => r
  | .ancestryOf v => { r with types := r.types.note v }

def afterAll (r : FormatterRegistry) (calls : List RegistryCall) : FormatterRegistry := calls.foldl after r

/-- A call leads from one registry to another when formatters may ask for all values. -/
def LeadsTo (r : FormatterRegistry) (call : RegistryCall) (r' : FormatterRegistry) : Prop :=
  match call with
  | .format v locale => ∃ text, r.Writes locale v text r'
  | other => r' = r.after other

/-- A sequence of calls leads from one registry to another, which it does only if every text that it asks for
can be written. -/
inductive LeadsThrough : FormatterRegistry → List RegistryCall → FormatterRegistry → Prop
  | nil {r : FormatterRegistry} : LeadsThrough r [] r
  | cons {r middle last : FormatterRegistry} {call : RegistryCall} {rest : List RegistryCall}
      (first : r.LeadsTo call middle) (others : LeadsThrough middle rest last) :
      LeadsThrough r (call :: rest) last

theorem SameRules.symm {r s : FormatterRegistry} (h : SameRules r s) : SameRules s r :=
  ⟨h.decls_eq.symm, h.overrides_eq.symm⟩

theorem SameRules.writeAlike {r s : FormatterRegistry} (h : SameRules r s) : r.WriteAlike s :=
  writeAlike_of_formatterOf_eq (funext h.formatterOf_eq)

/-- Looking something up leaves the rules as they are. -/
theorem sameRules_after {call : RegistryCall} (h : call.isChange = false) (r : FormatterRegistry) :
    SameRules (r.after call) r := by
  cases call with
  | declare d => cases h
  | set t f => cases h
  | remove t => cases h
  | format v locale =>
    obtain ⟨r', hrules, hrun⟩ := r.gives_format locale v r (.refl r)
    rw [after, hrun]
    exact hrules
  | formatterFor t => exact .refl r
  | formatterOf v => exact (SameRules.refl r).note v
  | ancestry t => exact .refl r
  | ancestryOf v => exact (SameRules.refl r).note v

/-- A change does the same to registries with the same rules. -/
theorem SameRules.after {call : RegistryCall} (hchange : call.isChange = true) {r s : FormatterRegistry}
    (h : SameRules r s) : SameRules (r.after call) (s.after call) := by
  cases call with
  | declare d =>
    refine ⟨?_, h.overrides_eq⟩
    show r.types.decls.insert d.name d = s.types.decls.insert d.name d
    rw [h.decls_eq]
  | set t f =>
    refine ⟨h.decls_eq, ?_⟩
    show r.overrides.insert t f = s.overrides.insert t f
    rw [h.overrides_eq]
  | remove t =>
    refine ⟨h.decls_eq, ?_⟩
    show r.overrides.erase t = s.overrides.erase t
    rw [h.overrides_eq]
  | format v locale => cases hchange
  | formatterFor t => cases hchange
  | formatterOf v => cases hchange
  | ancestry t => cases hchange
  | ancestryOf v => cases hchange

/-- Only the changes among the calls matter for the rules. -/
theorem SameRules.afterAll {r s : FormatterRegistry} (h : SameRules r s) (calls : List RegistryCall) :
    SameRules (r.afterAll calls) (s.afterAll (calls.filter RegistryCall.isChange)) := by
  induction calls generalizing r s with
  | nil => exact h
  | cons call rest ih =>
    cases hchange : call.isChange with
    | true =>
      rw [List.filter_cons_of_pos hchange]
      exact ih (h.after hchange)
    | false =>
      rw [List.filter_cons_of_neg (by simp [hchange])]
      exact ih ((sameRules_after hchange r).trans h)

/-- Where formatters may ask for all values, a call has the effect on the rules that it has otherwise. -/
theorem LeadsTo.sameRules {r r' : FormatterRegistry} {call : RegistryCall} (h : r.LeadsTo call r') :
    SameRules r' (r.after call) := by
  cases call with
  | format v locale =>
    obtain ⟨text, hwrites⟩ := h
    have hback : SameRules r' r := hwrites.sameRules.trans ((SameRules.refl r).note v)
    have hlookUp : (RegistryCall.format v locale).isChange = false := rfl
    exact hback.trans (sameRules_after hlookUp r).symm
  | declare d => exact h ▸ .refl _
  | set t f => exact h ▸ .refl _
  | remove t => exact h ▸ .refl _
  | formatterFor t => exact h ▸ .refl _
  | formatterOf v => exact h ▸ .refl _
  | ancestry t => exact h ▸ .refl _
  | ancestryOf v => exact h ▸ .refl _

theorem LeadsThrough.sameRules {r r' s : FormatterRegistry} {calls : List RegistryCall}
    (hleads : r.LeadsThrough calls r') (h : SameRules r s) :
    SameRules r' (s.afterAll (calls.filter RegistryCall.isChange)) := by
  induction hleads generalizing s with
  | nil => exact h
  | @cons r middle last call rest first others ih =>
    cases hchange : call.isChange with
    | true =>
      rw [List.filter_cons_of_pos hchange]
      exact ih (first.sameRules.trans (h.after hchange))
    | false =>
      rw [List.filter_cons_of_neg (by simp [hchange])]
      exact ih (first.sameRules.trans ((sameRules_after hchange r).trans h))

/-- Two sequences of calls with the same changes, in the same order, end in registries that write every value
alike for every locale, whatever was looked up in between. -/
theorem afterAll_writeAlike (r : FormatterRegistry) (calls others : List RegistryCall)
    (hchanges : calls.filter RegistryCall.isChange = others.filter RegistryCall.isChange) :
    (r.afterAll calls).WriteAlike (r.afterAll others) ∧
      ∀ s s', r.LeadsThrough calls s → r.LeadsThrough others s' → s.WriteAlike s' := by
  constructor
  · have hcalls := (SameRules.refl r).afterAll calls
    have hothers := (SameRules.refl r).afterAll others
    rw [← hchanges] at hothers
    exact (hcalls.trans hothers.symm).writeAlike
  · intro s s' hs hs'
    have hcalls := hs.sameRules (.refl r)
    have hothers := hs'.sameRules (.refl r)
    rw [← hchanges] at hothers
    exact (hcalls.trans hothers.symm).writeAlike

/-- The plain form with emphasis. -/
def shouted : Formatter := .ofText fun v => v.display ++ "!"

def child : Value := .enum "Kinship" "CHILD"

/-- The type of the enumeration value is met, looked up by name and written before its formatter is set. -/
def kinshipMet : List RegistryCall :=
  [.ancestryOf child, .declare (.enumeration "Role"), .formatterFor "Kinship",
   .format (.list [child]) .root, .set "enum" shouted]

def kinshipUnmet : List RegistryCall := [.declare (.enumeration "Role"), .set "enum" shouted]

theorem text_kinshipUnmet :
    (new.afterAll kinshipUnmet).text .root (.list [child, .array [child]]) = "CHILD!, CHILD!" := by
  let r := new.afterAll kinshipUnmet
  have hchild : r.formatterOf child = shouted := by
    have hparents : r.types.startParents (TypeGraph.isEnumValue child) child.typeName = ["enum"] := rfl
    rw [formatterOf, TypeGraph.ancestryOf, hparents, TypeGraph.ancestryVia, TypeGraph.walk]
    rfl
  have harray : r.formatterOf (.array [child]) = Formatter.sequence := by
    rw [formatterOf, TypeGraph.ancestryOf, TypeGraph.ancestryVia]
    rfl
  have hlist : r.formatterOf (.list [child, .array [child]]) = Formatter.sequence := by
    have hparents : r.types.startParents (TypeGraph.isEnumValue (.list [child, .array [child]]))
        (Value.list [child, .array [child]]).typeName = ["iterable"] := rfl
    rw [formatterOf, TypeGraph.ancestryOf, hparents, TypeGraph.ancestryVia, TypeGraph.walk]
    rfl
  have hdone : r.formatterOf child .root child = .done "CHILD!" := by
    rw [hchild]
    rfl
  have hitem : ∀ item ∈ [child], r.Finishes .root item := by
    rintro item (_ | ⟨_, ⟨⟩⟩)
    exact ⟨"CHILD!", _, writes_of_done hdone⟩
  obtain ⟨hnested, harraytext⟩ := text_of_sequence (v := .array [child]) (List.cons_ne_nil _ _) harray hitem
  have hitems : ∀ item ∈ [child, .array [child]], r.Finishes .root item := by
    rintro item (_ | ⟨_, _ | ⟨_, ⟨⟩⟩⟩)
    · exact hitem child List.mem_cons_self
    · exact hnested
  obtain ⟨-, hlisttext⟩ := text_of_sequence (v := .list [child, .array [child]]) (List.cons_ne_nil _ _) hlist hitems
  have htext : r.text .root child = "CHILD!" := text_of_done hdone
  calc r.text .root (.list [child, .array [child]])
      = ", ".intercalate [r.text .root child, r.text .root (.array [child])] := hlisttext
    _ = ", ".intercalate [r.text .root child, ", ".intercalate [r.text .root child]] := by rw [harraytext]; rfl
    _ = "CHILD!, CHILD!" := by rw [htext]; rfl

theorem afterAll_writeAlike_kinship :
    kinshipMet.filter RegistryCall.isChange = kinshipUnmet.filter RegistryCall.isChange ∧
      (new.afterAll kinshipMet).text .root (.list [child, .array [child]]) = "CHILD!, CHILD!" := by
  have hchanges : kinshipMet.filter RegistryCall.isChange = kinshipUnmet.filter RegistryCall.isChange := rfl
  obtain ⟨halike, -⟩ := afterAll_writeAlike new kinshipMet kinshipUnmet hchanges
  exact ⟨hchanges, (halike.text_eq .root _).trans text_kinshipUnmet⟩

end FormatterRegistry

end ObjectValidation
