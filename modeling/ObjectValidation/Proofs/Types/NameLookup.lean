import ObjectValidation.Types.Graph
import Mathlib.Data.List.Basic

/-!
When the ancestry of a type's name is that of the type's values. Only undeclared types of enumeration values can tell
the two apart, since the values know that they are enumeration values and the name does not; it is known of the name
once a value was met. A history of calls remembers exactly the types that it met undeclared, so the two agree on a
type from the first value of it on, whatever is declared later.
-/

namespace ObjectValidation

inductive GraphCall where
  | declare (d : TypeDecl)
  | ancestry (t : TypeName)
  | ancestryOf (v : Value)
  /-- From here on the history is that of a copy. -/
  | copy

namespace TypeGraph

/-- The graph after a call. -/
def after (g : TypeGraph) : GraphCall → TypeGraph
  | .declare d => g.declare d
  | .ancestry _ => g
  | .ancestryOf v => g.note v
  | .copy => { decls := g.decls, seenEnums := g.seenEnums }

def afterAll (g : TypeGraph) (calls : List GraphCall) : TypeGraph := calls.foldl after g

/-- The name of the value's type has the ancestry that the value has. -/
def AgreesOn (g : TypeGraph) (v : Value) : Prop := g.ancestry v.typeName = g.ancestryOf v

end TypeGraph

/-- Some call walks an enumeration value of the type. -/
def Meets (calls : List GraphCall) (t : TypeName) : Prop :=
  ∃ v, .ancestryOf v ∈ calls ∧ TypeGraph.isEnumValue v = true ∧ v.typeName = t

/-- Some call walks an enumeration value of the type, which is not declared then. -/
def MeetsUndeclared (g : TypeGraph) (calls : List GraphCall) (t : TypeName) : Prop :=
  ∃ before v later, calls = before ++ .ancestryOf v :: later ∧ TypeGraph.isEnumValue v = true ∧
    v.typeName = t ∧ (g.afterAll before).isDeclared t = false

/-- After a history from a graph something holds if the type of a value is declared, for enumeration values also if one
of the type was met, and for other values unless one of the type was met undeclared. -/
structure LookUpsAgree (g : TypeGraph) (history : List GraphCall) (v : Value) (agree : Prop) : Prop where
  declared : (g.afterAll history).isDeclared v.typeName = true → agree
  met : TypeGraph.isEnumValue v = true → Meets history v.typeName → agree
  other : TypeGraph.isEnumValue v = false → ¬ MeetsUndeclared g history v.typeName → agree

theorem LookUpsAgree.imp {g : TypeGraph} {history : List GraphCall} {v : Value} {agree result : Prop}
    (h : LookUpsAgree g history v agree) (himp : agree → result) : LookUpsAgree g history v result where
  declared := himp ∘ h.declared
  met henum := himp ∘ h.met henum
  other henum := himp ∘ h.other henum

theorem not_meetsUndeclared_nil (g : TypeGraph) (t : TypeName) : ¬ MeetsUndeclared g [] t := by
  rintro ⟨before, v, later, hsplit, -⟩
  simp at hsplit

theorem meetsUndeclared_cons_iff {g : TypeGraph} {call : GraphCall} {rest : List GraphCall} {t : TypeName} :
    MeetsUndeclared g (call :: rest) t ↔
      (∃ v, call = .ancestryOf v ∧ TypeGraph.isEnumValue v = true ∧ v.typeName = t ∧ g.isDeclared t = false) ∨
        MeetsUndeclared (g.after call) rest t := by
  constructor
  · rintro ⟨_ | ⟨first, before⟩, v, later, hsplit, henum, htype, hundeclared⟩
    · obtain ⟨rfl, rfl⟩ := List.cons.inj hsplit
      exact .inl ⟨v, rfl, henum, htype, hundeclared⟩
    · obtain ⟨rfl, rfl⟩ := List.cons.inj hsplit
      exact .inr ⟨before, v, later, rfl, henum, htype, hundeclared⟩
  · rintro (⟨v, rfl, henum, htype, hundeclared⟩ | ⟨before, v, later, rfl, henum, htype, hundeclared⟩)
    · exact ⟨[], v, rest, rfl, henum, htype, hundeclared⟩
    · exact ⟨call :: before, v, later, rfl, henum, htype, hundeclared⟩

namespace TypeGraph

variable {g : TypeGraph} {t : TypeName}

@[simp] theorem afterAll_nil (g : TypeGraph) : g.afterAll [] = g := rfl

@[simp] theorem afterAll_cons (g : TypeGraph) (call : GraphCall) (rest : List GraphCall) :
    g.afterAll (call :: rest) = (g.after call).afterAll rest := rfl

theorem afterAll_append (g : TypeGraph) (calls others : List GraphCall) :
    g.afterAll (calls ++ others) = (g.afterAll calls).afterAll others := List.foldl_append

theorem get?_declare_of_ne (g : TypeGraph) {d : TypeDecl} (h : t ≠ d.name) :
    (g.declare d).get? t = g.get? t :=
  Table.get?_insert_of_ne _ _ _ _ h

theorem isDeclared_declare (h : g.isDeclared t = true) (d : TypeDecl) : (g.declare d).isDeclared t = true := by
  by_cases hname : t = d.name
  · subst hname
    simp [isDeclared, declare, get?]
  · rwa [isDeclared, get?_declare_of_ne g hname]

theorem isDeclared_note (g : TypeGraph) (v : Value) (t : TypeName) :
    (g.note v).isDeclared t = g.isDeclared t := by
  unfold note
  split <;> rfl

theorem isDeclared_after (h : g.isDeclared t = true) (call : GraphCall) : (g.after call).isDeclared t = true := by
  cases call with
  | declare d => exact isDeclared_declare h d
  | ancestry u => exact h
  | ancestryOf v => rwa [after, isDeclared_note]
  | copy => exact h

theorem isDeclared_afterAll (h : g.isDeclared t = true) (calls : List GraphCall) :
    (g.afterAll calls).isDeclared t = true := by
  induction calls generalizing g with
  | nil => exact h
  | cons call rest ih => exact ih (isDeclared_after h call)

theorem mem_seenEnums_note (g : TypeGraph) (v : Value) (t : TypeName) :
    t ∈ (g.note v).seenEnums ↔
      t ∈ g.seenEnums ∨ isEnumValue v = true ∧ v.typeName = t ∧ g.isDeclared t = false := by
  unfold note
  split
  · next hnew =>
    simp only [Bool.and_eq_true, Bool.not_eq_true'] at hnew
    obtain ⟨⟨henum, hundeclared⟩, -⟩ := hnew
    rw [List.mem_cons]
    constructor
    · rintro (rfl | hmem)
      · exact .inr ⟨henum, rfl, hundeclared⟩
      · exact .inl hmem
    · rintro (hmem | ⟨-, rfl, -⟩)
      · exact .inr hmem
      · exact .inl rfl
  · next hold =>
    refine ⟨.inl, ?_⟩
    rintro (hmem | ⟨henum, rfl, hundeclared⟩)
    · exact hmem
    · by_contra hmem
      exact hold (by simp [henum, hundeclared, hmem])

theorem mem_seenEnums_after (g : TypeGraph) (call : GraphCall) (t : TypeName) :
    t ∈ (g.after call).seenEnums ↔ t ∈ g.seenEnums ∨
      ∃ v, call = .ancestryOf v ∧ isEnumValue v = true ∧ v.typeName = t ∧ g.isDeclared t = false := by
  cases call with
  | declare d => simp [after, declare]
  | ancestry u => simp [after]
  | ancestryOf v =>
    rw [after, mem_seenEnums_note]
    simp
  | copy => simp [after]

/-- What is remembered after a history is what it met undeclared. -/
theorem mem_seenEnums_afterAll (g : TypeGraph) (calls : List GraphCall) (t : TypeName) :
    t ∈ (g.afterAll calls).seenEnums ↔ t ∈ g.seenEnums ∨ MeetsUndeclared g calls t := by
  induction calls generalizing g with
  | nil => simp [not_meetsUndeclared_nil]
  | cons call rest ih => rw [afterAll_cons, ih, mem_seenEnums_after, meetsUndeclared_cons_iff, or_assoc]

/-- A type that was met and is still undeclared was undeclared when it was met. -/
theorem meetsUndeclared_of_meets {calls : List GraphCall} (h : Meets calls t)
    (hundeclared : (g.afterAll calls).isDeclared t = false) : MeetsUndeclared g calls t := by
  obtain ⟨v, hcall, henum, htype⟩ := h
  obtain ⟨before, later, rfl⟩ := List.append_of_mem hcall
  refine ⟨before, v, later, rfl, henum, htype, ?_⟩
  by_contra hdeclared
  rw [Bool.not_eq_false] at hdeclared
  rw [afterAll_append, isDeclared_afterAll hdeclared] at hundeclared
  cases hundeclared

theorem walk_enum_eq_nil_iff (g : TypeGraph) (t : TypeName) :
    g.walk [t] [TypeName.enum] = [] ↔ t = TypeName.enum := by
  have hnil : g.walk [t] [] = [] := by rw [walk]
  rw [walk]
  split
  · next hskip =>
    have hmem : TypeName.enum ∈ [t] := hskip.resolve_left (by decide)
    exact iff_of_true hnil (List.mem_singleton.mp hmem).symm
  · next hnew => exact iff_of_false (List.cons_ne_nil _ _) fun h => hnew (.inr (by simp [h]))

/-- The two ancestries are the same if the type is declared, or if it is remembered for a type of enumeration values
exactly when the value is one. The only other type that they agree on is that of all enumerations. -/
theorem agreesOn_iff (g : TypeGraph) (v : Value) :
    g.AgreesOn v ↔ g.isDeclared v.typeName = true ∨ g.seenEnums.contains v.typeName = isEnumValue v ∨
      v.typeName = TypeName.enum := by
  rw [AgreesOn, ancestry, ancestryOf]
  cases hdeclared : g.isDeclared v.typeName with
  | true => simp [startParents, hdeclared]
  | false =>
    have hnone : g.get? v.typeName = none := by simpa [isDeclared] using hdeclared
    have hvia (b : Bool) : g.ancestryVia v.typeName (g.startParents b v.typeName) =
        v.typeName :: if b then g.walk [v.typeName] [TypeName.enum] else [] := by
      cases b <;> simp [ancestryVia, startParents, hdeclared, parents, hnone, walk]
    have hnil := g.walk_enum_eq_nil_iff v.typeName
    rw [hvia, hvia, List.cons_inj_right]
    cases g.seenEnums.contains v.typeName <;> cases isEnumValue v <;> simp [hnil, eq_comm (a := [])]

/-- After a history from a graph that remembers nothing, a graph agrees on a value as the history tells. -/
theorem lookUpsAgree_afterAll (hnew : g.seenEnums = []) (calls : List GraphCall) (v : Value) :
    LookUpsAgree g calls v ((g.afterAll calls).AgreesOn v) := by
  have hseen : v.typeName ∈ (g.afterAll calls).seenEnums ↔ MeetsUndeclared g calls v.typeName := by
    rw [mem_seenEnums_afterAll, hnew]
    simp
  simp only [agreesOn_iff]
  constructor
  case declared => exact .inl
  case met =>
    intro henum hmeets
    cases hdeclared : (g.afterAll calls).isDeclared v.typeName with
    | true => exact .inl rfl
    | false =>
      have hmem := hseen.mpr (meetsUndeclared_of_meets hmeets hdeclared)
      exact .inr (.inl (by rw [henum, List.contains_iff_mem.mpr hmem]))
  case other =>
    intro henum hunmet
    have hnotMem := mt hseen.mp hunmet
    exact .inr (.inl (by simpa [henum] using hnotMem))

end TypeGraph

end ObjectValidation
