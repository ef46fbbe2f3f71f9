import ObjectValidation.Message

/-!
Parameters of a constraint by their names. A name may be given more than once. Asking the constraint gives
the first value of the name; messages and JSON documents give the last. The three agree exactly where these
two are the same, in particular where no name is repeated.
-/

namespace ObjectValidation

theorem Value.fieldsToJson_eq_map (fields : List (String × Value)) :
    fieldsToJson fields = fields.map fun f => (f.1, f.2.toJson) := by
  induction fields with
  | nil => rfl
  | cons f rest ih => rw [fieldsToJson, ih, List.map_cons]

namespace Constraint

/-- The values that a constraint has under a name, in the order in which they were given. -/
def valuesOf (c : Constraint) (name : String) : List Value :=
  (c.params.filter fun p => p.1 == name).map Prod.snd

theorem param?_eq_head? (c : Constraint) (name : String) :
    c.param? name = (c.valuesOf name).head? := by
  rw [param?, valuesOf, List.head?_map, List.head?_filter]

theorem map_param? {β : Type} (c : Constraint) (f : Value → β) (name : String) :
    (c.param? name).map f =
      ((c.params.map fun p => (p.1, f p.2)).find? fun p => p.1 == name).map Prod.snd := by
  rw [param?, List.find?_map, Option.map_map, Option.map_map]
  rfl

theorem member?_paramsJson (c : Constraint) (name : String) :
    c.paramsJson.member? name = (c.valuesOf name).getLast?.map Value.toJson := by
  rw [paramsJson, Json.member?, Value.fieldsToJson_eq_map, ← List.getLast?_filter, List.filter_map, valuesOf,
    List.getLast?_map, List.getLast?_map, Option.map_map, Option.map_map]
  rfl

theorem exists_valuesOf {c : Constraint} (hnodup : (c.params.map Prod.fst).Nodup) {name : String}
    (h : name ∈ c.params.map Prod.fst) : ∃ value, c.valuesOf name = [value] := by
  obtain ⟨p, hp, rfl⟩ := List.mem_map.1 h
  exact ⟨p.2, by rw [valuesOf, Table.filter_eq_singleton hnodup hp]; rfl⟩

theorem mem_names_of_param? {c : Constraint} {name : String} {value : Value} (h : c.param? name = some value) :
    name ∈ c.params.map Prod.fst := by
  obtain ⟨p, hp, -⟩ := Option.map_eq_some_iff.1 h
  have hname : p.1 = name := by simpa using List.find?_some hp
  exact hname ▸ List.mem_map_of_mem (List.mem_of_find?_eq_some hp)

end Constraint

/-- The value that a message has under a name before any parameter of the constraint. -/
def Violation.implicit? (v : Violation) (name : String) : Option Value :=
  if name = "value" then some (v.value.getD .null) else none

theorem Violation.get?_params (v : Violation) (name : String) :
    v.params.get? name = (v.constraint.valuesOf name).getLast?.or (v.implicit? name) := by
  rw [params, Table.get?_insertAll, Constraint.valuesOf, List.getLast?_map]
  congr 1
  unfold implicit?
  split
  · next hname => rw [hname, Table.get?_insert_self]
  · next hname => rw [Table.get?_insert_of_ne _ _ _ _ hname, Table.get?_empty]

/-- Where no name is repeated, a message has the parameter that the constraint has. -/
theorem Violation.get?_params_eq_param? {v : Violation} (hnodup : (v.constraint.params.map Prod.fst).Nodup)
    {name : String} (hname : name ∈ v.constraint.params.map Prod.fst) :
    v.params.get? name = v.constraint.param? name := by
  obtain ⟨value, hvalues⟩ := Constraint.exists_valuesOf hnodup hname
  rw [get?_params, Constraint.param?_eq_head?, hvalues]
  rfl

/-- What the three ways of reading a parameter give. They agree on a name exactly if its first value is also
its last. -/
theorem params_agree_iff (v : Violation) (name : String) :
    let c := v.constraint
    let values := c.valuesOf name
    c.param? name = values.head? ∧
    v.params.get? name = values.getLast?.or (v.implicit? name) ∧
    c.paramsJson.member? name = values.getLast?.map Value.toJson ∧
    (values ≠ [] →
      (v.params.get? name = c.param? name ∧
        c.paramsJson.member? name = (c.param? name).map Value.toJson ↔
      values.head? = values.getLast?)) := by
  intro c values
  have hparam : c.param? name = values.head? := c.param?_eq_head? name
  have hmessage : v.params.get? name = values.getLast?.or (v.implicit? name) := v.get?_params name
  have hjson : c.paramsJson.member? name = values.getLast?.map Value.toJson := c.member?_paramsJson name
  refine ⟨hparam, hmessage, hjson, fun hgiven => ?_⟩
  have hlast : values.getLast?.or (v.implicit? name) = values.getLast? := by
    rw [List.getLast?_eq_some_getLast hgiven]
    rfl
  rw [hparam, hmessage, hjson, hlast]
  constructor
  · rintro ⟨hsame, -⟩
    exact hsame.symm
  · intro hsame
    exact ⟨hsame.symm, by rw [hsame]⟩

/-- A constraint that gives one name two values. -/
def repeatedLimit : Constraint :=
  ((Constraint.named "app.Limit").withParam "max" (1 : Int64)).withParam "max" (2 : Int64)

theorem repeatedLimit_disagrees :
    repeatedLimit.param? "max" = some (.integer 1) ∧
      (Violation.of "n" (.integer 7) repeatedLimit).params.get? "max" = some (.integer 2) ∧
      repeatedLimit.paramsJson.member? "max" = some (.integer 2) :=
  ⟨rfl, rfl, rfl⟩

end ObjectValidation
