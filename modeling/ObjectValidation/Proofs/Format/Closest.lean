import ObjectValidation.Proofs.Format.Calls
import ObjectValidation.Proofs.Types.BreadthFirst

/-!
Which formatter a value gets after any calls on a new registry: that of the nearest type in breadth-first
order that has one. Of the calls that set or remove the formatter of a type only the last one counts, so
removing it brings the built-in formatter back, whatever had been set before.
-/

namespace ObjectValidation

/-- The formatter of the first type of an order that has any, an override before the built-in formatter of the
same type. Where no type of the order has one, the override for all values stands in, and then the formatter
of last resort. -/
inductive Closest (override : TypeName → Option Formatter) (order : List TypeName) : Formatter → Prop
  | override {before after : List TypeName} {t : TypeName} {f : Formatter}
      (split : order = before ++ t :: after)
      (none_before : ∀ u ∈ before, override u = none ∧ Formatter.builtIns.get? u = none)
      (found : override t = some f) : Closest override order f
  | builtIn {before after : List TypeName} {t : TypeName} {f : Formatter}
      (split : order = before ++ t :: after)
      (none_before : ∀ u ∈ before, override u = none ∧ Formatter.builtIns.get? u = none)
      (no_override : override t = none) (found : Formatter.builtIns.get? t = some f) :
      Closest override order f
  | overrideForAll {f : Formatter}
      (none_at_all : ∀ u ∈ order, override u = none ∧ Formatter.builtIns.get? u = none)
      (found : override TypeName.any = some f) : Closest override order f
  | lastResort
      (none_at_all : ∀ u ∈ order, override u = none ∧ Formatter.builtIns.get? u = none)
      (no_override : override TypeName.any = none) : Closest override order Formatter.any

namespace RegistryCall

/-- What the call makes of the override of a type, if it is about that. -/
def overrideSet? (t : TypeName) : RegistryCall → Option (Option Formatter)
  | set u f => if u = t then some (some f) else none
  | remove u => if u = t then some none else none
  | _ => none

def declared? : RegistryCall → Option TypeDecl
  | declare d => some d
  | _ => none

/-- What the last call about the override of a type made of it; none if there is no such call. -/
def lastOverrideSet? (calls : List RegistryCall) (t : TypeName) : Option (Option Formatter) :=
  calls.reverse.findSome? (overrideSet? t)

/-- The override of a type after the calls: that of the last call about it, unless that removed it. -/
def lastOverride? (calls : List RegistryCall) (t : TypeName) : Option Formatter :=
  (lastOverrideSet? calls t).join

theorem lastOverrideSet?_append (calls others : List RegistryCall) (t : TypeName) :
    lastOverrideSet? (calls ++ others) t =
      (lastOverrideSet? others t).or (lastOverrideSet? calls t) := by
  rw [lastOverrideSet?, List.reverse_append, List.findSome?_append]
  rfl

theorem lastOverrideSet?_cons (call : RegistryCall) (rest : List RegistryCall) (t : TypeName) :
    lastOverrideSet? (call :: rest) t = (lastOverrideSet? rest t).or (call.overrideSet? t) := by
  have hfirst : lastOverrideSet? [call] t = call.overrideSet? t := by
    cases h : call.overrideSet? t <;> simp [lastOverrideSet?, h]
  rw [← hfirst]
  exact lastOverrideSet?_append [call] rest t

theorem lastOverrideSet?_eq_none {calls : List RegistryCall} {t : TypeName}
    (h : ∀ call ∈ calls, call.overrideSet? t = none) : lastOverrideSet? calls t = none := by
  rw [lastOverrideSet?, List.findSome?_eq_none_iff]
  intro call hcall
  exact h call (List.mem_reverse.1 hcall)

/-- A call is about the override of one type at most, and then it declares nothing. -/
theorem overrideSet?_of_ne_none {call : RegistryCall} {t : TypeName} (h : call.overrideSet? t ≠ none) :
    call.declared? = none ∧ ∀ u, u ≠ t → call.overrideSet? u = none := by
  cases call with
  | set v f =>
    have hv : v = t := by
      by_contra hne
      exact h (if_neg hne)
    exact ⟨rfl, fun u hu => if_neg (hv ▸ hu.symm)⟩
  | remove v =>
    have hv : v = t := by
      by_contra hne
      exact h (if_neg hne)
    exact ⟨rfl, fun u hu => if_neg (hv ▸ hu.symm)⟩
  | declare d => exact absurd rfl h
  | format v locale => exact absurd rfl h
  | formatterFor v => exact absurd rfl h
  | formatterOf v => exact absurd rfl h
  | ancestry v => exact absurd rfl h
  | ancestryOf v => exact absurd rfl h

/-- The calls that are not about the override of a type. -/
def withoutOverridesOf (t : TypeName) (calls : List RegistryCall) : List RegistryCall :=
  calls.filter fun call => (call.overrideSet? t).isNone

theorem lastOverride?_concat_remove (calls : List RegistryCall) (t u : TypeName) :
    lastOverride? (calls ++ [remove t]) u = if u = t then none else lastOverride? calls u := by
  rw [lastOverride?, lastOverrideSet?_append, lastOverrideSet?_cons]
  by_cases hu : u = t
  · rw [if_pos hu, overrideSet?, if_pos hu.symm]
    rfl
  · rw [if_neg hu, overrideSet?, if_neg (Ne.symm hu)]
    rfl

theorem lastOverride?_withoutOverridesOf (calls : List RegistryCall) (t u : TypeName) :
    lastOverride? (withoutOverridesOf t calls) u = if u = t then none else lastOverride? calls u := by
  by_cases hu : u = t
  · have hnone : lastOverrideSet? (withoutOverridesOf t calls) t = none :=
      lastOverrideSet?_eq_none fun call hcall => Option.isNone_iff_eq_none.1 (List.mem_filter.1 hcall).2
    rw [if_pos hu, hu, lastOverride?, hnone]
    rfl
  · have hlast : lastOverrideSet? (withoutOverridesOf t calls) u = lastOverrideSet? calls u := by
      induction calls with
      | nil => rfl
      | cons call rest ih =>
        cases habout : (call.overrideSet? t).isNone with
        | true =>
          rw [withoutOverridesOf, List.filter_cons, if_pos habout, lastOverrideSet?_cons,
            lastOverrideSet?_cons, ← ih]
          rfl
        | false =>
          have hcall := overrideSet?_of_ne_none fun h => by rw [h] at habout; cases habout
          rw [withoutOverridesOf, List.filter_cons, if_neg (by simp [habout]), lastOverrideSet?_cons,
            hcall.2 u hu, Option.or_none, ← ih]
          rfl
    rw [if_neg hu, lastOverride?, hlast, lastOverride?]

theorem declared_withoutOverridesOf (t : TypeName) (calls : List RegistryCall) :
    (withoutOverridesOf t calls).filterMap declared? = calls.filterMap declared? := by
  rw [withoutOverridesOf, List.filterMap_filter]
  congr 1
  funext call
  split
  · rfl
  · next habout =>
    have hcall := overrideSet?_of_ne_none fun h : call.overrideSet? t = none => habout (by rw [h]; rfl)
    exact hcall.1.symm

end RegistryCall

/-- The declarations of a new registry. -/
def builtInDecls : List TypeDecl :=
  [TypeName.integer, .float, .decimal].map (fun t => (TypeDecl.named t).extending .number) ++
  [TypeName.date, .time, .dateTime, .timestamp].map (fun t => (TypeDecl.named t).extending .temporal) ++
  [(TypeDecl.named .list).implementing [.iterable]]

namespace TypeGraph

theorem decls_foldl_declare {g h : TypeGraph} (hdecls : g.decls = h.decls) (decls : List TypeDecl) :
    (decls.foldl declare g).decls = (decls.foldl declare h).decls := by
  induction decls generalizing g h with
  | nil => exact hdecls
  | cons d rest ih =>
    apply ih
    show g.decls.insert d.name d = h.decls.insert d.name d
    rw [hdecls]

/-- The ancestry of a value is breadth-first along what is declared. -/
theorem ancestryOf_breadthFirst {g : TypeGraph} {decls : List TypeDecl}
    (hget : ∀ t, g.get? t = declaration? decls t) (v : Value) :
    BreadthFirst (supertypesFrom decls (isEnumValue v) v.typeName) v.typeName (g.ancestryOf v) := by
  have hparents (t : TypeName) : g.parents t = declaredSupertypes decls t := by
    rw [parents, hget, declaredSupertypes]
    rfl
  have hstart : g.startParents (isEnumValue v) v.typeName =
      supertypesFrom decls (isEnumValue v) v.typeName v.typeName := by
    simp [startParents, isDeclared, supertypesFrom, hget, hparents]
  rw [ancestryOf, hstart]
  apply ancestryVia_breadthFirst
  intro t hne
  rw [supertypesFrom, if_neg (fun h => hne h.1), hparents]

end TypeGraph

namespace FormatterRegistry

open RegistryCall

variable {r s : FormatterRegistry}

theorem registered?_eq_none {t : TypeName} (h : r.registered? t = none) :
    r.override? t = none ∧ Formatter.builtIns.get? t = none :=
  Option.or_eq_none_iff.1 h

/-- The formatter that an order of types resolves to is the closest one. -/
theorem resolve_closest (r : FormatterRegistry) (order : List TypeName) :
    Closest r.override? order (r.resolve order) := by
  unfold resolve
  cases hfound : order.findSome? r.registered? with
  | some f =>
    obtain ⟨before, t, after, hsplit, hregistered, hbefore⟩ := List.findSome?_eq_some_iff.1 hfound
    have hnone : ∀ u ∈ before, r.override? u = none ∧ Formatter.builtIns.get? u = none :=
      fun u hu => registered?_eq_none (hbefore u hu)
    rw [registered?, Option.or_eq_some_iff] at hregistered
    rcases hregistered with hoverride | ⟨hoverride, hbuiltIn⟩
    · exact .override hsplit hnone hoverride
    · exact .builtIn hsplit hnone hoverride hbuiltIn
  | none =>
    have hnone : ∀ u ∈ order, r.override? u = none ∧ Formatter.builtIns.get? u = none :=
      fun u hu => registered?_eq_none (List.findSome?_eq_none_iff.1 hfound u hu)
    cases hall : r.overrides.get? TypeName.any with
    | some f => exact .overrideForAll hnone hall
    | none => exact .lastResort hnone hall

/-- The formatters of values depend on the declarations and on the override of each type. -/
theorem formatterOf_eq_of_override? (hdecls : r.types.decls = s.types.decls)
    (hoverride : ∀ t, r.override? t = s.override? t) : r.formatterOf = s.formatterOf := by
  have hget : ∀ t, r.overrides.get? t = s.overrides.get? t := hoverride
  have hregistered : r.registered? = s.registered? := by
    funext t
    rw [registered?, registered?, hget]
  funext v
  rw [formatterOf, formatterOf, resolve, resolve, TypeGraph.ancestryOf_congr hdecls, hregistered, hget]

/-- A call changes the override of a type only if it is about that. -/
theorem override?_after (r : FormatterRegistry) (call : RegistryCall) (t : TypeName) :
    (r.after call).override? t = (call.overrideSet? t).getD (r.override? t) := by
  have hsame (hlookUp : call.isChange = false) : (r.after call).override? t = r.override? t := by
    rw [override?, (sameRules_after hlookUp r).overrides_eq]
    rfl
  cases call with
  | declare d => rfl
  | set u f =>
    by_cases hu : u = t
    · subst hu
      simp [after, set, override?, overrideSet?]
    · simp [after, set, override?, overrideSet?, hu, Table.get?_insert_of_ne _ _ _ _ (Ne.symm hu)]
  | remove u =>
    by_cases hu : u = t
    · subst hu
      simp [after, remove, override?, overrideSet?]
    · simp [after, remove, override?, overrideSet?, hu, Table.get?_erase_of_ne _ _ _ (Ne.symm hu)]
  | format v locale => exact hsame rfl
  | formatterFor u => exact hsame rfl
  | formatterOf v => exact hsame rfl
  | ancestry u => exact hsame rfl
  | ancestryOf v => exact hsame rfl

theorem decls_after (r : FormatterRegistry) (call : RegistryCall) :
    (r.after call).types.decls = (call.declared?.toList.foldl TypeGraph.declare r.types).decls := by
  have hsame (hlookUp : call.isChange = false) : (r.after call).types.decls = r.types.decls :=
    (sameRules_after hlookUp r).decls_eq
  cases call with
  | declare d => rfl
  | set u f => rfl
  | remove u => rfl
  | format v locale => exact hsame rfl
  | formatterFor u => exact hsame rfl
  | formatterOf v => exact hsame rfl
  | ancestry u => exact hsame rfl
  | ancestryOf v => exact hsame rfl

/-- Of the calls about the override of a type the last one decides. -/
theorem override?_afterAll (r : FormatterRegistry) (calls : List RegistryCall) (t : TypeName) :
    (r.afterAll calls).override? t = (lastOverrideSet? calls t).getD (r.override? t) := by
  induction calls generalizing r with
  | nil => rfl
  | cons call rest ih =>
    have hafter : r.afterAll (call :: rest) = (r.after call).afterAll rest := rfl
    rw [hafter, ih, lastOverrideSet?_cons, override?_after]
    cases lastOverrideSet? rest t <;> rfl

theorem decls_afterAll (r : FormatterRegistry) (calls : List RegistryCall) :
    (r.afterAll calls).types.decls =
      ((calls.filterMap declared?).foldl TypeGraph.declare r.types).decls := by
  induction calls generalizing r with
  | nil => rfl
  | cons call rest ih =>
    have hafter : r.afterAll (call :: rest) = (r.after call).afterAll rest := rfl
    rw [hafter, ih, TypeGraph.decls_foldl_declare (r.decls_after call), ← List.foldl_append]
    cases hdeclared : call.declared? <;> simp [hdeclared]

theorem new_override?_afterAll (calls : List RegistryCall) (t : TypeName) :
    (new.afterAll calls).override? t = lastOverride? calls t := by
  rw [override?_afterAll, lastOverride?]
  cases lastOverrideSet? calls t <;> rfl

theorem new_get?_afterAll (calls : List RegistryCall) (t : TypeName) :
    (new.afterAll calls).types.get? t =
      declaration? (builtInDecls ++ calls.filterMap declared?) t := by
  have hdecls : (new.afterAll calls).types.decls =
      (TypeGraph.empty.declareAll (builtInDecls ++ calls.filterMap declared?)).decls := by
    rw [decls_afterAll, TypeGraph.declareAll, List.foldl_append]
    rfl
  rw [← TypeGraph.get?_declareAll, TypeGraph.get?, TypeGraph.get?, hdecls]

/-- Calls with the same declarations that leave each type the same override end in the same formatters. -/
theorem new_formatterOf_afterAll {calls others : List RegistryCall}
    (hdeclared : calls.filterMap declared? = others.filterMap declared?)
    (hoverride : ∀ t, lastOverride? calls t = lastOverride? others t) :
    (new.afterAll calls).formatterOf = (new.afterAll others).formatterOf := by
  apply formatterOf_eq_of_override?
  · rw [decls_afterAll, decls_afterAll, hdeclared]
  · intro t
    rw [new_override?_afterAll, new_override?_afterAll, hoverride]

/-- A formatter that is set and removed again leaves no trace, whatever happens to other types in between. -/
theorem writeAlike_set_remove {calls between : List RegistryCall} {t : TypeName} (f : Formatter)
    (hnone : lastOverride? calls t = none) (hbetween : ∀ call ∈ between, call.overrideSet? t = none) :
    (new.afterAll (calls ++ .set t f :: between ++ [.remove t])).WriteAlike
      (new.afterAll (calls ++ between)) := by
  have hoverride (u : TypeName) : lastOverride? (calls ++ .set t f :: between ++ [.remove t]) u =
      lastOverride? (calls ++ between) u := by
    rw [lastOverride?_concat_remove]
    by_cases hu : u = t
    · rw [if_pos hu, hu, lastOverride?, lastOverrideSet?_append, lastOverrideSet?_eq_none hbetween]
      exact hnone.symm
    · rw [if_neg hu, lastOverride?, lastOverrideSet?_append, lastOverrideSet?_cons, overrideSet?,
        if_neg (Ne.symm hu), Option.or_none, ← lastOverrideSet?_append, lastOverride?]
  have hdeclared :
      (calls ++ RegistryCall.set t f :: between ++ [RegistryCall.remove t]).filterMap declared? =
        (calls ++ between).filterMap declared? := by
    rw [List.filterMap_append, List.filterMap_append, List.filterMap_append, List.filterMap_cons_none rfl]
    exact List.append_nil _
  exact writeAlike_of_formatterOf_eq (new_formatterOf_afterAll hdeclared hoverride)

/-- Removing the formatter of a type undoes all calls that set it, not only the last one. -/
theorem writeAlike_remove (calls : List RegistryCall) (t : TypeName) :
    (new.afterAll (calls ++ [.remove t])).WriteAlike (new.afterAll (withoutOverridesOf t calls)) := by
  have hoverride (u : TypeName) : lastOverride? (calls ++ [.remove t]) u =
      lastOverride? (withoutOverridesOf t calls) u := by
    rw [lastOverride?_concat_remove, lastOverride?_withoutOverridesOf]
  have hdeclared : (calls ++ [RegistryCall.remove t]).filterMap declared? =
      (withoutOverridesOf t calls).filterMap declared? := by
    rw [declared_withoutOverridesOf, List.filterMap_append]
    exact List.append_nil _
  exact writeAlike_of_formatterOf_eq (new_formatterOf_afterAll hdeclared hoverride)

/-- After any calls on a new registry a value gets the formatter that is closest in its ancestry, and where a
type has no override its built-in formatter stands. Of the calls about the override of a type only the last
one counts. Setting and removing it changes nothing if there was none before, and removing it leaves
everything as if it had never been set. -/
theorem formatterOf_closest (calls : List RegistryCall) :
    let r := new.afterAll calls
    (∀ v, BreadthFirst
        (supertypesFrom (builtInDecls ++ calls.filterMap declared?) (TypeGraph.isEnumValue v) v.typeName)
        v.typeName (r.types.ancestryOf v) ∧
      Closest (lastOverride? calls) (r.types.ancestryOf v) (r.formatterOf v)) ∧
    (∀ t, lastOverride? calls t = none → r.registered? t = Formatter.builtIns.get? t) ∧
    (∀ others, others.filterMap declared? = calls.filterMap declared? →
      (∀ t, lastOverrideSet? others t = lastOverrideSet? calls t) →
      (new.afterAll others).formatterOf = r.formatterOf ∧ (new.afterAll others).WriteAlike r) ∧
    (∀ t f between, lastOverride? calls t = none → (∀ call ∈ between, call.overrideSet? t = none) →
      (new.afterAll (calls ++ .set t f :: between ++ [.remove t])).WriteAlike
        (new.afterAll (calls ++ between))) ∧
    ∀ t, (new.afterAll (calls ++ [.remove t])).WriteAlike
      (new.afterAll (withoutOverridesOf t calls)) := by
  intro r
  refine ⟨?_, ?_, ?_, fun t f between => writeAlike_set_remove f, writeAlike_remove calls⟩
  · intro v
    have hclosest := r.resolve_closest (r.types.ancestryOf v)
    rw [funext (new_override?_afterAll calls)] at hclosest
    exact ⟨TypeGraph.ancestryOf_breadthFirst (new_get?_afterAll calls) v, hclosest⟩
  · intro t hnone
    rw [← new_override?_afterAll] at hnone
    show (r.override? t).or _ = _
    rw [hnone]
    rfl
  · intro others hdeclared hlast
    have hformatters := new_formatterOf_afterAll hdeclared fun t => congrArg Option.join (hlast t)
    exact ⟨hformatters, writeAlike_of_formatterOf_eq hformatters⟩

/-- Integers are numbers, and keep their own formatter whatever is set for numbers. -/
theorem formatterOf_closest_integer :
    let numbers := [RegistryCall.set TypeName.number shouted]
    lastOverride? numbers TypeName.integer = none ∧
      (new.afterAll numbers).registered? TypeName.integer = Formatter.builtIns.get? TypeName.integer ∧
      (new.afterAll (numbers ++ .set TypeName.integer shouted :: [] ++ [.remove TypeName.integer])).WriteAlike
        (new.afterAll (numbers ++ [])) := by
  intro numbers
  have hnone : lastOverride? numbers TypeName.integer = none := rfl
  obtain ⟨-, hbuiltIn, -, hremoved, -⟩ := formatterOf_closest numbers
  exact ⟨hnone, hbuiltIn _ hnone, hremoved _ shouted [] hnone (by simp)⟩

end FormatterRegistry

end ObjectValidation
