import ObjectValidation.Table
import ObjectValidation.Value.Basic

/-!
The supertypes of a type in the order in which formatters are looked for. A type has at most one superclass
and any number of interfaces; the walk goes by distance, at each type to the superclass before the
interfaces, and meets no type twice. The category of all values is no part of it. A type of enumeration
values that is not declared has the enumerations as its supertype, also where only its name is looked up
later on: that is remembered from the first value met.
-/

namespace ObjectValidation

structure TypeDecl where
  name : TypeName
  superclass : Option TypeName := none
  interfaces : List TypeName := []
  deriving DecidableEq, Repr

namespace TypeDecl

def named (name : TypeName) : TypeDecl := { name }

def enumeration (name : TypeName) : TypeDecl := { name, superclass := some TypeName.enum }

def extending (d : TypeDecl) (superclass : TypeName) : TypeDecl :=
  { d with superclass := some superclass }

def implementing (d : TypeDecl) (interfaces : List TypeName) : TypeDecl :=
  { d with interfaces := d.interfaces ++ interfaces }

def supertypes (d : TypeDecl) : List TypeName := d.superclass.toList ++ d.interfaces

end TypeDecl

structure TypeGraph where
  decls : Table TypeDecl := .empty
  seenEnums : List TypeName := []

namespace TypeGraph

def empty : TypeGraph := {}

def declare (g : TypeGraph) (d : TypeDecl) : TypeGraph :=
  { g with decls := g.decls.insert d.name d }

def declareAll (g : TypeGraph) (decls : List TypeDecl) : TypeGraph := decls.foldl declare g

/-- The graph of the built-in types. -/
def standard : TypeGraph :=
  empty.declareAll <|
    [TypeName.integer, .float, .decimal].map (fun t => (TypeDecl.named t).extending .number) ++
    [TypeName.date, .time, .dateTime, .timestamp].map
      (fun t => (TypeDecl.named t).extending .temporal) ++
    [(TypeDecl.named .list).implementing [.iterable]]

instance : Inhabited TypeGraph := ⟨standard⟩

def get? (g : TypeGraph) (name : TypeName) : Option TypeDecl := g.decls.get? name

def isDeclared (g : TypeGraph) (name : TypeName) : Bool := (g.get? name).isSome

def parents (g : TypeGraph) (name : TypeName) : List TypeName :=
  match g.get? name with
  | some d => d.supertypes
  | none => []

/-- The declared types that have not been visited, which bound the rest of a walk. -/
def unvisited (g : TypeGraph) (visited : List TypeName) : Nat :=
  (g.decls.entries.filter fun e => !visited.contains e.1).length

theorem unvisited_cons_lt {g : TypeGraph} {visited : List TypeName} {name : TypeName}
    (hv : name ∉ visited) (hd : g.isDeclared name) :
    g.unvisited (name :: visited) < g.unvisited visited := by
  have hmem : ∃ e ∈ g.decls.entries, e.1 = name := by
    simp only [isDeclared, get?, Table.get?, Option.isSome_map, List.find?_isSome] at hd
    obtain ⟨e, he, hn⟩ := hd
    exact ⟨e, he, by simpa using hn⟩
  have key : ∀ entries : List (String × TypeDecl),
      (entries.filter fun e => !(name :: visited).contains e.1).length ≤
        (entries.filter fun e => !visited.contains e.1).length ∧
      ((∃ e ∈ entries, e.1 = name) →
        (entries.filter fun e => !(name :: visited).contains e.1).length <
          (entries.filter fun e => !visited.contains e.1).length) := by
    intro entries
    induction entries with
    | nil => simp
    | cons e rest ih =>
      by_cases hn : e.1 = name
      · have h1 : ((name :: visited).contains e.1) = true := by simp [hn]
        have h2 : (visited.contains e.1) = false := by simpa [hn] using hv
        simp only [List.filter_cons, h1, h2]
        have := ih.1
        simp only [Bool.not_true, Bool.false_eq_true, if_false, Bool.not_false, if_true,
          List.length_cons]
        exact ⟨by omega, fun _ => by omega⟩
      · have h1 : ((name :: visited).contains e.1) = visited.contains e.1 := by
          simp [hn]
        simp only [List.filter_cons, h1]
        split
        · simp only [List.length_cons]
          refine ⟨by have := ih.1; omega, ?_⟩
          rintro ⟨x, hx, hxn⟩
          rcases List.mem_cons.mp hx with rfl | hx
          · exact absurd hxn hn
          · have := ih.2 ⟨x, hx, hxn⟩; omega
        · refine ⟨ih.1, ?_⟩
          rintro ⟨x, hx, hxn⟩
          rcases List.mem_cons.mp hx with rfl | hx
          · exact absurd hxn hn
          · exact ih.2 ⟨x, hx, hxn⟩
  exact (key g.decls.entries).2 hmem

/-- Takes types from the queue and puts their supertypes at its end. The types met are listed in order;
`visited` also holds the start. -/
def walk (g : TypeGraph) (visited queue : List TypeName) : List TypeName :=
  match queue with
  | [] => []
  | t :: rest =>
    if t = TypeName.any ∨ t ∈ visited then walk g visited rest
    else t :: walk g (t :: visited) (rest ++ g.parents t)
termination_by (g.unvisited visited, queue.length)
decreasing_by
  · exact Prod.Lex.right _ (by simp)
  · rename_i h
    have hv : t ∉ visited := fun hm => h (.inr hm)
    by_cases hd : g.isDeclared t
    · exact Prod.Lex.left _ _ (unvisited_cons_lt hv hd)
    · have hp : g.parents t = [] := by
        simp only [isDeclared, Bool.not_eq_true, Option.isSome_eq_false_iff,
          Option.isNone_iff_eq_none] at hd
        simp [parents, hd]
      have hu : g.unvisited (t :: visited) = g.unvisited visited := by
        simp only [isDeclared, get?, Table.get?, Option.isSome_map, List.find?_isSome, not_exists,
          not_and, beq_iff_eq] at hd
        simp only [unvisited]
        congr 1
        apply List.filter_congr
        intro e he
        simp [hd e he]
      rw [hu, hp]
      exact Prod.Lex.right _ (by simp)

/-- A type and its supertypes, the given ones in place of the declared ones at the start. -/
def ancestryVia (g : TypeGraph) (name : TypeName) (supertypes : List TypeName) : List TypeName :=
  name :: g.walk [name] supertypes

/-- The supertypes that a walk from a name starts with. -/
def startParents (g : TypeGraph) (isEnum : Bool) (name : TypeName) : List TypeName :=
  if isEnum && !g.isDeclared name then [TypeName.enum] else g.parents name

/-- The walk from a type's name. -/
def ancestry (g : TypeGraph) (name : TypeName) : List TypeName :=
  g.ancestryVia name (g.startParents (g.seenEnums.contains name) name)

def isEnumValue : Value → Bool
  | .enum _ _ => true
  | _ => false

/-- The walk from a value's type. -/
def ancestryOf (g : TypeGraph) (v : Value) : List TypeName :=
  g.ancestryVia v.typeName (g.startParents (isEnumValue v) v.typeName)

/-- Remembers the type of a value that is the first of an undeclared enumeration. -/
def note (g : TypeGraph) (v : Value) : TypeGraph :=
  if isEnumValue v && !g.isDeclared v.typeName && !g.seenEnums.contains v.typeName then
    { g with seenEnums := v.typeName :: g.seenEnums }
  else g

end TypeGraph

end ObjectValidation
