import ObjectValidation.Proofs.Collection.FirstOccurrence
import ObjectValidation.Types.Graph
import Mathlib.Order.Lattice.Nat

/-!
The walk along supertypes is the breadth-first one. What decides the order is one equation: after the start
come the supertypes of everything listed, in order of first occurrence. Distances never decrease along it,
and types are told apart by the earliest type that lists them and their place among its supertypes.
-/

namespace ObjectValidation

/-- The number of steps of a way up from the start. No step leads to the category of all values. -/
inductive Ascends (supertypes : TypeName → List TypeName) (start : TypeName) : Nat → TypeName → Prop
  | here : Ascends supertypes start 0 start
  | step {n : Nat} {t u : TypeName} (way : Ascends supertypes start n t) (listed : u ∈ supertypes t)
      (other : u ≠ TypeName.any) : Ascends supertypes start (n + 1) u

/-- The length of the shortest way up. -/
noncomputable def distance (supertypes : TypeName → List TypeName) (start t : TypeName) : Nat :=
  sInf {n | Ascends supertypes start n t}

/-- The earliest type of an order that lists a type among its supertypes. -/
def firstListing? (supertypes : TypeName → List TypeName) (order : List TypeName) (t : TypeName) :
    Option TypeName :=
  order.find? fun p => t ∈ supertypes p

/-- An order starts with the start and meets every type that can be reached once, those at a smaller distance
before those at a greater. Types after the start stand as the earliest types listing them do, and where
that is one type, as they stand among its supertypes. -/
structure BreadthFirst (supertypes : TypeName → List TypeName) (start : TypeName)
    (order : List TypeName) : Prop where
  head_eq : order.head? = some start
  nodup : order.Nodup
  mem_iff (t : TypeName) : t ∈ order ↔ ∃ n, Ascends supertypes start n t
  any_mem : TypeName.any ∈ order → start = TypeName.any
  distance_le : order.Pairwise fun t u =>
    distance supertypes start t ≤ distance supertypes start u
  listed : ∀ t ∈ order, t ≠ start → ∃ p ∈ order, firstListing? supertypes order t = some p
  before_iff {t u p q : TypeName} : t ∈ order → u ∈ order → t ≠ start → u ≠ start →
    firstListing? supertypes order t = some p → firstListing? supertypes order u = some q →
    (order.idxOf t < order.idxOf u ↔
      order.idxOf p < order.idxOf q ∨ p = q ∧ (supertypes p).idxOf t < (supertypes p).idxOf u)

/-- Whether a walk that has visited some types would still list this one. -/
def isUnmet (visited : List TypeName) (t : TypeName) : Bool := t != TypeName.any && !visited.contains t

theorem isUnmet_iff {visited : List TypeName} {t : TypeName} :
    isUnmet visited t = true ↔ t ≠ TypeName.any ∧ t ∉ visited := by
  simp [isUnmet]

/-! An order in which everything after the start is the first occurrences of supertypes. -/

section

variable {supertypes : TypeName → List TypeName} {start : TypeName} {rest : List TypeName}

/-- What follows the start are the supertypes of all that is listed, each where it first occurs. -/
def FollowsStart (supertypes : TypeName → List TypeName) (start : TypeName) (rest : List TypeName) : Prop :=
  rest = (((start :: rest).flatMap supertypes).filter (isUnmet [start])).eraseDups

namespace FollowsStart

theorem mem_iff (h : FollowsStart supertypes start rest) {t : TypeName} :
    t ∈ rest ↔ isUnmet [start] t = true ∧ ∃ p ∈ start :: rest, t ∈ supertypes p := by
  conv => lhs; rw [h]
  rw [List.mem_eraseDups, List.mem_filter, List.mem_flatMap, and_comm]

theorem ne_start (h : FollowsStart supertypes start rest) {t : TypeName} (ht : t ∈ rest) : t ≠ start := by
  have hunmet := (isUnmet_iff.1 (h.mem_iff.1 ht).1).2
  simpa using hunmet

theorem nodup (h : FollowsStart supertypes start rest) : (start :: rest).Nodup := by
  rw [List.nodup_cons]
  refine ⟨fun hstart => h.ne_start hstart rfl, ?_⟩
  rw [h]
  exact nodup_eraseDups _

theorem mem_of_ascends (h : FollowsStart supertypes start rest) {n : Nat} {t : TypeName}
    (ht : Ascends supertypes start n t) : t ∈ start :: rest := by
  induction ht with
  | here => exact List.mem_cons_self
  | @step n t u _ listed other ih =>
    by_cases hu : u = start
    · rw [hu]
      exact List.mem_cons_self
    · exact List.mem_cons_of_mem _ (h.mem_iff.2 ⟨isUnmet_iff.2 ⟨other, by simpa using hu⟩, t, ih, listed⟩)

theorem idxOf_succ {t : TypeName} (ht : t ≠ start) : (start :: rest).idxOf t = rest.idxOf t + 1 :=
  List.idxOf_cons_ne _ ht.symm

theorem before_iff (h : FollowsStart supertypes start rest) {t u p q : TypeName} (ht : t ∈ rest)
    (hu : u ∈ rest) (hp : firstListing? supertypes (start :: rest) t = some p)
    (hq : firstListing? supertypes (start :: rest) u = some q) :
    (start :: rest).idxOf t < (start :: rest).idxOf u ↔
      (start :: rest).idxOf p < (start :: rest).idxOf q ∨
        p = q ∧ (supertypes p).idxOf t < (supertypes p).idxOf u := by
  have hft := (h.mem_iff.1 ht).1
  have hfu := (h.mem_iff.1 hu).1
  have hfirst := idxOf_eraseDups_lt_iff t u
    (((start :: rest).flatMap supertypes).filter (isUnmet [start]))
  rw [← h, idxOf_filter_lt_iff hft hfu, idxOf_flatMap_lt_iff hp hq] at hfirst
  rw [idxOf_succ (h.ne_start ht), idxOf_succ (h.ne_start hu), Nat.add_lt_add_iff_right]
  exact hfirst

theorem exists_firstListing (h : FollowsStart supertypes start rest) {t : TypeName} (ht : t ∈ rest) :
    ∃ p ∈ start :: rest, t ∈ supertypes p ∧ firstListing? supertypes (start :: rest) t = some p := by
  obtain ⟨-, p, hp, hlists⟩ := h.mem_iff.1 ht
  have hsome : (firstListing? supertypes (start :: rest) t).isSome := by
    unfold firstListing?
    rw [List.find?_isSome]
    exact ⟨p, hp, decide_eq_true hlists⟩
  obtain ⟨first, hfirst⟩ := Option.isSome_iff_exists.1 hsome
  have hfound := List.find?_some hfirst
  exact ⟨first, List.mem_of_find?_eq_some hfirst, by simpa using hfound, hfirst⟩

/-- Whatever stands before a type can be reached in no more steps. -/
theorem ascends_of_idxOf_le (h : FollowsStart supertypes start rest) {n : Nat} {u : TypeName}
    (hu : Ascends supertypes start n u) :
    ∀ t ∈ start :: rest, (start :: rest).idxOf t ≤ (start :: rest).idxOf u →
      ∃ m ≤ n, Ascends supertypes start m t := by
  -- The earliest type listing `t` is no later than the last type of the way to `u`.
  induction hu with
  | here =>
    intro t ht hle
    have hzero : (start :: rest).idxOf t = 0 := by simpa using hle
    have hstart : t = start := by
      by_contra hne
      rw [idxOf_succ hne] at hzero
      omega
    exact ⟨0, le_rfl, hstart ▸ .here⟩
  | @step n v u way listed other ih =>
    intro t ht hle
    by_cases hts : t = start
    · exact ⟨0, Nat.zero_le _, hts ▸ .here⟩
    by_cases hus : u = start
    · rw [hus, List.idxOf_cons_self, idxOf_succ hts] at hle
      omega
    have htrest : t ∈ rest := (List.mem_cons.1 ht).resolve_left hts
    have hurest : u ∈ rest :=
      (List.mem_cons.1 (h.mem_of_ascends (way.step listed other))).resolve_left hus
    obtain ⟨p, hp, hlists, hfirst⟩ := h.exists_firstListing htrest
    obtain ⟨q, hq, -, hfirst'⟩ := h.exists_firstListing hurest
    have hqv : (start :: rest).idxOf q ≤ (start :: rest).idxOf v :=
      idxOf_le_of_find? hfirst' (h.mem_of_ascends way) (decide_eq_true listed)
    have hpq : (start :: rest).idxOf p ≤ (start :: rest).idxOf q := by
      by_contra hlt
      have hut := (h.before_iff hurest htrest hfirst' hfirst).2 (.inl (not_le.1 hlt))
      omega
    obtain ⟨m, hm, hway⟩ := ih p hp (hpq.trans hqv)
    have hother := (isUnmet_iff.1 (h.mem_iff.1 htrest).1).1
    exact ⟨m + 1, Nat.succ_le_succ hm, hway.step hlists hother⟩

theorem distance_le (h : FollowsStart supertypes start rest) {t u : TypeName}
    (ht : t ∈ start :: rest) (hu : ∃ n, Ascends supertypes start n u)
    (hle : (start :: rest).idxOf t ≤ (start :: rest).idxOf u) :
    distance supertypes start t ≤ distance supertypes start u := by
  have hshortest : Ascends supertypes start (distance supertypes start u) u := Nat.sInf_mem hu
  obtain ⟨m, hm, hway⟩ := h.ascends_of_idxOf_le hshortest t ht hle
  exact (Nat.sInf_le hway).trans hm

theorem breadthFirst (h : FollowsStart supertypes start rest)
    (hreached : ∀ t ∈ rest, ∃ n, Ascends supertypes start n t) :
    BreadthFirst supertypes start (start :: rest) := by
  have hmem (t : TypeName) : t ∈ start :: rest ↔ ∃ n, Ascends supertypes start n t := by
    constructor
    · intro ht
      rcases List.mem_cons.1 ht with rfl | ht
      · exact ⟨0, .here⟩
      · exact hreached t ht
    · rintro ⟨n, hn⟩
      exact h.mem_of_ascends hn
  have hrest {t : TypeName} (ht : t ∈ start :: rest) (hne : t ≠ start) : t ∈ rest :=
    (List.mem_cons.1 ht).resolve_left hne
  constructor
  case head_eq => rfl
  case nodup => exact h.nodup
  case mem_iff => exact hmem
  case any_mem =>
    intro hany
    by_contra hne
    exact (isUnmet_iff.1 (h.mem_iff.1 (hrest hany (Ne.symm hne))).1).1 rfl
  case distance_le =>
    rw [List.pairwise_iff_getElem]
    intro i j hi hj hij
    apply h.distance_le (List.getElem_mem hi) ((hmem _).1 (List.getElem_mem hj))
    rw [h.nodup.idxOf_getElem i hi, h.nodup.idxOf_getElem j hj]
    exact hij.le
  case listed =>
    intro t ht hne
    obtain ⟨p, hp, -, hfirst⟩ := h.exists_firstListing (hrest ht hne)
    exact ⟨p, hp, hfirst⟩
  case before_iff =>
    intro t u p q ht hu htne hune hp hq
    exact h.before_iff (hrest ht htne) (hrest hu hune) hp hq

end FollowsStart

end

/-! The walk of a graph of declarations. -/

namespace TypeGraph

/-- A walk lists the first occurrences of what was in the queue and of the supertypes of all it lists,
without what had been visited before. -/
theorem walk_eq_eraseDups (g : TypeGraph) (visited queue : List TypeName) :
    g.walk visited queue =
      ((queue ++ (g.walk visited queue).flatMap g.parents).filter (isUnmet visited)).eraseDups := by
  induction visited, queue using walk.induct g with
  | case1 visited => simp [walk]
  | case2 visited t rest hskip ih =>
    have hmet : ¬ isUnmet visited t = true := by
      rw [isUnmet_iff, not_and_or, not_not, not_not]
      exact hskip
    rw [walk, if_pos hskip, List.cons_append, List.filter_cons_of_neg hmet]
    exact ih
  | case3 visited t rest hnew ih =>
    have hunmet : isUnmet visited t = true := isUnmet_iff.2 (not_or.1 hnew)
    have hfilter (l : List TypeName) :
        (l.filter (isUnmet visited)).filter (fun u => !u == t) = l.filter (isUnmet (t :: visited)) := by
      rw [List.filter_filter]
      congr 1
      funext u
      simp only [isUnmet, List.contains_cons, Bool.not_or]
      exact Bool.and_left_comm _ _ _
    rw [walk, if_neg hnew, List.flatMap_cons, List.cons_append, List.filter_cons_of_pos hunmet,
      List.eraseDups_cons, hfilter, ← List.append_assoc, ← ih]

/-- Everything a walk lists can be reached if everything in the queue can be. -/
theorem ascends_of_mem_walk {g : TypeGraph} {supertypes : TypeName → List TypeName} {start : TypeName}
    (hsame : ∀ t, t ≠ start → supertypes t = g.parents t) (visited queue : List TypeName)
    (hstart : start ∈ visited)
    (hqueue : ∀ t ∈ queue, t ≠ TypeName.any → ∃ n, Ascends supertypes start n t) :
    ∀ t ∈ g.walk visited queue, ∃ n, Ascends supertypes start n t := by
  induction visited, queue using walk.induct g with
  | case1 visited =>
    intro t ht
    rw [walk] at ht
    cases ht
  | case2 visited t rest hskip ih =>
    rw [walk, if_pos hskip]
    exact ih hstart fun u hu => hqueue u (List.mem_cons_of_mem _ hu)
  | case3 visited t rest hnew ih =>
    obtain ⟨hany, hvisited⟩ := not_or.1 hnew
    obtain ⟨n, hway⟩ := hqueue t List.mem_cons_self hany
    have hts : t ≠ start := fun he => hvisited (he ▸ hstart)
    rw [walk, if_neg hnew]
    intro u hu
    rcases List.mem_cons.1 hu with rfl | hu
    · exact ⟨n, hway⟩
    · refine ih (List.mem_cons_of_mem _ hstart) ?_ u hu
      intro w hw hwany
      rcases List.mem_append.1 hw with hw | hw
      · exact hqueue w (List.mem_cons_of_mem _ hw) hwany
      · exact ⟨n + 1, hway.step (by rwa [hsame t hts]) hwany⟩

/-- The walk from a type is breadth-first along the supertypes that it starts with there and the declared
ones everywhere else. -/
theorem ancestryVia_breadthFirst {g : TypeGraph} {supertypes : TypeName → List TypeName}
    {start : TypeName} (hsame : ∀ t, t ≠ start → supertypes t = g.parents t) :
    BreadthFirst supertypes start (g.ancestryVia start (supertypes start)) := by
  have hwalk := g.walk_eq_eraseDups [start] (supertypes start)
  have hnotMem : start ∉ g.walk [start] (supertypes start) := by
    intro hmem
    rw [hwalk, List.mem_eraseDups, List.mem_filter] at hmem
    exact (isUnmet_iff.1 hmem.2).2 List.mem_cons_self
  have hparents : (g.walk [start] (supertypes start)).flatMap g.parents =
      (g.walk [start] (supertypes start)).flatMap supertypes := by
    apply List.flatMap_congr
    intro t ht
    exact (hsame t fun he => hnotMem (he ▸ ht)).symm
  have hfollows : FollowsStart supertypes start (g.walk [start] (supertypes start)) := by
    unfold FollowsStart
    rw [List.flatMap_cons, ← hparents]
    exact hwalk
  refine hfollows.breadthFirst (ascends_of_mem_walk hsame _ _ List.mem_cons_self ?_)
  intro t ht hany
  exact ⟨1, Ascends.here.step ht hany⟩

end TypeGraph

/-- Of several declarations of a name the last one counts. -/
def declaration? (decls : List TypeDecl) (t : TypeName) : Option TypeDecl :=
  decls.reverse.find? fun d => d.name == t

/-- The superclass, then the interfaces as they were declared. -/
def declaredSupertypes (decls : List TypeDecl) (t : TypeName) : List TypeName :=
  match declaration? decls t with
  | some d => d.superclass.toList ++ d.interfaces
  | none => []

/-- The supertypes of types as seen from a start: an undeclared type of enumeration values has the
enumerations as its one supertype. -/
def supertypesFrom (decls : List TypeDecl) (enumeration : Bool) (start t : TypeName) : List TypeName :=
  if t = start ∧ enumeration ∧ declaration? decls t = none then [TypeName.enum]
  else declaredSupertypes decls t

namespace TypeGraph

theorem get?_foldl_declare (decls : List TypeDecl) (g : TypeGraph) (t : TypeName) :
    (decls.foldl declare g).get? t = (declaration? decls t).or (g.get? t) := by
  induction decls generalizing g with
  | nil => rfl
  | cons d rest ih =>
    have hdeclare : (g.declare d).get? t = if d.name == t then some d else g.get? t := by
      by_cases hname : d.name = t
      · simp [declare, get?, hname]
      · simp [declare, get?, hname, Table.get?_insert_of_ne _ _ _ _ (Ne.symm hname)]
    rw [List.foldl_cons, ih, hdeclare, declaration?, declaration?, List.reverse_cons,
      List.find?_append, Option.or_assoc]
    cases h : d.name == t <;> simp [h]

theorem get?_declareAll (decls : List TypeDecl) (t : TypeName) :
    (empty.declareAll decls).get? t = declaration? decls t := by
  rw [declareAll, get?_foldl_declare]
  exact Option.or_none

end TypeGraph

/-- For any declarations, in whatever way they refer to each other, and whatever types of enumeration values
were met before, the ancestries of a type's name and of a value are breadth-first. -/
theorem ancestry_breadthFirst (decls : List TypeDecl) (seen : List TypeName) :
    let g : TypeGraph := { TypeGraph.empty.declareAll decls with seenEnums := seen }
    (∀ start : TypeName, BreadthFirst (supertypesFrom decls (seen.contains start) start) start
      (g.ancestry start)) ∧
    (∀ v : Value, BreadthFirst (supertypesFrom decls (TypeGraph.isEnumValue v) v.typeName) v.typeName
      (g.ancestryOf v)) := by
  intro g
  have hget (t : TypeName) : g.get? t = declaration? decls t := TypeGraph.get?_declareAll decls t
  have hparents (t : TypeName) : g.parents t = declaredSupertypes decls t := by
    rw [TypeGraph.parents, hget, declaredSupertypes]
    rfl
  have hstart (isEnum : Bool) (start : TypeName) :
      g.startParents isEnum start = supertypesFrom decls isEnum start start := by
    simp [TypeGraph.startParents, TypeGraph.isDeclared, supertypesFrom, hget, hparents]
  have hsame (isEnum : Bool) (start t : TypeName) (hne : t ≠ start) :
      supertypesFrom decls isEnum start t = g.parents t := by
    simp [supertypesFrom, hne, hparents]
  constructor
  · intro start
    rw [TypeGraph.ancestry, hstart]
    exact TypeGraph.ancestryVia_breadthFirst (hsame _ start)
  · intro v
    rw [TypeGraph.ancestryOf, hstart]
    exact TypeGraph.ancestryVia_breadthFirst (hsame _ v.typeName)

end ObjectValidation
