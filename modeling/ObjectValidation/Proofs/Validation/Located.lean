import ObjectValidation.Proofs.Location
import ObjectValidation.Proofs.Validation.Flat
import Mathlib.Data.List.Forall2

/-!
Where the failures of a pass are found. Walking through a tree of rules with the location instead of the path
gives a report for each failure, in the same order. The pass puts paths together from the innermost context
outwards; where names are plain, what it reports in the end is the path of the location, and no other location
has that path.
-/

namespace ObjectValidation

/-- A failure with the location where it is found. -/
structure Report where
  location : Location
  value : Option Value
  constraint : Constraint

/-- The violation tells of the failure. If the location is plain, it gives the location's path. -/
structure Report.ShownBy (r : Report) (v : Violation) : Prop where
  value_eq : v.value = r.value
  constraint_eq : v.constraint = r.constraint
  path_eq : r.location.Plain → v.path = r.location.path

namespace Property

variable {α ε κ ν : Type}

/-- A property without a name is the object itself. -/
def segments (p : Property α) : Location := if p.path = "" then [] else [.name p.path]

def reports [ToValue α] (p : Property α) (here : Location) (c : Check α) : List Report :=
  if c.accepts p.value then []
  else [⟨here ++ p.segments, p.value.bind fun a => (toValue a).nonNull?, c.constraint⟩]

/-- The reports on the value of a property, at the property's location. -/
def partReports (p : Property α) (here : Location) (reports : α → Location → List Report) : List Report :=
  p.value.toList.flatMap fun a => reports a (here ++ p.segments)

/-- The reports on the elements of a property, each at its position. -/
def elementReports [Elements α ε] (p : Property α) (here : Location)
    (reports : Nat → ε → Location → List Report) : List Report :=
  p.partReports here fun a here =>
    (Elements.elements a).zipIdx.flatMap fun e => reports e.2 e.1 (here ++ [.index e.2])

/-- The reports on the entries of a property, each at its key. -/
def entryReports [Elements α (Entry κ ν)] [ToString κ] (p : Property α) (here : Location)
    (reports : Entry κ ν → Location → List Report) : List Report :=
  p.partReports here fun a here =>
    (Elements.elements a).flatMap fun e => reports e (here ++ [.key (toString e.key)])

end Property

namespace Rule

variable {m : Type → Type}

mutual

/-- What fails of a rule for an object at a location, in depth-first order. -/
def reports : Rule m → Location → List Report
  | .action _, _ => []
  | @check _ _ _ p c, here => p.reports here c
  | .nested p block, here => p.partReports here fun a => reportsAll (block a)
  | .cascade p constraints, here => p.partReports here fun a => reportsAll (constraints a)
  | @forEach _ _ _ _ p block, here => p.elementReports here fun _ e => reportsAll (block e)
  | @forEachIndexed _ _ _ _ p block, here => p.elementReports here fun i e => reportsAll (block i e)
  | @forEachEntry _ _ _ _ _ p block, here => p.elementReports here fun _ e => reportsAll (block e)
  | @forEachEntryKeyed _ _ _ _ _ _ p block, here => p.entryReports here fun e => reportsAll (block e)

def reportsAll : List (Rule m) → Location → List Report
  | [], _ => []
  | r :: rest, here => reports r here ++ reportsAll rest here

end

end Rule

/-- An object at the location is walked under the path; if the location is plain, this is its path. -/
def Location.IsAt (here : Location) (path : String) : Prop := here.Plain → path = here.path

namespace Location

variable {here : Location} {path : String}

theorem IsAt.property {α : Type} (h : here.IsAt path) (p : Property α) :
    IsAt (here ++ p.segments) (Path.field path p.path) := by
  intro hplain
  obtain ⟨hhere, hsegments⟩ := plain_append.mp hplain
  have hpath : p.path = Location.path p.segments := by
    unfold Property.segments
    split
    · assumption
    · simp [Location.path, Segment.leading, attachedAll]
  rw [Path.field, h hhere, hpath, rebase_path hhere hsegments]

theorem IsAt.element (h : here.IsAt path) (i : Nat) : IsAt (here ++ [.index i]) (Path.index path i) := by
  intro hplain
  obtain ⟨hhere, hindex⟩ := plain_append.mp hplain
  have hpath : Path.index "" i = Location.path [.index i] := by
    simp [Path.index, Path.key, Location.path, Segment.leading, Segment.attached, attachedAll, String.append_assoc]
  rw [h hhere, ← rebase_path hhere hindex, ← hpath, Path.rebase_index, Path.rebase_empty_right]

/-- Nothing is said of paths under keys. -/
theorem isAt_entry (here : Location) (key path : String) : IsAt (here ++ [.key key]) path :=
  fun hplain => ((plain_append.mp hplain).2 (.key key) List.mem_cons_self).elim

end Location

/-- In order, the failures among the events are those that are reported. -/
def ReportedBy {m : Type → Type} (events : List (Event m)) (reports : List Report) : Prop :=
  List.Forall₂ Report.ShownBy reports (Event.failures events)

section

variable {m : Type → Type} {here : Location} {path : String}

theorem ReportedBy.append {es fs : List (Event m)} {rs qs : List Report} (h : ReportedBy es rs)
    (hnext : ReportedBy fs qs) : ReportedBy (es ++ fs) (rs ++ qs) := by
  rw [ReportedBy, Event.failures_append]
  exact List.rel_append h hnext

theorem reportedBy_flatMap {α : Type} {events : α → List (Event m)} {reports : α → List Report}
    (h : ∀ a, ReportedBy (events a) (reports a)) (items : List α) :
    ReportedBy (items.flatMap events) (items.flatMap reports) := by
  induction items with
  | nil => exact .nil
  | cons a rest ih => exact (h a).append ih

namespace Property

variable {α ε κ ν : Type} (p : Property α)

theorem reportedBy_check [ToValue α] (c : Check α) (h : here.IsAt path) :
    ReportedBy (p.checkEvents path c : List (Event m)) (p.reports here c) := by
  unfold checkEvents reports
  split
  · exact .nil
  · exact .cons ⟨rfl, rfl, h.property p⟩ .nil

theorem reportedBy_part {events : α → String → List (Event m)} {reports : α → Location → List Report}
    (hparts : ∀ a there under, there.IsAt under → ReportedBy (events a under) (reports a there))
    (h : here.IsAt path) : ReportedBy (p.partEvents path events) (p.partReports here reports) :=
  reportedBy_flatMap (fun a => hparts a _ _ (h.property p)) p.value.toList

theorem reportedBy_elements [Elements α ε] {events : Nat → ε → String → List (Event m)}
    {reports : Nat → ε → Location → List Report}
    (hparts : ∀ i e there under, there.IsAt under → ReportedBy (events i e under) (reports i e there))
    (h : here.IsAt path) : ReportedBy (p.elementEvents path events) (p.elementReports here reports) := by
  refine p.reportedBy_part ?_ h
  intro a there under hthere
  exact reportedBy_flatMap (fun e => hparts e.2 e.1 _ _ (hthere.element e.2)) (Elements.elements a).zipIdx

theorem reportedBy_entries [Elements α (Entry κ ν)] [ToString κ]
    {events : Entry κ ν → String → List (Event m)} {reports : Entry κ ν → Location → List Report}
    (hparts : ∀ e there under, there.IsAt under → ReportedBy (events e under) (reports e there))
    (h : here.IsAt path) : ReportedBy (p.entryEvents path events) (p.entryReports here reports) := by
  refine p.reportedBy_part ?_ h
  intro a there under _
  exact reportedBy_flatMap (fun e => hparts e _ _ (there.isAt_entry _ _)) (Elements.elements a)

end Property

namespace Rule

mutual

theorem events_reportedBy (here : Location) (path : String) (h : here.IsAt path) : (r : Rule m) →
    ReportedBy (events r path) (reports r here)
  | .action _ => .nil
  | @check _ _ _ p c => p.reportedBy_check c h
  | .nested p block =>
    p.reportedBy_part (fun a there under h => eventsAll_reportedBy there under h (block a)) h
  | .cascade p constraints =>
    p.reportedBy_part (fun a there under h => eventsAll_reportedBy there under h (constraints a)) h
  | @forEach _ _ _ _ p block =>
    p.reportedBy_elements (fun _ e there under h => eventsAll_reportedBy there under h (block e)) h
  | @forEachIndexed _ _ _ _ p block =>
    p.reportedBy_elements (fun i e there under h => eventsAll_reportedBy there under h (block i e)) h
  | @forEachEntry _ _ _ _ _ p block =>
    p.reportedBy_elements (fun _ e there under h => eventsAll_reportedBy there under h (block e)) h
  | @forEachEntryKeyed _ _ _ _ _ _ p block =>
    p.reportedBy_entries (fun e there under h => eventsAll_reportedBy there under h (block e)) h

theorem eventsAll_reportedBy (here : Location) (path : String) (h : here.IsAt path) :
    (rs : List (Rule m)) → ReportedBy (eventsAll rs path) (reportsAll rs here)
  | [] => .nil
  | r :: rest =>
    (events_reportedBy here path h r).append (eventsAll_reportedBy here path h rest)

end

end Rule

end

/-- Rules that lead to a location, context by context, and fail there. -/
def Location.rulesTo (m : Type → Type) : Location → List (Rule m)
  | [] => [.check (Property.whole true) .isNull]
  | .name text :: rest => [.nested (Property.field text id ()) fun _ => rulesTo m rest]
  | .index i :: rest =>
    [.forEachIndexed (Property.whole (List.replicate (i + 1) ())) fun j _ =>
      if j = i then rulesTo m rest else []]
  | .key text :: rest =>
    [.forEachEntryKeyed (Property.whole (OrderedMap.ofList [(text, ())])) fun _ => rulesTo m rest]

/-- Of several elements only the last has something. -/
theorem flatMap_zipIdx_replicate {α : Type} {i : Nat} {f : Unit × Nat → List α} (h : ∀ j < i, f ((), j) = []) :
    (List.replicate (i + 1) ()).zipIdx.flatMap f = f ((), i) := by
  have hearlier : (List.replicate i ()).zipIdx.flatMap f = [] := by
    rw [List.flatMap_eq_nil_iff]
    intro e he
    exact h e.2 (by simpa using List.snd_lt_of_mem_zipIdx he)
  rw [List.replicate_succ', List.zipIdx_append, List.flatMap_append, hearlier]
  simp

theorem Location.reportsAll_rulesTo {m : Type → Type} {l : Location} (h : l.Plain) (here : Location) :
    (Rule.reportsAll (l.rulesTo m) here).map Report.location = [here ++ l] := by
  have hunnamed {α : Type} (a : α) : (Property.whole a).segments = [] := rfl
  induction l generalizing here with
  | nil =>
    have hvalue : (Property.whole true).value = some true := rfl
    simp [rulesTo, Rule.reportsAll, Rule.reports, Property.reports, hunnamed, hvalue, Check.isNull]
  | cons s rest ih =>
    obtain ⟨hs, hrest⟩ := List.forall_mem_cons.mp h
    have hstep : Rule.reportsAll (rulesTo m (s :: rest)) here = Rule.reportsAll (rulesTo m rest) (here ++ [s]) := by
      cases s with
      | name text =>
        have hname : (Property.field text id ()).segments = [.name text] := if_neg hs.1
        have hvalue : (Property.field text id ()).value = some () := rfl
        simp [rulesTo, Rule.reportsAll, Rule.reports, Property.partReports, hname, hvalue]
      | index i =>
        have hvalue : (Property.whole (List.replicate (i + 1) ())).value = some (List.replicate (i + 1) ()) := rfl
        have hlast := flatMap_zipIdx_replicate (i := i)
          (f := fun e => Rule.reportsAll (if e.2 = i then rulesTo m rest else []) (here ++ [.index e.2]))
          (by intro j hj; simp [Nat.ne_of_lt hj, Rule.reportsAll])
        simpa [rulesTo, Rule.reportsAll, Rule.reports, Property.elementReports, Property.partReports, hunnamed,
          hvalue, Elements.elements] using hlast
      | key text => exact hs.elim
    rw [hstep, ih hrest, List.append_assoc, List.singleton_append]

/-- A pass reports each failure with the path of its location, as long as that is plain, and two plain locations
never have the same path. Every plain location can be reported. -/
theorem paths_identify_locations {m : Type → Type} [Monad m] [LawfulMonad m] {α : Type}
    (rules : α → List (Rule m)) (object : α) :
    let events := Rule.eventsAll (rules object) ""
    let found := Event.failures events
    (validate object (Rule.block rules) = do
      Event.perform events
      return if found.isEmpty then .ok () else .error ⟨found.eraseDups, ViolationSet.pairwise_eraseDups found⟩) ∧
    List.Forall₂ Report.ShownBy (Rule.reportsAll (rules object) []) found ∧
    (∀ (r r' : Report) (v v' : Violation), r.ShownBy v → r'.ShownBy v' → r.location.Plain → r'.location.Plain →
      (v.path = v'.path ↔ r.location = r'.location)) ∧
    ∀ l : Location, l.Plain →
      ∃ rules : List (Rule m), (Rule.reportsAll rules []).map Report.location = [l] := by
  intro events found
  refine ⟨Follows.validate (Rule.passAll_follows (rules object)), ?_, ?_, ?_⟩
  · exact Rule.eventsAll_reportedBy [] "" (fun _ => rfl) (rules object)
  · intro r r' v v' hv hv' hr hr'
    rw [hv.path_eq hr, hv'.path_eq hr']
    exact ⟨Location.path_injective hr hr', congrArg Location.path⟩
  · intro l hl
    exact ⟨l.rulesTo m, Location.reportsAll_rulesTo hl []⟩

/-- Rules for rows of numbers; a closing bracket does not end a name. -/
def rowRules (rows : List (List Int64)) : List (Rule Id) :=
  [.forEach (Property.whole rows) fun row =>
    [.forEach (Property.field "a]" id row) fun cell => [.check (Property.field "x" id cell) .isNull]]]

theorem paths_identify_locations_rows :
    LawfulMonad Id ∧
    validate [[7], [8, 9]] (Rule.block rowRules) =
      (.error ⟨[⟨"[0].a][0].x", some (.integer 7), builtIn "Null"⟩,
        ⟨"[1].a][0].x", some (.integer 8), builtIn "Null"⟩,
        ⟨"[1].a][1].x", some (.integer 9), builtIn "Null"⟩], by decide⟩ : Id (Except ViolationSet Unit)) ∧
    (Rule.reportsAll (rowRules [[7], [8, 9]]) []).map Report.location =
      [[.index 0, .name "a]", .index 0, .name "x"], [.index 1, .name "a]", .index 0, .name "x"],
        [.index 1, .name "a]", .index 1, .name "x"]] ∧
    ∃ rules : List (Rule Id), (Rule.reportsAll rules []).map Report.location = [[.index 1, .name "a]"]] := by
  obtain ⟨hvalidate, -, -, hreached⟩ := paths_identify_locations rowRules [[7], [8, 9]]
  refine ⟨inferInstance, ?_, rfl, hreached _ (by decide)⟩
  rw [hvalidate]
  rfl

end ObjectValidation
