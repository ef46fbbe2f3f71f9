import ObjectValidation.Proofs.Format.Closest
import ObjectValidation.Proofs.Types.NameLookup

/-!
What a change of a registry leaves as it is. A walk reads only the declarations of the types that it lists, and a
formatter is chosen among those of the types of an ancestry. So while formatters of one's own ask for no other texts,
a change that concerns no type in the ancestries of a value and of what is nested in its lists and arrays does not
show in its text.
-/

namespace ObjectValidation

namespace Value

/-- A value is another one, or is found among its items or theirs, at any depth. -/
inductive Nested (w : Value) : Value → Prop
  | here : Nested w w
  | item {v part : Value} (hpart : part ∈ v.items) (within : Nested w part) : Nested w v

theorem sizeOf_lt_of_items {v part : Value} (hpart : part ∈ v.items) : sizeOf part < sizeOf v := by
  cases v with
  | list items =>
    have hlt : sizeOf part < sizeOf items := List.sizeOf_lt_of_mem hpart
    exact hlt.trans_le (by simp)
  | array items =>
    have hlt : sizeOf part < sizeOf items := List.sizeOf_lt_of_mem hpart
    exact hlt.trans_le (by simp)
  | _ => cases hpart

end Value

/-- The formatter asks for no texts. -/
def Formatter.AsksNothing (f : Formatter) : Prop := ∀ locale v, ∃ text, f locale v = .done text

namespace Formatter

theorem AsksNothing.asksAmong {f : Formatter} (h : f.AsksNothing) (locale : Locale) (v : Value) :
    (f locale v).AsksAmong v.items := by
  obtain ⟨text, hdone⟩ := h locale v
  rw [hdone]
  trivial

/-- Of the built-in formatters only that of sequences asks for texts, those of the items. -/
theorem builtIns_asksAmong {t : TypeName} {f : Formatter} (h : builtIns.get? t = some f) (locale : Locale)
    (v : Value) : (f locale v).AsksAmong v.items := by
  have hentries : builtIns.entries = [(TypeName.enum, enum), (TypeName.number, number),
    (TypeName.temporal, temporal), (TypeName.iterable, sequence), (TypeName.array, sequence)] := rfl
  obtain ⟨e, he, rfl⟩ := Table.exists_mem_of_get? h
  simp only [hentries, List.mem_cons, List.not_mem_nil, or_false] at he
  rcases he with rfl | rfl | rfl | rfl | rfl
  · trivial
  · trivial
  · trivial
  · exact sequence_asksAmong locale v
  · exact sequence_asksAmong locale v

end Formatter

namespace TypeGraph

variable {g h : TypeGraph}

/-- A walk reads the supertypes of the types that it lists and of no others. -/
theorem walk_congr_of_mem (visited queue : List TypeName)
    (hsame : ∀ t ∈ g.walk visited queue, h.parents t = g.parents t) :
    h.walk visited queue = g.walk visited queue := by
  induction visited, queue using walk.induct g with
  | case1 visited => rw [walk, walk]
  | case2 visited t rest hskip ih =>
    rw [walk, if_pos hskip] at hsame
    rw [walk, if_pos hskip, walk, if_pos hskip]
    exact ih hsame
  | case3 visited t rest hnew ih =>
    rw [walk, if_neg hnew] at hsame
    rw [walk, if_neg hnew, walk, if_neg hnew, hsame t List.mem_cons_self]
    rw [ih fun u hu => hsame u (List.mem_cons_of_mem _ hu)]

/-- Types that have their supertypes among them have the types that a walk from them lists among them. -/
theorem walk_subset {known : List TypeName} (hclosed : ∀ t ∈ known, g.parents t ⊆ known)
    (visited queue : List TypeName) (hqueue : queue ⊆ known) : g.walk visited queue ⊆ known := by
  induction visited, queue using walk.induct g with
  | case1 visited =>
    rw [walk]
    exact List.nil_subset known
  | case2 visited t rest hskip ih =>
    rw [walk, if_pos hskip]
    exact ih (List.subset_of_cons_subset hqueue)
  | case3 visited t rest hnew ih =>
    have ht := hqueue List.mem_cons_self
    rw [walk, if_neg hnew]
    exact List.cons_subset.2 ⟨ht, ih (List.append_subset.2 ⟨List.subset_of_cons_subset hqueue, hclosed t ht⟩)⟩

theorem ancestryOf_declare {d : TypeDecl} {v : Value} (hd : d.name ∉ g.ancestryOf v) :
    (g.declare d).ancestryOf v = g.ancestryOf v := by
  have hget (t : TypeName) (ht : t ∈ g.ancestryOf v) : (g.declare d).get? t = g.get? t :=
    get?_declare_of_ne g fun he => hd (he ▸ ht)
  have hparents (t : TypeName) (ht : t ∈ g.ancestryOf v) : (g.declare d).parents t = g.parents t := by
    rw [parents, parents, hget t ht]
  have hown : v.typeName ∈ g.ancestryOf v := List.mem_cons_self
  have hstart : (g.declare d).startParents (isEnumValue v) v.typeName =
      g.startParents (isEnumValue v) v.typeName := by
    rw [startParents, startParents, isDeclared, isDeclared, hget _ hown, hparents _ hown]
  rw [ancestryOf, hstart, ancestryVia, walk_congr_of_mem]
  · rfl
  · exact fun t ht => hparents t (List.mem_cons_of_mem _ ht)

end TypeGraph

namespace FormatterRegistry

variable {r s : FormatterRegistry}

/-- The formatters that were set ask for no texts. -/
def AsksNothing (r : FormatterRegistry) : Prop := ∀ t f, r.override? t = some f → f.AsksNothing

theorem AsksNothing.asksAmong (h : r.AsksNothing) (locale : Locale) (v : Value) :
    (r.formatterOf v locale v).AsksAmong v.items := by
  rw [formatterOf]
  have hclosest := r.resolve_closest (r.types.ancestryOf v)
  generalize r.resolve (r.types.ancestryOf v) = f at hclosest ⊢
  cases hclosest with
  | override _ _ found => exact (h _ _ found).asksAmong locale v
  | builtIn _ _ _ found => exact Formatter.builtIns_asksAmong found locale v
  | overrideForAll _ found => exact (h _ _ found).asksAmong locale v
  | lastResort => trivial

/-- What an order of types resolves to depends on the overrides of its types and on that of all values. -/
theorem resolve_congr {order : List TypeName} (horder : ∀ t ∈ order, s.override? t = r.override? t)
    (hall : s.override? TypeName.any = r.override? TypeName.any) : s.resolve order = r.resolve order := by
  have hfind : order.findSome? s.registered? = order.findSome? r.registered? := by
    induction order with
    | nil => rfl
    | cons t rest ih =>
      have hregistered : s.registered? t = r.registered? t :=
        congrArg (Option.or · (Formatter.builtIns.get? t)) (horder t List.mem_cons_self)
      rw [List.findSome?_cons, List.findSome?_cons, hregistered,
        ih fun u hu => horder u (List.mem_cons_of_mem _ hu)]
  have hany : s.overrides.get? TypeName.any = r.overrides.get? TypeName.any := hall
  rw [resolve, resolve, hfind, hany]

/-- Formatters that ask at most for items write every value, and so do those that are the same for a value and for
what is nested in it. -/
theorem text_congr_nested (hasks : r.AsksNothing) {v : Value}
    (hsame : ∀ w, Value.Nested w v → s.formatterOf w = r.formatterOf w) (locale : Locale) :
    (r.Finishes locale v ∧ s.Finishes locale v) ∧ s.text locale v = r.text locale v := by
  induction hsize : sizeOf v using Nat.strongRecOn generalizing v with
  | _ n ih =>
    have hparts (part : Value) (hpart : part ∈ v.items) := ih (sizeOf part)
      (hsize ▸ Value.sizeOf_lt_of_items hpart) (fun w hw => hsame w (.item hpart hw)) rfl
    have hamong : (r.formatterOf v locale v).AsksAmong v.items := hasks.asksAmong locale v
    have hr : r.Finishes locale v := finishes_of_asksAmong hamong fun part hpart => (hparts part hpart).1.1
    have hs : s.Finishes locale v := by
      rw [← hsame v .here] at hamong
      exact finishes_of_asksAmong hamong fun part hpart => (hparts part hpart).1.2
    refine ⟨⟨hr, hs⟩, ?_⟩
    rw [hr.text_eq, hs.text_eq, hsame v .here]
    exact Rendering.textWith_congr hamong fun part hpart => (hparts part hpart).2

theorem AsksNothing.finishes (hasks : r.AsksNothing) (locale : Locale) (v : Value) : r.Finishes locale v :=
  (text_congr_nested (s := r) hasks (fun _ _ => rfl) locale).1.1

/-- An override decides for the values with its type in their ancestry, and that of all values also for others. -/
theorem text_congr_of_notMem (hasks : r.AsksNothing) {t : TypeName} {v : Value} (hdecls : s.types = r.types)
    (hothers : ∀ u, u ≠ t → s.override? u = r.override? u) (hany : t ≠ TypeName.any)
    (ht : ∀ w, Value.Nested w v → t ∉ r.types.ancestryOf w) (locale : Locale) :
    s.text locale v = r.text locale v := by
  refine (text_congr_nested hasks (fun w hw => ?_) locale).2
  rw [formatterOf, formatterOf, hdecls]
  apply resolve_congr
  · exact fun u hu => hothers u fun he => ht w hw (he ▸ hu)
  · exact hothers _ hany.symm

/-- In a registry whose own formatters ask for no texts, setting or removing the formatter of a type leaves the text
of a value as it is if the type is in no ancestry of the value or of what is nested in its lists and arrays. Declaring
such a type leaves those ancestries and the text as they are. -/
theorem text_unaffected (hasks : r.AsksNothing) (v : Value) :
    (∀ t, t ≠ TypeName.any → (∀ w, Value.Nested w v → t ∉ r.types.ancestryOf w) → ∀ f locale,
      (r.set t f).text locale v = r.text locale v ∧ (r.remove t).text locale v = r.text locale v) ∧
    ∀ d : TypeDecl, (∀ w, Value.Nested w v → d.name ∉ r.types.ancestryOf w) →
      (∀ w, Value.Nested w v → (r.declare d).types.ancestryOf w = r.types.ancestryOf w) ∧
      ∀ locale, (r.declare d).text locale v = r.text locale v := by
  constructor
  · intro t hany ht f locale
    have hset (u : TypeName) (hu : u ≠ t) : (r.set t f).override? u = r.override? u :=
      Table.get?_insert_of_ne _ _ _ _ hu
    have hremove (u : TypeName) (hu : u ≠ t) : (r.remove t).override? u = r.override? u :=
      Table.get?_erase_of_ne _ _ _ hu
    constructor
    · exact text_congr_of_notMem (s := r.set t f) hasks rfl hset hany ht locale
    · exact text_congr_of_notMem (s := r.remove t) hasks rfl hremove hany ht locale
  · intro d hd
    have hancestry (w : Value) (hw : Value.Nested w v) :
        (r.declare d).types.ancestryOf w = r.types.ancestryOf w := TypeGraph.ancestryOf_declare (hd w hw)
    refine ⟨hancestry, fun locale => (text_congr_nested hasks (fun w hw => ?_) locale).2⟩
    rw [formatterOf, formatterOf, hancestry w hw]
    rfl

def household : Value := .list [child, .array [.integer 4]]

theorem nested_household {w : Value} (h : Value.Nested w household) :
    w = household ∨ w = child ∨ w = .array [.integer 4] ∨ w = .integer 4 := by
  rcases h with _ | ⟨hpart, hw⟩
  · exact .inl rfl
  · simp only [household, Value.items, List.mem_cons, List.not_mem_nil, or_false] at hpart
    rcases hpart with rfl | rfl
    · rcases hw with _ | ⟨hpart, -⟩
      · exact .inr (.inl rfl)
      · cases hpart
    · rcases hw with _ | ⟨hpart, hw⟩
      · exact .inr (.inr (.inl rfl))
      · obtain rfl := List.mem_singleton.1 hpart
        rcases hw with _ | ⟨hpart, -⟩
        · exact .inr (.inr (.inr rfl))
        · cases hpart

/-- Decimals have a supertype in common with the integer in the array, and get a formatter that asks for texts. The
type of all values is declared to be an enumeration. -/
theorem text_unaffected_household :
    let r := new.set TypeName.enum shouted
    let others := [TypeName.decimal, TypeName.any]
    (r.AsksNothing ∧ TypeName.decimal ≠ TypeName.any ∧
      ∀ t ∈ others, ∀ w, Value.Nested w household → t ∉ r.types.ancestryOf w) ∧
    (r.set TypeName.decimal .sequence).text .root household = r.text .root household ∧
    (r.declare (.enumeration TypeName.any)).text .root household = r.text .root household := by
  intro r others
  have hasks : r.AsksNothing := by
    intro t f hset
    obtain ⟨e, he, rfl⟩ := Table.exists_mem_of_get? hset
    obtain rfl : e = (TypeName.enum, shouted) := List.mem_singleton.1 he
    exact fun _ w => ⟨w.display ++ "!", rfl⟩
  have hothers : ∀ t ∈ others, ∀ w, Value.Nested w household → t ∉ r.types.ancestryOf w := by
    let known := ["list", "iterable", "array", "Kinship", "enum", "integer", "number"]
    have hclosed : ∀ t ∈ known, r.types.parents t ⊆ known := by decide
    have hknown (w : Value) (hw : Value.Nested w household) : r.types.ancestryOf w ⊆ known := by
      have hstart : w.typeName ∈ known ∧
          r.types.startParents (TypeGraph.isEnumValue w) w.typeName ⊆ known := by
        rcases nested_household hw with rfl | rfl | rfl | rfl <;> decide
      exact List.cons_subset.2 ⟨hstart.1, TypeGraph.walk_subset hclosed _ _ hstart.2⟩
    have hunknown : ∀ t ∈ others, t ∉ known := by decide
    exact fun t ht w hw hmem => hunknown t ht (hknown w hw hmem)
  obtain ⟨hset, hdeclare⟩ := text_unaffected hasks household
  refine ⟨⟨hasks, by decide, hothers⟩, ?_, ?_⟩
  · exact (hset TypeName.decimal (by decide) (hothers _ (by decide)) .sequence .root).1
  · exact (hdeclare (.enumeration TypeName.any) (hothers _ (by decide))).2 .root

end FormatterRegistry

end ObjectValidation
