/-!
Sets and maps over an ordered type, kept as lists in increasing order.
-/

namespace ObjectValidation

universe u v

variable {α : Type u} {β : Type v} [Ord α]

/-- Puts a key and its value in their place, over the value of an equal key. -/
def placeEntry (key : α) (value : β) : List (α × β) → List (α × β)
  | [] => [(key, value)]
  | e :: rest =>
    match compare key e.1 with
    | .lt => (key, value) :: e :: rest
    | .eq => (e.1, value) :: rest
    | .gt => e :: placeEntry key value rest

/-- The keys increase from entry to entry. -/
def Ascending (entries : List (α × β)) : Prop := entries.Pairwise fun d e => compare d.1 e.1 = .lt

theorem key_of_mem_placeEntry {key : α} {value : β} {entries : List (α × β)} {e : α × β}
    (h : e ∈ placeEntry key value entries) : e.1 = key ∨ ∃ d ∈ entries, d.1 = e.1 := by
  induction entries with
  | nil => exact .inl (congrArg Prod.fst (List.mem_singleton.mp h))
  | cons d rest ih =>
    rw [placeEntry] at h
    split at h
    · rcases List.mem_cons.mp h with rfl | h
      · exact .inl rfl
      · exact .inr ⟨e, h, rfl⟩
    · rcases List.mem_cons.mp h with rfl | h
      · exact .inr ⟨d, List.mem_cons_self, rfl⟩
      · exact .inr ⟨e, List.mem_cons_of_mem d h, rfl⟩
    · rcases List.mem_cons.mp h with rfl | h
      · exact .inr ⟨e, List.mem_cons_self, rfl⟩
      · exact (ih h).imp_right fun ⟨c, hc, heq⟩ => ⟨c, List.mem_cons_of_mem d hc, heq⟩

theorem Ascending.placeEntry [Std.TransOrd α] {entries : List (α × β)} (h : Ascending entries) (key : α) (value : β) :
    Ascending (placeEntry key value entries) := by
  induction entries with
  | nil => exact List.pairwise_singleton _ _
  | cons e rest ih =>
    obtain ⟨hfirst, hrest⟩ := List.pairwise_cons.mp h
    rw [ObjectValidation.placeEntry]
    split
    · next hlt =>
      refine List.pairwise_cons.mpr ⟨fun d hd => ?_, h⟩
      rcases List.mem_cons.mp hd with rfl | hd
      · exact hlt
      · exact Std.TransCmp.lt_trans hlt (hfirst d hd)
    · exact List.pairwise_cons.mpr ⟨hfirst, hrest⟩
    · next hgt =>
      refine List.pairwise_cons.mpr ⟨fun d hd => ?_, ih hrest⟩
      rcases key_of_mem_placeEntry hd with hkey | ⟨c, hc, hkey⟩
      · exact hkey ▸ Std.OrientedCmp.lt_of_gt hgt
      · exact hkey ▸ hfirst c hc

/-- A map whose keys increase from entry to entry. -/
structure OrderedMap (α : Type u) (β : Type v) [Ord α] where
  entries : List (α × β)
  ascending : Ascending entries

namespace OrderedMap

def empty : OrderedMap α β := ⟨[], .nil⟩

variable [Std.TransOrd α]

def insert (m : OrderedMap α β) (key : α) (value : β) : OrderedMap α β :=
  ⟨placeEntry key value m.entries, m.ascending.placeEntry key value⟩

/-- The last of several entries with equal keys stays. -/
def ofList (entries : List (α × β)) : OrderedMap α β := entries.foldl (fun m e => m.insert e.1 e.2) empty

end OrderedMap

/-- A set whose elements increase. -/
structure OrderedSet (α : Type u) [Ord α] where
  elements : List α
  ascending : elements.Pairwise fun a b => compare a b = .lt

namespace OrderedSet

instance [BEq α] : BEq (OrderedSet α) := ⟨fun s t => s.elements == t.elements⟩

def empty : OrderedSet α := ⟨[], .nil⟩

def ofList [Std.TransOrd α] (items : List α) : OrderedSet α :=
  let entries := OrderedMap.ofList (items.map fun a => (a, ()))
  ⟨entries.entries.map Prod.fst, List.pairwise_map.mpr entries.ascending⟩

end OrderedSet

end ObjectValidation
