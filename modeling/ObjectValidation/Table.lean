/-!
Tables from names to values that remember the order in which the names first arrived. Writing to a name
that is present replaces its value where it stands.
-/

namespace ObjectValidation

universe u

/-- Entries in order of first arrival. -/
structure Table (α : Type u) where
  entries : List (String × α) := []

namespace Table

variable {α : Type u}

def empty : Table α := ⟨[]⟩

instance : Inhabited (Table α) := ⟨empty⟩

def names (t : Table α) : List String := t.entries.map Prod.fst

def get? (t : Table α) (name : String) : Option α :=
  (t.entries.find? fun e => e.1 == name).map Prod.snd

def contains (t : Table α) (name : String) : Bool := (t.get? name).isSome

/-- Writes an entry into a list of entries, over an entry of the same name or else at the end. -/
def put (name : String) (value : α) : List (String × α) → List (String × α)
  | [] => [(name, value)]
  | e :: rest => if e.1 == name then (name, value) :: rest else e :: put name value rest

def insert (t : Table α) (name : String) (value : α) : Table α := ⟨put name value t.entries⟩

/-- Writes entries in order, so that the last one of each name stays. -/
def insertAll (t : Table α) (entries : List (String × α)) : Table α :=
  entries.foldl (fun t e => t.insert e.1 e.2) t

def ofList (entries : List (String × α)) : Table α := empty.insertAll entries

def erase (t : Table α) (name : String) : Table α :=
  ⟨t.entries.filter fun e => e.1 != name⟩

/-- The entries by name, in the order of the names' code points. -/
def sorted (t : Table α) : List (String × α) :=
  t.entries.mergeSort fun a b => !decide (b.1 < a.1)

theorem exists_mem_of_get? {t : Table α} {name : String} {value : α} (h : t.get? name = some value) :
    ∃ e ∈ t.entries, e.2 = value := by
  obtain ⟨e, he, hvalue⟩ := Option.map_eq_some_iff.1 h
  exact ⟨e, List.mem_of_find?_eq_some he, hvalue⟩

@[simp] theorem get?_empty (name : String) : (empty : Table α).get? name = none := rfl

private theorem find?_put_self (name : String) (value : α) (entries : List (String × α)) :
    ((put name value entries).find? fun e => e.1 == name).map Prod.snd = some value := by
  induction entries with
  | nil => simp [put]
  | cons e rest ih => by_cases h : e.1 = name <;> simp_all [put]

private theorem find?_put_of_ne (name other : String) (value : α) (entries : List (String × α))
    (h : other ≠ name) :
    (put name value entries).find? (fun e => e.1 == other) =
      entries.find? fun e => e.1 == other := by
  have hb : (name == other) = false := by simp [Ne.symm h]
  induction entries with
  | nil => simp [put, hb]
  | cons e rest ih =>
    by_cases he : e.1 = name
    · have ho : (e.1 == other) = false := by rw [he]; exact hb
      simp [put, he, List.find?, hb]
    · simp only [put, beq_iff_eq, he, if_false, List.find?]
      split <;> simp_all

@[simp] theorem get?_insert_self (t : Table α) (name : String) (value : α) :
    (t.insert name value).get? name = some value :=
  find?_put_self name value t.entries

theorem get?_insert_of_ne (t : Table α) (name other : String) (value : α) (h : other ≠ name) :
    (t.insert name value).get? other = t.get? other := by
  simp only [get?, insert, find?_put_of_ne name other value t.entries h]

/-- Of the entries of a name the last one stays. -/
theorem get?_insertAll (t : Table α) (entries : List (String × α)) (name : String) :
    (t.insertAll entries).get? name =
      ((entries.filter fun e => e.1 == name).getLast?.map Prod.snd).or (t.get? name) := by
  induction entries generalizing t with
  | nil => rfl
  | cons e rest ih =>
    have hrest : (t.insertAll (e :: rest)).get? name = ((t.insert e.1 e.2).insertAll rest).get? name := rfl
    rw [hrest, ih]
    by_cases he : e.1 = name
    · rw [he, get?_insert_self, List.filter_cons_of_pos (by simp [he]), List.getLast?_cons]
      cases (rest.filter fun e => e.1 == name).getLast? <;> rfl
    · rw [get?_insert_of_ne _ _ _ _ (Ne.symm he), List.filter_cons_of_neg (by simp [he])]

/-- Among entries of different names each one is the only one of its name. -/
theorem filter_eq_singleton {entries : List (String × α)} (hnodup : (entries.map Prod.fst).Nodup)
    {e : String × α} (h : e ∈ entries) : (entries.filter fun x => x.1 == e.1) = [e] := by
  induction entries with
  | nil => cases h
  | cons head rest ih =>
    rw [List.map_cons, List.nodup_cons] at hnodup
    obtain ⟨hhead, hrest⟩ := hnodup
    cases h with
    | head =>
      have hothers : (rest.filter fun x => x.1 == e.1) = [] := by
        rw [List.filter_eq_nil_iff]
        intro x hx hname
        exact hhead (beq_iff_eq.1 hname ▸ List.mem_map_of_mem hx)
      rw [List.filter_cons_of_pos (by simp), hothers]
    | tail _ hmem =>
      have hne : head.1 ≠ e.1 := fun hname => hhead (hname ▸ List.mem_map_of_mem hmem)
      rw [List.filter_cons_of_neg (by simp [hne]), ih hrest hmem]

theorem get?_ofList_of_mem {entries : List (String × α)} (hnodup : (entries.map Prod.fst).Nodup)
    {e : String × α} (h : e ∈ entries) : (ofList entries).get? e.1 = some e.2 := by
  rw [ofList, get?_insertAll, filter_eq_singleton hnodup h]
  rfl

@[simp] theorem get?_erase_self (t : Table α) (name : String) : (t.erase name).get? name = none := by
  simp [get?, erase, List.find?_filter]

theorem get?_erase_of_ne (t : Table α) (name other : String) (h : other ≠ name) :
    (t.erase name).get? other = t.get? other := by
  simp only [get?, erase, List.find?_filter]
  congr 2
  funext e
  by_cases he : e.1 = other
  · simp [he, h]
  · simp [he]

end Table

end ObjectValidation
